import Stencil.Proofs.Script.Nodes

/-!
# The nodes of lines

The nodes of what a line of terminals holds lie within the rows of the line, and none ends before
it begins. A simple statement ends with the last terminal that it takes, which stands behind the
beginning of its line.

## Main definitions

* `Head.nodes` — the nodes of a head.
* `Parse.Marks` — a statement ends with the last terminal taken.
* `Parse.SoundClause` — what a line holds lies within rows.

## Main results

* `Parse.yields_simples`, `Parse.yields_head?` — simple statements and heads.
* `Parse.sound_lineClause` — what a line holds.
-/

namespace Stencil.Script

variable {lo hi : Nat}

/-- The nodes of a head. -/
def Head.nodes : Head → List Node
  | .branch test | .otherBranch test | .loop test => test.nodes
  | .each target source => target.nodes ++ source.nodes
  | .handler type _ => nodesOfBound type
  | .define _ _ params returns => params.nodes ++ nodesOfBound returns
  | .orelse | .attempt | .final => []

namespace Parse

open Script.Parser

variable {P B : List Span}

/-! ## Simple statements -/

theorem yields_targetOf {e : Expr} (he : SoundExpr lo hi e) :
    Yields lo hi P B (targetOf e) fun t => Sound lo hi t.nodes := by
  unfold targetOf
  split
  · exact yields_pure (sound_ofExpr? e ‹_› he)
  · exact yields_failAt _

theorem yields_assigned (depth : Nat) : ∀ fuel,
    Yields lo hi [] [] (assigned depth fuel) fun es => ∀ e ∈ es, SoundExpr lo hi e
  | 0 => yields_fail
  | fuel + 1 => by
    unfold assigned
    refine (yields_expressions depth).bind fun e he => yields_askOp _ ?_ ?_
    · exact (yields_assigned depth fuel).bind fun es hes =>
        yields_pure (List.forall_mem_cons.2 ⟨he, hes⟩)
    · exact yields_pure (List.forall_mem_singleton.2 he)

theorem sound_nodesOfTargets {ts : List Target} :
    Sound lo hi (nodesOfTargets ts) ↔ ∀ t ∈ ts, Sound lo hi t.nodes := by
  induction ts with
  | nil => simp [nodesOfTargets]
  | cons t ts ih => simp [nodesOfTargets, ih]

/-- The nodes of a statement lie within rows. -/
abbrev SoundStmt (lo hi : Nat) (s : Stmt) : Prop := Sound lo hi s.nodes

/-- What can be assigned to otherwise than by unpacking. -/
theorem yields_single {e : Expr} {f : Target → Parser Stmt} (he : SoundExpr lo hi e)
    (hf : ∀ t, Sound lo hi (Target.nodes t) → Yields lo hi P B (f t) (SoundStmt lo hi)) :
    Yields lo hi P B (match e with
      | .name .. | .attr .. | .index .. => targetOf e >>= f
      | _ => failAt e.span.row >>= f) (SoundStmt lo hi) := by
  split
  · exact (yields_targetOf he).bind hf
  · exact (yields_targetOf he).bind hf
  · exact (yields_targetOf he).bind hf
  · exact (yields_failAt _).bind hf

theorem yields_assignment (fuel : Nat) :
    Yields lo hi [] [] (assignment fuel) (SoundStmt lo hi) := by
  unfold assignment
  refine yields_here fun start => (yields_expressions fuel).weaken.seize (closes_expressions fuel)
    fun e he => ?_
  have plain {P B : List Span} (hB : start ∈ B) : Yields lo hi P B
      (since start >>= fun w => pure (.expr w e)) (SoundStmt lo hi) :=
    yields_extent hB fun w hw => by simp [SoundStmt, Stmt.nodes, hw, he]
  have assigned_ {P B : List Span} (hB : start ∈ B) : Yields lo hi P B (do
      let values ← assigned fuel fuel
      let targets ← (e :: values.dropLast).mapM targetOf
      return .assign (← since start) targets (values.getLastD e)) (SoundStmt lo hi) := by
    refine (yields_assigned fuel fuel).weaken.bind fun values hv => ?_
    have sources : ∀ v ∈ e :: values.dropLast, SoundExpr lo hi v :=
      List.forall_mem_cons.2 ⟨he, fun v hm => hv v (List.dropLast_subset values hm)⟩
    refine (Yields.mapM (S := fun t => Sound lo hi (Target.nodes t))
      fun v hm => yields_targetOf (sources v hm)).bind fun targets ht => ?_
    have last : SoundExpr lo hi (values.getLastD e) := by
      rw [List.getLastD_eq_getLast?]
      cases hl : values.getLast? with
      | none => exact he
      | some v => exact hv v (List.mem_of_getLast? hl)
    refine yields_extent hB fun w hw => ?_
    simp only [SoundStmt, Stmt.nodes, sound_cons, sound_append]
    exact ⟨⟨hw, sound_nodesOfTargets.2 ht⟩, last⟩
  have annotated_ {P B : List Span} (hB : start ∈ B) (target : Target)
      (ht : Sound lo hi target.nodes) : Yields lo hi P B (do
        let ascription ← expression fuel
        let value ← if ← op? "=" then some <$> expressions fuel else pure none
        return .annotate (← since start) target ascription value) (SoundStmt lo hi) := by
    refine (yields_expression fuel).weaken.bind fun ascription ha => ?_
    have done (value : Option Expr) (hv : SoundBound lo hi value) : Yields lo hi P B
        (since start >>= fun w => pure (.annotate w target ascription value))
        (SoundStmt lo hi) :=
      yields_extent hB fun w hw => by simp [SoundStmt, Stmt.nodes, hw, ht, ha, hv]
    exact (yields_op? _).bind fun _ _ => yields_optional (yields_expressions fuel) done
  refine yields_peekAt ?_ fun t => ?_
  · exact yields_askOp _ (assigned_ (by simp)) (yields_askOp _ (yields_single he (annotated_ (by simp)))
      (plain (by simp)))
  · refine yieldsAt_askOp _ (assigned_ (by simp))
      (yieldsAt_askOp _ (yields_single he (annotated_ (by simp))) ?_)
    simp only [Option.bind_some]
    split
    · rename_i op hop
      have isOp := List.find?_some hop
      refine yieldsAt_take (visible_of_isOp isOp) fun _ => yields_single he fun target ht => ?_
      refine (yields_expressions fuel).weaken.bind fun value hv => ?_
      refine yields_extent (by simp) fun w hw => ?_
      simp [SoundStmt, Stmt.nodes, hw, ht, hv]
    · exact (plain (by simp)).at t

theorem yields_simple (fuel : Nat) : Yields lo hi [] [] (simple fuel) (SoundStmt lo hi) := by
  unfold simple
  have word {s : Span} {stmt : Stmt} (hs : stmt.nodes = [Node.at_ s]) :
      Yields lo hi [s] [s] (pure stmt) (SoundStmt lo hi) :=
    yields_begun (List.mem_singleton_self s) fun keeps =>
      yields_pure (by simp [SoundStmt, hs, keeps])
  refine yields_here fun start => yields_askWord _ (word rfl) (yields_askWord _ (word rfl)
    (yields_askWord _ (word rfl) (yields_askWord _ ?_ (yields_askWord _ ?_
      (yields_assignment fuel).weaken))))
  · have done (value : Option Expr) (hv : SoundBound lo hi value) : Yields lo hi [start] [start]
        (since start >>= fun w => pure (.give w value)) (SoundStmt lo hi) :=
      yields_extent (by simp) fun w hw => by simp [SoundStmt, Stmt.nodes, hw, hv]
    exact yields_atExpression.bind fun _ _ => yields_optional (yields_expressions fuel) done
  · have done (value : Option Expr) (hv : SoundBound lo hi value) : Yields lo hi [start] [start]
        (since start >>= fun w => pure (.raise w value)) (SoundStmt lo hi) :=
      yields_extent (by simp) fun w hw => by simp [SoundStmt, Stmt.nodes, hw, hv]
    exact yields_atExpression.bind fun _ _ => yields_optional (yields_expression fuel) done

/-- A statement ends with the last terminal taken. -/
def Marks (p : Parser Stmt) : Prop := ∀ ⦃c s c'⦄, p c = .ok (s, c') → s.span.ends = c'.last.ends

theorem Marks.bind {α : Type} {p : Parser α} {f : α → Parser Stmt} (hf : ∀ a, Marks (f a)) :
    Marks (p >>= f) := by
  intro c s c' h
  obtain ⟨a, u, -, h⟩ := exists_of_bind_ok h
  exact hf a h

theorem marks_ite {b : Prop} [Decidable b] {p q : Parser Stmt} (h : Marks p) (k : Marks q) :
    Marks (if b then p else q) := by
  split
  · exact h
  · exact k

theorem marks_extent {start : Span} {f : Span → Stmt} (hf : ∀ w, (f w).span = w) :
    Marks (since start >>= fun w => pure (f w)) := by
  intro c s c' h
  obtain ⟨w, u, hw, h⟩ := exists_of_bind_ok h
  obtain ⟨rfl, rfl⟩ := Prod.mk.inj (Except.ok.inj hw)
  obtain ⟨rfl, rfl⟩ := Prod.mk.inj (Except.ok.inj h)
  rw [hf]
  rfl

theorem marks_assignment (fuel : Nat) : Marks (assignment fuel) := by
  unfold assignment
  refine .bind fun start => .bind fun e => .bind fun next => .bind fun b => marks_ite ?_ ?_
  · exact .bind fun _ => .bind fun _ => marks_extent fun _ => rfl
  refine .bind fun b => marks_ite ?_ ?_
  · extract_lets annotated
    have done (target : Target) : Marks (annotated target) := .bind fun _ => .bind fun _ =>
      marks_ite (.bind fun _ => marks_extent fun _ => rfl)
        (.bind fun _ => marks_extent fun _ => rfl)
    split <;> exact .bind done
  · split
    · refine .bind fun _ => ?_
      extract_lets updated
      have done (target : Target) : Marks (updated target) := .bind fun _ =>
        marks_extent fun _ => rfl
      split <;> exact .bind done
    · exact marks_extent fun _ => rfl

theorem marks_simple (fuel : Nat) : Marks (simple fuel) := by
  intro c s c' h
  unfold simple at h
  obtain ⟨start, u, hstart, h⟩ := exists_of_bind_ok h
  obtain ⟨hs, rfl⟩ := Prod.mk.inj (Except.ok.inj hstart)
  have noted {w : Text} {stmt : Stmt} {no : Parser Stmt} (hstmt : stmt.span = start)
      (hno : no c = .ok (s, c') → s.span.ends = c'.last.ends)
      (h : (word? w >>= fun b => if b then pure stmt else no) c = .ok (s, c')) :
      s.span.ends = c'.last.ends := by
    obtain ⟨b, v, hb, h⟩ := exists_of_bind_ok h
    rw [word?_eq] at hb
    split at hb
    · rename_i t rest next
      split at hb
      · obtain ⟨rfl, rfl⟩ := Prod.mk.inj (Except.ok.inj hb)
        obtain ⟨rfl, rfl⟩ := Prod.mk.inj (Except.ok.inj h)
        rw [hstmt, ← hs, next]
      · obtain ⟨rfl, rfl⟩ := Prod.mk.inj (Except.ok.inj hb)
        exact hno h
    · obtain ⟨rfl, rfl⟩ := Prod.mk.inj (Except.ok.inj hb)
      exact hno h
  have valued {f : Span → Option Expr → Stmt} (hf : ∀ w e, (f w e).span = w) {p : Parser Expr} :
      Marks (atExpression >>= fun b => if b
        then some <$> p >>= fun e => since start >>= fun w => pure (f w e)
        else pure none >>= fun e => since start >>= fun w => pure (f w e)) :=
    .bind fun _ => marks_ite (.bind fun _ => marks_extent fun w => hf w _)
      (.bind fun _ => marks_extent fun w => hf w _)
  refine noted rfl (noted rfl (noted rfl fun h => ?_)) h
  refine Marks.bind (fun _ => marks_ite ?_ (.bind fun _ => marks_ite ?_ (marks_assignment fuel))) h
  · exact valued fun _ _ => rfl
  · exact valued fun _ _ => rfl

/-- Simple statements lie within rows and end behind what has been noted before them. -/
theorem yields_simple_ends (fuel : Nat) (o : Span) : Yields lo hi [o] [] (simple fuel) fun s =>
    SoundStmt lo hi s ∧ o.begins.upto s.span.ends := by
  intro c s c' hc h
  obtain ⟨hr, sound⟩ := (yields_simple fuel).weaken hc h
  have begun := (hc.took hr (closes_simple fuel h)).begun o (by simp)
  refine ⟨hr, sound, ?_⟩
  rw [marks_simple fuel h]
  exact begun.2.1.order

theorem yields_atEnd : Yields lo hi P B atEnd fun _ => True := yields_look fun _ => ⟨_, rfl⟩

theorem yields_simples (depth : Nat) (o : Span) : ∀ fuel,
    Yields lo hi [o] [] (simples depth fuel) fun ss =>
      ∀ s ∈ ss, SoundStmt lo hi s ∧ o.begins.upto s.span.ends
  | 0 => yields_fail
  | fuel + 1 => by
    unfold simples
    refine (yields_simple_ends depth o).bind fun s hs => yields_askOp _ ?_ ?_
    · refine yields_atEnd.bind fun _ _ => yields_ite ?_ ?_
      · exact yields_pure (List.forall_mem_singleton.2 hs)
      · refine ((yields_simples depth o fuel).mono (List.Subset.refl _)
          (List.nil_subset _)).bind fun ss hss => ?_
        exact yields_pure (List.forall_mem_cons.2 ⟨hs, hss⟩)
    · refine yields_atEnd.bind fun _ _ => yields_ite ?_ yields_fail
      exact yields_pure (List.forall_mem_singleton.2 hs)

/-! ## Heads -/

/-- The nodes of a parameter. -/
def SoundParam (lo hi : Nat) (p : Param) : Prop :=
  p.span.Keeps lo hi ∧ SoundBound lo hi p.ascription ∧ SoundBound lo hi p.default

/-- The nodes of parameters lie within rows. -/
def SoundParams (lo hi : Nat) (p : Params) : Prop :=
  (∀ q ∈ p.positional, SoundParam lo hi q) ∧ (∀ q ∈ p.plain, SoundParam lo hi q) ∧
    (∀ q ∈ p.rest, SoundParam lo hi q) ∧ (∀ q ∈ p.named, SoundParam lo hi q) ∧
    ∀ q ∈ p.namedRest, SoundParam lo hi q

theorem sound_flatMap {α : Type} {as : List α} {f : α → List Node} :
    Sound lo hi (as.flatMap f) ↔ ∀ a ∈ as, Sound lo hi (f a) := by
  induction as with
  | nil => simp
  | cons a as ih => simp [ih]

theorem SoundParams.nodes {p : Params} (h : SoundParams lo hi p) : Sound lo hi p.nodes := by
  obtain ⟨positional, plain, rest, named, namedRest⟩ := h
  have all : ∀ q ∈ p.positional ++ p.plain ++ p.named, SoundParam lo hi q := by
    simp only [List.mem_append]
    rintro q ((hq | hq) | hq)
    · exact positional q hq
    · exact plain q hq
    · exact named q hq
  have own {q : Param} (h : SoundParam lo hi q) :
      Sound lo hi (Node.at_ q.span :: nodesOfBound q.ascription) :=
    sound_cons.2 ⟨h.1, h.2.1⟩
  have loose {q : Param} (h : SoundParam lo hi q) :
      Sound lo hi (Node.loose q.span :: nodesOfBound q.ascription) := sound_cons.2 ⟨h.1, h.2.1⟩
  unfold Params.nodes
  simp only [sound_append, sound_flatMap, Option.mem_toList]
  exact ⟨⟨⟨⟨⟨fun q hq => own (positional q hq), fun q hq => own (plain q hq)⟩,
    fun q hq => loose (rest q hq)⟩, fun q hq => own (named q hq)⟩,
    fun q hq => loose (namedRest q hq)⟩, fun q hq => (all q hq).2.2⟩

theorem yields_parameter (fuel : Nat) (mayDefault : Bool) :
    Yields lo hi [] [] (parameter fuel mayDefault) (SoundParam lo hi) := by
  unfold parameter
  refine yields_here fun start => yields_name.seize closes_name fun id _ => ?_
  refine (yields_op? ":").bind fun _ _ => yields_optional (yields_expression fuel)
    fun ascription ha => ?_
  refine yields_since (by simp) fun span hspan => ?_
  have done {P B : List Span} (default : Option Expr) (hd : SoundBound lo hi default) :
      Yields lo hi P B (pure ⟨span, id, ascription, default⟩) (SoundParam lo hi) :=
    yields_pure ⟨hspan, ha, hd⟩
  refine yields_ite ((yields_op? "=").bind fun _ _ => ?_) ?_
  · exact yields_optional (yields_expression fuel) done
  · exact (yields_pure (Q := SoundBound lo hi) sound_nil).bind done

theorem yields_another : Yields lo hi P B another fun _ => True := by
  unfold another
  exact yields_askOp _ (yields_pure trivial) ((yields_op _).bind fun _ _ => yields_pure trivial)

theorem yields_parameters (depth : Nat) : ∀ (fuel : Nat) (byName : Bool) (p : Params),
    SoundParams lo hi p →
      Yields lo hi [] [] (parameters depth byName p fuel) (SoundParams lo hi)
  | 0, _, _, _ => yields_fail
  | fuel + 1, byName, p, hp => by
    have others := yields_parameters depth fuel
    obtain ⟨positional, plain, rest, named, namedRest⟩ := hp
    have concat {qs : List Param} {q : Param} (hqs : ∀ q ∈ qs, SoundParam lo hi q)
        (hq : SoundParam lo hi q) : ∀ r ∈ qs ++ [q], SoundParam lo hi r := by
      rw [List.forall_mem_append]
      exact ⟨hqs, List.forall_mem_singleton.2 hq⟩
    have single {q : Param} (hq : SoundParam lo hi q) : ∀ r ∈ some q, SoundParam lo hi r := by
      rintro r ⟨⟩
      exact hq
    have more (b : Bool) (p : Params) (hp : SoundParams lo hi p) : Yields lo hi [] [] (do
        if ← another then parameters depth b p fuel else return p : Parser Params)
        (SoundParams lo hi) :=
      yields_another.bind fun _ _ => yields_ite (others b p hp) (yields_pure hp)
    unfold parameters
    refine yields_askOp _ (yields_pure ⟨positional, plain, rest, named, namedRest⟩)
      (yields_askOp _ ?_ ?_)
    · refine (yields_parameter depth false).bind fun q hq => (yields_op? ",").bind fun _ _ => ?_
      exact (yields_op ")").bind fun _ _ =>
        yields_pure ⟨positional, plain, rest, named, single hq⟩
    refine (yields_atOp "*").bind fun _ _ => yields_ite ?_ ?_
    · refine yields_guard ((yields_op "*").bind fun _ _ => yields_askOp _ ?_ ?_)
      · refine (yields_atOp ")").bind fun _ _ => (yields_atOp "**").bind fun _ _ => ?_
        exact yields_guard (others true p ⟨positional, plain, rest, named, namedRest⟩)
      · exact (yields_parameter depth false).bind fun q hq =>
          more true _ ⟨positional, plain, single hq, named, namedRest⟩
    refine (yields_atOp "/").bind fun _ _ => yields_ite ?_ ?_
    · exact yields_guard ((yields_op "/").bind fun _ _ =>
        more false _ ⟨plain, List.forall_mem_nil _, rest, named, namedRest⟩)
    · refine yields_row.bind fun _ _ => (yields_parameter depth true).bind fun q hq => ?_
      refine yields_ite ?_ (yields_ite (yields_failAt _) ?_)
      · exact more true _ ⟨positional, plain, rest, concat named hq, namedRest⟩
      · exact more false _ ⟨positional, concat plain hq, rest, named, namedRest⟩

/-- The nodes of a head lie within rows. -/
abbrev SoundHead (lo hi : Nat) (h : Head) : Prop := Sound lo hi h.nodes

/-- The nodes of a head lie within rows, if there is one. -/
abbrev SoundHead? (lo hi : Nat) (h : Option Head) : Prop := ∀ head ∈ h, SoundHead lo hi head

theorem yields_definition (fuel : Nat) (suspending : Bool) :
    Yields lo hi [] [] (head?.definition fuel suspending) (SoundHead lo hi) := by
  unfold head?.definition
  refine yields_name.bind fun id _ => (yields_op "(").bind fun _ _ => ?_
  have empty : SoundParams lo hi ⟨[], [], none, [], none⟩ := ⟨nofun, nofun, nofun, nofun, nofun⟩
  refine (yields_parameters fuel fuel false _ empty).bind fun params hp => ?_
  refine (yields_op? "->").bind fun _ _ => yields_optional (yields_expression fuel)
    fun returns hr => yields_pure ?_
  exact sound_append.2 ⟨hp.nodes, hr⟩

theorem yields_head? (fuel : Nat) : Yields lo hi [] [] (head? fuel) (SoundHead? lo hi) := by
  have done {head : Head} (h : SoundHead lo hi head) :
      Yields lo hi [] [] (pure (some head) : Parser (Option Head)) (SoundHead? lo hi) :=
    yields_pure (by rintro _ ⟨⟩; exact h)
  have tested {make : Expr → Head} (h : ∀ e, (make e).nodes = e.nodes) :
      Yields lo hi [] [] (expression fuel >>= fun e => pure (some (make e)) : Parser (Option Head))
        (SoundHead? lo hi) :=
    (yields_expression fuel).bind fun e he => done (by rw [SoundHead, h]; exact he)
  have definition_ (suspending : Bool) : Yields lo hi [] []
      (some <$> head?.definition fuel suspending) (SoundHead? lo hi) :=
    (yields_definition fuel suspending).map fun head hh => by rintro _ ⟨⟩; exact hh
  unfold head?
  refine yields_askWord _ (tested fun _ => rfl) (yields_askWord _ (tested fun _ => rfl) ?_)
  refine yields_askWord _ (done sound_nil) (yields_askWord _ (tested fun _ => rfl) ?_)
  refine yields_askWord _ ?_ (yields_askWord _ (done sound_nil) (yields_askWord _ ?_ ?_))
  · obtain ⟨cprimary, -⟩ := closes_levels fuel
    refine (yields_loopTarget fuel (yields_levels fuel).1 cprimary).bind fun target ht => ?_
    refine (yields_word _).bind fun _ _ => (yields_expressions fuel).bind fun source hs => ?_
    exact done (sound_append.2 ⟨ht, hs⟩)
  · refine (yields_atOp ":").bind fun _ _ => yields_ite (done sound_nil) ?_
    refine (yields_expression fuel).bind fun type ht => (yields_word? "as").bind fun _ _ => ?_
    exact yields_ite ((yields_name.map fun _ _ => trivial).bind fun id (_ : True) => done ht)
      ((yields_pure trivial).bind fun id (_ : True) => done ht)
  · refine yields_askWord _ (done sound_nil) (yields_askWord _ ?_ (yields_askWord _ ?_ ?_))
    · exact (yields_word "def").bind fun _ _ => definition_ true
    · exact definition_ false
    · exact yields_pure nofun

/-! ## Lines -/

/-- The statements of a line lie within rows and end behind its beginning. -/
abbrev SoundLine (lo hi : Nat) (o : Span) (ss : List Stmt) : Prop :=
  ∀ s ∈ ss, SoundStmt lo hi s ∧ o.begins.upto s.span.ends

/-- What a line holds lies within its rows, and its statements end behind its beginning. -/
def SoundClause (lo hi : Nat) (o : Span) : Clause → Prop
  | .simple stmts => SoundLine lo hi o stmts
  | .opened span head inline => span = o ∧ SoundHead lo hi head ∧ SoundLine lo hi o inline

theorem yields_afterHead (fuel : Nat) (o : Span) :
    Yields lo hi [o] [] (do
      match ← head? fuel with
      | some head => do
        op ":"
        if ← atEnd then return .opened o head []
        else return .opened o head (← simples fuel fuel)
      | none => return .simple (← simples fuel fuel) : Parser Clause) (SoundClause lo hi o) := by
  refine (yields_head? fuel).weaken.bind fun head hh => ?_
  cases head with
  | some head =>
    refine (yields_op ":").bind fun _ _ => yields_atEnd.bind fun _ _ => yields_ite ?_ ?_
    · exact yields_pure ⟨rfl, hh head rfl, nofun⟩
    · exact (yields_simples fuel o fuel).bind fun ss hss => yields_pure ⟨rfl, hh head rfl, hss⟩
  | none => exact (yields_simples fuel o fuel).bind fun ss hss => yields_pure hss

theorem sound_lineClause {first : Terminal} {others : List Terminal} {line : Clause}
    (hts : InRows lo hi (first :: others)) (h : lineClause first others = .ok line) :
    SoundClause lo hi first.span line := by
  obtain ⟨last, hc⟩ := clause_of_lineClause h
  have stage : Stage lo hi [] [] ⟨first :: others, first.span⟩ := ⟨hts, nofun, nofun⟩
  unfold clause at hc
  obtain ⟨start, u, hstart, hline⟩ := exists_of_bind_ok hc
  obtain ⟨rfl, noted⟩ := stage.here hstart
  obtain ⟨rfl, -⟩ := Prod.mk.inj (Except.ok.inj hstart)
  exact (yields_afterHead _ first.span noted hline).2

end Parse

end Stencil.Script
