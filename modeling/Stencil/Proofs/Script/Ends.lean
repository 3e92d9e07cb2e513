import Stencil.Proofs.Script.Taken

/-!
# How lines end

Every expression ends in a terminal that is no colon, and so does every simple statement. So the
last terminal of a line tells a line of simple statements from a head whose block is still to come.

## Main definitions

* `Parse.headWords` — the words that begin heads.

## Main results

* `Parse.closes_expression`, `Parse.closes_simples` — expressions and simple statements.
* `Parse.last_of_simple`, `Parse.last_of_opened` — how the two kinds of lines end.
-/

namespace Stencil.Script

namespace Parse

open Script.Parser

variable {self primary condition operand : Parser Expr} {w : Text}

/-! ## Atoms -/

theorem closes_itemsUpTo (h : Closes self) (hw : w ≠ ":") :
    ∀ fuel, Closes (itemsUpTo self w fuel)
  | 0 => closes_fail
  | fuel + 1 => by
    unfold itemsUpTo
    refine (asks_op? hw).closes (rests_pure _) (h.passes.closes fun e => ?_)
    refine (asks_op? (by decide)).closes ?_ ?_
    · exact (closes_itemsUpTo h hw fuel).rests.bind fun es => rests_pure _
    · exact (closes_op hw).bind fun _ => rests_pure _

theorem closes_entriesUpTo (h : Closes self) : ∀ fuel, Closes (entriesUpTo self fuel)
  | 0 => closes_fail
  | fuel + 1 => by
    unfold entriesUpTo
    refine (asks_op? (by decide)).closes (rests_pure _) (h.passes.closes fun key => ?_)
    refine (passes_op ":").closes fun _ => h.passes.closes fun value => ?_
    refine (asks_op? (by decide)).closes ?_ ?_
    · exact (closes_entriesUpTo h fuel).rests.bind fun es => rests_pure _
    · exact (closes_op (by decide)).bind fun _ => rests_pure _

/-- The pieces of a string are read from its own text. -/
theorem rests_decoded (found : Option Text) (row : Nat) :
    Rests (match found with
      | some value => pure (.text value)
      | none => failAt row : Parser Piece) := by
  split
  · exact rests_pure _
  · exact (closes_failAt _).rests

theorem rests_stringPieces (t : Terminal) : Rests (stringPieces self t) := by
  have failed {α : Type} (row : Nat) : Rests (failAt row : Parser α) := (closes_failAt row).rests
  unfold stringPieces
  split
  · rename_i s _
    have decoded (body : Text) := rests_decoded (s.read? body) t.span.row
    refine rests_ite (failed _) (rests_ite ?_ ?_)
    · split
      · refine Rests.mapM (fun field => ?_) _
        cases field with
        | text raw => exact decoded raw
        | shown shown => exact rests_pure _
        | value source rowOffset conversion =>
          refine rests_ite (failed _) ?_
          split
          · exact rests_pure _
          · exact (closes_throw _).rests
      · exact failed _
    · exact (decoded s.body).bind fun _ => rests_pure _
  · exact failed _

theorem rests_strings : ∀ fuel, Rests (strings self fuel)
  | 0 => closes_fail.rests
  | fuel + 1 => by
    intro c a c' h
    unfold strings at h
    obtain ⟨found, u, hp, h⟩ := exists_of_bind_ok h
    obtain ⟨rfl, rfl⟩ := Prod.mk.inj (Except.ok.inj hp)
    cases ht : c.rest.head? with
    | none =>
      simp only [ht] at h
      exact rests_pure _ h
    | some t =>
      simp only [ht] at h
      split at h
      · rename_i hk
        refine .inr (took_take_bind ht (isOp_of_kind (by simp [hk])) (fun u => ?_) h)
        exact (rests_stringPieces t).bind fun pieces =>
          (rests_strings fuel).bind fun _ => rests_pure _
      · exact rests_pure _ h

/-- Strings are there where a first one is. -/
theorem took_strings {fuel : Nat} {t : Terminal} {c c' : Cursor} {a : Bool × List Piece}
    (hc : c.rest.head? = some t) (hk : t.kind = .string)
    (h : strings self fuel c = .ok (a, c')) : Took c c' := by
  cases fuel with
  | zero => exact closes_fail h
  | succ fuel =>
    unfold strings at h
    obtain ⟨found, u, hp, h⟩ := exists_of_bind_ok h
    obtain ⟨rfl, rfl⟩ := Prod.mk.inj (Except.ok.inj hp)
    simp only [hc, hk, ↓reduceIte] at h
    refine took_take_bind hc (isOp_of_kind (by simp [hk])) (fun u => ?_) h
    exact (rests_stringPieces t).bind fun pieces =>
      (rests_strings fuel).bind fun _ => rests_pure _

theorem rests_loopConditions (h : Closes condition) :
    ∀ fuel, Rests (loopConditions condition fuel)
  | 0 => closes_fail.rests
  | fuel + 1 => by
    unfold loopConditions
    refine (asks_word? "if").rests ?_ (rests_pure _)
    exact h.rests.bind fun e => (rests_loopConditions h fuel).bind fun es => rests_pure _

theorem passes_targetItems (h : Closes primary) :
    ∀ fuel, Passes (targetItems primary w fuel)
  | 0 => closes_fail.passes
  | fuel + 1 => by
    unfold targetItems
    refine h.passes.bind fun e => (passes_op? ",").bind fun _ => passes_ite ?_ ?_
    · refine (rests_atWord w).passes.bind fun _ => passes_ite (rests_pure _).passes ?_
      exact (passes_targetItems h fuel).bind fun _ => (rests_pure _).passes
    · exact (rests_pure _).passes

theorem passes_target (found : Option Target) (row : Nat) :
    Passes (match found with
      | some target => pure target
      | none => failAt row : Parser Target) := by
  split
  · exact (rests_pure _).passes
  · exact (closes_failAt _).passes

theorem passes_loopTarget (fuel : Nat) (h : Closes primary) : Passes (loopTarget fuel primary) := by
  unfold loopTarget
  refine rests_here.passes.bind fun start => (passes_targetItems h fuel).bind fun found => ?_
  have finished (e : Expr) := passes_target (Target.ofExpr? e) e.span.row
  simp only
  split
  · exact (rests_pure _).passes.bind finished
  · exact (rests_since start).passes.bind fun _ => (rests_pure _).passes.bind finished

theorem closes_atom (fuel : Nat) (h : Closes self) (hp : Closes primary)
    (hc : Closes condition) : Closes (atom fuel self primary condition) := by
  unfold atom
  refine rests_here.passes.closes fun start => closes_peek closes_fail fun t c a c' ht hatom => ?_
  have since_ (f : Span → Expr) : Rests (since start >>= fun span => pure (f span)) :=
    (rests_since start).bind fun _ => rests_pure _
  have constant {e : Expr} (hk : t.kind ≠ .op)
      (h : (take >>= fun _ => pure e) c = .ok (a, c')) : Took c c' :=
    took_take_bind ht (isOp_of_kind hk) (fun _ => rests_pure _) h
  cases hk : t.kind with
  | name =>
    have word : t.kind ≠ .op := by simp [hk]
    simp only [hk] at hatom
    split at hatom
    · exact constant word hatom
    split at hatom
    · exact constant word hatom
    split at hatom
    · exact constant word hatom
    · exact closes_name.bind (fun _ => rests_pure _) hatom
  | number =>
    simp only [hk] at hatom
    cases hn : Script.number? t.text with
    | none =>
      simp only [hn] at hatom
      exact closes_fail hatom
    | some value =>
      simp only [hn] at hatom
      exact constant (by simp [hk]) hatom
  | string =>
    simp only [hk] at hatom
    obtain ⟨found, u, hs, hatom⟩ := exists_of_bind_ok hatom
    rcases since_ _ hatom with he | hd
    · exact (took_strings ht hk hs).congr he
    · exact hd.of_suffix (took_strings ht hk hs).suffix
  | op =>
    simp only [hk] at hatom
    refine Asks.closes (asks_op? (by decide)) ?_ ?_ hatom
    · -- a parenthesis
      refine (asks_op? (by decide)).rests (since_ _) (h.rests.bind fun e => ?_)
      refine (asks_op? (by decide)).rests ?_ ?_
      · exact (closes_itemsUpTo h (by decide) fuel).rests.bind fun _ => since_ _
      · exact (closes_op (by decide)).rests.bind fun _ => rests_pure _
    refine (asks_op? (by decide)).closes ?_ ?_
    · -- a list
      refine (asks_op? (by decide)).rests (since_ _) (h.rests.bind fun e => ?_)
      refine (asks_word? "for").rests ?_ ?_
      · refine Closes.rests ?_
        refine (passes_loopTarget fuel hp).closes fun target => ?_
        refine (closes_word "in").passes.closes fun _ => hc.passes.closes fun source => ?_
        refine (rests_loopConditions hc fuel).passes.closes fun conditions => ?_
        exact (closes_op (by decide)).bind fun _ => since_ _
      refine (asks_op? (by decide)).rests ?_ ?_
      · exact (closes_itemsUpTo h (by decide) fuel).rests.bind fun _ => since_ _
      · exact (closes_op (by decide)).rests.bind fun _ => since_ _
    · refine (asks_op? (by decide)).closes ?_ closes_fail
      exact (closes_entriesUpTo h fuel).rests.bind fun _ => since_ _
  | comment => simp only [hk] at hatom; exact closes_fail hatom
  | newline => simp only [hk] at hatom; exact closes_fail hatom
  | rowEnd => simp only [hk] at hatom; exact closes_fail hatom
  | indent => simp only [hk] at hatom; exact closes_fail hatom
  | dedent => simp only [hk] at hatom; exact closes_fail hatom
  | unknown => simp only [hk] at hatom; exact closes_fail hatom
  | endMarker => simp only [hk] at hatom; exact closes_fail hatom

/-! ## Calls and subscripts -/

theorem closes_arguments (h : Closes self) (seen : Bool) :
    ∀ fuel, Closes (arguments self seen fuel)
  | 0 => by
    unfold arguments
    exact closes_fail
  | fuel + 1 => by
    have more (seen : Bool) : Closes (moreArguments (arguments self seen fuel)) := by
      unfold moreArguments
      refine (passes_op? ",").closes fun _ => closes_ite (closes_arguments h seen fuel) ?_
      exact (closes_op (by decide)).bind fun _ => rests_pure _
    have positional : Closes (do
        let e ← self
        let rest ← moreArguments (arguments self seen fuel)
        pure (e :: rest.1, rest.2) : Parser (List Expr × List Named)) :=
      h.passes.closes fun e => (more seen).bind fun _ => rests_pure _
    unfold arguments
    refine (asks_op? (by decide)).closes (rests_pure _) (rests_get.passes.closes fun c => ?_)
    refine closes_ite ?_ (closes_ite (closes_fail.bind fun _ => positional.rests) positional)
    refine rests_here.passes.closes fun start => closes_name.passes.closes fun id => ?_
    refine passes_take.closes fun _ => h.passes.closes fun value => ?_
    refine (rests_since start).passes.closes fun span => ?_
    exact (more true).bind fun _ => rests_pure _

theorem rests_bound (h : Closes self) : Rests (bound self) := by
  unfold bound
  refine (rests_atOp _).bind fun _ => (rests_atOp _).bind fun _ => (rests_atOp _).bind fun _ => ?_
  exact rests_ite (rests_pure _) h.map.rests

/-- A key may end in a colon. -/
theorem passes_key (h : Closes self) : Passes (key self) := by
  have bound_ : Passes (bound self) := (rests_bound h).passes
  have none_ : Passes (pure none : Parser (Option Expr)) := (rests_pure none).passes
  unfold key
  refine rests_here.passes.bind fun start => (rests_atOp _).passes.bind fun _ => ?_
  refine passes_choice none_ h.map.passes fun lower => ?_
  refine (passes_op? ":").bind fun _ => passes_ite ?_ ?_
  · refine bound_.bind fun upper => (passes_op? ":").bind fun _ => ?_
    refine passes_choice bound_ none_ fun step => ?_
    exact (rests_since start).passes.bind fun _ => (rests_pure _).passes
  · cases lower with
    | some e => exact (rests_pure e).passes
    | none => exact closes_fail.passes

theorem passes_moreKeys (h : Closes self) : ∀ fuel, Passes (moreKeys self fuel)
  | 0 => closes_fail.passes
  | fuel + 1 => by
    unfold moreKeys
    refine (rests_atOp _).passes.bind fun _ => passes_ite (rests_pure _).passes ?_
    refine (passes_key h).bind fun e => (passes_op? ",").bind fun _ => passes_ite ?_ ?_
    · exact (passes_moreKeys h fuel).bind fun _ => (rests_pure _).passes
    · exact (rests_pure _).passes

theorem closes_subscript (fuel : Nat) (h : Closes self) (start : Span) (base : Expr) :
    Closes (subscript fuel self start base) := by
  have closed (whole : Expr) : Closes (do
      op "]"
      return .index (← since start) base whole : Parser Expr) :=
    (closes_op (by decide)).bind fun _ => (rests_since start).bind fun _ => rests_pure _
  unfold subscript
  refine rests_here.passes.closes fun keyStart => (passes_key h).closes fun first => ?_
  refine (passes_op? ",").closes fun _ => closes_ite ?_ ((rests_pure _).passes.closes closed)
  refine (passes_moreKeys h fuel).closes fun others => ?_
  exact (rests_since keyStart).passes.closes fun _ => (rests_pure _).passes.closes closed

theorem rests_trailers (h : Closes self) (start : Span) :
    ∀ (fuel : Nat) (e : Expr), Rests (trailers self start fuel e)
  | 0, _ => closes_fail.rests
  | fuel + 1, e => by
    have others := rests_trailers h start fuel
    unfold trailers
    refine (asks_op? (by decide)).rests ?_ ((asks_op? (by decide)).rests ?_
      ((asks_op? (by decide)).rests ?_ (rests_pure _)))
    · refine rests_here.bind fun nameSpan => closes_name.rests.bind fun id => ?_
      exact (rests_since start).bind fun _ => others _
    · refine (closes_arguments h false fuel).rests.bind fun found => ?_
      exact (rests_since start).bind fun _ => others _
    · have inside : Rests (subscript fuel self start e >>= fun e => trailers self start fuel e) :=
        (closes_subscript fuel h start e).rests.bind others
      refine (rests_atOp _).bind fun _ => rests_ite ?_ inside
      exact closes_fail.rests.bind fun _ => inside

/-! ## Operators -/

theorem rests_chain {operator : Terminal → Option BinaryOp} (h : Closes operand) (start : Span) :
    ∀ (fuel : Nat) (left : Expr), Rests (chain operator operand start fuel left)
  | 0, _ => closes_fail.rests
  | fuel + 1, left => by
    unfold chain
    refine rests_peek.bind fun next => ?_
    cases next.bind operator with
    | some op =>
      refine (passes_take.closes fun _ => h.bind fun right => ?_).rests
      exact (rests_since start).bind fun _ => rests_chain h start fuel _
    | none => exact rests_pure _

/-- What is taken is given its extent. -/
theorem closes_extent {f : Expr → Span → Expr} (h : Closes operand) (start : Span) :
    Closes (operand >>= fun e => since start >>= fun span => pure (f e span)) :=
  h.bind fun _ => (rests_since start).bind fun _ => rests_pure _

theorem closes_signed (h : Closes operand) : ∀ fuel, Closes (signed operand fuel)
  | 0 => closes_fail
  | fuel + 1 => by
    have others := closes_signed h fuel
    unfold signed
    refine rests_here.passes.closes fun start => (passes_op? "-").closes fun _ => ?_
    refine closes_ite (closes_extent others start) ((passes_op? "+").closes fun _ => ?_)
    exact closes_ite (closes_extent others start) h

theorem closes_negated (h : Closes operand) : ∀ fuel, Closes (negated operand fuel)
  | 0 => closes_fail
  | fuel + 1 => by
    have others := closes_negated h fuel
    unfold negated
    refine rests_here.passes.closes fun start => (asks_word? "not").passes.closes fun _ => ?_
    exact closes_ite (closes_extent others start) h

theorem passes_comparisonOp? : Passes comparisonOp? := by
  have found (op : Option CompareOp) : Passes (pure op : Parser (Option CompareOp)) :=
    (rests_pure op).passes
  unfold comparisonOp?
  refine rests_peek.passes.bind fun next => ?_
  cases next with
  | none => exact found _
  | some t =>
    simp only
    split
    · exact passes_take.bind fun _ => found _
    · refine (asks_word? "in").passes.bind fun _ => passes_ite (found _) ?_
      refine (asks_word? "is").passes.bind fun _ => passes_ite ?_ ?_
      · exact (asks_word? "not").passes.bind fun _ => passes_ite (found _) (found _)
      refine (asks_word? "not").passes.bind fun _ => passes_ite ?_ (found _)
      exact (closes_word "in").passes.bind fun _ => found _

/-- Where no comparison comes next, nothing is taken. -/
theorem declines_comparisonOp? : Declines comparisonOp? := by
  have some_ (op : CompareOp) : Never none (pure (some op) : Parser (Option CompareOp)) :=
    never_pure nofun
  unfold comparisonOp?
  refine Declines.bind_peek fun next => ?_
  cases next with
  | none => exact declines_none
  | some t =>
    simp only
    split
    · exact (Never.bind fun _ => some_ _).declines
    · refine (asks_word? "in").declines (some_ _) ?_
      refine (asks_word? "is").declines ?_ ?_
      · exact Never.bind fun _ => never_ite (some_ _) (some_ _)
      · exact (asks_word? "not").declines (Never.bind fun _ => some_ _) declines_none

theorem rests_comparisons (h : Closes operand) : ∀ fuel, Rests (comparisons operand fuel)
  | 0 => closes_fail.rests
  | fuel + 1 => by
    intro c a c' hc
    unfold comparisons at hc
    obtain ⟨found, u, hp, hrest⟩ := exists_of_bind_ok hc
    cases found with
    | some op =>
      have rest : Closes (do
          let right ← operand
          return .mk op right :: (← comparisons operand fuel) : Parser (List Comparison)) :=
        h.bind fun right => (rests_comparisons h fuel).bind fun _ => rests_pure _
      exact .inr ((rest hrest).of_suffix (passes_comparisonOp? hp))
    | none =>
      obtain rfl := declines_comparisonOp? hp
      exact rests_pure _ hrest

theorem rests_operands (h : Closes operand) : ∀ fuel, Rests (operands w operand fuel)
  | 0 => closes_fail.rests
  | fuel + 1 => by
    unfold operands
    refine (asks_word? w).rests ?_ (rests_pure _)
    exact h.rests.bind fun e => (rests_operands h fuel).bind fun _ => rests_pure _

/-! ## Expressions -/

theorem closes_disjunction_succ {fuel : Nat} (h : Closes (Parse.primary fuel)) :
    Closes (disjunction (fuel + 1)) := by
  unfold disjunction
  extract_lets awaited factor term sum comparison inversion joined
  have hawaited : Closes awaited :=
    rests_here.passes.closes fun start => (asks_word? "await").passes.closes fun _ =>
      closes_ite (closes_extent h start) h
  have hfactor : Closes factor := closes_signed hawaited (fuel + 1)
  have hterm : Closes term := rests_here.passes.closes fun start =>
    hfactor.bind fun left => rests_chain hfactor start _ left
  have hsum : Closes sum := rests_here.passes.closes fun start =>
    hterm.bind fun left => rests_chain hterm start _ left
  have hcomparison : Closes comparison := by
    refine rests_here.passes.closes fun start => hsum.bind fun first => ?_
    refine (rests_comparisons hsum (fuel + 1)).bind fun rest => ?_
    cases rest with
    | nil => exact rests_pure _
    | cons => exact (rests_since start).bind fun _ => rests_pure _
  have hinversion : Closes inversion := closes_negated hcomparison (fuel + 1)
  have hjoined (joint : Text) (conjunction : Bool) {operand : Parser Expr} (h : Closes operand) :
      Closes (joined joint conjunction operand) := by
    refine rests_here.passes.closes fun start => h.bind fun first => ?_
    refine (rests_operands h (fuel + 1)).bind fun rest => ?_
    cases rest with
    | nil => exact rests_pure _
    | cons => exact (rests_since start).bind fun _ => rests_pure _
  exact hjoined "or" false (hjoined "and" true hinversion)

/-- Every expression takes something and ends in no colon. -/
theorem closes_levels (fuel : Nat) :
    Closes (Parse.primary fuel) ∧ Closes (disjunction fuel) ∧ Closes (expression fuel) := by
  induction fuel with
  | zero => exact ⟨closes_fail, closes_fail, closes_fail⟩
  | succ fuel ih =>
    obtain ⟨hprimary, hdisjunction, hexpression⟩ := ih
    refine ⟨?_, closes_disjunction_succ hprimary, ?_⟩
    · unfold Parse.primary
      refine rests_here.passes.closes fun start => ?_
      exact (closes_atom fuel hexpression hprimary hdisjunction).bind fun e =>
        rests_trailers hexpression start (fuel + 1) e
    · unfold expression
      refine rests_here.passes.closes fun start => hdisjunction.bind fun yes => ?_
      refine (asks_word? "if").rests (Closes.rests ?_) (rests_pure _)
      refine hdisjunction.passes.closes fun test => (closes_word "else").passes.closes fun _ => ?_
      exact closes_extent hexpression start

theorem closes_expression (fuel : Nat) : Closes (expression fuel) := (closes_levels fuel).2.2

theorem rests_moreExpressions (depth : Nat) : ∀ fuel, Rests (moreExpressions depth fuel)
  | 0 => closes_fail.rests
  | fuel + 1 => by
    unfold moreExpressions
    refine (rests_peek.bind fun _ => rests_pure _).bind fun _ => rests_ite ?_ (rests_pure _)
    refine (closes_expression depth).rests.bind fun e => ?_
    refine (asks_op? (by decide)).rests ?_ (rests_pure _)
    exact (rests_moreExpressions depth fuel).bind fun _ => rests_pure _

theorem closes_expressions (fuel : Nat) : Closes (expressions fuel) := by
  unfold expressions
  refine rests_here.passes.closes fun start => (closes_expression fuel).bind fun e => ?_
  refine (asks_op? (by decide)).rests ?_ (rests_pure _)
  exact (rests_moreExpressions fuel fuel).bind fun _ => (rests_since start).bind fun _ =>
    rests_pure _

/-! ## Simple statements -/

theorem rests_atExpression : Rests atExpression := rests_peek.bind fun _ => rests_pure _

theorem rests_atEnd : Rests atEnd := rests_peek.bind fun _ => rests_pure _

theorem rests_targetOf (e : Expr) : Rests (targetOf e) := by
  unfold targetOf
  split
  · exact rests_pure _
  · exact (closes_failAt _).rests

theorem closes_assigned (depth : Nat) : ∀ fuel, Closes (assigned depth fuel)
  | 0 => closes_fail
  | fuel + 1 => by
    unfold assigned
    refine (closes_expressions depth).bind fun e => ?_
    refine (asks_op? (by decide)).rests ?_ (rests_pure _)
    exact (closes_assigned depth fuel).rests.bind fun _ => rests_pure _

theorem closes_assignment (fuel : Nat) : Closes (assignment fuel) := by
  unfold assignment
  refine rests_here.passes.closes fun start => (closes_expressions fuel).bind fun e => ?_
  refine rests_peek.bind fun next => (asks_op? (by decide)).rests ?_ (rests_op? ?_ ?_)
  · refine (closes_assigned fuel fuel).rests.bind fun values => ?_
    refine (Rests.mapM rests_targetOf _).bind fun targets => ?_
    exact (rests_since start).bind fun _ => rests_pure _
  · extract_lets annotated
    have hannotated (target : Target) : Closes (annotated target) := by
      refine (closes_expression fuel).bind fun ascription => ?_
      refine (asks_op? (by decide)).rests ?_ ?_
      · exact (closes_expressions fuel).map.rests.bind fun _ => (rests_since start).bind fun _ =>
          rests_pure _
      · exact (rests_pure none).bind fun _ => (rests_since start).bind fun _ => rests_pure _
    split
    · exact (rests_targetOf _).passes.closes hannotated
    · exact (rests_targetOf _).passes.closes hannotated
    · exact (rests_targetOf _).passes.closes hannotated
    · exact (closes_failAt _).passes.closes hannotated
  · split
    · refine (passes_take.closes fun _ => ?_).rests
      extract_lets updated
      have hupdated (target : Target) : Closes (updated target) :=
        (closes_expressions fuel).bind fun value => (rests_since start).bind fun _ => rests_pure _
      split
      · exact (rests_targetOf _).passes.closes hupdated
      · exact (rests_targetOf _).passes.closes hupdated
      · exact (rests_targetOf _).passes.closes hupdated
      · exact (closes_failAt _).passes.closes hupdated
    · exact (rests_since start).bind fun _ => rests_pure _

theorem closes_simple (fuel : Nat) : Closes (simple fuel) := by
  unfold simple
  refine rests_here.passes.closes fun start => ?_
  refine (asks_word? "pass").closes (rests_pure _) ?_
  refine (asks_word? "break").closes (rests_pure _) ?_
  refine (asks_word? "continue").closes (rests_pure _) ?_
  refine (asks_word? "return").closes ?_ ((asks_word? "raise").closes ?_ (closes_assignment fuel))
  · refine rests_atExpression.bind fun _ => ?_
    refine rests_ite ?_ ?_
    · exact (closes_expressions fuel).map.rests.bind fun _ => (rests_since start).bind fun _ =>
        rests_pure _
    · exact (rests_pure none).bind fun _ => (rests_since start).bind fun _ => rests_pure _
  · refine rests_atExpression.bind fun _ => ?_
    refine rests_ite ?_ ?_
    · exact (closes_expression fuel).map.rests.bind fun _ => (rests_since start).bind fun _ =>
        rests_pure _
    · exact (rests_pure none).bind fun _ => (rests_since start).bind fun _ => rests_pure _

theorem closes_simples (depth : Nat) : ∀ fuel, Closes (simples depth fuel)
  | 0 => closes_fail
  | fuel + 1 => by
    unfold simples
    refine (closes_simple depth).bind fun s => (asks_op? (by decide)).rests ?_ ?_
    · refine rests_atEnd.bind fun _ => rests_ite (rests_pure _) ?_
      exact (closes_simples depth fuel).rests.bind fun _ => rests_pure _
    · exact rests_atEnd.bind fun _ => rests_ite (rests_pure _) closes_fail.rests

theorem never_simples (depth : Nat) : ∀ fuel, Never [] (simples depth fuel)
  | 0 => never_fail []
  | fuel + 1 => by
    unfold simples
    have taken {s : Stmt} {ss : List Stmt} : Never [] (pure (s :: ss) : Parser (List Stmt)) :=
      never_pure (List.cons_ne_nil _ _)
    refine Never.bind fun s => Never.bind fun _ => never_ite ?_ ?_
    · exact Never.bind fun _ => never_ite taken (Never.bind fun _ => taken)
    · exact Never.bind fun _ => never_ite taken (never_fail [])

/-! ## Heads -/

theorem passes_parameter (fuel : Nat) (mayDefault : Bool) : Passes (parameter fuel mayDefault) := by
  have none_ : Passes (pure none : Parser (Option Expr)) := (rests_pure none).passes
  have given : Passes (some <$> expression fuel) := (closes_expression fuel).map.passes
  unfold parameter
  refine rests_here.passes.bind fun start => closes_name.passes.bind fun id => ?_
  refine (passes_op? ":").bind fun _ => passes_choice given none_ fun ascription => ?_
  refine (rests_since start).passes.bind fun span => ?_
  extract_lets defaulted
  have hdefaulted (default : Option Expr) : Passes (defaulted default) := (rests_pure _).passes
  refine passes_ite ((passes_op? "=").bind fun _ => ?_) (none_.bind hdefaulted)
  exact passes_choice given none_ hdefaulted

theorem passes_another : Passes another := by
  unfold another
  refine (passes_op? ",").bind fun _ => passes_ite (rests_pure _).passes ?_
  exact (passes_op ")").bind fun _ => (rests_pure _).passes

theorem passes_parameters (depth : Nat) :
    ∀ (fuel : Nat) (byName : Bool) (p : Params), Passes (parameters depth byName p fuel)
  | 0, _, _ => closes_fail.passes
  | fuel + 1, byName, p => by
    have others := passes_parameters depth fuel
    have done (p : Params) : Passes (pure p : Parser Params) := (rests_pure p).passes
    have failed {α : Type} : Passes (fail : Parser α) := closes_fail.passes
    unfold parameters
    refine (passes_op? ")").bind fun _ => passes_ite (done p) ?_
    refine (passes_op? "**").bind fun _ => passes_ite ?_ ?_
    · refine (passes_parameter depth false).bind fun q => (passes_op? ",").bind fun _ => ?_
      exact (passes_op ")").bind fun _ => done _
    have more (b : Bool) (p : Params) : Passes (do
        if ← another then parameters depth b p fuel else return p : Parser Params) :=
      passes_another.bind fun _ => passes_ite (others b p) (done p)
    refine (rests_atOp "*").passes.bind fun _ => passes_ite ?_ ?_
    · refine passes_guard ?_
      refine (passes_op "*").bind fun _ => (passes_op? ",").bind fun _ => passes_ite ?_ ?_
      · refine (rests_atOp ")").passes.bind fun _ => (rests_atOp "**").passes.bind fun _ => ?_
        exact passes_guard (others true p)
      · exact (passes_parameter depth false).bind fun q => more true _
    refine (rests_atOp "/").passes.bind fun _ => passes_ite ?_ ?_
    · exact passes_guard ((passes_op "/").bind fun _ => more false _)
    · refine rests_row.passes.bind fun _ => (passes_parameter depth true).bind fun q => ?_
      refine passes_ite (more true _) (passes_ite ?_ (more false _))
      exact (closes_failAt _).passes

theorem passes_definition (fuel : Nat) (suspending : Bool) :
    Passes (head?.definition fuel suspending) := by
  unfold head?.definition
  refine closes_name.passes.bind fun id => (passes_op "(").bind fun _ => ?_
  refine (passes_parameters fuel fuel false _).bind fun params => (passes_op? "->").bind fun _ => ?_
  exact passes_choice (closes_expression fuel).map.passes (rests_pure none).passes fun _ =>
    (rests_pure _).passes

theorem passes_head? (fuel : Nat) : Passes (head? fuel) := by
  have done (head : Option Head) : Passes (pure head : Parser (Option Head)) :=
    (rests_pure head).passes
  have word {w : Text} {yes no : Parser (Option Head)} (hyes : Passes yes) (hno : Passes no) :
      Passes (word? w >>= fun b => if b then yes else no) :=
    (asks_word? w).passes.bind fun _ => passes_ite hyes hno
  have expression_ : Passes (expression fuel) := (closes_expression fuel).passes
  have definition_ (suspending : Bool) : Passes (some <$> head?.definition fuel suspending) :=
    (passes_definition fuel suspending).map
  unfold head?
  refine word (expression_.bind fun _ => done _) ?_
  refine word (expression_.bind fun _ => done _) (word (done _) ?_)
  refine word (expression_.bind fun _ => done _) (word ?_ (word (done _) (word ?_ ?_)))
  · refine (passes_loopTarget fuel (closes_levels fuel).1).bind fun target => ?_
    exact (closes_word "in").passes.bind fun _ => (closes_expressions fuel).passes.bind fun _ =>
      done _
  · refine (rests_atOp ":").passes.bind fun _ => passes_ite (done _) ?_
    refine expression_.bind fun type => (asks_word? "as").passes.bind fun _ => ?_
    exact passes_choice closes_name.map.passes (rests_pure none).passes fun _ => done _
  refine word (done _) (word ?_ (word (definition_ false) (done _)))
  exact (closes_word "def").passes.bind fun _ => definition_ true

/-- Where no head comes next, nothing is taken. -/
theorem declines_head? (fuel : Nat) : Declines (head? fuel) := by
  have some_ (head : Head) : Never none (pure (some head) : Parser (Option Head)) :=
    never_pure nofun
  unfold head?
  refine (asks_word? _).declines (Never.bind fun _ => some_ _) ?_
  refine (asks_word? _).declines (Never.bind fun _ => some_ _) ?_
  refine (asks_word? _).declines (some_ _) ?_
  refine (asks_word? _).declines (Never.bind fun _ => some_ _) ?_
  refine (asks_word? _).declines ?_ ?_
  · exact Never.bind fun _ => Never.bind fun _ => Never.bind fun _ => some_ _
  refine (asks_word? _).declines (some_ _) ?_
  refine (asks_word? _).declines ?_ ?_
  · refine Never.bind fun _ => never_ite (some_ _) ?_
    refine Never.bind fun _ => Never.bind fun _ => never_ite ?_ ?_
    · exact Never.bind fun _ => some_ _
    · exact Never.bind fun _ => some_ _
  refine (asks_word? _).declines (some_ _) ?_
  refine (asks_word? _).declines (Never.bind fun _ => Never.map nofun) ?_
  exact (asks_word? _).declines (Never.map nofun) declines_none

/-! ## Lines -/

variable {first : Terminal} {others : List Terminal}

/-- The words that begin heads. -/
def headWords : List Text :=
  ["if", "elif", "else", "while", "for", "try", "except", "finally", "async", "def"].map
    Text.ofString

/-- A head begins with one of the words that heads begin with. -/
theorem word_of_head? {fuel : Nat} {head : Head} {last : Span} {c : Cursor}
    (h : head? fuel ⟨first :: others, last⟩ = .ok (some head, c)) :
    ∃ w ∈ headWords, first.isWord w = true := by
  unfold head? at h
  rcases word?_cases h with ⟨hw, -⟩ | ⟨-, h⟩
  · exact ⟨"if", by decide, hw⟩
  rcases word?_cases h with ⟨hw, -⟩ | ⟨-, h⟩
  · exact ⟨"elif", by decide, hw⟩
  rcases word?_cases h with ⟨hw, -⟩ | ⟨-, h⟩
  · exact ⟨"else", by decide, hw⟩
  rcases word?_cases h with ⟨hw, -⟩ | ⟨-, h⟩
  · exact ⟨"while", by decide, hw⟩
  rcases word?_cases h with ⟨hw, -⟩ | ⟨-, h⟩
  · exact ⟨"for", by decide, hw⟩
  rcases word?_cases h with ⟨hw, -⟩ | ⟨-, h⟩
  · exact ⟨"try", by decide, hw⟩
  rcases word?_cases h with ⟨hw, -⟩ | ⟨-, h⟩
  · exact ⟨"except", by decide, hw⟩
  rcases word?_cases h with ⟨hw, -⟩ | ⟨-, h⟩
  · exact ⟨"finally", by decide, hw⟩
  rcases word?_cases h with ⟨hw, -⟩ | ⟨-, h⟩
  · exact ⟨"async", by decide, hw⟩
  rcases word?_cases h with ⟨hw, -⟩ | ⟨-, h⟩
  · exact ⟨"def", by decide, hw⟩
  · exact absurd (Prod.mk.inj (Except.ok.inj h)).1 nofun

/-- What the parser of a line has taken when it holds something. -/
theorem clause_of_lineClause {line : Clause} (h : lineClause first others = .ok line) :
    ∃ last, clause (4 * others.length + 12) ⟨first :: others, first.span⟩ =
      .ok (line, ⟨[], last⟩) := by
  unfold lineClause onAll at h
  cases hc : clause (4 * others.length + 12) ⟨first :: others, first.span⟩ with
  | error e => simp [hc, bind, Except.bind] at h
  | ok found =>
    obtain ⟨value, rest, last⟩ := found
    simp only [hc, bind, Except.bind] at h
    cases rest with
    | nil =>
      obtain rfl := Except.ok.inj h
      exact ⟨last, rfl⟩
    | cons t rest => simp at h

theorem of_op {w : Text} {c c' : Cursor} (h : op w c = .ok ((), c')) :
    ∃ t, c.rest = t :: c'.rest ∧ t.isOp w = true := by
  unfold op at h
  obtain ⟨found, u, hp, h⟩ := exists_of_bind_ok h
  cases found with
  | false => exact absurd h (@never_fail _ () _ c')
  | true =>
    obtain ⟨-, rfl⟩ := Prod.mk.inj (Except.ok.inj h)
    rw [op?_eq] at hp
    split at hp
    · rename_i t rest hr
      split at hp
      · rename_i ht
        obtain ⟨-, rfl⟩ := Prod.mk.inj (Except.ok.inj hp)
        exact ⟨t, hr, ht⟩
      · simp at hp
    · simp at hp

theorem nothing_of_atEnd {c c' : Cursor} (h : atEnd c = .ok (true, c')) : c.rest = [] := by
  have ended : c.rest.head?.isNone = true := (Prod.mk.inj (Except.ok.inj h)).1
  simpa using ended

/-- A line of simple statements does not end in a colon. -/
theorem last_of_simple {stmts : List Stmt} (h : lineClause first others = .ok (.simple stmts)) :
    (first :: others).getLast?.any (·.isOp ":") = false := by
  obtain ⟨last, hc⟩ := clause_of_lineClause h
  unfold clause at hc
  obtain ⟨start, u, hp, hc⟩ := exists_of_bind_ok hc
  obtain ⟨-, rfl⟩ := Prod.mk.inj (Except.ok.inj hp)
  obtain ⟨found, u, hp, hc⟩ := exists_of_bind_ok hc
  cases found with
  | some head =>
    obtain ⟨-, v, -, hc⟩ := exists_of_bind_ok hc
    obtain ⟨ended, v, -, hc⟩ := exists_of_bind_ok hc
    cases ended with
    | true => exact absurd (Prod.mk.inj (Except.ok.inj hc)).1 nofun
    | false =>
      obtain ⟨stmts, v, -, hc⟩ := exists_of_bind_ok hc
      exact absurd (Prod.mk.inj (Except.ok.inj hc)).1 nofun
  | none =>
    obtain rfl := declines_head? _ hp
    obtain ⟨stmts, v, hs, hc⟩ := exists_of_bind_ok hc
    obtain ⟨ts, t, hts, ht⟩ := closes_simples _ _ hs
    obtain ⟨-, rfl⟩ := Prod.mk.inj (Except.ok.inj hc)
    simp only at hts
    rw [hts, List.getLast?_concat]
    exact ht

/-- What the parser of a line has taken of a head: the head, its colon, and the statements after it if
there are any. -/
theorem opened_of_lineClause {start : Span} {head : Head} {inline : List Stmt}
    (h : lineClause first others = .ok (.opened start head inline)) :
    ∃ c c' colon last, start = first.span ∧
      head? (4 * others.length + 12) ⟨first :: others, first.span⟩ = .ok (some head, c) ∧
      c.rest = colon :: c'.rest ∧ colon.isOp ":" = true ∧
      (c'.rest = [] ∧ inline = [] ∨
        simples (4 * others.length + 12) (4 * others.length + 12) c' = .ok (inline, ⟨[], last⟩)) := by
  obtain ⟨last, hc⟩ := clause_of_lineClause h
  unfold clause at hc
  obtain ⟨begin, u, hp, hc⟩ := exists_of_bind_ok hc
  obtain ⟨rfl, rfl⟩ := Prod.mk.inj (Except.ok.inj hp)
  obtain ⟨found, c, hhead, hc⟩ := exists_of_bind_ok hc
  cases found with
  | none =>
    obtain ⟨stmts, v, -, hc⟩ := exists_of_bind_ok hc
    exact absurd (Prod.mk.inj (Except.ok.inj hc)).1 nofun
  | some found =>
    obtain ⟨⟨⟩, c', hcolon, hc⟩ := exists_of_bind_ok hc
    obtain ⟨colon, ht, hop⟩ := of_op hcolon
    obtain ⟨ended, w, hend, hc⟩ := exists_of_bind_ok hc
    have nothing := @nothing_of_atEnd c' w
    obtain ⟨he, rfl⟩ := Prod.mk.inj (Except.ok.inj hend)
    cases ended with
    | true =>
      obtain ⟨he', -⟩ := Prod.mk.inj (Except.ok.inj hc)
      injection he' with hs hh hi
      subst hs hh hi
      exact ⟨c, c', colon, last, rfl, hhead, ht, hop, .inl ⟨nothing hend, rfl⟩⟩
    | false =>
      obtain ⟨stmts, x, hs, hc⟩ := exists_of_bind_ok hc
      obtain ⟨he', rfl⟩ := Prod.mk.inj (Except.ok.inj hc)
      injection he' with hs' hh hi
      subst hs' hh hi
      exact ⟨c, c', colon, last, rfl, hhead, ht, hop, .inr hs⟩

/-- A head with nothing after its colon begins with a word of heads and ends in the colon. -/
theorem last_of_opened {start : Span} {head : Head}
    (h : lineClause first others = .ok (.opened start head [])) :
    (∃ w ∈ headWords, first.isWord w = true) ∧
      (first :: others).getLast?.any (·.isOp ":") = true := by
  obtain ⟨c, c', colon, last, -, hhead, ht, hop, ⟨nothing, -⟩ | hs⟩ := opened_of_lineClause h
  · obtain ⟨us, hus⟩ := passes_head? _ hhead
    rw [nothing] at ht
    simp only [ht] at hus
    rw [← hus, List.getLast?_concat]
    exact ⟨word_of_head? hhead, hop⟩
  · exact absurd hs (@never_simples _ _ _ _)

/-- A head with statements after its colon does not end in a colon. -/
theorem last_of_inline {start : Span} {head : Head} {inline : List Stmt} (hne : inline ≠ [])
    (h : lineClause first others = .ok (.opened start head inline)) :
    (first :: others).getLast?.any (·.isOp ":") = false := by
  obtain ⟨c, c', colon, last, -, hhead, ht, -, ⟨-, he⟩ | hs⟩ := opened_of_lineClause h
  · exact absurd he hne
  · obtain ⟨us, hus⟩ := passes_head? _ hhead
    obtain ⟨ts, u, hts, hu⟩ := closes_simples _ _ hs
    simp only at hus hts
    have final : (us ++ colon :: (ts ++ [u])).getLast? = some u := by
      rw [← List.cons_append, ← List.append_assoc, List.getLast?_concat]
    rw [← hus, ht, hts, final]
    exact hu

end Parse

end Stencil.Script
