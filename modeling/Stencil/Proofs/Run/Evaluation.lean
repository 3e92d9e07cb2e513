import Stencil.Proofs.Eval.Calm
import Stencil.Proofs.Procedure.Construct
import Stencil.Proofs.Run.Derivable

/-!
# Scripts have derivations

If calls have derivations, so has all that a script does, by induction on its syntax. What an
expression or a statement does of its own it does at a spot of the code that it is part of.

## Main definitions

* `Interp.Derives` — calls have derivations.

## Main results

* `Script.Expr.derivable_eval`, `Script.Target.derivable_assign` — expressions and targets.
* `Script.Stmt.derivable_exec`, `Script.derivable_execAll` — statements.
-/

namespace Stencil

open Script

variable {K : Code → Prop} {A : Replies} {D : Path} {I : Interp} {c : Code} {α : Type}

/-- Calls have derivations. -/
structure Interp.Derives (K : Code → Prop) (A : Replies) (D : Path) (I : Interp) : Prop where
  call : ∀ caller v args named, Derivable K A D ⟨none, caller.handling⟩ (I.call caller v args named)
  await : ∀ caller v, Derivable K A D ⟨none, caller.handling⟩ (I.await caller v)

namespace Script

mutual

theorem Expr.derivable_eval (hI : I.Derives K A D) {f : Frame} (hf : f.IsOf K c) (e : Expr)
    (hs : e.spots ⊆ c.spots) : Derivable K A D (f.standing c) (e.eval I f) := by
  cases e with
  | const s c =>
    simp only [Expr.eval]
    exact .pure
  | name s id =>
    simp only [Expr.eval, Expr.spots, List.cons_subset] at hs ⊢
    exact hf.locateCalm hs.1 rfl (.name f) Frame.calm_lookup
  | joined s pieces =>
    simp only [Expr.eval, Expr.spots, List.cons_subset] at hs ⊢
    exact (derivable_evalPieces hI hf hs.1 .joined rfl pieces hs.2).bind fun _ => .pure
  | list s items =>
    simp only [Expr.eval, Expr.spots] at hs ⊢
    exact (derivable_evalAll hI hf items hs).bind fun _ => .quiet Eval.calm_newList Eval.quiet_newList
  | tuple s items =>
    simp only [Expr.eval, Expr.spots] at hs ⊢
    exact (derivable_evalAll hI hf items hs).bind fun _ =>
      .ite .pure (.quiet Eval.calm_newTuple Eval.quiet_newTuple)
  | dict s entries =>
    simp only [Expr.eval, Expr.spots, List.cons_subset] at hs ⊢
    exact (derivable_evalEntries hI hf hs.1 .dict rfl entries hs.2).bind fun _ =>
      .quiet Eval.calm_newDict Eval.quiet_newDict
  | binary s op left right =>
    simp only [Expr.eval, Expr.spots, List.cons_subset, List.append_subset] at hs ⊢
    exact (left.derivable_eval hI hf hs.2.1).bind fun _ =>
      (right.derivable_eval hI hf hs.2.2).bind fun _ =>
        hf.locateCalm hs.1 rfl (.binary _ _) Eval.calm_binary
  | unary s op operand =>
    simp only [Expr.eval, Expr.spots, List.cons_subset] at hs ⊢
    exact (operand.derivable_eval hI hf hs.2).bind fun _ =>
      hf.locateCalm hs.1 rfl (.unary _) Eval.calm_unary
  | logic s conjunction first rest =>
    simp only [Expr.eval, Expr.spots, List.append_subset] at hs ⊢
    exact (first.derivable_eval hI hf hs.1).bind fun _ => derivable_evalLogic hI hf rest hs.2
  | compare s first rest =>
    simp only [Expr.eval, Expr.spots, List.cons_subset, List.append_subset] at hs ⊢
    exact (first.derivable_eval hI hf hs.2.1).bind fun _ =>
      derivable_evalComparisons hI hf hs.1 .compare rfl rest hs.2.2
  | choose s test yes no =>
    simp only [Expr.eval, Expr.spots, List.append_subset] at hs ⊢
    exact (test.derivable_eval hI hf hs.1).bind fun _ => .heap fun _ _ =>
      .ite (yes.derivable_eval hI hf hs.2.1) (no.derivable_eval hI hf hs.2.2)
  | index s base key =>
    simp only [Expr.eval, Expr.spots, List.cons_subset, List.append_subset] at hs ⊢
    exact (base.derivable_eval hI hf hs.2.1).bind fun _ =>
      (key.derivable_eval hI hf hs.2.2).bind fun _ =>
        hf.locateCalm hs.1 rfl (.index _ _) Eval.calm_index
  | slice s lower upper step =>
    simp only [Expr.eval, Expr.spots, List.append_subset] at hs ⊢
    exact (derivable_evalBound hI hf lower hs.1).bind fun _ =>
      (derivable_evalBound hI hf upper hs.2.1).bind fun _ =>
        (derivable_evalBound hI hf step hs.2.2).bind fun _ => .pure
  | attr s base id nameRow =>
    simp only [Expr.eval, Expr.spots, List.cons_subset] at hs ⊢
    exact (base.derivable_eval hI hf hs.2).bind fun _ => hf.locateCalm hs.1 rfl (.attr _) Eval.calm_attr
  | call s function args named =>
    simp only [Expr.eval, Expr.spots, List.cons_subset, List.append_subset] at hs ⊢
    exact (function.derivable_eval hI hf hs.2.1).bind fun _ =>
      (derivable_evalAll hI hf args hs.2.2.1).bind fun _ =>
        (derivable_evalNamed hI hf named hs.2.2.2).bind fun _ =>
          hf.locate hs.1 rfl (.call I _ _ _ _) (hI.call _ _ _ _)
  | comprehension s item target source conditions =>
    have spot := hs
    simp only [Expr.eval, Expr.spots, List.cons_subset, List.append_subset] at hs ⊢
    refine (source.derivable_eval hI hf hs.2.1).bind fun _ =>
      (hf.locateCalm hs.1 rfl (.source _) Eval.calm_start).bind fun cursor =>
        hf.locate hs.1 rfl (.comprehension I f cursor) ?_
    refine .bind (.calm Interp.calm_enter) fun _ =>
      .bind (.calm (.allocPlain rfl fun _ h => nomatch h)) fun scope => ?_
    have hg : Frame.IsOf K { f with scopes := scope :: f.scopes, depth := f.depth + 1 } c :=
      ⟨hf.known, hf.file, hf.lines⟩
    refine Derivable.bind (.enter hf.known (.comprehension I cursor hg.file hg.lines hs.1) (.inr rfl) ?_)
      fun _ => .quiet Eval.calm_newList Eval.quiet_newList
    refine .iterate
      (fun x => (hg.locateCalm hs.1 rfl (.round _) Eval.calm_advance).bind fun next => ?_) _ _
    cases next with
    | none => exact .pure
    | some next =>
      exact (target.derivable_assign hI hg hs.2.2.1).bind fun _ =>
        (derivable_evalConditions hI hg conditions hs.2.2.2.1).bind fun _ =>
          .ite ((item.derivable_eval hI hg hs.2.2.2.2).bind fun _ => .pure) .pure
  | await s value =>
    simp only [Expr.eval, Expr.spots, List.cons_subset] at hs ⊢
    exact (value.derivable_eval hI hf hs.2).bind fun _ =>
      hf.locate hs.1 rfl (.await I _ _) (hI.await _ _)

theorem derivable_evalAll (hI : I.Derives K A D) {f : Frame} (hf : f.IsOf K c) (es : List Expr)
    (hs : spotsOfAll es ⊆ c.spots) : Derivable K A D (f.standing c) (evalAll I f es) := by
  cases es with
  | nil =>
    simp only [evalAll]
    exact .pure
  | cons e es =>
    simp only [evalAll, spotsOfAll, List.append_subset] at hs ⊢
    exact (e.derivable_eval hI hf hs.1).bind fun _ =>
      (derivable_evalAll hI hf es hs.2).bind fun _ => .pure

theorem derivable_evalPieces (hI : I.Derives K A D) {f : Frame} (hf : f.IsOf K c) {spot : Spot}
    (spots : spot ∈ c.spots) (does : ∀ (q : Conversion) v, spot.Does (q.apply v)) {row : Nat}
    (hr : spot.row = row) (pieces : List Piece)
    (hs : spotsOfPieces pieces ⊆ c.spots) :
    Derivable K A D (f.standing c) (evalPieces I f row pieces) := by
  cases pieces with
  | nil =>
    simp only [evalPieces]
    exact .pure
  | cons p rest =>
    cases p with
    | text t =>
      simp only [evalPieces, spotsOfPieces] at hs ⊢
      exact (derivable_evalPieces hI hf spots does hr rest hs).bind fun _ => .pure
    | value e conversion =>
      simp only [evalPieces, spotsOfPieces, List.append_subset] at hs ⊢
      exact (e.derivable_eval hI hf hs.1).bind fun _ =>
        (hf.locateCalm spots hr (does _ _) calm_conversion).bind fun _ =>
          (derivable_evalPieces hI hf spots does hr rest hs.2).bind fun _ => .pure

theorem derivable_evalBound (hI : I.Derives K A D) {f : Frame} (hf : f.IsOf K c) (e : Option Expr)
    (hs : spotsOfBound e ⊆ c.spots) : Derivable K A D (f.standing c) (evalBound I f e) := by
  cases e with
  | none =>
    simp only [evalBound]
    exact .pure
  | some e =>
    simp only [evalBound, spotsOfBound] at hs ⊢
    exact e.derivable_eval hI hf hs

theorem derivable_evalEntries (hI : I.Derives K A D) {f : Frame} (hf : f.IsOf K c) {spot : Spot}
    (spots : spot ∈ c.spots) (does : ∀ done added, spot.Does (putEntries done added))
    {row direct : Nat} {done waiting : Entries} (hr : spot.row = row) (entries : List Entry)
    (hs : spotsOfEntries entries ⊆ c.spots) :
    Derivable K A D (f.standing c) (evalEntries I f row direct done waiting entries) := by
  cases entries with
  | nil =>
    simp only [evalEntries]
    exact hf.locateCalm spots hr (does _ _) calm_putEntries
  | cons entry rest =>
    obtain ⟨key, value⟩ := entry
    simp only [spotsOfEntries, List.append_subset] at hs
    cases direct with
    | zero =>
      simp only [evalEntries]
      exact (key.derivable_eval hI hf hs.1).bind fun _ =>
        (value.derivable_eval hI hf hs.2.1).bind fun _ =>
          derivable_evalEntries hI hf spots does hr rest hs.2.2
    | succ direct =>
      simp only [evalEntries]
      exact (key.derivable_eval hI hf hs.1).bind fun _ =>
        (value.derivable_eval hI hf hs.2.1).bind fun _ =>
          (hf.locateCalm spots hr (does _ _) calm_putEntries).bind fun _ =>
            derivable_evalEntries hI hf spots does hr rest hs.2.2

theorem derivable_evalNamed (hI : I.Derives K A D) {f : Frame} (hf : f.IsOf K c)
    (named : List Named) (hs : spotsOfNamed named ⊆ c.spots) :
    Derivable K A D (f.standing c) (evalNamed I f named) := by
  cases named with
  | nil =>
    simp only [evalNamed]
    exact .pure
  | cons n rest =>
    obtain ⟨s, id, value⟩ := n
    simp only [evalNamed, spotsOfNamed, List.append_subset] at hs ⊢
    exact (value.derivable_eval hI hf hs.1).bind fun _ =>
      (derivable_evalNamed hI hf rest hs.2).bind fun _ => .pure

theorem derivable_evalLogic (hI : I.Derives K A D) {f : Frame} (hf : f.IsOf K c)
    {conjunction : Bool} {v : Value} (es : List Expr) (hs : spotsOfAll es ⊆ c.spots) :
    Derivable K A D (f.standing c) (evalLogic I f conjunction v es) := by
  cases es with
  | nil =>
    simp only [evalLogic]
    exact .pure
  | cons e es =>
    simp only [evalLogic, spotsOfAll, List.append_subset] at hs ⊢
    exact .heap fun _ _ => .ite ((e.derivable_eval hI hf hs.1).bind fun _ =>
      derivable_evalLogic hI hf es hs.2) .pure

theorem derivable_evalComparisons (hI : I.Derives K A D) {f : Frame} (hf : f.IsOf K c)
    {spot : Spot} (spots : spot ∈ c.spots)
    (does : ∀ op v w, spot.Does (Eval.compare op v w)) {row : Nat} {v : Value} (hr : spot.row = row)
    (rest : List Comparison) (hs : spotsOfComparisons rest ⊆ c.spots) :
    Derivable K A D (f.standing c) (evalComparisons I f row v rest) := by
  cases rest with
  | nil =>
    simp only [evalComparisons]
    exact .pure
  | cons q rest =>
    obtain ⟨op, right⟩ := q
    simp only [evalComparisons, spotsOfComparisons, List.append_subset] at hs ⊢
    exact (right.derivable_eval hI hf hs.1).bind fun _ =>
      (hf.locateCalm spots hr (does _ _ _) Eval.calm_compare).bind fun _ =>
        .ite (derivable_evalComparisons hI hf spots does hr rest hs.2) .pure

theorem derivable_evalConditions (hI : I.Derives K A D) {f : Frame} (hf : f.IsOf K c)
    (es : List Expr) (hs : spotsOfAll es ⊆ c.spots) :
    Derivable K A D (f.standing c) (evalConditions I f es) := by
  cases es with
  | nil =>
    simp only [evalConditions]
    exact .pure
  | cons e es =>
    simp only [evalConditions, spotsOfAll, List.append_subset] at hs ⊢
    exact (e.derivable_eval hI hf hs.1).bind fun _ => .heap fun _ _ =>
      .ite (derivable_evalConditions hI hf es hs.2) .pure

theorem Target.derivable_assign (hI : I.Derives K A D) {f : Frame} (hf : f.IsOf K c) {v : Value}
    (t : Target) (hs : t.spots ⊆ c.spots) : Derivable K A D (f.standing c) (t.assign I f v) := by
  cases t with
  | name s id =>
    simp only [Target.assign]
    exact .quiet Frame.calm_bind Frame.quiet_bind
  | items s targets =>
    simp only [Target.assign, Target.spots, List.cons_subset] at hs ⊢
    exact (hf.locateCalm hs.1 rfl (.targetItems _) Eval.calm_unpack).bind fun _ =>
      derivable_assignAll hI hf targets hs.2
  | index s base key =>
    simp only [Target.assign, Target.spots, List.cons_subset, List.append_subset] at hs ⊢
    exact (base.derivable_eval hI hf hs.2.1).bind fun _ =>
      (key.derivable_eval hI hf hs.2.2).bind fun _ =>
        hf.locateCalm hs.1 rfl (.setIndex _ _ _) Eval.calm_setIndex
  | attr s base id nameRow =>
    simp only [Target.assign, Target.spots, List.cons_subset] at hs ⊢
    exact (base.derivable_eval hI hf hs.2).bind fun _ =>
      hf.locateCalm hs.1 rfl (.setAttr _ _) Eval.calm_setAttr

theorem derivable_assignAll (hI : I.Derives K A D) {f : Frame} (hf : f.IsOf K c)
    {vs : List Value} (ts : List Target) (hs : spotsOfTargets ts ⊆ c.spots) :
    Derivable K A D (f.standing c) (assignAll I f vs ts) := by
  cases ts with
  | nil =>
    simp only [assignAll]
    exact .pure
  | cons t ts =>
    simp only [assignAll, spotsOfTargets, List.append_subset] at hs ⊢
    exact (t.derivable_assign hI hf hs.1).bind fun _ => derivable_assignAll hI hf ts hs.2

end

end Script

namespace Eval

theorem derivable_throwValue {v : Value} {handling : Option Ref} :
    Derivable K A D ⟨none, handling⟩ (throwValue v : Proc α) := by
  unfold throwValue
  split
  · exact .throw (.inl rfl)
  · refine .bind (.calm calm_instantiate) fun w => ?_
    split
    · exact .throw (.inl rfl)
    · exact .calm .error
  · exact .calm .error

theorem derivable_rethrow {f : Frame} (hf : f.IsOf K c) {s : Span}
    (spots : Spot.stmt (.raise s none) ∈ c.spots) :
    Derivable K A D (f.standing c) (rethrow f s.row : Proc α) := by
  unfold rethrow
  split
  · next h => exact .throw (.inr h)
  · exact hf.locateCalm spots rfl .reraise .error

end Eval

namespace Script

theorem derivable_assignEach (hI : I.Derives K A D) {f : Frame} (hf : f.IsOf K c) {v : Value}
    {ts : List Target} (hs : spotsOfTargets ts ⊆ c.spots) :
    Derivable K A D (f.standing c) (ts.forM fun t => t.assign I f v) := by
  induction ts with
  | nil => exact .pure
  | cons t ts ih =>
    simp only [spotsOfTargets, List.append_subset] at hs
    exact (t.derivable_assign hI hf hs.1).bind fun _ => ih hs.2

theorem Target.derivable_inspect (hI : I.Derives K A D) {f : Frame} (hf : f.IsOf K c) (t : Target)
    (hs : t.spots ⊆ c.spots) : Derivable K A D (f.standing c) (t.inspect I f) := by
  cases t with
  | name | items =>
    simp only [Target.inspect]
    exact .pure
  | index s base key =>
    simp only [Target.inspect, Target.spots, List.cons_subset, List.append_subset] at hs ⊢
    exact (base.derivable_eval hI hf hs.2.1).bind fun _ =>
      (key.derivable_eval hI hf hs.2.2).bind fun _ => .pure
  | attr s base id nameRow =>
    simp only [Target.inspect, Target.spots, List.cons_subset] at hs ⊢
    exact (base.derivable_eval hI hf hs.2).bind fun _ => .pure

theorem derivable_evalDefaults (hI : I.Derives K A D) {f : Frame} (hf : f.IsOf K c)
    {params : List Param} (hs : spotsOfParams params ⊆ c.spots) :
    Derivable K A D (f.standing c) (Stmt.exec.evalDefaults I f params) := by
  induction params with
  | nil =>
    simp only [Stmt.exec.evalDefaults]
    exact .pure
  | cons q rest ih =>
    simp only [spotsOfParams, List.flatMap_cons, List.append_subset] at hs
    have ih := ih hs.2
    obtain ⟨s, id, ascription, default⟩ := q
    cases default with
    | none =>
      simp only [Stmt.exec.evalDefaults]
      exact ih
    | some e =>
      simp only [Stmt.exec.evalDefaults]
      exact (e.derivable_eval hI hf hs.1.1).bind fun _ => ih.bind fun _ => .pure

/-- The spots in annotations are those of parameters, in whichever order. -/
theorem subset_ascribed {params : Params} :
    spotsOfParams params.ascribed ⊆ spotsOfParams params.all := by
  intro p hp
  obtain ⟨q, hq, hp⟩ := List.mem_flatMap.1 hp
  exact List.mem_flatMap.2 ⟨q, Procedure.mem_all_of_ascribed hq, hp⟩

theorem derivable_evalAnnotations (hI : I.Derives K A D) {f : Frame} (hf : f.IsOf K c)
    {params : List Param} (hs : spotsOfParams params ⊆ c.spots) :
    Derivable K A D (f.standing c) (Stmt.exec.evalAnnotations I f params) := by
  induction params with
  | nil =>
    simp only [Stmt.exec.evalAnnotations]
    exact .pure
  | cons q rest ih =>
    simp only [spotsOfParams, List.flatMap_cons, List.append_subset] at hs
    have ih := ih hs.2
    obtain ⟨s, id, ascription, default⟩ := q
    cases ascription with
    | none =>
      simp only [Stmt.exec.evalAnnotations]
      exact ih
    | some e =>
      simp only [Stmt.exec.evalAnnotations]
      exact (e.derivable_eval hI hf hs.1.2).bind fun _ => ih

mutual

theorem Stmt.derivable_exec (hI : I.Derives K A D) {f : Frame} (hf : f.IsOf K c) (s : Stmt)
    (hs : s.spots ⊆ c.spots) : Derivable K A D (f.standing c) (s.exec I f) := by
  cases s with
  | expr s value =>
    simp only [Stmt.exec, Stmt.spots] at hs ⊢
    exact (value.derivable_eval hI hf hs).bind fun _ => .pure
  | assign s targets value =>
    simp only [Stmt.exec, Stmt.spots, List.append_subset] at hs ⊢
    exact (value.derivable_eval hI hf hs.1).bind fun _ =>
      (derivable_assignEach hI hf hs.2).bind fun _ => .pure
  | annotate s target ascription value =>
    simp only [Stmt.exec, Stmt.spots, List.append_subset] at hs ⊢
    have after : Derivable K A D (f.standing c) (if f.scopes.isEmpty then (do
        let _ ← ascription.eval I f
        return Flow.normal) else return Flow.normal) :=
      .ite ((ascription.derivable_eval hI hf hs.2.1).bind fun _ => .pure) .pure
    cases value with
    | none => exact (target.derivable_inspect hI hf hs.1).bind fun _ => after
    | some e =>
      exact (e.derivable_eval hI hf hs.2.2).bind fun _ =>
        (target.derivable_assign hI hf hs.1).bind fun _ => after
  | update s target op value =>
    simp only [Stmt.exec, Stmt.spots, List.cons_subset, List.append_subset] at hs ⊢
    cases target with
    | name t id =>
      simp only [Target.spots, List.cons_subset] at hs
      exact (hf.locateCalm hs.2.1.1 rfl (.targetName f) Frame.calm_lookup).bind fun _ =>
        (value.derivable_eval hI hf hs.2.2).bind fun _ =>
          (hf.locateCalm hs.1 rfl (.update _ _) Eval.calm_update).bind fun _ =>
            .bind (.quiet Frame.calm_bind Frame.quiet_bind) fun _ => .pure
    | items t targets => exact .pure
    | index t base key =>
      simp only [Target.spots, List.cons_subset, List.append_subset] at hs
      exact (base.derivable_eval hI hf hs.2.1.2.1).bind fun _ =>
        (key.derivable_eval hI hf hs.2.1.2.2).bind fun _ =>
          (hf.locateCalm hs.2.1.1 rfl (.targetIndex _ _) Eval.calm_index).bind fun _ =>
            (value.derivable_eval hI hf hs.2.2).bind fun _ =>
              (hf.locateCalm hs.1 rfl (.update _ _) Eval.calm_update).bind fun _ =>
                (hf.locateCalm hs.2.1.1 rfl (.setIndex _ _ _) Eval.calm_setIndex).bind fun _ => .pure
    | attr t base id nameRow =>
      simp only [Target.spots, List.cons_subset] at hs
      exact (base.derivable_eval hI hf hs.2.1.2).bind fun _ =>
        (hf.locateCalm hs.2.1.1 rfl (.targetAttr _) Eval.calm_attr).bind fun _ =>
          (value.derivable_eval hI hf hs.2.2).bind fun _ =>
            (hf.locateCalm hs.1 rfl (.update _ _) Eval.calm_update).bind fun _ =>
              (hf.locateCalm hs.2.1.1 rfl (.setAttr _ _) Eval.calm_setAttr).bind fun _ => .pure
  | branch s test yes no =>
    simp only [Stmt.exec, Stmt.spots, List.append_subset] at hs ⊢
    exact (test.derivable_eval hI hf hs.1).bind fun _ => .heap fun _ _ =>
      .ite (derivable_execAll hI hf yes hs.2.1) (derivable_execAll hI hf no hs.2.2)
  | each s target source body orelse =>
    simp only [Stmt.exec, Stmt.spots, List.cons_subset, List.append_subset] at hs ⊢
    refine (source.derivable_eval hI hf hs.2.2.1).bind fun _ =>
      (hf.locateCalm hs.1 rfl (.each _) Eval.calm_start).bind fun cursor =>
        .bind (.iterate (fun cursor => ?_) _ _) fun left => ?_
    · refine (hf.locateCalm hs.1 rfl (.next _) Eval.calm_advance).bind fun next => ?_
      cases next with
      | none => exact .pure
      | some next =>
        refine (target.derivable_assign hI hf hs.2.1).bind fun _ =>
          (derivable_execAll hI hf body hs.2.2.2.1).bind fun flow => ?_
        cases flow <;> exact .pure
    · cases left with
      | some flow => exact .pure
      | none => exact derivable_execAll hI hf orelse hs.2.2.2.2
  | loop s test body orelse =>
    simp only [Stmt.exec, Stmt.spots, List.append_subset] at hs ⊢
    refine .bind (.iterate (fun _ => ?_) _ _) fun left => ?_
    · refine (test.derivable_eval hI hf hs.1).bind fun _ => .heap fun _ _ => .ite ?_ .pure
      refine (derivable_execAll hI hf body hs.2.1).bind fun flow => ?_
      cases flow <;> exact .pure
    · cases left with
      | some flow => exact .pure
      | none => exact derivable_execAll hI hf orelse hs.2.2
  | attempt s body handlers orelse final =>
    simp only [Stmt.spots, List.append_subset] at hs
    rw [exec_attempt]
    refine .finishing rfl (.guarded rfl (derivable_execAll hI hf body hs.1)
      (derivable_execAll hI hf orelse hs.2.2.1) fun r => ?_) fun handled => ?_
    · exact execHandlers_eq I f r handlers ▸ derivable_execHandlers hI hf r handlers hs.2.1
    · have hg : Frame.IsOf K { f with handling := handled.or f.handling } c :=
        ⟨hf.known, hf.file, hf.lines⟩
      exact derivable_execAll hI hg final hs.2.2.2
  | raise s exception =>
    cases exception with
    | none =>
      simp only [Stmt.exec, Stmt.spots, List.cons_subset] at hs ⊢
      exact Eval.derivable_rethrow hf hs.1
    | some e =>
      simp only [Stmt.exec, Stmt.spots, spotsOfBound, List.cons_subset] at hs ⊢
      exact (e.derivable_eval hI hf hs.2).bind fun _ =>
        hf.locate hs.1 rfl (.raise _) Eval.derivable_throwValue
  | give s value =>
    cases value with
    | none =>
      simp only [Stmt.exec]
      exact .pure
    | some e =>
      simp only [Stmt.exec, Stmt.spots, spotsOfBound] at hs ⊢
      exact (e.derivable_eval hI hf hs).bind fun _ => .pure
  | define s suspending id params returns body =>
    simp only [Stmt.exec, Stmt.spots, List.append_subset] at hs ⊢
    refine (derivable_evalDefaults hI hf hs.1).bind fun _ =>
      (derivable_evalAnnotations hI hf (List.Subset.trans subset_ascribed hs.1)).bind fun _ =>
        (derivable_evalBound hI hf returns hs.2.1).bind fun _ => .bind (.quiet ?_ .alloc) fun _ =>
          .bind (.quiet Frame.calm_bind Frame.quiet_bind) fun _ => .pure
    refine .alloc ⟨fun g hg => ?_, fun _ h => nomatch h⟩
    obtain rfl := Option.some.inj hg
    exact ⟨c, hf.known, hf.file, hf.lines, hs.2.2⟩
  | pass | leave | again =>
    simp only [Stmt.exec]
    exact .pure

theorem derivable_execAll (hI : I.Derives K A D) {f : Frame} (hf : f.IsOf K c) (stmts : List Stmt)
    (hs : spotsOf stmts ⊆ c.spots) : Derivable K A D (f.standing c) (execAll I f stmts) := by
  cases stmts with
  | nil =>
    simp only [execAll]
    exact .pure
  | cons s rest =>
    simp only [execAll, spotsOf, List.append_subset] at hs ⊢
    refine (s.derivable_exec hI hf hs.1).bind fun flow => ?_
    cases flow with
    | normal => exact derivable_execAll hI hf rest hs.2
    | _ => exact .pure

theorem derivable_execHandlers (hI : I.Derives K A D) {f : Frame} (hf : f.IsOf K c) (r : Ref)
    (handlers : List Handler) (hs : spotsOfHandlers handlers ⊆ c.spots) :
    Derivable K A D ((f.standing c).handles (some r)) (execHandlers I f r handlers) := by
  cases handlers with
  | nil =>
    simp only [execHandlers]
    exact .throw (.inr rfl)
  | cons h rest =>
    obtain ⟨s, type, id, body⟩ := h
    simp only [spotsOfHandlers, List.cons_subset, List.append_subset] at hs
    have hg : Frame.IsOf K { f with handling := some r } c := ⟨hf.known, hf.file, hf.lines⟩
    have hbody := derivable_execAll hI hg body hs.2.2.1
    have after (taken : Bool) : Derivable K A D ((f.standing c).handles (some r)) (if taken then
        match id with
        | none => execAll I { f with handling := some r } body
        | some id => do
          f.bind id (.exception r)
          (execAll I { f with handling := some r } body).andFinally (f.unbind id)
        else execHandlers I f r rest) := by
      refine .ite ?_ (derivable_execHandlers hI hf r rest hs.2.2.2)
      cases id with
      | none => exact hbody
      | some id =>
        exact .bind (.quiet Frame.calm_bind Frame.quiet_bind) fun _ =>
          .layer (.unbind f.own id) trivial rfl trivial hbody
    simp only [execHandlers]
    cases type with
    | none => exact .bind .pure after
    | some e =>
      exact (e.derivable_eval hI hg hs.2.1).bind fun _ =>
        (hg.locateCalm hs.1 rfl (.handler r _) Eval.calm_catches).bind after

end

end Script

end Stencil
