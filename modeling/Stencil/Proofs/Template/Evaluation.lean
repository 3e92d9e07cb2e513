import Stencil.Proofs.Machine.Laws
import Stencil.Proofs.Template.Tree

/-!
# Evaluating a tree

A tree is evaluated by its structure: a literal text is one call of `write`, a section executes its
own statements, and a block does with its bodies, which are trees again, what its head and the
heads of its clauses say. Executing the statements of a tree is the same.

## Main definitions

* `Limb` — a head of a block, with what its body does; `Limb.exec` is what a whole block does.
* `Tree.run` — a tree is evaluated.

## Main results

* `Limb.exec_compound` — a compound statement does what its heads and bodies do.
* `Tree.execAll_statements` — the statements of a tree do what the tree does.
-/

namespace Stencil

open Script

/-- A head of a block, with what its body does. -/
structure Limb where
  start : Span
  head : Head
  /-- The statements of the body, which a function that is defined keeps. -/
  body : List Stmt
  run : Frame → Proc Flow

namespace Limb

/-- The head with the statements of the body. -/
def arm (l : Limb) : Arm := ⟨l.start, l.head, l.body⟩

/-- The first limb with such a head, if there is one. -/
def only (isHead : Head → Bool) (f : Frame) (limbs : List Limb) : Proc Flow :=
  match limbs.find? (isHead ·.head) with
  | some l => l.run f
  | none => return .normal

/-- The first limb whose test holds, or the one without a test. -/
def otherwise (I : Interp) (f : Frame) : List Limb → Proc Flow
  | [] => return .normal
  | l :: rest => do
    match l.head with
    | .otherBranch test =>
      let v ← test.eval I f
      if v.truth (← Proc.heap) then l.run f else otherwise I f rest
    | _ => l.run f

/-- The first limb that handles an exception. -/
def handle (I : Interp) (f : Frame) (r : Ref) : List Limb → Proc Flow
  | [] => Proc.throw r
  | l :: rest => do
    match l.head with
    | .handler type id =>
      let g := { f with handling := some r }
      let taken ← match type with
        | none => pure true
        | some e => do
          let v ← e.eval I g
          f.locate l.start.row (Eval.catches r v)
      if taken then
        match id with
        | none => l.run g
        | some id => do
          f.bind id (.exception r)
          (l.run g).andFinally (f.unbind id)
      else handle I f r rest
    | _ => Proc.throw r

/-- How a loop goes on after a round. -/
def next {σ : Type} (s : σ) : Flow → σ ⊕ Option Flow
  | .normal | .again => .inl s
  | .leave => .inr (some .normal)
  | .give v => .inr (some (.give v))

/-- What a block does that begins with a limb. -/
def exec (I : Interp) (f : Frame) (first : Limb) (rest : List Limb) : Proc Flow := do
  match first.head with
  | .branch test =>
    let v ← test.eval I f
    if v.truth (← Proc.heap) then first.run f else otherwise I f rest
  | .loop test =>
    let left ← Proc.iterate (fun () => do
      let v ← test.eval I f
      if v.truth (← Proc.heap) then return next () (← first.run f)
      else return .inr none) I.limit ()
    match left with
    | some flow => return flow
    | none => only Arm.isOrelse f rest
  | .each target source =>
    let v ← source.eval I f
    let cursor ← f.locate first.start.row (Eval.start v)
    let left ← Proc.iterate (fun cursor => do
      match ← f.locate first.start.row (Eval.advance cursor) with
      | none => return .inr none
      | some (v, cursor) =>
        target.assign I f v
        return next cursor (← first.run f)) I.limit cursor
    match left with
    | some flow => return flow
    | none => only Arm.isOrelse f rest
  | .attempt =>
    let result ← Proc.attempt do
      match ← (first.run f).attempt with
      | .ok .normal => only Arm.isOrelse f rest
      | .ok flow => return flow
      | .error r => handle I f r rest
    let handling := match result with
      | .ok _ => f.handling
      | .error r => some r
    match ← only Arm.isFinal { f with handling } rest, result with
    | .normal, .ok flow => return flow
    | .normal, .error r => Proc.throw r
    | flow, _ => return flow
  | .define suspending id params returns =>
    (Stmt.define first.start suspending id params returns first.body).exec I f
  | _ => return .normal

/-- The body does what its statements do. -/
def Runs (I : Interp) (l : Limb) : Prop := ∀ f, execAll I f l.body = l.run f

theorem next_eq {σ : Type} {s : σ} (flow : Flow) :
    (match flow with
      | .normal | .again => pure (.inl s)
      | .leave => pure (.inr (some .normal))
      | .give v => pure (.inr (some (.give v))) : Proc (σ ⊕ Option Flow)) = pure (next s flow) := by
  cases flow <;> rfl

variable {I : Interp} {f : Frame} {first : Limb} {limbs : List Limb} {s : Stmt}

theorem optional_only {isHead : Head → Bool} (h : ∀ l ∈ limbs, l.Runs I)
    (hrest : (Arm.optional isHead (limbs.map arm)).2 = []) :
    execAll I f (Arm.optional isHead (limbs.map arm)).1 = only isHead f limbs := by
  cases limbs with
  | nil => rfl
  | cons l limbs =>
    simp only [List.map_cons, Arm.optional, arm] at hrest ⊢
    split at hrest
    · rename_i hh
      simp only [hh, ↓reduceIte, only, List.find?_cons]
      exact h l List.mem_cons_self f
    · simp at hrest

theorem alternatives_otherwise {no : List Stmt} (h : ∀ l ∈ limbs, l.Runs I)
    (hno : Arm.alternatives? (limbs.map arm) = some no) :
    execAll I f no = otherwise I f limbs := by
  induction limbs generalizing no with
  | nil =>
    obtain rfl := Option.some.inj hno
    rfl
  | cons l limbs ih =>
    have hl := h l List.mem_cons_self f
    have htail : ∀ k ∈ limbs, k.Runs I := fun k hk => h k (List.mem_cons_of_mem _ hk)
    obtain ⟨start, head, body, run⟩ := l
    cases head with
    | otherBranch test =>
      obtain ⟨other, hother, rfl⟩ := Option.map_eq_some_iff.1 hno
      rw [execAll_singleton]
      simp only [Stmt.exec, otherwise, ih htail hother]
      exact bind_congr fun v => bind_congr fun heap => by rw [hl]
    | orelse =>
      simp only [List.map_cons, arm, Arm.alternatives?] at hno
      split at hno
      · obtain rfl := Option.some.inj hno
        exact hl
      · simp at hno
    | _ => simp [Arm.alternatives?, arm] at hno

theorem extent_row (start : Span) (blocks : List (List Stmt)) :
    (Parse.extent start blocks).row = start.row := by
  unfold Parse.extent
  split <;> rfl

theorem handlers_handle (h : ∀ l ∈ limbs, l.Runs I) (f : Frame) (r : Ref) :
    execHandlers I f r (Arm.handlers (limbs.map arm)).1 = handle I f r limbs := by
  induction limbs with
  | nil => rfl
  | cons l limbs ih =>
    have hl := h l List.mem_cons_self
    have tail := ih fun k hk => h k (List.mem_cons_of_mem _ hk)
    obtain ⟨start, head, body, run⟩ := l
    have hbody (g : Frame) : execAll I g body = run g := hl g
    cases head with
    | handler type id =>
      simp only [List.map_cons, arm, Arm.handlers, execHandlers, handle, hbody, extent_row]
      rw [tail] <;> rfl
    | _ => rfl

/-- The handlers come first among the limbs; a limb of another kind is found among those after
them. -/
theorem handlers_after (limbs : List Limb) :
    ∃ after, (Arm.handlers (limbs.map arm)).2 = after.map arm ∧ (∀ l ∈ after, l ∈ limbs) ∧
      ∀ isHead : Head → Bool, (∀ type id, isHead (.handler type id) = false) →
        ∀ f, only isHead f limbs = only isHead f after := by
  induction limbs with
  | nil => exact ⟨[], rfl, fun _ h => h, fun _ _ _ => rfl⟩
  | cons l limbs ih =>
    obtain ⟨after, hafter, hmem, honly⟩ := ih
    obtain ⟨start, head, body, run⟩ := l
    cases head with
    | handler type id =>
      refine ⟨after, hafter, fun k hk => List.mem_cons_of_mem _ (hmem k hk), ?_⟩
      intro isHead hnot f
      rw [← honly isHead hnot f]
      simp [only, hnot]
    | _ => exact ⟨_, rfl, fun _ h => h, fun _ _ _ => rfl⟩

theorem only_cons_of_not {isHead : Head → Bool} {l : Limb} (h : isHead l.head = false) :
    only isHead f (l :: limbs) = only isHead f limbs := by
  simp [only, h]

/-- A last limb alone is no other limb. -/
theorem only_orelse_of_final (h : (Arm.optional Arm.isFinal (limbs.map arm)).2 = []) :
    only Arm.isOrelse f limbs = return .normal := by
  cases limbs with
  | nil => rfl
  | cons l limbs =>
    obtain ⟨start, head, body, run⟩ := l
    cases head with
    | final =>
      obtain rfl := List.map_eq_nil_iff.1 h
      rfl
    | _ => simp [Arm.optional, Arm.isFinal, arm] at h

/-- What is done otherwise and what is done in the end, after the handlers. -/
theorem optional_clauses (h : ∀ l ∈ limbs, l.Runs I)
    (hrest : (Arm.optional Arm.isFinal (Arm.optional Arm.isOrelse (limbs.map arm)).2).2 = []) :
    (∀ f, execAll I f (Arm.optional Arm.isOrelse (limbs.map arm)).1 = only Arm.isOrelse f limbs) ∧
      ∀ f, execAll I f (Arm.optional Arm.isFinal (Arm.optional Arm.isOrelse (limbs.map arm)).2).1 =
        only Arm.isFinal f limbs := by
  cases limbs with
  | nil => exact ⟨fun _ => rfl, fun _ => rfl⟩
  | cons l limbs =>
    have htail : ∀ k ∈ limbs, k.Runs I := fun k hk => h k (List.mem_cons_of_mem _ hk)
    by_cases ho : Arm.isOrelse l.head
    · have hf : Arm.isFinal l.head = false := by
        cases hl : l.head <;> simp [hl, Arm.isOrelse, Arm.isFinal] at ho ⊢
      simp only [List.map_cons, Arm.optional, arm, ho, ↓reduceIte] at hrest ⊢
      refine ⟨fun f => ?_, fun f => ?_⟩
      · simpa [only, ho] using h l List.mem_cons_self f
      · rw [only_cons_of_not hf]
        exact optional_only htail hrest
    · simp only [Bool.not_eq_true] at ho
      have hsame : Arm.optional Arm.isOrelse ((l :: limbs).map arm) =
          ([], (l :: limbs).map arm) := by
        simp [Arm.optional, arm, ho]
      rw [hsame] at hrest ⊢
      exact ⟨fun f => (only_orelse_of_final hrest).symm, fun f => optional_only h hrest⟩

/-- A compound statement does what its heads and bodies do. -/
theorem exec_compound (hfirst : first.Runs I) (h : ∀ l ∈ limbs, l.Runs I)
    (hs : Arm.compound? first.arm (limbs.map arm) = some s) :
    s.exec I f = exec I f first limbs := by
  obtain ⟨start, head, body, run⟩ := first
  have hbody (g : Frame) : execAll I g body = run g := hfirst g
  cases head with
  | branch test =>
    obtain ⟨no, hno, rfl⟩ := Option.map_eq_some_iff.1 hs
    simp only [Stmt.exec, exec, arm, hbody, alternatives_otherwise h hno]
  | loop test =>
    simp only [Arm.compound?, arm] at hs
    split at hs
    · rename_i hrest
      obtain rfl := Option.some.inj hs
      have hor := optional_only (f := f) h (List.isEmpty_iff.1 hrest)
      simp only [Stmt.exec, exec, hbody, hor]
      refine congrArg (fun step => Proc.iterate step I.limit () >>= _) ?_
      refine funext fun _ => bind_congr fun v => bind_congr fun heap => ?_
      split
      · exact bind_congr next_eq
      · rfl
    · simp at hs
  | each target source =>
    simp only [Arm.compound?, arm] at hs
    split at hs
    · rename_i hrest
      obtain rfl := Option.some.inj hs
      have hor := optional_only (f := f) h (List.isEmpty_iff.1 hrest)
      simp only [Stmt.exec, exec, hbody, hor, extent_row]
      refine bind_congr fun v => bind_congr fun cursor => ?_
      refine congrArg (fun step => Proc.iterate step I.limit cursor >>= _) ?_
      refine funext fun cursor => bind_congr fun item => ?_
      cases item with
      | none => rfl
      | some item => exact bind_congr fun _ => bind_congr next_eq
    · simp at hs
  | define suspending id params returns =>
    simp only [Arm.compound?, arm] at hs
    split at hs
    · obtain rfl := Option.some.inj hs
      simp only [Stmt.exec, exec]
    · simp at hs
  | attempt =>
    obtain ⟨after, hafter, hmem, honly⟩ := handlers_after limbs
    have hhandle := handlers_handle h
    have hruns : ∀ l ∈ after, l.Runs I := fun l hl => h l (hmem l hl)
    rcases hcaught : Arm.handlers (limbs.map arm) with ⟨caught, rest⟩
    rw [hcaught] at hafter hhandle
    simp only at hafter hhandle
    subst hafter
    have attempt {orelse final : List Stmt} (span : Span)
        (hor : ∀ f, execAll I f orelse = only Arm.isOrelse f after)
        (hfinal : ∀ f, execAll I f final = only Arm.isFinal f after) :
        (Stmt.attempt span body caught orelse final).exec I f =
          exec I f ⟨start, .attempt, body, run⟩ limbs := by
      simp only [Stmt.exec, exec, hbody, hhandle, hor, hfinal, honly Arm.isOrelse fun _ _ => rfl,
        honly Arm.isFinal fun _ _ => rfl] <;> rfl
    simp only [Arm.compound?, arm, hcaught] at hs
    split at hs
    · simp only [Option.ite_none_left_eq_some, not_or, Bool.not_eq_false,
        List.isEmpty_iff, Option.some.injEq, Bool.not_eq_eq_eq_not, Bool.not_true] at hs
      obtain ⟨⟨hrest, -⟩, rfl⟩ := hs
      exact attempt _ (fun f => (only_orelse_of_final hrest).symm)
        fun f => optional_only hruns hrest
    · simp only [Option.ite_none_left_eq_some, not_or, Bool.not_eq_false,
        List.isEmpty_iff, Option.some.injEq, Bool.not_eq_eq_eq_not, Bool.not_true] at hs
      obtain ⟨⟨hrest, -⟩, rfl⟩ := hs
      obtain ⟨hor, hfinal⟩ := optional_clauses hruns hrest
      exact attempt _ hor hfinal
  | _ => simp [Arm.compound?, arm] at hs

end Limb

/-! ## Evaluation -/

namespace Tree

/-- A literal text is evaluated: one call of `write` with the text. -/
def write (I : Interp) (f : Frame) (rows : Nat) (t : Text) : Proc Flow := do
  let v ← f.locate (1 + rows) (f.lookup "write")
  let _ ← f.locate (1 + rows) (I.call f.caller v [.str t] [])
  return .normal

/-- The statements of a section of simple statements. -/
def sectionStatements (depth rows : Nat) (code : Text) : List Stmt :=
  match clause? depth rows code with
  | some (.simple stmts) => stmts
  | _ => []

/-- The limb of a section with its body. -/
def limb (depth rows : Nat) (code : Text) (body : Option (List Stmt)) (run : Frame → Proc Flow) :
    Limb :=
  match clause? depth rows code with
  | some (.opened start head _) => ⟨start, head, body.getD [], run⟩
  | _ => ⟨⟨1 + rows, 0, 1 + rows, 0⟩, .final, body.getD [], run⟩

end Tree

mutual

/-- A tree is evaluated. -/
def Tree.run (I : Interp) (depth rows : Nat) : Tree → Frame → Proc Flow
  | .literal t, f => Tree.write I f rows t
  | .simple t code rest, f => do
    let next := rows + t.lineFeeds + 1
    let _ ← Tree.write I f rows t
    match ← execAll I f (Tree.sectionStatements depth next code) with
    | .normal => rest.run I depth (next + 1) f
    | flow => return flow
  | .block t head body clauses rest, f => do
    let next := rows + t.lineFeeds + 1
    let after := next + 1 + body.height
    let first := Tree.limb depth next head (body.statements? (depth + 1) (next + 1))
      (body.run I (depth + 1) (next + 1))
    let _ ← Tree.write I f rows t
    match ← first.exec I f (clauses.limbs I depth after) with
    | .normal => rest.run I depth (after + clauses.height) f
    | flow => return flow

/-- The limbs of clauses. -/
def Clauses.limbs (I : Interp) (depth rows : Nat) : Clauses → List Limb
  | .done => []
  | .clause head body rest =>
    Tree.limb depth rows head (body.statements? (depth + 1) (rows + 1))
      (body.run I (depth + 1) (rows + 1)) :: rest.limbs I depth (rows + 1 + body.height)

end

namespace Tree

variable {I : Interp} {f : Frame} {depth rows : Nat} {t code : Text}

/-- The statement of a literal text does nothing but write it. -/
theorem exec_writes : (writes depth rows t).exec I f = write I f rows t := by
  simp only [writes, Parse.written, Stmt.exec, Expr.eval, evalAll, evalNamed, Expr.callRow, write,
    Const.value, pure_bind, bind_assoc]
  rfl

theorem execAll_writes (stmts : List Stmt) : execAll I f (writes depth rows t :: stmts) = (do
    let _ ← write I f rows t
    execAll I f stmts) := by
  simp only [execAll, exec_writes, write, bind_assoc, pure_bind]

end Tree

mutual

/-- The statements of a tree do what the tree does. -/
theorem Tree.execAll_statements {I : Interp} {depth rows : Nat} {stmts : List Stmt} :
    (tree : Tree) → tree.statements? depth rows = some stmts →
    ∀ f, execAll I f stmts = tree.run I depth rows f
  | .literal t, h, f => by
    obtain rfl := Option.some.inj h
    rw [execAll_singleton, Tree.exec_writes, Tree.run]
  | .simple t code rest, h, f => by
    simp only [Tree.statements?] at h
    split at h
    · rename_i inside others hc hr
      obtain rfl := Option.some.inj h
      have tail := Tree.execAll_statements (I := I) rest hr f
      simp only [Tree.execAll_writes, execAll_append, Tree.run, Tree.sectionStatements, hc, tail] <;>
        rfl
    · simp at h
  | .block t head body clauses rest, h, f => by
    simp only [Tree.statements?] at h
    split at h
    · rename_i start opened inside arms others hc hb ha hr
      obtain ⟨s, hs, rfl⟩ := Option.map_eq_some_iff.1 h
      have tail := Tree.execAll_statements (I := I) rest hr f
      obtain ⟨rfl, hlimbs⟩ := Clauses.limbs_arms (I := I) clauses ha
      have first : (Limb.mk start opened inside (body.run I (depth + 1) _)).Runs I :=
        Tree.execAll_statements body hb
      have whole := Limb.exec_compound (f := f) first hlimbs hs
      rw [Tree.execAll_writes]
      simp only [execAll, whole, Tree.run, Tree.limb, hc, hb, tail, Option.getD_some] <;> rfl
    · simp at h

/-- The limbs of clauses are their arms, whose statements do what the bodies do. -/
theorem Clauses.limbs_arms {I : Interp} {depth rows : Nat} {arms : List Arm} :
    (clauses : Clauses) → clauses.arms? depth rows = some arms →
    (clauses.limbs I depth rows).map Limb.arm = arms ∧
      ∀ l ∈ clauses.limbs I depth rows, l.Runs I
  | .done, h => by
    obtain rfl := Option.some.inj h
    exact ⟨rfl, fun l hl => by simp [Clauses.limbs] at hl⟩
  | .clause head body rest, h => by
    simp only [Clauses.arms?] at h
    split at h
    · rename_i start opened inside arms' hc hb ha
      split at h
      · obtain rfl := Option.some.inj h
        obtain ⟨rfl, hlimbs⟩ := Clauses.limbs_arms (I := I) rest ha
        simp only [Clauses.limbs, Tree.limb, hc, hb, Option.getD_some, List.map_cons]
        refine ⟨rfl, fun l hl => ?_⟩
        rcases List.mem_cons.1 hl with rfl | hl
        · exact Tree.execAll_statements body hb
        · exact hlimbs l hl
      · simp at h
    · simp at h

end

end Stencil
