import Stencil.Proofs.Eval.Work
import Stencil.Proofs.Run.Passage

/-!
# How errors travel

An error travels from where it is raised to where it is taken, through one layer of the execution
after another: through the places at which it is located, out of functions and runs, and past clauses
that do not take it. A process goes on inside the layers of another one, and what becomes of an error
that it ends with is told by the layers alone.

## Main definitions

* `Script.guarded`, `Script.finishing` — the parts of a statement that handles exceptions.
* `Activation` — what counts as a call of code.
* `Layer`, `Layer.Passes`, `Layer.Takes` — a layer, an error that passes it, and one that does not.
* `Layer.Fits` — what goes on at a place is the work of a node.
* `Within` — a process goes on within another one, inside layers.

## Main results

* `Around.ends` — an error passes the layer around it, or the layer takes it.
-/

namespace Stencil

open Script

variable {α β : Type} {K : Code → Prop} {A : Replies} {m m' m₁ : Machine} {r : Ref}

/-! ## Handling exceptions -/

namespace Script

/-- Clauses that handle an exception: each with the test whether it takes the exception, and with
what it does then. -/
abbrev Guards := List (Proc Bool × Proc Flow)

/-- The first clause that takes an exception; without one, the exception is raised on. -/
def handledBy (r : Ref) : Guards → Proc Flow
  | [] => Proc.throw r
  | (test, body) :: rest => do if ← test then body else handledBy r rest

/-- A body whose exceptions are handled by clauses, and what is done after it if it has none. -/
def guarded (clauses : Ref → Guards) (orelse body : Proc Flow) : Proc Flow := do
  match ← body.attempt with
  | .ok .normal => orelse
  | .ok flow => return flow
  | .error r => handledBy r (clauses r)

/-- A process followed by a clause that is executed however it ends. It is given the exception that
the process ended with, and if it goes on normally so does what was before it. -/
def finishing (clause : Option Ref → Proc Flow) (p : Proc Flow) : Proc Flow := do
  let result ← p.attempt
  match ← clause (Outcome.ofResult result).raised?, result with
  | .normal, .ok flow => return flow
  | .normal, .error r => Proc.throw r
  | flow, _ => return flow

/-- A body goes well and what is done after it goes on, or the body has its own end, or its exception
is handled. -/
theorem goes_guarded {clauses : Ref → Guards} {orelse body : Proc Flow} {o : Outcome Flow} :
    (guarded clauses orelse body).Goes A m o m' ↔
      (∃ m₁, body.Goes A m (.value .normal) m₁ ∧ orelse.Goes A m₁ o m') ∨
      (∃ r m₁, body.Goes A m (.raised r) m₁ ∧ (handledBy r (clauses r)).Goes A m₁ o m') ∨
      (body.Goes A m o m' ∧ o ≠ .value .normal ∧ ∀ r, o ≠ .raised r) := by
  rw [guarded, Proc.goes_bind]
  constructor
  · rintro (⟨result, m₁, h₁, h₂⟩ | ⟨r, h₁, rfl⟩ | ⟨h₁, rfl⟩)
    · obtain ⟨_, hb, he⟩ | ⟨-, he⟩ := Proc.goes_attempt.1 h₁
      · obtain rfl := Outcome.value.inj he
        match result with
        | .ok .normal => exact .inl ⟨m₁, hb, h₂⟩
        | .error r => exact .inr (.inl ⟨r, m₁, hb, h₂⟩)
        | .ok .leave | .ok .again | .ok (.give _) =>
          obtain ⟨rfl, rfl⟩ := Proc.goes_pure.1 h₂
          exact .inr (.inr ⟨hb, nofun, nofun⟩)
      · nomatch he
    · obtain ⟨_, -, he⟩ | ⟨-, he⟩ := Proc.goes_attempt.1 h₁ <;> nomatch he
    · obtain ⟨_, -, he⟩ | ⟨hb, -⟩ := Proc.goes_attempt.1 h₁
      · nomatch he
      · exact .inr (.inr ⟨hb, nofun, nofun⟩)
  · rintro (⟨m₁, h₁, h₂⟩ | ⟨r, m₁, h₁, h₂⟩ | ⟨h, hn, hr⟩)
    · exact .inl ⟨.ok .normal, m₁, Proc.goes_attempt.2 (.inl ⟨.ok .normal, h₁, rfl⟩), h₂⟩
    · exact .inl ⟨.error r, m₁, Proc.goes_attempt.2 (.inl ⟨.error r, h₁, rfl⟩), h₂⟩
    · cases o with
      | value flow =>
        refine .inl ⟨.ok flow, m', Proc.goes_attempt.2 (.inl ⟨.ok flow, h, rfl⟩), ?_⟩
        cases flow with
        | normal => exact absurd rfl hn
        | _ => exact Proc.goes_pure.2 ⟨rfl, rfl⟩
      | raised r => exact absurd rfl (hr r)
      | exhausted => exact .inr (.inr ⟨Proc.goes_attempt.2 (.inr ⟨h, rfl⟩), rfl⟩)

/-- What a process followed by a clause ends with: if the clause goes on normally, what the process
ended with before. -/
def afterClause : Outcome Flow → Outcome Flow → Outcome Flow
  | o, .value .normal => o
  | _, o => o

/-- A process goes to its end, and then the clause after it. -/
theorem goes_finishing {clause : Option Ref → Proc Flow} {p : Proc Flow} {o : Outcome Flow} :
    (finishing clause p).Goes A m o m' ↔
      (p.Goes A m .exhausted m' ∧ o = .exhausted) ∨
      ∃ o₁ m₁ o₂, o₁ ≠ .exhausted ∧ p.Goes A m o₁ m₁ ∧ (clause o₁.raised?).Goes A m₁ o₂ m' ∧
        o = afterClause o₁ o₂ := by
  rw [finishing, Proc.goes_bind]
  constructor
  · rintro (⟨result, m₁, h₁, h₂⟩ | ⟨r, h₁, rfl⟩ | ⟨h₁, rfl⟩)
    · obtain ⟨_, hp, he⟩ | ⟨-, he⟩ := Proc.goes_attempt.1 h₁
      · obtain rfl := Outcome.value.inj he
        refine .inr ⟨.ofResult result, m₁, ?_⟩
        obtain ⟨flow, m₂, hc, h⟩ | ⟨r, hc, rfl⟩ | ⟨hc, rfl⟩ := Proc.goes_bind.1 h₂
        · refine ⟨.value flow, by cases result <;> nofun, hp, ?_⟩
          cases flow <;> cases result <;> obtain ⟨rfl, rfl⟩ := (Proc.goes_of_done rfl).1 h <;>
            exact ⟨hc, rfl⟩
        · exact ⟨.raised r, by cases result <;> nofun, hp, hc, rfl⟩
        · exact ⟨.exhausted, by cases result <;> nofun, hp, hc, rfl⟩
      · nomatch he
    · obtain ⟨_, -, he⟩ | ⟨-, he⟩ := Proc.goes_attempt.1 h₁ <;> nomatch he
    · obtain ⟨_, -, he⟩ | ⟨hp, -⟩ := Proc.goes_attempt.1 h₁
      · nomatch he
      · exact .inl ⟨hp, rfl⟩
  · rintro (⟨h, rfl⟩ | ⟨o₁, m₁, o₂, hn, h₁, h₂, rfl⟩)
    · exact .inr (.inr ⟨Proc.goes_attempt.2 (.inr ⟨h, rfl⟩), rfl⟩)
    · obtain rfl | ⟨result, rfl⟩ := o₁.eq_ofResult
      · exact absurd rfl hn
      · refine .inl ⟨result, m₁, Proc.goes_attempt.2 (.inl ⟨_, h₁, rfl⟩), Proc.goes_bind.2 ?_⟩
        cases o₂ with
        | value flow =>
          refine .inl ⟨flow, m', h₂, ?_⟩
          cases flow <;> cases result <;> exact (Proc.goes_of_done rfl).2 ⟨rfl, rfl⟩
        | raised r => exact .inr (.inl ⟨r, h₂, rfl⟩)
        | exhausted => exact .inr (.inr ⟨h₂, rfl⟩)

/-- A handler as a clause. -/
def clauseOf (I : Interp) (f : Frame) (r : Ref) : Handler → Proc Bool × Proc Flow
  | .mk s type id body =>
    let g := { f with handling := some r }
    (match type with
      | none => return true
      | some e => do
        let v ← e.eval I g
        f.locate s.row (Eval.catches r v),
    match id with
      | none => execAll I g body
      | some id => do
        f.bind id (.exception r)
        (execAll I g body).andFinally (f.unbind id))

theorem execHandlers_eq (I : Interp) (f : Frame) (r : Ref) (handlers : List Handler) :
    execHandlers I f r handlers = handledBy r (handlers.map (clauseOf I f r)) := by
  induction handlers with
  | nil => rw [execHandlers, List.map_nil, handledBy]
  | cons h rest ih =>
    obtain ⟨s, type, id, body⟩ := h
    simp only [execHandlers, List.map_cons, clauseOf, handledBy, ih]
    cases type <;> cases id <;> simp only [bind_assoc, pure_bind]

/-- A statement that handles exceptions. -/
theorem exec_attempt (I : Interp) (f : Frame) (s : Span) (body : List Stmt)
    (handlers : List Handler) (orelse final : List Stmt) :
    (Stmt.attempt s body handlers orelse final).exec I f =
      finishing (fun handled => execAll I { f with handling := handled.or f.handling } final)
        (guarded (fun r => handlers.map (clauseOf I f r)) (execAll I f orelse)
          (execAll I f body)) := by
  simp only [Stmt.exec, finishing, guarded, execHandlers_eq]
  refine congrArg (_ >>= ·) (funext fun result => ?_)
  cases result <;> rfl

end Script

namespace Procedure

/-- The head of a procedure is executed in a frame: the function is defined, and what follows it is
executed. -/
def defineIn (I : Interp) (o : Outline) (mode : Mode) (lines : LineMap) (f : Frame) :
    Proc Value := do
  let _ ← (Stmt.define o.span (mode = .suspending) id o.params o.returns o.body).exec I f
  match (← Proc.heap).namesOfModule f.globals |>.get? id with
  | some (.function r) =>
    if let some (.function c) := (← Proc.heap).get? r then
      Proc.put r (.function { c with lines })
  | _ => pure ()
  let _ ← execAll I f o.rest
  return ((← Proc.heap).namesOfModule f.globals |>.get? id).getD .none

end Procedure

/-! ## Layers -/

/-- What counts as a call of code: the body of a function, a comprehension, a module, and the head of
a procedure. -/
inductive Activation : Code → {α : Type} → Proc α → Prop
  | function {c : Code} {f : Closure} (I : Interp) (caller : Caller) (scope : Ref)
      (h : c.Holds f.file f.lines f.body) : Activation c (f.run I caller scope)
  | comprehension {c : Code} {g : Frame} {s : Span} {item : Expr} {target : Target} {source : Expr}
      {conditions : List Expr} (I : Interp) (cursor : Stencil.Cursor) (file : g.file = c.file)
      (lines : g.lines = c.lines)
      (spot : .expr (.comprehension s item target source conditions) ∈ c.spots) :
      Activation c (comprehend I g s item target conditions cursor)
  | module_ {c : Code} {f : Frame} {stmts : List Stmt} (I : Interp) (scopes : f.scopes = [])
      (h : c.Holds f.file f.lines stmts) : Activation c (execAll I f stmts)
  | head {c : Code} {f : Frame} {o : Procedure.Outline} {mode : Mode} {lines : LineMap} (I : Interp)
      (scopes : f.scopes = []) (file : f.file = c.file) (own : f.lines = c.lines) :
      Activation c (Procedure.defineIn I o mode lines f)

/-- A layer around a process, through which its errors pass. -/
inductive Layer where
  /-- A spot in code at which errors are located. -/
  | place (c : Code) (spot : Spot)
  /-- A call of code. -/
  | enter (c : Code)
  /-- A coroutine, out of which the end of an iteration does not get as such. -/
  | guard
  /-- A run of a template. -/
  | run (run : Ref)
  /-- A module that is being loaded. -/
  | forget (key : Text)
  /-- A name that stands for an exception while it is handled. -/
  | unbind (own : Ref) (id : Text)
  /-- Clauses that handle exceptions. -/
  | except (clauses : Ref → Guards)
  /-- A clause that is executed in any case. -/
  | final (clause : Option Ref → Proc Flow)

/-- A layer that does not do more than to pass errors on. -/
def Layer.IsPlain : Layer → Prop
  | place .. | guard | forget _ | unbind .. => True
  | _ => False

/-- What goes on at a place is the work of the node there. -/
def Layer.Fits : Layer → Proc α → Prop
  | place _ spot, p => spot.Does p
  | _, _ => True

/-- No clause takes an exception. -/
def Declined (A : Replies) : Guards → Machine → Machine → Prop
  | [], m, m' => m' = m
  | (test, _) :: rest, m, m' => ∃ m₁, test.Goes A m (.value false) m₁ ∧ Declined A rest m₁ m'

theorem Declined.append {before after : Guards} (h : Declined A before m m₁)
    (h' : Declined A after m₁ m') : Declined A (before ++ after) m m' := by
  induction before generalizing m with
  | nil => exact (show m₁ = m from h) ▸ h'
  | cons clause before ih =>
    obtain ⟨m₂, ht, h⟩ := h
    exact ⟨m₂, ht, ih h⟩

namespace Layer

/-- The exception that takes the place of the end of an iteration. -/
def notIteration : Thrown := .plain .runtimeError [.str "coroutine raised StopIteration"]

/-- What a layer does with an error, unless it is one that executes clauses. -/
def rescue : Layer → Ref → Proc α
  | place c spot, r => do
    Proc.modify fun m => { m with heap := m.heap.locate r c.file (c.lineAt spot.row) }
    Proc.throw r
  | guard, r => do
    match (← Proc.heap).thrown? r with
    | some e =>
      if e.type.isA .stopIteration then
        Proc.error .runtimeError "coroutine raised StopIteration"
      else Proc.throw r
    | none => Proc.throw r
  | run ref, r => do
    if ((← Proc.heap).thrown? r).any fun e => e.type.isA .exception then
      Run.advance ref .failed
    Proc.throw r
  | forget key, r => do
    Module.forget key
    Proc.throw r
  | _, r => Proc.throw r

/-- An error passes a layer: a place is put in front of its traceback, a coroutine turns the end of an
iteration into another error, a run fails, a module is forgotten, a name loses its value. It passes
clauses none of which takes it, and a clause after which things go on normally. -/
def Passes (K : Code → Prop) (A : Replies) : Layer → Ref → Machine → Ref → Machine → Prop
  | place c spot, r, m, r', m' => r' = r ∧ m' = m.located r c spot
  | enter _, r, m, r', m' => r' = r ∧ m' = m
  | guard, r, m, r', m' =>
    if m.isA r .stopIteration then r' = m.next ∧ m' = m.threw notIteration else r' = r ∧ m' = m
  | run ref, r, m, r', m' => r' = r ∧ m' = if m.isA r .exception then m.advanced ref .failed else m
  | forget key, r, m, r', m' => r' = r ∧ m' = m.forgotten key
  | unbind own id, r, m, r', m' => r' = r ∧ m' = m.unbound own id
  | except clauses, r, m, r', m' => r' = r ∧ Declined A (clauses r) m m' ∧ m.Grown K m'
  | final clause, r, m, r', m' =>
    r' = r ∧ (clause (some r)).Goes A m (.value .normal) m' ∧ m.Grown K m'

/-- A layer takes an error: a clause takes it, and what the clause does goes on, or the test of a
clause does not come to an answer; or the clause that is executed in any case does not go on
normally. What takes the error goes on to an outcome and a machine. -/
inductive Takes (A : Replies) : Layer → Ref → Machine → Proc Flow → Outcome Flow → Machine → Prop
  | caught {clauses : Ref → Guards} {before after : Guards} {test : Proc Bool} {body : Proc Flow}
      {r : Ref} {m m₁ m₂ m' : Machine} {o : Outcome Flow}
      (split : clauses r = before ++ (test, body) :: after) (declined : Declined A before m m₁)
      (taken : test.Goes A m₁ (.value true) m₂) (rest : body.Goes A m₂ o m') :
      Takes A (.except clauses) r m (handledBy r (clauses r)) o m'
  | replaced {clauses : Ref → Guards} {before after : Guards} {test : Proc Bool}
      {body : Proc Flow} {r r' : Ref} {m m₁ m' : Machine}
      (split : clauses r = before ++ (test, body) :: after) (declined : Declined A before m m₁)
      (ends : test.Goes A m₁ (.raised r') m') :
      Takes A (.except clauses) r m (handledBy r (clauses r)) (.raised r') m'
  | exhausted {clauses : Ref → Guards} {before after : Guards} {test : Proc Bool}
      {body : Proc Flow} {r : Ref} {m m₁ m' : Machine}
      (split : clauses r = before ++ (test, body) :: after) (declined : Declined A before m m₁)
      (ends : test.Goes A m₁ .exhausted m') :
      Takes A (.except clauses) r m (handledBy r (clauses r)) .exhausted m'
  | resumed {clause : Option Ref → Proc Flow} {r : Ref} {m m' : Machine} {o : Outcome Flow}
      (ends : (clause (some r)).Goes A m o m') (leaves : o ≠ .value .normal) :
      Takes A (.final clause) r m (clause (some r)) o m'

end Layer

/-- An error passes layers, the last of the list first. -/
def Passes (K : Code → Prop) (A : Replies) :
    List Layer → Ref → Machine → Ref → Machine → Prop
  | [], r, m, r', m' => r' = r ∧ m' = m
  | ℓ :: ls, r, m, r', m' => ∃ r₁ m₁, Passes K A ls r m r₁ m₁ ∧ ℓ.Passes K A r₁ m₁ r' m'

/-! ## What is around processes -/

/-- A process that ends at once. -/
def Proc.ofOutcome (o : Outcome α) : Proc α := fun m => .done o m

/-- What is around a process, and the layer that it makes. -/
inductive Around : Option Layer → {α β : Type} → (Proc β → Proc α) → Prop
  | bind {α β : Type} (f : β → Proc α) : Around none (· >>= f)
  | place {α : Type} (c : Code) (spot : Spot) :
      Around (some (.place c spot)) fun p : Proc α => p.handle (Layer.place c spot).rescue
  | guard : Around (some .guard) fun p : Proc Value => p.handle Layer.guard.rescue
  | forget (key : Text) :
      Around (some (.forget key)) fun p : Proc Unit => p.handle (Layer.forget key).rescue
  | unbind (own : Ref) (id : Text) : Around (some (.unbind own id)) fun p : Proc Flow =>
      p.andFinally (Proc.updateNames own fun ns => ns.erase id)
  | except (clauses : Ref → Guards) (orelse : Proc Flow) :
      Around (some (.except clauses)) (guarded clauses orelse)
  | final (clause : Option Ref → Proc Flow) : Around (some (.final clause)) (finishing clause)

/-- What is around a process goes on as the process ends. -/
theorem Around.eq_bind {ℓ : Option Layer} {C : Proc β → Proc α} (h : Around ℓ C) :
    ∃ k, ∀ p m, C p m = Step.bind k (p m) := by
  cases h with
  | bind f => exact ⟨_, fun p m => rfl⟩
  | place c spot => exact ⟨_, fun p m => rfl⟩
  | guard => exact ⟨_, fun p m => rfl⟩
  | forget key => exact ⟨_, fun p m => rfl⟩
  | unbind own id => exact ⟨_, fun p m => Step.bind_assoc _ _ (p m)⟩
  | except clauses orelse => exact ⟨_, fun p m => Step.bind_assoc _ _ (p m)⟩
  | final clause => exact ⟨_, fun p m => Step.bind_assoc _ _ (p m)⟩

/-- What goes on as a process ends first goes with the process to its end. -/
theorem goes_of_eq_bind {C : Proc β → Proc α} (h : ∃ k, ∀ p m, C p m = Step.bind k (p m))
    {p : Proc β} {o : Outcome α} : (C p).Goes A m o m' ↔
      ∃ o₁ m₁, p.Goes A m o₁ m₁ ∧ (C (Proc.ofOutcome o₁)).Goes A m₁ o m' := by
  obtain ⟨k, hk⟩ := h
  have rest (o₁ : Outcome β) (m₁ : Machine) : C (Proc.ofOutcome o₁) m₁ = k o₁ m₁ := hk _ m₁
  simp only [Proc.Goes, rest]
  rw [hk, Step.goes_bind]

namespace Run

/-- The end of a run: it fails with an error, and is completed without one. -/
def concluding (run : Ref) (p : Proc Unit) : Proc Unit := do
  p.handle (Layer.run run).rescue
  advance run .completed

theorem advance_eq (m : Machine) (run : Ref) (state : RunState) :
    advance run state m = .done (.value ()) (m.advanced run state) := by
  have hget : Run.get run m = .done (.value (m.runAt run)) m := by
    simp only [Run.get, Proc.bind_eq, Proc.heap, Step.bind, Machine.runAt]
    cases m.heap.get? run with
    | none => rfl
    | some o => cases o <;> rfl
  exact (Proc.bind_of_done hget).trans rfl

theorem create_eq_created (m : Machine) (path : Path) (d : Delimiters) :
    create path d m = .done (.value m.next) (m.created path d) := rfl

theorem goes_concluding {run : Ref} {p : Proc Unit} {o : Outcome Unit} :
    (concluding run p).Goes A m o m' ↔
      ∃ o₁ m₁, p.Goes A m o₁ m₁ ∧ (concluding run (Proc.ofOutcome o₁)).Goes A m₁ o m' :=
  goes_of_eq_bind ⟨_, fun p m => Step.bind_assoc _ _ (p m)⟩

end Run

namespace Layer

theorem goes_rescue_place {c : Code} {spot : Spot} {o : Outcome α} :
    ((place c spot).rescue r : Proc α).Goes A m o m' ↔
      o = .raised r ∧ m' = m.located r c spot := Proc.goes_of_done rfl

theorem goes_rescue_guard {o : Outcome α} (h : (guard.rescue r : Proc α).Goes A m o m') :
    ∃ r', o = .raised r' ∧ guard.Passes K A r m r' m' := by
  change Proc.Goes A (match m.heap.thrown? r with
    | some e =>
      if e.type.isA .stopIteration then
        Proc.error .runtimeError "coroutine raised StopIteration"
      else Proc.throw r
    | none => Proc.throw r) m o m' at h
  obtain he | ⟨e, he⟩ := (m.heap.thrown? r).eq_none_or_eq_some <;> rw [he] at h
  · obtain ⟨rfl, rfl⟩ := Proc.goes_throw.1 h
    exact ⟨r, rfl, by simp [Passes, Machine.isA, he]⟩
  · dsimp only at h
    split at h
    · next hs =>
      obtain ⟨rfl, rfl⟩ := Proc.goes_raise.1 h
      exact ⟨_, rfl, by simp [Passes, Machine.isA, he, hs, notIteration]⟩
    · next hs =>
      obtain ⟨rfl, rfl⟩ := Proc.goes_throw.1 h
      exact ⟨r, rfl, by simp [Passes, Machine.isA, he, hs]⟩

theorem goes_rescue_run {ref : Ref} {o : Outcome α} :
    ((run ref).rescue r : Proc α).Goes A m o m' ↔
      o = .raised r ∧ m' = if m.isA r .exception then m.advanced ref .failed else m := by
  refine Proc.goes_of_done ?_
  change (if m.isA r .exception then Run.advance ref .failed >>= fun _ => Proc.throw r
    else Proc.throw r : Proc α) m = _
  split
  · exact Proc.bind_of_done (Run.advance_eq m ref .failed)
  · rfl

theorem goes_rescue_forget {key : Text} {o : Outcome α} :
    ((forget key).rescue r : Proc α).Goes A m o m' ↔ o = .raised r ∧ m' = m.forgotten key :=
  Proc.goes_of_done rfl

end Layer

namespace Run

/-- What becomes of a run at its end. -/
theorem goes_concluding_ofOutcome {run : Ref} {o₁ o : Outcome Unit} :
    (concluding run (Proc.ofOutcome o₁)).Goes A m o m' ↔ o = o₁ ∧ m' = match o₁ with
      | .value () => m.advanced run .completed
      | .raised r => if m.isA r .exception then m.advanced run .failed else m
      | .exhausted => m := by
  cases o₁ with
  | value a => exact Proc.goes_of_done (advance_eq m run .completed)
  | exhausted => exact Proc.goes_of_done rfl
  | raised r =>
    refine ⟨fun h => ?_, fun ⟨ho, hm⟩ => ?_⟩
    · obtain ⟨_, _, h₁, -⟩ | ⟨r', h₁, rfl⟩ | ⟨h₁, -⟩ := Proc.goes_bind.1 h
      · nomatch (Layer.goes_rescue_run.1 h₁).1
      · exact Layer.goes_rescue_run.1 h₁
      · nomatch (Layer.goes_rescue_run.1 h₁).1
    · exact Proc.goes_bind.2 (.inr (.inl ⟨r, Layer.goes_rescue_run.2 ⟨rfl, hm⟩, ho⟩))

end Run

/-- No clause takes an exception, or one of them does, or a test does not come to an answer. -/
theorem Script.goes_handledBy {clauses : Ref → Guards} {before rest : Guards} {o : Outcome Flow}
    (hr : clauses r = before ++ rest) (hb : Declined A before m m₁)
    (h : (handledBy r rest).Goes A m₁ o m') :
    (o = .raised r ∧ Declined A (clauses r) m m') ∨
      (Layer.except clauses).Takes A r m (handledBy r (clauses r)) o m' := by
  induction rest generalizing before m₁ with
  | nil =>
    obtain ⟨rfl, rfl⟩ := Proc.goes_throw.1 h
    exact .inl ⟨rfl, by rwa [hr, List.append_nil]⟩
  | cons clause rest ih =>
    obtain ⟨test, body⟩ := clause
    obtain ⟨b, m₂, ht, h⟩ | ⟨r', ht, rfl⟩ | ⟨ht, rfl⟩ := Proc.goes_bind.1 h
    · cases b with
      | true => exact .inr (.caught hr hb ht h)
      | false =>
        have hd : Declined A [(test, body)] m₁ m₂ := ⟨m₂, ht, rfl⟩
        exact ih (by rw [hr, List.append_assoc, List.singleton_append]) (hb.append hd) h
    · exact .inr (.replaced hr hb ht)
    · exact .inr (.exhausted hr hb ht)

/-! ## Processes within others -/

/-- A process goes from a machine to another with an outcome, and within it another process does,
inside layers of which the first is the outermost one. -/
inductive Within (K : Code → Prop) (A : Replies) : List Layer → {α β : Type} →
    Proc α → Machine → Outcome α → Machine → Proc β → Machine → Outcome β → Machine → Prop
  /-- The process itself. -/
  | here {α : Type} {p : Proc α} {m m' : Machine} {o : Outcome α} (h : p.Goes A m o m')
      (grown : m.Grown K m') : Within K A [] p m o m' p m o m'
  /-- It stands within the one with which things begin. -/
  | inside {ℓ : Option Layer} {ls : List Layer} {α β γ : Type} {C : Proc β → Proc α} {p : Proc β}
      {q : Proc γ} {m m₁ m' n n' : Machine} {o : Outcome α} {o₁ : Outcome β} {o' : Outcome γ}
      (around : Around ℓ C) (fits : ℓ.elim True (·.Fits p)) (within : Within K A ls p m o₁ m₁ q n o' n')
      (rest : (C (Proc.ofOutcome o₁)).Goes A m₁ o m') (grown : m₁.Grown K m') :
      Within K A (ℓ.toList ++ ls) (C p) m o m' q n o' n'
  /-- It stands within the one that follows. -/
  | later {ls : List Layer} {α β γ : Type} {p : Proc β} {f : β → Proc α} {q : Proc γ} {a : β}
      {m m₁ m' n n' : Machine} {o : Outcome α} {o' : Outcome γ}
      (first : p.Goes A m (.value a) m₁) (grown : m.Grown K m₁)
      (within : Within K A ls (f a) m₁ o m' q n o' n') : Within K A ls (p >>= f) m o m' q n o' n'
  /-- It stands within a call. -/
  | enter {ls : List Layer} {c : Code} {α γ : Type} {p : Proc α} {q : Proc γ} {m m' n n' : Machine}
      {o : Outcome α} {o' : Outcome γ} (activation : Activation c p)
      (within : Within K A ls p m o m' q n o' n') :
      Within K A (.enter c :: ls) p m o m' q n o' n'
  /-- It stands within the last stage of a new run. -/
  | run {ls : List Layer} {β γ : Type} {path : Path} {d : Delimiters} {opening : Ref → Proc β}
      {inner : Ref → β → Proc Unit} {q : Proc γ} {a : β} {m m₁ m₂ m' n n' : Machine}
      {o o₁ : Outcome Unit} {o' : Outcome γ}
      (opens : Opens K A m.next (opening m.next) (m.created path d) 4 (.value a) m₁)
      (within : Within K A ls (inner m.next a) m₁ o₁ m₂ q n o' n')
      (rest : (Run.concluding m.next (Proc.ofOutcome o₁)).Goes A m₂ o m') :
      Within K A (.run m.next :: ls) (Run.create path d >>= fun run =>
        Run.concluding run (opening run >>= inner run)) m o m' q n o' n'
  /-- It is what a new run does up to its last stage. -/
  | opening {β : Type} {path : Path} {d : Delimiters} {opening : Ref → Proc β}
      {inner : Ref → β → Proc Unit} {k : Nat} {m m₁ m' : Machine} {o : Outcome Unit}
      {o₁ : Outcome β} {o₂ : Outcome Unit}
      (opens : Opens K A m.next (opening m.next) (m.created path d) k o₁ m₁)
      (stops : ∀ a, o₁ ≠ .value a) (ends : o₂.raised? = o₁.raised? ∧ ∀ a, o₂ ≠ .value a)
      (rest : (Run.concluding m.next (Proc.ofOutcome o₂)).Goes A m₁ o m') :
      Within K A [.run m.next] (Run.create path d >>= fun run =>
        Run.concluding run (opening run >>= inner run)) m o m' (opening m.next)
        (m.created path d) o₁ m₁

/-- An error that a process ends with inside one layer passes it, or the layer takes it. -/
theorem Around.ends {ℓ : Layer} {C : Proc β → Proc α} {p : Proc β} {n : Machine} {o : Outcome α}
    (h : Around (some ℓ) C) (hp : p.Goes A n (.raised r) m) (before : n.Grown K m)
    (hr : (C (Proc.ofOutcome (.raised r))).Goes A m o m') (grown : ¬ ℓ.IsPlain → m.Grown K m') :
    (∃ r', o = .raised r' ∧ ℓ.Passes K A r m r' m') ∨
      ∃ t o₂, ℓ.Takes A r m t o₂ m' ∧ Within K A [] (C p) n o m' t m o₂ m' := by
  have attempted : p.attempt.Goes A n (.value (.error r)) m :=
    Proc.goes_attempt.2 (.inl ⟨.error r, hp, rfl⟩)
  cases h with
  | place c spot =>
    obtain ⟨rfl, rfl⟩ := Layer.goes_rescue_place.1 hr
    exact .inl ⟨r, rfl, rfl, rfl⟩
  | guard =>
    obtain ⟨r', h⟩ := Layer.goes_rescue_guard hr
    exact .inl ⟨r', h⟩
  | forget key =>
    obtain ⟨rfl, rfl⟩ := Layer.goes_rescue_forget.1 hr
    exact .inl ⟨r, rfl, rfl, rfl⟩
  | unbind own id =>
    obtain ⟨rfl, rfl⟩ := (Proc.goes_of_done rfl).1 hr
    exact .inl ⟨r, rfl, rfl, rfl⟩
  | except clauses orelse =>
    have handled : (handledBy r (clauses r)).Goes A m o m' := hr
    have split : clauses r = [] ++ clauses r := rfl
    obtain ⟨rfl, hd⟩ | ht := goes_handledBy split rfl handled
    · exact .inl ⟨r, rfl, rfl, hd, grown id⟩
    · exact .inr ⟨_, o, ht, .later attempted before (.here handled (grown id))⟩
  | final clause =>
    obtain ⟨h, -⟩ | ⟨o₁, m₁, o₂, -, h, hc, rfl⟩ := goes_finishing.1 hr
    · cases ((Proc.goes_of_done rfl).1 h).1
    obtain ⟨rfl, rfl⟩ := (Proc.goes_of_done rfl).1 h
    by_cases normal : o₂ = .value .normal
    · subst normal
      exact .inl ⟨r, rfl, rfl, hc, grown id⟩
    · refine .inr ⟨_, o₂, .resumed hc normal, .later attempted before
        (.inside (.bind _) trivial (.here hc (grown id)) ?_ (.refl K m'))⟩
      cases o₂ with
      | value flow => cases flow <;> exact (Proc.goes_of_done rfl).2 ⟨rfl, rfl⟩
      | _ => exact (Proc.goes_of_done rfl).2 ⟨rfl, rfl⟩

end Stencil
