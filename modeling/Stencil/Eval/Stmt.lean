import Stencil.Eval.Expr

/-!
# Executing statements

A statement is executed in a frame by recursion on its syntax, and tells how the statements after
it go on. Exceptions travel outside this: a process ends with them.

## Main definitions

* `Flow` — how execution goes on after a statement.
* `Stmt.exec`, `execAll` — a statement and a list of them are executed.
* `Eval.throwValue`, `Eval.catches` — what is raised, and which exceptions a handler takes.
-/

namespace Stencil

open Script

/-- How execution goes on after a statement. -/
inductive Flow where
  | normal
  /-- The loop around is left. -/
  | leave
  /-- The loop around begins its next round. -/
  | again
  /-- The function around ends with a value. -/
  | give (v : Value)
  deriving Inhabited

namespace Eval

/-- Raises what a value stands for. -/
def throwValue {α : Type} (v : Value) : Proc α :=
  match v with
  | .exception r => Proc.throw r
  | .exceptionClass c => do
    match ← instantiate c [] [] with
    | .exception r => Proc.throw r
    | _ => Proc.error .typeError "exceptions must derive from BaseException"
  | _ => Proc.error .typeError "exceptions must derive from BaseException"

/-- Raises the exception that is being handled again. -/
def rethrow {α : Type} (f : Frame) (row : Nat) : Proc α :=
  match f.handling with
  | some r => Proc.throw r
  | none => f.locate row (Proc.error .runtimeError "No active exception to reraise")

/-- The classes of exceptions that a value names. -/
def classes? : Value → Option (List ExceptionClass)
  | .exceptionClass c => some [c]
  | .tuple _ vs => vs.mapM fun v => match v with
    | .exceptionClass c => some c
    | _ => none
  | _ => none

/-- A handler for what a value names takes an exception. -/
def catches (r : Ref) (v : Value) : Proc Bool := do
  match classes? v, (← Proc.heap).thrown? r with
  | some cs, some e => return cs.any e.type.isA
  | some _, none => return false
  | none, _ =>
    Proc.error .typeError "catching classes that do not inherit from BaseException is not allowed"

end Eval

namespace Script

mutual

/-- A statement is executed. -/
def Stmt.exec (I : Interp) (f : Frame) : Stmt → Proc Flow
  | .expr _ value => do
    let _ ← value.eval I f
    return .normal
  | .assign _ targets value => do
    let v ← value.eval I f
    targets.forM fun t => t.assign I f v
    return .normal
  | .annotate _ target ascription value => do
    match value with
    | some e => do
      let v ← e.eval I f
      target.assign I f v
    | none => target.inspect I f
    if f.scopes.isEmpty then
      let _ ← ascription.eval I f
    return .normal
  | .update s target op value => do
    match target with
    | .name t id => do
      let old ← f.locate t.row (f.lookup id)
      let v ← value.eval I f
      f.bind id (← f.locate s.row (Eval.update op old v))
    | .index t base key => do
      let b ← base.eval I f
      let k ← key.eval I f
      let old ← f.locate t.row (Eval.index b k)
      let v ← value.eval I f
      let new ← f.locate s.row (Eval.update op old v)
      f.locate t.row (Eval.setIndex b k new)
    | .attr _ base id nameRow => do
      let b ← base.eval I f
      let old ← f.locate nameRow (Eval.attr b id)
      let v ← value.eval I f
      let new ← f.locate s.row (Eval.update op old v)
      f.locate nameRow (Eval.setAttr b id new)
    | .items .. => pure ()
    return .normal
  | .branch _ test yes no => do
    let v ← test.eval I f
    if v.truth (← Proc.heap) then execAll I f yes else execAll I f no
  | .each s target source body orelse => do
    let v ← source.eval I f
    let cursor ← f.locate s.row (Eval.start v)
    let left ← Proc.iterate (fun cursor => do
      match ← f.locate s.row (Eval.advance cursor) with
      | none => return .inr none
      | some (v, cursor) =>
        target.assign I f v
        match ← execAll I f body with
        | .normal | .again => return .inl cursor
        | .leave => return .inr (some .normal)
        | .give v => return .inr (some (.give v))) I.limit cursor
    match left with
    | some flow => return flow
    | none => execAll I f orelse
  | .loop _ test body orelse => do
    let left ← Proc.iterate (fun () => do
      let v ← test.eval I f
      if v.truth (← Proc.heap) then
        match ← execAll I f body with
        | .normal | .again => return .inl ()
        | .leave => return .inr (some .normal)
        | .give v => return .inr (some (.give v))
      else return .inr none) I.limit ()
    match left with
    | some flow => return flow
    | none => execAll I f orelse
  | .attempt _ body handlers orelse final => do
    let result ← Proc.attempt do
      match ← (execAll I f body).attempt with
      | .ok .normal => execAll I f orelse
      | .ok flow => return flow
      | .error r => execHandlers I f r handlers
    let handling := match result with
      | .ok _ => f.handling
      | .error r => some r
    match ← execAll I { f with handling } final, result with
    | .normal, .ok flow => return flow
    | .normal, .error r => Proc.throw r
    | flow, _ => return flow
  | .raise s exception => do
    match exception with
    | some e =>
      let v ← e.eval I f
      f.locate s.row (Eval.throwValue v)
    | none => Eval.rethrow f s.row
  | .give _ value => do
    match value with
    | some e => return .give (← e.eval I f)
    | none => return .give .none
  | .define _ suspending id params returns body => do
    let defaults ← evalDefaults I f params.all
    evalAnnotations I f params.ascribed
    let _ ← evalBound I f returns
    let closure : Closure := {
      id
      qualified := f.qualify id
      mode := if suspending then .suspending else .blocking
      params
      defaults
      body
      scopes := f.scopes
      globals := f.globals
      file := f.file
      lines := f.lines }
    f.bind id (.function (← Proc.alloc (.function closure)))
    return .normal
  | .pass _ => return .normal
  | .leave _ => return .leave
  | .again _ => return .again
where
  /-- The defaults of parameters. -/
  evalDefaults (I : Interp) (f : Frame) : List Param → Proc Defaults
    | [] => return []
    | q :: rest => do
      match q.default with
      | some e => do
        let v ← e.eval I f
        return (q.id, v) :: (← evalDefaults I f rest)
      | none => evalDefaults I f rest
  /-- The annotations of parameters, for what evaluating them does. -/
  evalAnnotations (I : Interp) (f : Frame) : List Param → Proc Unit
    | [] => return ()
    | q :: rest => do
      if let some e := q.ascription then
        let _ ← e.eval I f
      evalAnnotations I f rest

/-- Statements are executed one after another as long as the flow is normal. -/
def execAll (I : Interp) (f : Frame) : List Stmt → Proc Flow
  | [] => return .normal
  | s :: rest => do
    match ← s.exec I f with
    | .normal => execAll I f rest
    | flow => return flow

/-- The first handler that takes an exception is executed; the name that it gives to the exception
has no value afterwards. -/
def execHandlers (I : Interp) (f : Frame) (r : Ref) : List Handler → Proc Flow
  | [] => Proc.throw r
  | .mk s type id body :: rest => do
    let g := { f with handling := some r }
    let taken ← match type with
      | none => pure true
      | some e => do
        let v ← e.eval I g
        f.locate s.row (Eval.catches r v)
    if taken then
      match id with
      | none => execAll I g body
      | some id => do
        f.bind id (.exception r)
        (execAll I g body).andFinally (f.unbind id)
    else execHandlers I f r rest

end

end Script

end Stencil
