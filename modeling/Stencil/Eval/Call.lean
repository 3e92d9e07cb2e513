import Stencil.Eval.Arguments
import Stencil.Eval.Stmt

/-!
# Calls

What happens when a value is called. A function binds its arguments and executes its body in a new
scope; a suspending one does so only when the call is awaited. What the more powerful capabilities
do is left open.

## Main definitions

* `Closure.enter`, `Closure.run` — a function is entered, and its body executed.
* `Capability.signature` — the parameters of a capability.
* `Eval.call`, `Eval.await` — a value is called, and a call is awaited.
* `Interp.ofDepth` — evaluation with calls up to a depth.
-/

namespace Stencil

open Script

namespace Closure

/-- A new scope for an activation of a function, with its parameters bound to arguments. -/
def enter (c : Closure) (args : List Value) (named : Names) : Proc Ref := do
  let bound ← Arguments.bind c.qualified c.params c.defaults args named
  Proc.alloc (.scope (Arguments.ids c.params.all ++ namesOf c.body) bound)

/-- The activation of a function in a scope. -/
def frame (c : Closure) (caller : Caller) (scope : Ref) : Frame :=
  ⟨c.file, c.lines, some c.qualified, scope :: c.scopes, c.globals, caller.handling,
    caller.depth + 1⟩

/-- The body of a function is executed in a scope. -/
def run (I : Interp) (caller : Caller) (c : Closure) (scope : Ref) : Proc Value := do
  match ← execAll I (c.frame caller scope) c.body with
  | .give v => return v
  | _ => return .none

end Closure

/-- How a capability is called. -/
structure Signature where
  /-- What it is called in what is said about faulty calls. -/
  title : Text
  params : Params
  defaults : Names
  mode : Mode

namespace Capability

/-- How a capability is called. -/
def signature : Capability → Signature
  | write _ title => ⟨title, Arguments.plain [Text.ofString "value"], [], .blocking⟩
  | record _ id mode => ⟨id, Arguments.any, [], mode⟩
  | inclusion _ _ _ mode =>
    let title : Text := match mode with
      | .blocking => "make_include.<locals>.include"
      | .suspending => "make_async_include.<locals>.include"
    ⟨title, Arguments.plain (["path", "context"].map Text.ofString),
      [(Text.ofString "context", .none)], mode⟩
  | requirement _ =>
    ⟨"make_require.<locals>.require", Arguments.plain [Text.ofString "name"], [], .blocking⟩

/-- What the parameters of a capability stand for in a call, in their order. -/
def arguments (c : Capability) (args : List Value) (named : Names) : Proc (List Value) := do
  let s := c.signature
  let bound ← Arguments.bind s.title s.params s.defaults args named
  return (Arguments.ids s.params.all).map fun id => (bound.get? id).getD .none

end Capability

/-- What the capabilities do that reach beyond the run: with evaluation, the exception that is
being handled, and what the parameters stand for. -/
abbrev Grant := Interp → Caller → Capability → List Value → Proc Value

namespace Eval

/-- A capability does what it is for. -/
def exercise (grant : Grant) (I : Interp) (caller : Caller) (c : Capability)
    (args : List Value) : Proc Value := do
  match c, args with
  | .write channel _, [v] => do
    Proc.emit (.wrote channel (← Proc.text v))
    return .none
  | .record channel id _, [.tuple _ vs] => do
    let h ← Proc.heap
    Proc.emit (.called channel id (vs.map (Value.datum h)))
    return .none
  | c, args => grant I caller c args

/-- A call that waits to be awaited. -/
def suspend (p : Pending) : Proc Value := return .coroutine (← Proc.alloc (.coroutine p))

/-- A value is called. -/
def call (grant : Grant) (I : Interp) (caller : Caller) (v : Value) (args : List Value)
    (named : Names) : Proc Value := do
  match v with
  | .function r =>
    match (← Proc.heap).get? r with
    | some (.function c) =>
      let scope ← c.enter args named
      match c.mode with
      | .blocking => c.run I caller scope
      | .suspending => suspend (.body c scope)
    | _ => return .none
  | .native f => native f args named
  | .method receiver m => method receiver m args named
  | .unbound owner m => unboundMethod owner m args named
  | .exceptionClass c => instantiate c args named
  | .capability c =>
    let values ← c.arguments args named
    match c.signature.mode with
    | .blocking => exercise grant I caller c values
    | .suspending => suspend (.capability c values)
  | v => Proc.error .typeError (Text.marked (← typeName v) ++ " object is not callable")

/-- A process in which the end of an iteration is not an exception that may get out. -/
def guardIteration (p : Proc Value) : Proc Value :=
  p.handle fun r => do
    match (← Proc.heap).thrown? r with
    | some e =>
      if e.type.isA .stopIteration then
        Proc.error .runtimeError "coroutine raised StopIteration"
      else Proc.throw r
    | none => Proc.throw r

/-- A call is awaited. -/
def await (grant : Grant) (I : Interp) (caller : Caller) (v : Value) : Proc Value := do
  match v with
  | .coroutine r =>
    match (← Proc.heap).get? r with
    | some (.coroutine p) =>
      Proc.put r (.coroutine .finished)
      match p with
      | .body c scope => guardIteration (c.run I caller scope)
      | .capability c args => guardIteration (exercise grant I caller c args)
      | .finished => Proc.error .runtimeError "cannot reuse already awaited coroutine"
    | _ => return .none
  | v =>
    Proc.error .typeError ("object " ++ (← typeName v) ++ " can't be used in 'await' expression")

end Eval

namespace Interp

/-- Evaluation with calls up to a depth, for which there is fuel. A call that goes deeper is
refused. -/
def ofFuel (grant : Grant) (limit depth : Nat) : (fuel : Nat) → Interp
  | 0 => ⟨limit, depth, fun _ _ _ _ => Proc.exhausted, fun _ _ => Proc.exhausted⟩
  | fuel + 1 =>
    let inner := ofFuel grant limit depth fuel
    ⟨limit, depth,
      fun caller v args named => do
        inner.enter caller
        Eval.call grant inner caller v args named,
      fun caller v => do
        inner.enter caller
        Eval.await grant inner caller v⟩

/-- Evaluation with calls up to a depth. -/
def ofDepth (grant : Grant) (limit depth : Nat) : Interp := ofFuel grant limit depth (depth + 1)

end Interp

end Stencil
