import Stencil.Machine.Proc
import Stencil.Value.Order

/-!
# Frames

An activation of a function or a module: where its code comes from and where it finds its names. A
name that the function binds anywhere is found in its own scope only; any other in the scopes
around it, then in its module, then among what every script knows.

## Main definitions

* `Frame` — an activation.
* `Frame.lookup`, `Frame.bind`, `Frame.unbind` — its names.
* `Frame.locate` — a process whose exceptions pass through the frame at a row.
-/

namespace Stencil

/-- What a call knows about where it comes from. -/
structure Caller where
  /-- The exception that is being handled. -/
  handling : Option Ref
  /-- The number of activations that are going on. -/
  depth : Nat
  deriving Inhabited

namespace Caller

/-- Nothing is going on. -/
def none : Caller := ⟨Option.none, 0⟩

/-- So many more activations are going on. -/
def deeper (c : Caller) (n : Nat) : Caller := { c with depth := c.depth + n }

end Caller

/-- An activation of a function or a module. -/
structure Frame where
  file : Text
  lines : LineMap
  /-- The name of the function with those of the functions around it; none in a module. -/
  qualified : Option Text
  /-- The scopes that names are found in, the frame's own first; none in a module. -/
  scopes : List Ref
  /-- The module that the code belongs to. -/
  globals : Ref
  /-- The exception that is being handled. -/
  handling : Option Ref
  /-- The number of activations that are going on, itself among them. -/
  depth : Nat
  deriving Inhabited

/-- Names with their values. -/
abbrev Names := List (Text × Value)

namespace Names

/-- The value of a name. -/
def get? (ns : Names) (id : Text) : Option Value := (ns.find? (·.1 == id)).map (·.2)

/-- The names with a value for one of them. -/
def set (id : Text) (v : Value) : Names → Names
  | [] => [(id, v)]
  | (i, w) :: rest => if i = id then (i, v) :: rest else (i, w) :: set id v rest

/-- The names without one of them. -/
def erase (ns : Names) (id : Text) : Names := ns.filter (·.1 != id)

end Names

/-- The functions and types that every script knows by name. -/
def Native.known : List Native := [.str, .len, .range, .int]

/-- Constants that every script knows by name. -/
def constants : List (String × Value) :=
  [("None", .none), ("True", .bool true), ("False", .bool false), ("__debug__", .bool true)]

/-- What every script knows by a name. -/
def builtin? (id : Text) : Option Value :=
  match Native.known.find? fun f => Text.ofString f.id == id with
  | some f => some (.native f)
  | none =>
    ((ExceptionClass.named? id).map Value.exceptionClass).or
      ((constants.find? fun (i, _) => Text.ofString i == id).map (·.2))

/-- What scopes say about a name. -/
inductive Lookup where
  | value (v : Value)
  /-- It belongs to a scope in which it has no value; the flag tells the first scope. -/
  | unbound (own : Bool)
  | elsewhere
  deriving Inhabited

namespace Heap

/-- What a name stands for in scopes, innermost first. -/
def inScopes (h : Heap) (id : Text) : (own : Bool) → List Ref → Lookup
  | _, [] => .elsewhere
  | own, r :: rest =>
    match h.get? r with
    | some (.scope owned bound) =>
      if id ∈ owned then
        match Names.get? bound id with
        | some v => .value v
        | none => .unbound own
      else inScopes h id false rest
    | _ => inScopes h id false rest

/-- The names of a module. -/
def namesOfModule (h : Heap) (r : Ref) : Names :=
  match h.get? r with
  | some (.module _ names) => names
  | _ => []

/-- The heap with other names in a scope or a module. -/
def updateNames (h : Heap) (r : Ref) (f : Names → Names) : Heap :=
  match h.get? r with
  | some (.scope owned bound) => h.set r (.scope owned (f bound))
  | some (.module id names) => h.set r (.module id (f names))
  | _ => h

/-- The heap with a place put in front of the traceback of an exception. -/
def locate (h : Heap) (r : Ref) (file : Text) (line : Int) : Heap :=
  match h.get? r with
  | some (.exception e) => h.set r (.exception { e with traceback := (file, line) :: e.traceback })
  | _ => h

end Heap

namespace Proc

/-- Changes the names of a scope or a module. -/
def updateNames (r : Ref) (f : Names → Names) : Proc Unit :=
  modify fun m => { m with heap := m.heap.updateNames r f }

end Proc

namespace Frame

/-- Where the frame keeps the names that it binds. -/
def own (f : Frame) : Ref := f.scopes.headD f.globals

/-- What a frame makes of calls. -/
def caller (f : Frame) : Caller := ⟨f.handling, f.depth⟩

/-- Says of a name that it stands for nothing. -/
def undefined (id message : Text) : Proc Value :=
  Proc.raise { Thrown.plain .nameError [.str message] with
    fields := [(Text.ofString "name", .str id)] }

/-- What a name stands for. -/
def lookup (f : Frame) (id : Text) : Proc Value := do
  let h ← Proc.heap
  match h.inScopes id true f.scopes with
  | .value v => return v
  | .unbound true =>
    Proc.error .unboundLocalError ("cannot access local variable " ++ Text.marked id ++
      " where it is not associated with a value")
  | .unbound false =>
    undefined id ("cannot access free variable " ++ Text.marked id ++
      " where it is not associated with a value in enclosing scope")
  | .elsewhere =>
    match (h.namesOfModule f.globals).get? id with
    | some v => return v
    | none =>
      match builtin? id with
      | some v => return v
      | none => undefined id ("name " ++ Text.marked id ++ " is not defined")

/-- Gives a name a value. -/
def bind (f : Frame) (id : Text) (v : Value) : Proc Unit := Proc.updateNames f.own (Names.set id v)

/-- Takes the value of a name away. -/
def unbind (f : Frame) (id : Text) : Proc Unit := Proc.updateNames f.own fun ns => ns.erase id

/-- The name of a function that the frame defines, with those of the functions around it. -/
def qualify (f : Frame) (id : Text) : Text :=
  match f.qualified with
  | some outer => outer ++ ".<locals>." ++ id
  | none => id

/-- The line of the frame at a row; a line that no file has counts as the first one. -/
def lineAt (f : Frame) (row : Nat) : Int :=
  let line := f.lines.line row
  if line < 0 then 1 else line

/-- A process whose exceptions pass through the frame at a row. -/
def locate {α : Type} (f : Frame) (row : Nat) (p : Proc α) : Proc α :=
  p.handle fun r => do
    Proc.modify fun m => { m with heap := m.heap.locate r f.file (f.lineAt row) }
    Proc.throw r

end Frame

end Stencil
