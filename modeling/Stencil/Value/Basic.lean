import Stencil.Number.Double
import Stencil.Path.Basic
import Stencil.Script.Syntax
import Stencil.Template.Compile
import Stencil.Value.Exception

/-!
# Values and the heap

The values that scripts compute with. What can change, or has an identity of its own, is an object
on a heap, and a value refers to it. Everything is first-order data: a function is its code with
the scopes around it, and a capability that the host grants is a description of what it does.

## Main definitions

* `Value` — values.
* `Capability` — what a template is given by its host.
* `Object`, `Heap` — objects and where they are kept.
* `Datum` — a value with everything it refers to, as it is at one moment.
-/

namespace Stencil

/-- The place of an object on the heap. -/
abbrev Ref := Nat

/-- Functions and types that every script knows. -/
inductive Native where
  | str
  | len
  | range
  | int
  deriving DecidableEq, Repr, Inhabited

/-- Methods of built-in values. -/
inductive Method where
  | upper
  | join
  | append
  | get
  | items
  deriving DecidableEq, Repr, Inhabited

/-- What the host of a template grants it. -/
inductive Capability where
  /-- Writes the text of one value to an output channel; `title` names it in what is said about
  faulty calls. -/
  | write (channel : Nat) (title : Text)
  /-- Notes its arguments on an output channel; it may have to be awaited. -/
  | record (channel : Nat) (id : Text) (mode : Mode)
  /-- Runs a template whose path is seen from a directory, in a context of its own. -/
  | inclusion (directory : Path) (context : Ref) (delimiters : Delimiters) (mode : Mode)
  /-- Loads a module whose path is seen from a directory. -/
  | requirement (directory : Path)
  deriving DecidableEq, Inhabited

/-- Values. -/
inductive Value where
  | none
  | bool (b : Bool)
  | int (i : Int)
  | float (x : Float)
  /-- What is no number though it has the type of one; only its identity tells it from others. -/
  | nan (id : Ref)
  | str (t : Text)
  /-- A tuple; one that is written as a constant has no identity of its own. -/
  | tuple (id : Option Ref) (items : List Value)
  | list (r : Ref)
  | dict (r : Ref)
  | range (start stop step : Int)
  /-- The bounds and the step of a run of items. -/
  | slice (lower upper step : Value)
  /-- The entries of a dictionary, seen through it. -/
  | entries (r : Ref)
  | function (r : Ref)
  | native (f : Native)
  | method (receiver : Value) (m : Method)
  /-- A method that is still to be given the value that it belongs to. -/
  | unbound (owner : Native) (m : Method)
  | exceptionClass (c : ExceptionClass)
  | exception (r : Ref)
  | module (r : Ref)
  /-- A call that has not been awaited. -/
  | coroutine (r : Ref)
  | capability (c : Capability)
  /-- A value of a type that scripts do not look into: its type, its text and its quoted form. -/
  | foreign (type text quoted : Text)
  deriving Inhabited

/-- The entries of a dictionary in the order in which their keys came. -/
abbrev Entries := List (Value × Value)

/-- The template line that each row of a script comes from; empty if the rows are their own. -/
abbrev LineMap := List Int

namespace LineMap

/-- The template line of a row; rows beyond the ends have that of the row at the end. -/
def line (m : LineMap) (row : Nat) : Int :=
  if m.isEmpty then row else m.getD (max 1 (min row m.length) - 1) 0

end LineMap

/-- A default of a parameter, by the name of the parameter. -/
abbrev Defaults := List (Text × Value)

/-- A function of a script. -/
structure Closure where
  id : Text
  /-- The name with those of the functions around it. -/
  qualified : Text
  mode : Mode
  params : Script.Params
  defaults : Defaults
  body : List Script.Stmt
  /-- The scopes around it, innermost first. -/
  scopes : List Ref
  /-- The module that it belongs to. -/
  globals : Ref
  file : Text
  lines : LineMap
  deriving Inhabited

/-- What is known about an exception besides its class and its arguments. -/
inductive Detail where
  | none
  /-- The path of a template, and the class of the error behind this one. -/
  | path (path : Text) (cause : Option ExceptionClass)
  /-- What is wrong with options: where, what kind of fault, in words. -/
  | issues (issues : List (List Text × Text × Text))
  deriving DecidableEq, Repr, Inhabited

/-- An exception. -/
structure Thrown where
  type : ExceptionClass
  args : List Value
  /-- What else it holds, by name. -/
  fields : List (Text × Value)
  detail : Detail
  /-- The places that were active, outermost first: file and line. -/
  traceback : List (Text × Int)
  deriving Inhabited

namespace Thrown

/-- An exception of a class with arguments. -/
def plain (type : ExceptionClass) (args : List Value) : Thrown := ⟨type, args, [], .none, []⟩

/-- What an exception holds under a name. -/
def field? (e : Thrown) (id : Text) : Option Value := (e.fields.find? (·.1 == id)).map (·.2)

end Thrown

/-- What a call that waits to be awaited will do. -/
inductive Pending where
  /-- Executes the body of a function in a scope. -/
  | body (f : Closure) (scope : Ref)
  /-- Calls a capability with what its parameters stand for. -/
  | capability (c : Capability) (args : List Value)
  /-- Nothing: it has been awaited before. -/
  | finished
  deriving Inhabited

/-- The states of a run. -/
inductive RunState where
  | unstarted
  | reading
  | transpiling
  | contextBuilding
  | executing
  | completed
  | failed
  deriving DecidableEq, Repr, Inhabited

/-- A run of a template file. -/
structure TemplateRun where
  path : Path
  delimiters : Delimiters
  state : RunState
  deriving Inhabited

/-- Objects on the heap. -/
inductive Object where
  /-- Nothing but an identity. -/
  | mark
  | list (items : List Value)
  | dict (entries : Entries)
  | exception (e : Thrown)
  | module (id : Text) (names : List (Text × Value))
  | function (f : Closure)
  /-- The names of one activation of a function: those it owns and those that have a value. -/
  | scope (owned : List Text) (bound : List (Text × Value))
  | coroutine (p : Pending)
  | run (r : TemplateRun)
  deriving Inhabited

/-- Where objects are kept. -/
structure Heap where
  objects : Array Object
  deriving Inhabited

namespace Heap

/-- No objects. -/
def empty : Heap := ⟨#[]⟩

/-- The object at a place. -/
def get? (h : Heap) (r : Ref) : Option Object := h.objects[r]?

/-- A new object, and where it is. -/
def alloc (h : Heap) (o : Object) : Ref × Heap := (h.objects.size, ⟨h.objects.push o⟩)

/-- The heap with another object at a place. -/
def set (h : Heap) (r : Ref) (o : Object) : Heap := ⟨h.objects.setIfInBounds r o⟩

/-- The items of a list; none if there is no list. -/
def list (h : Heap) (r : Ref) : List Value :=
  match h.get? r with
  | some (.list items) => items
  | _ => []

/-- The entries of a dictionary; none if there is no dictionary. -/
def dict (h : Heap) (r : Ref) : Entries :=
  match h.get? r with
  | some (.dict entries) => entries
  | _ => []

/-- The heap on which a list has other items. -/
def setItems (h : Heap) (r : Ref) (items : List Value) : Heap :=
  match h.get? r with
  | some (.list _) => h.set r (.list items)
  | _ => h

/-- The heap on which a dictionary has other entries. -/
def setEntries (h : Heap) (r : Ref) (entries : Entries) : Heap :=
  match h.get? r with
  | some (.dict _) => h.set r (.dict entries)
  | _ => h

/-- The exception at a place. -/
def thrown? (h : Heap) (r : Ref) : Option Thrown :=
  match h.get? r with
  | some (.exception e) => some e
  | _ => none

end Heap

/-- A value with everything it refers to, as it is at one moment. -/
inductive Datum where
  | none
  | bool (b : Bool)
  | int (i : Int)
  | float (x : Float)
  | str (t : Text)
  | list (items : List Datum)
  | tuple (items : List Datum)
  | dict (entries : List (Datum × Datum))
  /-- A capability with a name. -/
  | granted (id : Text)
  /-- Something else, by its type. -/
  | other (type : Text)
  deriving Inhabited

end Stencil
