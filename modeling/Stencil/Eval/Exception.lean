import Stencil.Eval.Operator

/-!
# New exceptions

What an exception of a class makes of its arguments. Errors of the system have a class of their own
for many numbers, and some classes take arguments of certain types only.

## Main definitions

* `Eval.instantiate` — a new exception.
* `Thrown.attribute?` — what an exception holds under a name.
-/

namespace Stencil

namespace ExceptionClass

/-- What the exceptions of a class hold under their own names, which is nothing unless it is
given. -/
def slots (c : ExceptionClass) : List String :=
  if c.isA .osError then ["errno", "strerror", "filename", "filename2"]
  else if c.isA .syntaxError then
    ["msg", "filename", "lineno", "offset", "text", "end_lineno", "end_offset",
      "print_file_and_line"]
  else if c.isA .importError then ["msg", "name", "path"]
  else if c.isA .attributeError then ["name", "obj"]
  else if c.isA .nameError then ["name"]
  else if c.isA .systemExit then ["code"]
  else if c.isA .stopIteration then ["value"]
  else []

/-- The names under which the exceptions of a class take arguments, with the class that is
mentioned where others are given. -/
def keywords (c : ExceptionClass) : Option (ExceptionClass × List String) :=
  if c.isA .importError then some (.importError, ["name", "path"])
  else if c.isA .attributeError then some (.attributeError, ["name", "obj"])
  else if c.isA .nameError then some (.nameError, ["name"])
  else none

end ExceptionClass

namespace Thrown

/-- What an exception holds under a name. -/
def attribute? (e : Thrown) (id : Text) : Option Value :=
  match e.field? id with
  | some v => some v
  | none =>
    if id = "args" then some (.tuple none e.args)
    else if id = "__class__" then some (.exceptionClass e.type)
    else if e.type.slots.any fun slot => Text.ofString slot == id then some .none
    else match e.detail with
      | .path path _ => if id = "path" then some (.str path) else none
      | _ => none

/-- An exception that holds something else under a name. -/
def setField (e : Thrown) (id : Text) (v : Value) : Thrown :=
  { e with fields := (id, v) :: e.fields.filter (·.1 != id) }

end Thrown

namespace Eval

/-- Values under names, those that are there. -/
def fieldsOf (fields : List (String × Option Value)) : List (Text × Value) :=
  fields.filterMap fun (id, v) => v.map fun v => (Text.ofString id, v)

/-- The value unless it is nothing. -/
def something? (v : Option Value) : Option Value :=
  v.bind fun v => match v with
    | .none => none
    | v => some v

/-- An error of the system. Two to five arguments are its number, words for it and paths; the paths
are no longer among the arguments then. -/
def systemError (c : ExceptionClass) (args : List Value) : Thrown :=
  match args with
  | number :: reason :: paths =>
    if 3 < paths.length then .plain c args
    else
      let type : ExceptionClass :=
        match c, count? number with
        | .osError, some i => (ExceptionClass.ofNumber? i).getD .osError
        | c, _ => c
      let path := something? paths.head?
      let written : Option Value := if type = .blockingError then path.filter fun v =>
        v.numeral?.isSome else none
      let path := if written.isSome then none else path
      let other := if path.isSome then something? (paths[2]?) else none
      { Thrown.plain type (if path.isSome then [number, reason] else args) with
        fields := fieldsOf [("errno", some number), ("strerror", some reason), ("filename", path),
          ("filename2", other), ("characters_written", written)] }
  | args => .plain c args

/-- A mistake in a script. A second argument tells the place. -/
def scriptError (c : ExceptionClass) (args : List Value) : Proc Thrown := do
  let own := fieldsOf [("msg", args.head?)]
  match args with
  | [_, place] =>
    let info ← items place
    if info.length < 4 then
      Proc.error .typeError ("function takes at least 4 arguments (" ++ Text.ofNat info.length ++
        " given)")
    else if 6 < info.length then
      Proc.error .typeError ("function takes at most 6 arguments (" ++ Text.ofNat info.length ++
        " given)")
    else if info.length = 5 then
      Proc.error .typeError "end_offset must be provided when end_lineno is provided"
    else
      let ids := ["filename", "lineno", "offset", "text", "end_lineno", "end_offset"]
      return { Thrown.plain c args with
        fields := own ++ (ids.zip info).map fun (id, v) => (Text.ofString id, v) }
  | _ => return { Thrown.plain c args with fields := own }

/-- What an argument of an exception about a text has to be. -/
inductive ArgumentKind where
  | text
  | octets
  | position
  deriving DecidableEq

/-- An argument is of a kind. -/
def checkArgument (index : Nat) (kind : ArgumentKind) (v : Value) : Proc Unit := do
  match kind, v with
  | .text, .str _ => return ()
  | .text, v =>
    Proc.error .typeError ("argument " ++ Text.ofNat index ++ " must be str, not " ++
      (← typeName v))
  | .octets, _ => return ()
  | .position, v =>
    match count? v with
    | some i =>
      let _ ← position .overflowError i
      return ()
    | none =>
      Proc.error .typeError (Text.marked (← typeName v) ++
        " object cannot be interpreted as an integer")

/-- The arguments are of certain kinds. -/
def checkArguments (index : Nat) : List (ArgumentKind × Value) → Proc Unit
  | [] => return ()
  | (kind, v) :: rest => do
    checkArgument index kind v
    checkArguments (index + 1) rest

/-- An error in a text or in octets, with the part that is at fault. -/
def unicodeFault (c : ExceptionClass) (slots : List (String × ArgumentKind))
    (args : List Value) : Proc Thrown := do
  if args.length ≠ slots.length then
    Proc.error .typeError ("function takes exactly " ++ Text.ofNat slots.length ++
      " arguments (" ++ Text.ofNat args.length ++ " given)")
  else
    checkArguments 1 ((slots.map (·.2)).zip args)
    match (slots.zip args).find? fun (slot, _) => slot.2 == .octets with
    | some (_, v) =>
      Proc.error .typeError ("a bytes-like object is required, not " ++
        Text.marked (← typeName v))
    | none =>
      return { Thrown.plain c args with
        fields := (slots.zip args).map fun (slot, v) => (Text.ofString slot.1, v) }

/-- The exceptions in a group, counted from `index`; the flag tells whether all are errors. -/
def checkGroup (h : Heap) (index : Nat) : List Value → Proc Bool
  | [] => return true
  | v :: vs => do
    match v with
    | .exception r =>
      let isError := (h.thrown? r).any fun e => e.type.isA .exception
      return (← checkGroup h (index + 1) vs) && isError
    | _ =>
      Proc.error .valueError ("Item " ++ Text.ofNat index ++
        " of second argument (exceptions) is not an exception")

/-- A group of exceptions. -/
def exceptionGroup (c : ExceptionClass) (args : List Value) : Proc Thrown := do
  let title : Text := "BaseExceptionGroup.__new__()"
  match args with
  | [.str message, members] =>
    let h ← Proc.heap
    let sequence : Option (List Value) := match members with
      | .dict _ | .entries _ => none
      | members => members.items? h
    match sequence with
    | none => Proc.error .typeError "second argument (exceptions) must be a sequence"
    | some [] => Proc.error .valueError "second argument (exceptions) must be a non-empty sequence"
    | some vs =>
      let allErrors ← checkGroup h 0 vs
      if c = .exceptionGroup ∧ ¬ allErrors then
        Proc.error .typeError "Cannot nest BaseExceptions in an ExceptionGroup"
      else
        let type := if allErrors then .exceptionGroup else c
        return { Thrown.plain type args with
          fields := fieldsOf [("message", some (.str message)),
            ("exceptions", some (.tuple none vs))] }
  | [v, _] =>
    Proc.error .typeError (title ++ " argument 1 must be str, not " ++ (← typeName v))
  | args =>
    Proc.error .typeError (title ++ " takes exactly 2 arguments (" ++ Text.ofNat args.length ++
      " given)")

/-- Arguments given by name are among those that a class takes. -/
def checkKeywords (c : ExceptionClass) (named : List (Text × Value)) : Proc Unit :=
  match c.keywords with
  | none =>
    if named.isEmpty then return ()
    else Proc.error .typeError (Text.ofString c.text ++ "() takes no keyword arguments")
  | some (owner, ids) =>
    match named.find? fun (id, _) => !ids.any fun i => Text.ofString i == id with
    | none => return ()
    | some (id, _) =>
      Proc.error .typeError (Text.marked id ++ " is an invalid keyword argument for " ++
        Text.ofString owner.text ++ "()")

/-- What an exception of a class makes of its arguments. -/
def thrownOf (c : ExceptionClass) (args : List Value) (named : List (Text × Value)) :
    Proc Thrown := do
  let plain := Thrown.plain c args
  let word := ArgumentKind.text
  let place := ArgumentKind.position
  if c.isA .osError then return systemError c args
  else if c.isA .syntaxError then scriptError c args
  else if c.isA .baseExceptionGroup then exceptionGroup c args
  else if c.isA .unicodeDecodeError then
    unicodeFault c [("encoding", word), ("object", .octets), ("start", place), ("end", place),
      ("reason", word)] args
  else if c.isA .unicodeEncodeError then
    unicodeFault c [("encoding", word), ("object", word), ("start", place), ("end", place),
      ("reason", word)] args
  else if c.isA .unicodeTranslateError then
    unicodeFault c [("object", word), ("start", place), ("end", place), ("reason", word)] args
  else if c.isA .importError then
    let message := match args with
      | [v] => some v
      | _ => none
    return { plain with fields := fieldsOf [("msg", message)] ++ named }
  else if c.isA .systemExit then
    let code : Option Value := match args with
      | [] => none
      | [v] => some v
      | args => some (.tuple none args)
    return { plain with fields := fieldsOf [("code", code)] }
  else if c.isA .stopIteration then
    return { plain with fields := fieldsOf [("value", args.head?)] }
  else return { plain with fields := named }

/-- A new exception of a class. -/
def instantiate (c : ExceptionClass) (args : List Value) (named : List (Text × Value)) :
    Proc Value := do
  checkKeywords c named
  let e ← thrownOf c args named
  return .exception (← Proc.alloc (.exception e))

end Eval

end Stencil
