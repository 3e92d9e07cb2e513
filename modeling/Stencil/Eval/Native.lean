import Stencil.Eval.Exception
import Stencil.Eval.Frame
import Stencil.Text.Upper

/-!
# Built-in functions and methods

The functions that every script knows, the methods of built-in values, and attributes.

## Main definitions

* `Eval.native` — a built-in function is called.
* `Eval.method`, `Eval.unboundMethod` — a method is called.
* `Eval.attr`, `Eval.setAttr` — attributes of values.
-/

namespace Stencil

namespace Eval

/-- The value of a digit, for which letters stand beyond nine, in a base up to thirty-six. -/
def digitValue? (base : Nat) (c : CodePoint) : Option Nat :=
  let letter : Option Nat :=
    if 0x41 ≤ c ∧ c ≤ 0x5A then some (c - 0x41 + 10)
    else if 0x61 ≤ c ∧ c ≤ 0x7A then some (c - 0x61 + 10)
    else none
  (c.decimalValue?.or letter).filter (· < base)

/-- Why a text stands for no whole number. -/
inductive NumeralFault where
  | invalid
  /-- It has so many digits, which are too many. -/
  | tooLong (count : Nat)
  deriving DecidableEq, Repr

/-- The values of the digits at the beginning of a text, where single low lines may stand between
digits, and what follows them; nothing if a low line stands elsewhere. -/
def leadingDigits? (base : Nat) (after : Bool) : Text → Option (List Nat × Text)
  | [] => some ([], [])
  | c :: rest =>
    match digitValue? base c with
    | some d => (leadingDigits? base true rest).map fun (ds, rest) => (d :: ds, rest)
    | none =>
      if c = '_' then
        if after ∧ (rest.head?.bind (digitValue? base)).isSome then leadingDigits? base false rest
        else none
      else some ([], c :: rest)

/-- The number that digits stand for in a base. Only the digits of a base that is a power of two
may be as many as there are. -/
def digits? (base : Nat) (t : Text) : Except NumeralFault Nat :=
  match leadingDigits? base false t with
  | none => .error .invalid
  | some (ds, rest) =>
    if base ∉ [2, 4, 8, 16, 32] ∧ Digits.limit < ds.length then .error (.tooLong ds.length)
    else if ds.isEmpty ∨ ¬ rest.isEmpty then .error .invalid
    else .ok (ds.foldl (fun n d => n * base + d) 0)

/-- The whole number that a text without a sign stands for. A base of sixteen, eight or two may be
announced in front, where a single low line may follow; the base zero is the announced one. -/
def unsigned? (base : Nat) (t : Text) : Except NumeralFault Nat :=
  let announced? : Option (Nat × Text) := match t with
    | z :: mark :: rest =>
      let found : Nat :=
        if mark = 'x' ∨ mark = 'X' then 16
        else if mark = 'o' ∨ mark = 'O' then 8
        else if mark = 'b' ∨ mark = 'B' then 2
        else 0
      if z = '0' ∧ found ≠ 0 ∧ (base = 0 ∨ base = found) then
        some (found, if rest.head? = some ('_' : CodePoint) then rest.tail else rest)
      else none
    | _ => none
  match announced? with
  | some (base, rest) => digits? base rest
  | none =>
    if base = 0 then do
      let n ← digits? 10 t
      if n = 0 ∨ t.head? ≠ some ('0' : CodePoint) then return n else .error .invalid
    else digits? base t

/-- The whole number that a text stands for in a base, blanks around it left aside. -/
def wholeNumber? (base : Nat) (t : Text) : Except NumeralFault Int :=
  let number (t : Text) : Except NumeralFault Int := do
    let n ← unsigned? base t
    return (n : Int)
  match t.strip with
  | [] => .error .invalid
  | c :: rest =>
    if c = '-' then do return -(← number rest)
    else if c = '+' then number rest
    else number (c :: rest)

/-- A text as a whole number in a base. -/
def textToInt (base : Nat) (t : Text) : Proc Value :=
  match wholeNumber? base t with
  | .ok i => return .int i
  | .error (.tooLong count) => Proc.error .valueError (Digits.readingMessage count)
  | .error .invalid =>
    Proc.error .valueError ("invalid literal for int() with base " ++ Text.ofNat base ++ ": " ++
      (Text.quoted t).take 200)

/-- A value as a whole number. -/
def toInt (v : Value) : Proc Value := do
  match v with
  | .str t => textToInt 10 t
  | v =>
    match v.numeral? with
    | some (.int i) => return .int i
    | some (.float x) =>
      match Double.truncate? x with
      | some i => return .int i
      | none =>
        if x.isNaN then Proc.error .valueError "cannot convert float NaN to integer"
        else Proc.error .overflowError "cannot convert float infinity to integer"
    | none =>
      Proc.error .typeError
        ("int() argument must be a string, a bytes-like object or a real number, not " ++
          Text.marked (← typeName v))

/-- A whole number where only such a one will do. -/
def whole (v : Value) : Proc Int := do
  match count? v with
  | some i => return i
  | none =>
    Proc.error .typeError (Text.marked (← typeName v) ++
      " object cannot be interpreted as an integer")

/-- Says that a function was given too few or too many arguments. -/
def wrongCount {α : Type} (message : Text) (given : Nat) : Proc α :=
  Proc.error .typeError (message ++ " (" ++ Text.ofNat given ++ " given)")

/-- Arguments of a function in their order, where those after the first `positional` may be given
by name. -/
def slots (title : Text) (positional : Nat) (ids : List String) (args : List Value)
    (named : Names) : Proc (List (Option Value)) := do
  let given := args.length + named.length
  if ids.length < given then
    Proc.error .typeError (title ++ " takes at most " ++ Text.ofNat ids.length ++
      (if args.isEmpty then (" keyword arguments (" : Text) else " arguments (") ++
      Text.ofNat given ++ " given)")
  else
    let known := (ids.zipIdx.filter fun (_, i) => positional ≤ i).map fun (id, i) =>
      (Text.ofString id, i)
    match named.find? fun (id, _) => !known.any fun (k, _) => k == id with
    | some (id, _) =>
      Proc.error .typeError (Text.marked id ++ " is an invalid keyword argument for " ++ title)
    | none =>
      match known.find? fun (id, i) => (named.get? id).isSome && i < args.length with
      | some (id, i) =>
        Proc.error .typeError ("argument for " ++ title ++ " given by name (" ++ Text.marked id ++
          ") and position (" ++ Text.ofNat (i + 1) ++ ")")
      | none =>
        return ids.zipIdx.map fun (id, i) => (args[i]?).or (named.get? (Text.ofString id))

/-- A value as a text, which may be given the way in which it is written. -/
def toText (args : List Value) (named : Names) : Proc Value := do
  let title : Text := "str()"
  match ← slots title 0 ["object", "encoding", "errors"] args named with
  | [object, encoding, errors] =>
    [("encoding", encoding), ("errors", errors)].forM fun (id, v) => do
      match v with
      | none | some (.str _) => return ()
      | some v =>
        Proc.error .typeError (title ++ " argument " ++ Text.marked (Text.ofString id) ++
          " must be str, not " ++ (← typeName v))
    match object with
    | none => return .str []
    | some v =>
      if encoding.isNone ∧ errors.isNone then return .str (← Proc.text v)
      else
        match v with
        | .str _ => Proc.error .typeError "decoding str is not supported"
        | v =>
          Proc.error .typeError ("decoding to str: need a bytes-like object, " ++
            (← typeName v) ++ " found")
  | _ => return .str []

/-- A value as a whole number, which may be given the base in which it is written. -/
def toWhole (args : List Value) (named : Names) : Proc Value := do
  match ← slots "int()" 1 ["", "base"] args named with
  | [none, none] => return .int 0
  | [none, some _] => Proc.error .typeError "int() missing string argument"
  | [some v, none] => toInt v
  | [some v, some base] => do
    let base ← whole base
    if base < 0 ∨ base = 1 ∨ 36 < base then
      Proc.error .valueError "int() base must be >= 2 and <= 36, or 0"
    else
      match v with
      | .str t => textToInt base.toNat t
      | _ => Proc.error .typeError "int() can't convert non-string with explicit base"
  | _ => return .int 0

/-- Arguments by name are refused. -/
def positionalOnly (title : Text) (named : Names) : Proc Unit :=
  if named.isEmpty then return ()
  else Proc.error .typeError (title ++ " takes no keyword arguments")

/-- A built-in function is called. -/
def native (f : Native) (args : List Value) (named : Names) : Proc Value := do
  match f, args with
  | .str, args => toText args named
  | .int, args => toWhole args named
  | f, args =>
    positionalOnly (Text.ofString f.id ++ "()") named
    match f, args with
    | .len, [v] =>
      match v.length? (← Proc.heap) with
      | some n =>
        if maxPosition < n then
          Proc.error .overflowError "Python int too large to convert to C ssize_t"
        else return .int n
      | none =>
        Proc.error .typeError ("object of type " ++ Text.marked (← typeName v) ++ " has no len()")
    | .len, args => wrongCount "len() takes exactly one argument" args.length
    | .range, [] => Proc.error .typeError "range expected at least 1 argument, got 0"
    | .range, [stop] => return .range 0 (← whole stop) 1
    | .range, [start, stop] => return .range (← whole start) (← whole stop) 1
    | .range, [start, stop, step] =>
      let r := (← whole start, ← whole stop, ← whole step)
      if r.2.2 = 0 then Proc.error .valueError "range() arg 3 must not be zero"
      else return .range r.1 r.2.1 r.2.2
    | .range, args =>
      Proc.error .typeError ("range expected at most 3 arguments, got " ++ Text.ofNat args.length)
    | _, _ => return .none

/-- Texts joined into one. -/
def joinTexts (separator : Text) (index : Nat) : List Value → Proc (List Text)
  | [] => return []
  | .str t :: vs => return t :: (← joinTexts separator (index + 1) vs)
  | v :: _ => do
    Proc.error .typeError ("sequence item " ++ Text.ofNat index ++ ": expected str instance, " ++
      (← typeName v) ++ " found")

/-- A method of a built-in value is called. -/
def method (receiver : Value) (m : Method) (args : List Value) (named : Names) : Proc Value := do
  let h ← Proc.heap
  let title : Text := receiver.typeName h ++ "." ++ Text.ofString m.id ++ "()"
  positionalOnly title named
  match m, receiver, args with
  | .upper, .str t, [] => return .str (Text.upper t)
  | .join, .str separator, [v] =>
    match v.items? h with
    | some vs => return .str (Text.join separator (← joinTexts separator 0 vs))
    | none => Proc.error .typeError "can only join an iterable"
  | .append, .list r, [v] =>
    Proc.setItems r (h.list r ++ [v])
    return .none
  | .items, .dict r, [] => return .entries r
  | .get, .dict r, key :: rest =>
    match rest with
    | [] => do
      checkKey key
      return ((h.dict r).get? key).getD .none
    | [default] => do
      checkKey key
      return ((h.dict r).get? key).getD default
    | _ =>
      Proc.error .typeError ("get expected at most 2 arguments, got " ++ Text.ofNat args.length)
  | .get, _, _ => Proc.error .typeError "get expected at least 1 argument, got 0"
  | .upper, _, args | .items, _, args => wrongCount (title ++ " takes no arguments") args.length
  | .join, _, args | .append, _, args =>
    wrongCount (title ++ " takes exactly one argument") args.length

/-- A method is called with the value that it belongs to as its first argument. -/
def unboundMethod (owner : Native) (m : Method) (args : List Value) (named : Names) :
    Proc Value := do
  let type := Text.ofString owner.id
  match args with
  | [] =>
    Proc.error .typeError ("unbound method " ++ type ++ "." ++ Text.ofString m.id ++
      "() needs an argument")
  | receiver :: args =>
    if (← typeName receiver) = type then method receiver m args named
    else
      Proc.error .typeError ("descriptor " ++ Text.marked (Text.ofString m.id) ++ " for " ++
        Text.marked type ++ " objects doesn't apply to a " ++
        Text.marked (← typeName receiver) ++ " object")

/-- The methods of the values of a type. -/
def methodsOf : Value → List Method
  | .str _ => [.upper, .join]
  | .list _ => [.append]
  | .dict _ => [.get, .items]
  | _ => []

/-- The one of some methods that has a name. -/
def named? (id : Text) (methods : List Method) : Option Method :=
  methods.find? fun m => Text.ofString m.id == id

/-- Says that a value has no such attribute. -/
def noAttribute {α : Type} (v : Value) (id : Text) : Proc α := do
  let h ← Proc.heap
  let owner : Text := match v with
    | .module r =>
      match h.get? r with
      | some (.module name _) => "module " ++ Text.marked name
      | _ => "module"
    | .native f =>
      if f = .len then "'builtin_function_or_method' object"
      else "type object " ++ Text.marked (Text.ofString f.id)
    | .exceptionClass c => "type object " ++ Text.marked (Text.ofString c.text)
    | v => Text.marked (v.typeName h) ++ " object"
  let message : Text := owner ++ " has no attribute " ++ Text.marked id
  Proc.raise { Thrown.plain .attributeError [.str message] with
    fields := [(Text.ofString "name", .str id), (Text.ofString "obj", v)] }

/-- The name of a class or a function. -/
def ownName? (h : Heap) : Value → Option Text
  | .exceptionClass c => some (Text.ofString c.text)
  | .native f => some (Text.ofString f.id)
  | .function r =>
    match h.get? r with
    | some (.function f) => some f.id
    | _ => none
  | _ => none

/-- An attribute of a value. -/
def attr (v : Value) (id : Text) : Proc Value := do
  match named? id (methodsOf v) with
  | some m => return .method v m
  | none =>
    let h ← Proc.heap
    let found : Option Value := match v with
      | .module r => (h.namesOfModule r).get? id
      | .exception r => (h.thrown? r).bind fun e => e.attribute? id
      | .native .str => (named? id [.upper, .join]).map (Value.unbound .str)
      | _ => none
    let called := if id = "__name__" then (ownName? h v).map Value.str else none
    match found.or called with
    | some w => return w
    | none => noAttribute v id

/-- Gives an attribute of a module or an exception a value. -/
def setAttr (base : Value) (id : Text) (v : Value) : Proc Unit := do
  match base with
  | .module r => Proc.updateNames r (Names.set id v)
  | .exception r =>
    match (← Proc.heap).thrown? r with
    | some e =>
      let e ← if id = "args" then do pure { e with args := ← items v } else pure (e.setField id v)
      Proc.put r (.exception e)
    | none => noAttribute base id
  | base => noAttribute base id

end Eval

end Stencil
