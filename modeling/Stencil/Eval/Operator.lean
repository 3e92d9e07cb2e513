import Stencil.Machine.Proc
import Stencil.Value.Format

/-!
# Operators

What the operators of scripts do with values: arithmetic on numbers, putting sequences together and
repeating them, comparisons and membership.

## Main definitions

* `Numeral.apply` — arithmetic on two numbers.
* `Eval.binary`, `Eval.update` — an operator between two values; the second changes a list in place.
* `Eval.unary`, `Eval.compare` — operators before a value, and comparisons.
-/

namespace Stencil

open Script

namespace Numeral

/-- The number as a value; what is none becomes one of its own. -/
def value : Numeral → Proc Value
  | .int i => return .int i
  | .float x => do if Double.isNaN x then return .nan (← Proc.mark) else return .float x

/-- The double nearest to a number, if there is one. -/
def double? : Numeral → Option Float
  | .int i =>
    let x := Double.ofInt i
    if x.isInf then none else some x
  | .float x => some x

end Numeral

/-- Why arithmetic on two numbers has no result. -/
inductive ArithmeticFault where
  | zeroDivision (message : String)
  | overflow (message : String)

namespace Numeral

/-- Arithmetic on two whole numbers. -/
def applyInt (op : BinaryOp) (a b : Int) : Except ArithmeticFault Numeral :=
  match op with
  | .add => .ok (.int (a + b))
  | .sub => .ok (.int (a - b))
  | .mul => .ok (.int (a * b))
  | .div =>
    if b = 0 then .error (.zeroDivision "division by zero")
    else
      let x := Double.ofRatio ((a < 0) != (b < 0)) a.natAbs b.natAbs
      if x.isInf then .error (.overflow "integer division result too large for a float")
      else .ok (.float x)
  | .floorDiv =>
    if b = 0 then .error (.zeroDivision "integer division or modulo by zero")
    else .ok (.int (Int.fdiv a b))
  | .mod =>
    if b = 0 then .error (.zeroDivision "integer modulo by zero") else .ok (.int (Int.fmod a b))

/-- Arithmetic on two doubles. -/
def applyFloat (op : BinaryOp) (x y : Float) : Except ArithmeticFault Numeral :=
  match op with
  | .add => .ok (.float (x + y))
  | .sub => .ok (.float (x - y))
  | .mul => .ok (.float (x * y))
  | .div =>
    if y == 0.0 then .error (.zeroDivision "float division by zero") else .ok (.float (x / y))
  | .floorDiv =>
    if y == 0.0 then .error (.zeroDivision "float floor division by zero")
    else .ok (.float (Double.divideFloor x y).1)
  | .mod =>
    if y == 0.0 then .error (.zeroDivision "float modulo")
    else .ok (.float (Double.divideFloor x y).2)

/-- Arithmetic on two numbers; whole numbers stay whole unless they are divided. -/
def apply (op : BinaryOp) (a b : Numeral) : Except ArithmeticFault Numeral :=
  match a, b with
  | .int a, .int b => applyInt op a b
  | a, b =>
    match a.double?, b.double? with
    | some x, some y => applyFloat op x y
    | _, _ => .error (.overflow "int too large to convert to float")

end Numeral

namespace Eval

/-- The sign of an operator. -/
def opText : BinaryOp → Text
  | .add => "+"
  | .sub => "-"
  | .mul => "*"
  | .div => "/"
  | .floorDiv => "//"
  | .mod => "%"

/-- The sign of a comparison. -/
def compareText : CompareOp → Text
  | .eq => "=="
  | .ne => "!="
  | .lt => "<"
  | .le => "<="
  | .gt => ">"
  | .ge => ">="
  | .is => "is"
  | .isNot => "is not"
  | .mem => "in"
  | .notMem => "not in"

/-- The type of a value. -/
def typeName (v : Value) : Proc Text := return v.typeName (← Proc.heap)

/-- A new list. -/
def newList (items : List Value) : Proc Value := return .list (← Proc.alloc (.list items))

/-- A new dictionary. -/
def newDict (entries : Entries) : Proc Value := return .dict (← Proc.alloc (.dict entries))

/-- Says that an operator does not take two values. -/
def unsupported {α : Type} (sign : Text) (x y : Value) : Proc α := do
  Proc.error .typeError ("unsupported operand type(s) for " ++ sign ++ ": " ++
    Text.marked (← typeName x) ++ " and " ++ Text.marked (← typeName y))

/-- Arithmetic on two numbers, as a process. -/
def arithmetic (op : BinaryOp) (a b : Numeral) : Proc Value :=
  match a.apply op b with
  | .ok n => n.value
  | .error (.zeroDivision message) => Proc.error .zeroDivisionError message
  | .error (.overflow message) => Proc.error .overflowError message

/-- The whole number that counts repetitions. -/
def count? : Value → Option Int
  | .int i => some i
  | .bool b => some (if b then 1 else 0)
  | _ => none

/-- A list of anything a number of times over; not at all if the number is negative. -/
def replicate {α : Type} (n : Int) (items : List α) : List α :=
  if items.isEmpty then [] else (List.replicate n.toNat items).flatten

/-- The largest position in a sequence. -/
def maxPosition : Nat := 9223372036854775807

/-- The number of items that there is no memory for. -/
def tooMany : Nat := 4294967296

/-- A whole number where only positions of sequences will do; an exception of a class for others. -/
def position (type : ExceptionClass) (i : Int) : Proc Int :=
  if (maxPosition : Int) < i ∨ i < -(maxPosition : Int) - 1 then
    Proc.error type "cannot fit 'int' into an index-sized integer"
  else return i

/-- A sequence of so many items may be repeated as often; a text that gets too long is told from
other sequences. -/
def checkRoom (isText : Bool) (length : Nat) (n : Int) : Proc Unit :=
  if isText && maxPosition < length * n.toNat then
    Proc.error .overflowError "repeated string is too long"
  else if tooMany < length * n.toNat then Proc.raise (.plain .memoryError [])
  else return ()

/-- A new tuple. -/
def newTuple (items : List Value) : Proc Value := return .tuple (some (← Proc.mark)) items

/-- A sequence a number of times over, if the value is a sequence. -/
def repeated? (h : Heap) (v : Value) (n : Int) : Option (Proc Value) :=
  match v with
  | .str t => some do
    checkRoom true t.length n
    return .str (replicate n t)
  | .tuple _ items => some do
    checkRoom false items.length n
    newTuple (replicate n items)
  | .list r => some do
    checkRoom false (h.list r).length n
    newList (replicate n (h.list r))
  | _ => none

/-- The value is a sequence that can be repeated. -/
def isRepeatable : Value → Bool
  | .str _ | .tuple .. | .list _ => true
  | _ => false

/-- A sequence repeated as often as a value says. -/
def repetition (sequence times : Value) : Proc Value := do
  match count? times with
  | some n =>
    let n ← position .overflowError n
    match repeated? (← Proc.heap) sequence n with
    | some p => p
    | none => return sequence
  | none => Proc.error .typeError ("can't multiply sequence by non-int of type " ++
      Text.marked (← typeName times))

/-- Says that a value cannot be put after a sequence. -/
def cannotConcatenate (type : Text) (y : Value) : Proc Value := do
  Proc.error .typeError ("can only concatenate " ++ type ++ " (not \"" ++ (← typeName y) ++
    "\") to " ++ type)

/-- A text with values put in for its marks. -/
def formatted (t : Text) (v : Value) : Proc Value := do
  match Format.fill (← Proc.heap) t v with
  | .ok t => return .str t
  | .error e => Proc.raise e

/-- An operator, written as `sign`, between two values. -/
def binaryAs (sign : Text) (op : BinaryOp) (x y : Value) : Proc Value := do
  match x.numeral?, y.numeral? with
  | some a, some b => arithmetic op a b
  | _, _ =>
    match op, x, y with
    | .add, .str t, .str u => return .str (t ++ u)
    | .add, .tuple _ xs, .tuple _ ys => newTuple (xs ++ ys)
    | .add, .list r, .list s =>
      let h ← Proc.heap
      newList (h.list r ++ h.list s)
    | .add, .str _, y => cannotConcatenate "str" y
    | .add, .tuple .., y => cannotConcatenate "tuple" y
    | .add, .list _, y => cannotConcatenate "list" y
    | .mod, .str t, y => formatted t y
    | .mul, x, y =>
      if isRepeatable x then repetition x y
      else if isRepeatable y then repetition y x
      else unsupported sign x y
    | _, x, y => unsupported sign x y

/-- An operator between two values. -/
def binary (op : BinaryOp) (x y : Value) : Proc Value := binaryAs (opText op) op x y

/-- Says that a value holds no values. -/
def notIterable {α : Type} (v : Value) : Proc α := do
  Proc.error .typeError (Text.marked (← typeName v) ++ " object is not iterable")

/-- The values that a value holds. -/
def items (v : Value) : Proc (List Value) := do
  match v.items? (← Proc.heap) with
  | some vs => return vs
  | none => notIterable v

/-- An operator that updates a value; a list is changed in place. -/
def update (op : BinaryOp) (x y : Value) : Proc Value := do
  match op, x with
  | .add, .list r =>
    let added ← items y
    Proc.setItems r ((← Proc.heap).list r ++ added)
    return x
  | .mul, .list r =>
    match count? y with
    | some n =>
      let n ← position .overflowError n
      checkRoom false ((← Proc.heap).list r).length n
      Proc.setItems r (replicate n ((← Proc.heap).list r))
      return x
    | none => binaryAs "*=" op x y
  | op, x => binaryAs (opText op ++ "=") op x y

/-- An operator before a value. -/
def unary (op : UnaryOp) (v : Value) : Proc Value := do
  match op, v.numeral? with
  | .not, _ => return .bool (!v.truth (← Proc.heap))
  | .neg, some (.int i) => return .int (-i)
  | .neg, some n | .plus, some n =>
    match op, n with
    | .neg, .float x => (Numeral.float (-x)).value
    | _, n => n.value
  | .neg, none =>
    Proc.error .typeError ("bad operand type for unary -: " ++ Text.marked (← typeName v))
  | .plus, none =>
    Proc.error .typeError ("bad operand type for unary +: " ++ Text.marked (← typeName v))

/-- Says that a value is no key. -/
def unhashable {α : Type} (type : Text) : Proc α :=
  Proc.error .typeError ("unhashable type: " ++ Text.marked type)

/-- A value as a key. -/
def checkKey (v : Value) : Proc Unit :=
  match v.unhashable? with
  | some type => unhashable type
  | none => return ()

/-- What is said about values that are nested too deep to be compared. -/
def tooDeepToCompare {α : Type} : Proc α :=
  Proc.error .recursionError "maximum recursion depth exceeded in comparison"

/-- Whether two values agree, unless they are nested too deep. -/
def decided (answer : Option Bool) : Proc Bool :=
  match answer with
  | some b => return b
  | none => tooDeepToCompare

/-- A whole number is in an arithmetic progression. -/
def inRange (start stop step i : Int) : Bool :=
  (if 0 < step then start ≤ i && i < stop else stop < i && i ≤ start) && (i - start) % step == 0

/-- A value is held by another. -/
def member (x collection : Value) : Proc Bool := do
  let h ← Proc.heap
  match collection with
  | .str t =>
    match x with
    | .str u => return (Text.cut? u t).isSome
    | x => Proc.error .typeError ("'in <string>' requires string as left operand, not " ++
        x.typeName h)
  | .dict r => do
    checkKey x
    return ((h.dict r).get? x).isSome
  | .entries r =>
    match x with
    | .tuple _ [key, value] => do
      checkKey key
      match (h.dict r).get? key with
      | some w => decided (w.same? h value)
      | none => return false
    | _ => return false
  | .range start stop step =>
    match x.numeral? with
    | some (.int i) => return inRange start stop step i
    | some (.float y) =>
      match Double.truncate? y with
      | some i => return (Double.compareInt i y == some .eq) && inRange start stop step i
      | none => return false
    | none => return false
  | collection =>
    match collection.items? h with
    | some vs => decided (Value.anySame? h x vs)
    | none => Proc.error .typeError ("argument of type " ++ Text.marked (collection.typeName h) ++
        " is not iterable")

/-- An order is as a comparison asks. -/
def holds (op : CompareOp) (order : Option Ordering) : Bool :=
  match op, order with
  | .lt, some o => o == .lt
  | .le, some o => o != .gt
  | .gt, some o => o == .gt
  | .ge, some o => o != .lt
  | _, _ => false

/-- A comparison of two values. -/
def compare (op : CompareOp) (x y : Value) : Proc Bool := do
  let h ← Proc.heap
  match op with
  | .eq => decided (x.equal? h y)
  | .ne => return !(← decided (x.equal? h y))
  | .is => return x.identical y
  | .isNot => return !x.identical y
  | .mem => member x y
  | .notMem => return !(← member x y)
  | op =>
    match x.order h y with
    | .ok order => return holds op order
    | .error .depth => tooDeepToCompare
    | .error (.between a b) =>
      Proc.error .typeError (Text.marked (compareText op) ++
        " not supported between instances of " ++ Text.marked (a.typeName h) ++ " and " ++
        Text.marked (b.typeName h))

end Eval

end Stencil
