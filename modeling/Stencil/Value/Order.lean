import Stencil.Value.Print

/-!
# Comparing values

Truth, equality and order of values. Lists, tuples and dictionaries are compared by what they hold,
so that two of them can be equal without being one; the order of sequences is that of the first
items that differ.

## Main definitions

* `Value.truth` — a value as a test.
* `Value.same?`, `Value.equal?` — two values are one object or equal, or equal as numbers are.
* `Value.order` — the order of two values, or why they have none.
* `Value.items?` — the values that a value holds one after another.
-/

namespace Stencil

namespace Numeral

/-- The order of two numbers; there is none if one of them is not a number. -/
def order? : Numeral → Numeral → Option Ordering
  | .int i, .int j => some (compare i j)
  | .float x, .float y =>
    if x < y then some .lt else if y < x then some .gt else if x == y then some .eq else none
  | .int i, .float y => Double.compareInt i y
  | .float x, .int j => (Double.compareInt j x).map Ordering.swap

end Numeral

namespace Value

/-- The whole numbers of an arithmetic progression. -/
def rangeItems (start stop step : Int) : List Value :=
  (List.range (rangeLength start stop step)).map fun (i : Nat) => .int (start + step * i)

/-- The values that a value holds one after another; none if it is no collection. -/
def items? (h : Heap) : Value → Option (List Value)
  | .str t => some (t.map fun c => .str [c])
  | .tuple _ items => some items
  | .list r => some (h.list r)
  | .dict r => some ((h.dict r).map (·.1))
  | .entries r => some ((h.dict r).map fun (k, v) => .tuple Option.none [k, v])
  | .range start stop step => some (rangeItems start stop step)
  | _ => Option.none

/-- The first `count` values that a value holds, and the next if there is one. -/
def itemsBeyond? (h : Heap) (count : Nat) : Value → Option (List Value)
  | .range start stop step =>
    let n := min (rangeLength start stop step) (count + 1)
    some ((List.range n).map fun (i : Nat) => .int (start + step * i))
  | v => v.items? h

/-- The number of values that a value holds; none if it has no length. -/
def length? (h : Heap) : Value → Option Nat
  | .str t => some t.length
  | .tuple _ items => some items.length
  | .list r => some (h.list r).length
  | .dict r | .entries r => some (h.dict r).length
  | .range start stop step => some (rangeLength start stop step)
  | _ => Option.none

/-- A value as a test: what is empty, zero or nothing is false. -/
def truth (h : Heap) : Value → Bool
  | .none => false
  | .bool b => b
  | .int i => i != 0
  | .float x => !(x == 0.0)
  | v => (v.length? h).all (· != 0)

/-- All pairs agree, unless it cannot be told of one before which all do. -/
def allAgree {α : Type} (agree : α → Option Bool) : List α → Option Bool
  | [] => some true
  | a :: rest =>
    match agree a with
    | some true => allAgree agree rest
    | other => other

/-- Two values are one object or equal, for values inside each other down to a depth; nothing is
said about values that are nested deeper. -/
def sameWithin (h : Heap) : (depth : Nat) → Value → Value → Option Bool
  | 0, _, _ => Option.none
  | depth + 1, x, y =>
    let all (xs ys : List Value) : Option Bool :=
      if xs.length = ys.length then
        allAgree (fun (p : Value × Value) => sameWithin h depth p.1 p.2) (xs.zip ys)
      else some false
    match x, y with
    | .list r, .list s => if r = s then some true else all (h.list r) (h.list s)
    | .tuple a xs, .tuple b ys => if a.isSome ∧ a = b then some true else all xs ys
    | .slice a b c, .slice d e f => all [a, b, c] [d, e, f]
    | .dict r, .dict s =>
      if r = s then some true
      else if (h.dict r).length = (h.dict s).length then
        allAgree (fun (p : Value × Value) =>
          match (h.dict s).get? p.1 with
          | some w => sameWithin h depth p.2 w
          | Option.none => some false) (h.dict r)
      else some false
    | x, y => some (x.sameKey y)

/-- Two values are one object or equal. -/
def same? (h : Heap) (x y : Value) : Option Bool := sameWithin h maxDepth x y

/-- Two values are equal; what is no number does not even equal itself. -/
def equal? (h : Heap) (x y : Value) : Option Bool :=
  match x, y with
  | .nan _, .nan _ => some false
  | x, y => x.same? h y

/-- One of some values is the same object as another one or equal to it; the flag of the result
tells whether it is found. -/
def anySame? (h : Heap) (x : Value) : List Value → Option Bool
  | [] => some false
  | y :: ys =>
    match y.same? h x with
    | some false => anySame? h x ys
    | other => other

/-- The first items of two lists that are not equal, if there are any. -/
def firstDifference? (h : Heap) : List Value → List Value → Option (Option (Value × Value))
  | x :: xs, y :: ys =>
    match x.same? h y with
    | some true => firstDifference? h xs ys
    | some false => some (some (x, y))
    | Option.none => Option.none
  | _, _ => some Option.none

/-- The order of two texts. -/
def textOrder : Text → Text → Ordering
  | [], [] => .eq
  | [], _ :: _ => .lt
  | _ :: _, [] => .gt
  | c :: t, d :: u => if c < d then .lt else if d < c then .gt else textOrder t u

/-- Why two values have no order. -/
inductive OrderFault where
  /-- These values, which may be inside the others, cannot be compared. -/
  | between (x y : Value)
  /-- They are nested too deep. -/
  | depth

/-- The order of two values; none if one of them is not a number though it has the type of one. -/
def orderWithin (h : Heap) :
    (depth : Nat) → Value → Value → Except OrderFault (Option Ordering)
  | 0, _, _ => .error .depth
  | depth + 1, x, y =>
    let sequences (xs ys : List Value) : Except OrderFault (Option Ordering) :=
      match firstDifference? h xs ys with
      | some (some (a, b)) => orderWithin h depth a b
      | some Option.none => .ok (some (compare xs.length ys.length))
      | Option.none => .error .depth
    match x, y with
    | .str t, .str u => .ok (some (textOrder t u))
    | .list r, .list s => sequences (h.list r) (h.list s)
    | .tuple _ xs, .tuple _ ys => sequences xs ys
    | x, y =>
      match x.numeral?, y.numeral? with
      | some a, some b => .ok (a.order? b)
      | _, _ => .error (.between x y)

/-- The order of two values, or why they have none. -/
def order (h : Heap) (x y : Value) : Except OrderFault (Option Ordering) :=
  orderWithin h maxDepth x y

mutual

/-- Two values are one: the same object, or the same plain value of one type. -/
def identical : Value → Value → Bool
  | .tuple a xs, y => match y with
    | .tuple b ys =>
      if a.isSome ∨ b.isSome then a == b || (xs.isEmpty && ys.isEmpty) else allIdentical xs ys
    | _ => false
  | .bool a, .bool b => a == b
  | .int i, .int j => i == j
  | .float x, .float y => x.toBits == y.toBits
  | .nan r, .nan s => r == s
  | .bool _, _ | _, .bool _ | .int _, _ | _, .int _ | .float _, _ | _, .float _ => false
  | x, y => x.sameKey y

/-- Two lists of values are item by item one. -/
def allIdentical : List Value → List Value → Bool
  | [], ys => ys.isEmpty
  | x :: xs, ys => match ys with
    | [] => false
    | y :: ys => x.identical y && allIdentical xs ys

end

end Value

end Stencil
