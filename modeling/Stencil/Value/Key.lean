import Stencil.Value.Basic

/-!
# Dictionaries

The entries of a dictionary stand in the order in which their keys came. Keys are compared by
value, so that 1, 1.0 and `True` are one key. Giving a key a new value keeps the old key and its
place.

## Main definitions

* `Value.sameKey` — two values are one key.
* `Value.unhashable?` — why a value is no key.
* `Entries.get?`, `Entries.insert`, `Entries.erase`, `Entries.update` — operations on entries.
-/

namespace Stencil

/-- A number, whatever type it has. -/
inductive Numeral where
  | int (i : Int)
  | float (x : Float)

namespace Value

/-- The number that a value is. -/
def numeral? : Value → Option Numeral
  | .bool b => some (.int (if b then 1 else 0))
  | .int i => some (.int i)
  | .float x => some (.float x)
  | .nan _ => some (.float (0.0 / 0.0))
  | _ => Option.none

end Value

namespace Numeral

/-- Two numbers are equal. -/
def same : Numeral → Numeral → Bool
  | .int i, .int j => i == j
  | .float x, .float y => x == y
  | .int i, .float y => Double.compareInt i y == some .eq
  | .float x, .int j => Double.compareInt j x == some .eq

end Numeral

/-- The number of items of an arithmetic progression. -/
def rangeLength (start stop step : Int) : Nat :=
  if 0 < step then if start < stop then ((stop - start - 1) / step + 1).toNat else 0
  else if step < 0 then if stop < start then ((start - stop - 1) / (-step) + 1).toNat else 0
  else 0

mutual

/-- Two values are one key: they are one object or equal. -/
def Value.sameKey : Value → Value → Bool
  | .tuple _ xs, y => match y with
    | .tuple _ ys => sameKeys xs ys
    | _ => false
  | .slice a b c, y => match y with
    | .slice d e f => a.sameKey d && b.sameKey e && c.sameKey f
    | _ => false
  | .none, .none => true
  | .nan r, .nan s => r == s
  | .str t, .str u => t == u
  | .list r, .list s | .dict r, .dict s | .entries r, .entries s | .function r, .function s
  | .exception r, .exception s | .module r, .module s | .coroutine r, .coroutine s => r == s
  | .native f, .native g => f == g
  | .unbound f m, .unbound g n => f == g && m == n
  | .exceptionClass c, .exceptionClass d => c == d
  | .capability c, .capability d => c == d
  | .range a b c, .range d e f =>
    let n := rangeLength a b c
    n == rangeLength d e f && (n == 0 || (a == d && (n == 1 || c == f)))
  | .foreign a b c, .foreign d e f => a == d && b == e && c == f
  | .method v m, y => match y with
    | .method w n => m == n && v.sameKey w
    | _ => false
  | x, y => match x.numeral?, y.numeral? with
    | some a, some b => a.same b
    | _, _ => false

/-- Two lists of values are item by item one key. -/
def sameKeys : List Value → List Value → Bool
  | [], [] => true
  | x :: xs, ys => match ys with
    | y :: ys => x.sameKey y && sameKeys xs ys
    | [] => false
  | [], _ :: _ => false

end

mutual

/-- The type of a value that is no key, or that holds one that is none. -/
def Value.unhashable? : Value → Option String
  | .list _ => some "list"
  | .dict _ => some "dict"
  | .entries _ => some "dict_items"
  | .slice .. => some "slice"
  | .tuple _ items => unhashableIn? items
  | _ => none

/-- The type of the first value that is no key. -/
def unhashableIn? : List Value → Option String
  | [] => none
  | v :: vs => v.unhashable?.or (unhashableIn? vs)

end

namespace Entries

/-- The value of a key. -/
def get? (es : Entries) (key : Value) : Option Value :=
  (es.find? fun (k, _) => k.sameKey key).map (·.2)

/-- The entries with a value for a key; a key that is there keeps its place. -/
def insert (key value : Value) : Entries → Entries
  | [] => [(key, value)]
  | (k, v) :: rest => if k.sameKey key then (k, value) :: rest else (k, v) :: insert key value rest

/-- The entries without a key. -/
def erase (es : Entries) (key : Value) : Entries := es.filter fun (k, _) => !k.sameKey key

/-- The entries with those of another dictionary put in one after another. -/
def update (es others : Entries) : Entries :=
  others.foldl (fun es (k, v) => insert k v es) es

/-- The entries that pairs make up, put in one after another. -/
def ofPairs (pairs : List (Value × Value)) : Entries := update [] pairs

/-- The value of a key that is a text. -/
def getText? (es : Entries) (key : Text) : Option Value := get? es (.str key)

end Entries

end Stencil
