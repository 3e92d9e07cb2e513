import Stencil.Eval.Operator

/-!
# Items

Items of sequences by position, values of dictionaries by key, and runs of items. Positions count
from the end if they are negative.

## Main definitions

* `Eval.index` — an item, a run of items or the value of a key.
* `Eval.setIndex` — gives an item, a run of items or a key a value.
* `Bounds` — the positions of a run.
-/

namespace Stencil

/-- The positions of a run of items: from `start` on in steps, before `stop`. -/
structure Bounds where
  start : Int
  stop : Int
  step : Int
  deriving DecidableEq, Repr, Inhabited

namespace Bounds

/-- A position counted from the end if it is negative, and moved to an end if it lies outside. -/
def clamp (length : Nat) (backward : Bool) (i : Int) : Int :=
  let i := if i < 0 then i + length else i
  if i < 0 then if backward then -1 else 0
  else if (length : Int) ≤ i then if backward then length - 1 else length
  else i

/-- The run with the given bounds in a sequence; a bound that is not given is an end. -/
def of (length : Nat) (lower upper : Option Int) (step : Int) : Bounds :=
  let backward : Bool := step < 0
  let first : Int := if backward then length - 1 else 0
  let last : Int := if backward then -1 else length
  ⟨(lower.map (clamp length backward)).getD first, (upper.map (clamp length backward)).getD last,
    step⟩

/-- The positions of a run. -/
def positions (b : Bounds) : List Nat :=
  (List.range (rangeLength b.start b.stop b.step)).map fun (i : Nat) => (b.start + b.step * i).toNat

/-- The items of a run. -/
def pick {α : Type} (b : Bounds) (items : List α) : List α :=
  let items := items.toArray
  b.positions.filterMap fun i => items[i]?

end Bounds

namespace Eval

/-- A place in a sequence, counted from the end if it is negative. -/
def place? (length : Nat) (i : Int) : Option Nat :=
  let i := if i < 0 then i + length else i
  if 0 ≤ i ∧ i < length then some i.toNat else none

/-- Says that a value has no items. -/
def notSubscriptable {α : Type} (v : Value) : Proc α := do
  let type ← typeName v
  match v with
  | .native f =>
    if f = .len then Proc.error .typeError (Text.marked type ++ " object is not subscriptable")
    else Proc.error .typeError ("type " ++ Text.marked (Text.ofString f.id) ++
      " is not subscriptable")
  | .exceptionClass c =>
    Proc.error .typeError ("type " ++ Text.marked (Text.ofString c.text) ++ " is not subscriptable")
  | _ => Proc.error .typeError (Text.marked type ++ " object is not subscriptable")

/-- The item of a sequence at a position; only progressions have positions beyond all sequences. -/
def itemAt (kind : Text) (length : Nat) (item? : Nat → Option Value) (key : Value) :
    Proc Value := do
  match count? key with
  | some i =>
    let i ← if kind = "range object" then pure i else position .indexError i
    match (place? length i).bind item? with
    | some v => return v
    | none => Proc.error .indexError (kind ++ " index out of range")
  | none =>
    let type ← typeName key
    if kind = "string" then
      Proc.error .typeError ("string indices must be integers, not " ++ Text.marked type)
    else
      let kind : Text := if kind = "range object" then "range" else kind
      Proc.error .typeError (kind ++ " indices must be integers or slices, not " ++ type)

/-- A bound of a run. -/
def bound (v : Value) : Proc (Option Int) :=
  match v with
  | .none => return none
  | v =>
    match count? v with
    | some i => return some i
    | none => Proc.error .typeError
        "slice indices must be integers or None or have an __index__ method"

/-- The run that values describe in a sequence. -/
def bounds (length : Nat) (lower upper step : Value) : Proc Bounds := do
  let step := (← bound step).getD 1
  if step = 0 then Proc.error .valueError "slice step cannot be zero"
  else
    let lower ← bound lower
    let upper ← bound upper
    return Bounds.of length lower upper step

/-- A run of the items of a sequence. -/
def run (base lower upper step : Value) : Proc Value := do
  let h ← Proc.heap
  match base with
  | .list r => newList ((← bounds (h.list r).length lower upper step).pick (h.list r))
  | .tuple id items =>
    let b ← bounds items.length lower upper step
    if b = ⟨0, items.length, 1⟩ then return .tuple id items else newTuple (b.pick items)
  | .str t => return .str ((← bounds t.length lower upper step).pick t)
  | .range start stop by_ =>
    let b ← bounds (rangeLength start stop by_) lower upper step
    return .range (start + by_ * b.start) (start + by_ * b.stop) (by_ * b.step)
  | .dict _ => unhashable "slice"
  | base => notSubscriptable base

/-- An item of a sequence, a run of its items, or the value of a key. -/
def index (base key : Value) : Proc Value := do
  let h ← Proc.heap
  match key with
  | .slice lower upper step => run base lower upper step
  | key =>
    match base with
    | .list r => itemAt "list" (h.list r).length (fun i => (h.list r)[i]?) key
    | .tuple _ items => itemAt "tuple" items.length (fun i => items[i]?) key
    | .str t => itemAt "string" t.length (fun i => (t[i]?).map fun c => .str [c]) key
    | .range start stop step =>
      itemAt "range object" (rangeLength start stop step)
        (fun i => some (.int (start + step * i))) key
    | .dict r =>
      checkKey key
      match (h.dict r).get? key with
      | some v => return v
      | none => Proc.raise (.plain .keyError [key])
    | base => notSubscriptable base

/-- Items with others in the place of a run. -/
def withRun (b : Bounds) (items added : List Value) : Proc (List Value) :=
  if b.step = 1 then
    let first := b.start.toNat
    return items.take first ++ added ++ items.drop (max first b.stop.toNat)
  else
    let places := b.positions
    if places.length = added.length then
      return (places.zip added).foldl (fun items (i, v) => items.set i v) items
    else
      Proc.error .valueError ("attempt to assign sequence of size " ++ Text.ofNat added.length ++
        " to extended slice of size " ++ Text.ofNat places.length)

/-- The values that are assigned to a run of items. -/
def assignable (v : Value) (b : Bounds) : Proc (List Value) := do
  match v.items? (← Proc.heap) with
  | some vs => return vs
  | none =>
    Proc.error .typeError (if b.step = 1 then "can only assign an iterable"
      else "must assign iterable to extended slice")

/-- Gives an item of a list, a run of its items or a key of a dictionary a value. -/
def setIndex (base key v : Value) : Proc Unit := do
  let h ← Proc.heap
  match base, key with
  | .list r, .slice lower upper step =>
    let b ← bounds (h.list r).length lower upper step
    Proc.setItems r (← withRun b (h.list r) (← assignable v b))
  | .list r, key =>
    match count? key with
    | some i =>
      let i ← position .indexError i
      match place? (h.list r).length i with
      | some i => Proc.setItems r ((h.list r).set i v)
      | none => Proc.error .indexError "list assignment index out of range"
    | none =>
      Proc.error .typeError ("list indices must be integers or slices, not " ++ key.typeName h)
  | .dict r, key =>
    checkKey key
    Proc.setEntries r ((h.dict r).insert key v)
  | base, _ =>
    Proc.error .typeError (Text.marked (base.typeName h) ++
      " object does not support item assignment")

end Eval

end Stencil
