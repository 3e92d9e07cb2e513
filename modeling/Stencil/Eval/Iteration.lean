import Stencil.Eval.Operator

/-!
# Iteration

Going through a value one item at a time. A list may grow meanwhile, and what is appended is still
reached; a dictionary must keep its size.

## Main definitions

* `Cursor` — where an iteration stands.
* `Eval.start`, `Eval.advance` — the beginning of an iteration, and one step of it.
* `Eval.unpack` — exactly so many values out of one.
-/

namespace Stencil

/-- Where an iteration stands. -/
inductive Cursor where
  | items (left : List Value)
  | list (r : Ref) (next : Nat)
  /-- The keys of a dictionary, or its entries; its size at the beginning. -/
  | dict (r : Ref) (next size : Nat) (pairs : Bool)
  | range (next step : Int) (left : Nat)
  deriving Inhabited

namespace Cursor

/-- The beginning of an iteration over a value; none if it holds no values. -/
def of? (h : Heap) : Value → Option Cursor
  | .list r => some (.list r 0)
  | .dict r => some (.dict r 0 (h.dict r).length false)
  | .entries r => some (.dict r 0 (h.dict r).length true)
  | .range start stop step => some (.range start step (rangeLength start stop step))
  | v => (v.items? h).map .items

end Cursor

namespace Eval

/-- The beginning of an iteration over a value. -/
def start (v : Value) : Proc Cursor := do
  match Cursor.of? (← Proc.heap) v with
  | some c => return c
  | none => notIterable v

/-- The next value of an iteration, and where it stands then; none at its end. -/
def advance (c : Cursor) : Proc (Option (Value × Cursor)) := do
  match c with
  | .items [] => return none
  | .items (v :: vs) => return some (v, .items vs)
  | .list r next =>
    return (((← Proc.heap).list r)[next]?).map fun v => (v, .list r (next + 1))
  | .dict r next size pairs =>
    let entries := (← Proc.heap).dict r
    if entries.length = size then
      return (entries[next]?).map fun (k, v) =>
        (if pairs then .tuple none [k, v] else k, .dict r (next + 1) size pairs)
    else Proc.error .runtimeError "dictionary changed size during iteration"
  | .range _ _ 0 => return none
  | .range next step (left + 1) => return some (.int next, .range (next + step) step left)

/-- Exactly `count` values out of one. -/
def unpack (count : Nat) (v : Value) : Proc (List Value) := do
  match v.itemsBeyond? (← Proc.heap) count with
  | none =>
    Proc.error .typeError ("cannot unpack non-iterable " ++ (← typeName v) ++ " object")
  | some vs =>
    if vs.length = count then return vs
    else if vs.length < count then
      Proc.error .valueError ("not enough values to unpack (expected " ++ Text.ofNat count ++
        ", got " ++ Text.ofNat vs.length ++ ")")
    else
      Proc.error .valueError ("too many values to unpack (expected " ++ Text.ofNat count ++ ")")

end Eval

end Stencil
