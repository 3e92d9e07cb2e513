import Stencil.Eval.Frame
import Stencil.Eval.Item
import Stencil.Eval.Iteration
import Stencil.Eval.Native
import Stencil.Script.Scope

/-!
# Evaluating expressions

An expression is evaluated in a frame by recursion on its syntax. What a call does is left open, so
that calls, which may lead anywhere, are tied in elsewhere.

## Main definitions

* `Interp` — what evaluation leaves open.
* `Expr.eval` — the value of an expression.
* `Target.assign` — a value is assigned.
-/

namespace Stencil

open Script

/-- What evaluation leaves open. -/
structure Interp where
  /-- The number of rounds that a loop may take. -/
  limit : Nat
  /-- The number of activations that may be going on. -/
  depth : Nat
  /-- A value is called. -/
  call : Caller → Value → List Value → Names → Proc Value
  /-- A value is awaited. -/
  await : Caller → Value → Proc Value

namespace Interp

/-- There is room for one more activation. -/
def enter (I : Interp) (caller : Caller) : Proc Unit :=
  if I.depth ≤ caller.depth then
    Proc.error .recursionError "maximum recursion depth exceeded"
  else return ()

end Interp

namespace Script

/-- The value of a constant. -/
def Const.value : Const → Value
  | .none => .none
  | .bool b => .bool b
  | .int n => .int n
  | .decimal digits exponent => .float (Double.ofScientific digits exponent)
  | .str t => .str t

/-- The row of a call: that of the name for a method. -/
def Expr.callRow (s : Span) : Expr → Nat
  | .attr _ _ _ nameRow => nameRow
  | _ => s.row

/-- A text to be put into another. -/
def Conversion.apply (c : Conversion) (v : Value) : Proc Text := do
  match c with
  | .plain => Proc.text v
  | .quoted => Proc.quoted v
  | .ascii => return Text.inAscii (← Proc.quoted v)

/-- The expression is a constant or a tuple of constants. -/
def Expr.isConst : Expr → Bool
  | .const .. => true
  | .tuple _ items => constItems items
  | _ => false
where
  constItems : List Expr → Bool
    | [] => true
    | e :: es => e.isConst && constItems es

/-- How many of the entries of a dictionary, from the first one on, are put into it one by one as
they are evaluated: runs of seventeen, and a last run of sixteen. The others are put in together. -/
def entriesOneByOne (count : Nat) : Nat :=
  if count % 17 = 16 then count else count / 17 * 17

/-- Entries are put into a dictionary. -/
def putEntries (es : Entries) (added : Entries) : Proc Entries := do
  added.forM fun (k, _) => Eval.checkKey k
  return es.update added

mutual

/-- The value of an expression. -/
def Expr.eval (I : Interp) (f : Frame) : Expr → Proc Value
  | .const _ c => return c.value
  | .name s id => f.locate s.row (f.lookup id)
  | .joined s pieces => return .str (← evalPieces I f s.row pieces)
  | .list _ items => do Eval.newList (← evalAll I f items)
  | .tuple _ items => do
    let vs ← evalAll I f items
    if items.all Expr.isConst then return .tuple none vs else Eval.newTuple vs
  | .dict s entries => do
    Eval.newDict (← evalEntries I f s.row (entriesOneByOne entries.length) [] [] entries)
  | .binary s op left right => do
    let x ← left.eval I f
    let y ← right.eval I f
    f.locate s.row (Eval.binary op x y)
  | .unary s op operand => do
    let v ← operand.eval I f
    f.locate s.row (Eval.unary op v)
  | .logic _ conjunction first rest => do
    let v ← first.eval I f
    evalLogic I f conjunction v rest
  | .compare s first rest => do
    let v ← first.eval I f
    evalComparisons I f s.row v rest
  | .choose _ test yes no => do
    let v ← test.eval I f
    if v.truth (← Proc.heap) then yes.eval I f else no.eval I f
  | .index s base key => do
    let b ← base.eval I f
    let k ← key.eval I f
    f.locate s.row (Eval.index b k)
  | .slice _ lower upper step => do
    let lower ← evalBound I f lower
    let upper ← evalBound I f upper
    let step ← evalBound I f step
    return .slice lower upper step
  | .attr _ base id nameRow => do
    let b ← base.eval I f
    f.locate nameRow (Eval.attr b id)
  | .call s function args named => do
    let v ← function.eval I f
    let vs ← evalAll I f args
    let ns ← evalNamed I f named
    f.locate (function.callRow s) (I.call f.caller v vs ns)
  | .comprehension s item target source conditions => do
    let v ← source.eval I f
    let cursor ← f.locate s.row (Eval.start v)
    f.locate s.row do
      I.enter f.caller
      let scope ← Proc.alloc (.scope target.names [])
      let g := { f with scopes := scope :: f.scopes, depth := f.depth + 1 }
      let items ← Proc.iterate (fun (cursor, done) => do
        match ← g.locate s.row (Eval.advance cursor) with
        | none => return .inr done
        | some (v, cursor) =>
          target.assign I g v
          if ← evalConditions I g conditions then
            return .inl (cursor, (← item.eval I g) :: done)
          else return .inl (cursor, done)) I.limit (cursor, ([] : List Value))
      Eval.newList items.reverse
  | .await s value => do
    let v ← value.eval I f
    f.locate s.row (I.await f.caller v)

/-- The values of expressions, from the left. -/
def evalAll (I : Interp) (f : Frame) : List Expr → Proc (List Value)
  | [] => return []
  | e :: es => do
    let v ← e.eval I f
    return v :: (← evalAll I f es)

/-- A text with values put in, which begins on a row. -/
def evalPieces (I : Interp) (f : Frame) (row : Nat) : List Piece → Proc Text
  | [] => return []
  | .text t :: rest => return t ++ (← evalPieces I f row rest)
  | .value e conversion :: rest => do
    let v ← e.eval I f
    let t ← f.locate row (conversion.apply v)
    return t ++ (← evalPieces I f row rest)

/-- An expression that may be missing, which then stands for nothing. -/
def evalBound (I : Interp) (f : Frame) : Option Expr → Proc Value
  | none => return .none
  | some e => e.eval I f

/-- The entries of a dictionary. Those in `done` are in the dictionary; of the others the first
`direct` are put in one by one, while those in `waiting` and all that follow are put in together. -/
def evalEntries (I : Interp) (f : Frame) (row : Nat) (direct : Nat) (done waiting : Entries) :
    List Entry → Proc Entries
  | [] => f.locate row (putEntries done waiting)
  | .mk key value :: rest => do
    let k ← key.eval I f
    let v ← value.eval I f
    match direct with
    | 0 => evalEntries I f row 0 done (waiting ++ [(k, v)]) rest
    | direct + 1 =>
      let done ← f.locate row (putEntries done [(k, v)])
      evalEntries I f row direct done waiting rest

/-- Arguments given by name. -/
def evalNamed (I : Interp) (f : Frame) : List Named → Proc Names
  | [] => return []
  | .mk _ id value :: rest => do
    let v ← value.eval I f
    return (id, v) :: (← evalNamed I f rest)

/-- Operands joined by `and` or `or` after one with value `v`: the first that decides, or the
last. -/
def evalLogic (I : Interp) (f : Frame) (conjunction : Bool) (v : Value) :
    List Expr → Proc Value
  | [] => return v
  | e :: es => do
    if v.truth (← Proc.heap) == conjunction then
      let w ← e.eval I f
      evalLogic I f conjunction w es
    else return v

/-- A chain of comparisons that begins with a value: true if all hold. -/
def evalComparisons (I : Interp) (f : Frame) (row : Nat) (v : Value) :
    List Comparison → Proc Value
  | [] => return .bool true
  | .mk op right :: rest => do
    let w ← right.eval I f
    if ← f.locate row (Eval.compare op v w) then evalComparisons I f row w rest
    else return .bool false

/-- All conditions hold. -/
def evalConditions (I : Interp) (f : Frame) : List Expr → Proc Bool
  | [] => return true
  | e :: es => do
    let v ← e.eval I f
    if v.truth (← Proc.heap) then evalConditions I f es else return false

/-- A value is assigned. -/
def Target.assign (I : Interp) (f : Frame) (v : Value) : Target → Proc Unit
  | .name _ id => f.bind id v
  | .items s targets => do
    let vs ← f.locate s.row (Eval.unpack targets.length v)
    assignAll I f vs targets
  | .index s base key => do
    let b ← base.eval I f
    let k ← key.eval I f
    f.locate s.row (Eval.setIndex b k v)
  | .attr _ base id nameRow => do
    let b ← base.eval I f
    f.locate nameRow (Eval.setAttr b id v)

/-- What a target is part of is evaluated, for what that does. -/
def Target.inspect (I : Interp) (f : Frame) : Target → Proc Unit
  | .name .. | .items .. => return ()
  | .index _ base key => do
    let _ ← base.eval I f
    let _ ← key.eval I f
  | .attr _ base _ _ => do
    let _ ← base.eval I f

/-- Values are assigned one by one. -/
def assignAll (I : Interp) (f : Frame) (vs : List Value) : List Target → Proc Unit
  | [] => return ()
  | t :: ts => do
    t.assign I f (vs.headD .none)
    assignAll I f vs.tail ts

end

end Script

end Stencil
