import Stencil.Proofs.Script.Spot

/-!
# The work of nodes

What a node of a script does of its own, apart from the nodes inside it: an operator is applied, a name
is looked up, a value is called. Whatever goes wrong in this, or in what a call leads to, is located at
the node.

## Main definitions

* `comprehend`, `comprehended` — the rounds of a comprehension, and its list.
* `Spot.Does` — the work of a node.
-/

namespace Stencil.Script

/-- The rounds of a comprehension, each of which may put a value in front of those before it. -/
def comprehend (I : Interp) (g : Frame) (s : Span) (item : Expr) (target : Target)
    (conditions : List Expr) (cursor : Stencil.Cursor) : Proc (List Value) :=
  Proc.iterate (fun (cursor, done) => do
    match ← g.locate s.row (Eval.advance cursor) with
    | none => return .inr done
    | some (v, cursor) =>
      target.assign I g v
      if ← evalConditions I g conditions then
        return .inl (cursor, (← item.eval I g) :: done)
      else return .inl (cursor, done)) I.limit (cursor, ([] : List Value))

/-- The list of a comprehension, whose rounds go on in a scope of their own. -/
def comprehended (I : Interp) (f : Frame) (s : Span) (item : Expr) (target : Target)
    (conditions : List Expr) (cursor : Stencil.Cursor) : Proc Value := do
  I.enter f.caller
  let scope ← Proc.alloc (.scope target.names [])
  let items ← comprehend I { f with scopes := scope :: f.scopes, depth := f.depth + 1 } s item target
    conditions cursor
  Eval.newList items.reverse

/-- The work of a node: what it does with the values of the nodes inside it. A target that is updated
is looked up first. -/
inductive Spot.Does : Spot → {α : Type} → Proc α → Prop
  | name {s : Span} {id : Text} (f : Frame) : Does (.expr (.name s id)) (f.lookup id)
  | joined {s : Span} {pieces : List Piece} (c : Conversion) (v : Value) :
      Does (.expr (.joined s pieces)) (c.apply v)
  | dict {s : Span} {entries : List Entry} (done added : Entries) :
      Does (.expr (.dict s entries)) (putEntries done added)
  | binary {s : Span} {op : BinaryOp} {left right : Expr} (v w : Value) :
      Does (.expr (.binary s op left right)) (Eval.binary op v w)
  | unary {s : Span} {op : UnaryOp} {operand : Expr} (v : Value) :
      Does (.expr (.unary s op operand)) (Eval.unary op v)
  | compare {s : Span} {first : Expr} {rest : List Comparison} (op : CompareOp) (v w : Value) :
      Does (.expr (.compare s first rest)) (Eval.compare op v w)
  | index {s : Span} {base key : Expr} (v w : Value) :
      Does (.expr (.index s base key)) (Eval.index v w)
  | attr {s : Span} {base : Expr} {id : Text} {nameRow : Nat} (v : Value) :
      Does (.expr (.attr s base id nameRow)) (Eval.attr v id)
  | call {s : Span} {function : Expr} {args : List Expr} {named : List Named} (I : Interp)
      (caller : Caller) (v : Value) (vs : List Value) (ns : Names) :
      Does (.expr (.call s function args named)) (I.call caller v vs ns)
  | source {s : Span} {item : Expr} {target : Target} {source : Expr} {conditions : List Expr}
      (v : Value) : Does (.expr (.comprehension s item target source conditions)) (Eval.start v)
  | comprehension {s : Span} {item : Expr} {target : Target} {source : Expr} {conditions : List Expr}
      (I : Interp) (f : Frame) (cursor : Stencil.Cursor) :
      Does (.expr (.comprehension s item target source conditions))
        (comprehended I f s item target conditions cursor)
  | round {s : Span} {item : Expr} {target : Target} {source : Expr} {conditions : List Expr}
      (cursor : Stencil.Cursor) :
      Does (.expr (.comprehension s item target source conditions)) (Eval.advance cursor)
  | await {s : Span} {value : Expr} (I : Interp) (caller : Caller) (v : Value) :
      Does (.expr (.await s value)) (I.await caller v)
  | targetName {s : Span} {id : Text} (f : Frame) : Does (.target (.name s id)) (f.lookup id)
  | targetItems {s : Span} {targets : List Target} (v : Value) :
      Does (.target (.items s targets)) (Eval.unpack targets.length v)
  | targetIndex {s : Span} {base key : Expr} (v w : Value) :
      Does (.target (.index s base key)) (Eval.index v w)
  | setIndex {s : Span} {base key : Expr} (v w x : Value) :
      Does (.target (.index s base key)) (Eval.setIndex v w x)
  | targetAttr {s : Span} {base : Expr} {id : Text} {nameRow : Nat} (v : Value) :
      Does (.target (.attr s base id nameRow)) (Eval.attr v id)
  | setAttr {s : Span} {base : Expr} {id : Text} {nameRow : Nat} (v w : Value) :
      Does (.target (.attr s base id nameRow)) (Eval.setAttr v id w)
  | update {s : Span} {target : Target} {op : BinaryOp} {value : Expr} (old v : Value) :
      Does (.stmt (.update s target op value)) (Eval.update op old v)
  | each {s : Span} {target : Target} {source : Expr} {body orelse : List Stmt} (v : Value) :
      Does (.stmt (.each s target source body orelse)) (Eval.start v)
  | next {s : Span} {target : Target} {source : Expr} {body orelse : List Stmt}
      (cursor : Stencil.Cursor) :
      Does (.stmt (.each s target source body orelse)) (Eval.advance cursor)
  | raise {α : Type} {s : Span} {e : Expr} (v : Value) :
      Does (.stmt (.raise s (some e))) (Eval.throwValue v : Proc α)
  | reraise {α : Type} {s : Span} :
      Does (.stmt (.raise s none))
        (Proc.error .runtimeError "No active exception to reraise" : Proc α)
  | handler {s : Span} {type : Expr} {id : Option Text} {body : List Stmt} (r : Ref) (v : Value) :
      Does (.handler (.mk s (some type) id body)) (Eval.catches r v)

end Stencil.Script
