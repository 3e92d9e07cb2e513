import Stencil.Eval.Operator
import Stencil.Yaml.Node

/-!
# YAML documents as values

The nodes of a document become values on the heap, one for each node, so that what an alias stands
for is the very object that has the anchor. A collection is there before what it holds; the level of
nodes nearest to the outermost one is filled first.

## Main definitions

* `Yaml.Loader` — puts nodes on the heap.
* `Yaml.Loader.flatten` — a mapping takes in the entries of those that it merges.
* `Yaml.load` — the value that a text spells.
-/

namespace Stencil.Yaml

namespace Shape

/-- What kind of node this is, in messages. -/
def kind : Shape → Text
  | scalar .. => "scalar"
  | sequence .. => "sequence"
  | mapping .. => "mapping"

/-- The tag of a node. -/
def tag : Shape → Tag
  | scalar tag _ | sequence tag _ | mapping tag _ => tag

/-- The node with another tag. -/
def retag (tag : Tag) : Shape → Shape
  | scalar _ t => scalar tag t
  | sequence _ items => sequence tag items
  | mapping _ entries => mapping tag entries

end Shape

/-- How far a document has been put on the heap. -/
structure Loading where
  nodes : Array Shape
  /-- The values of nodes. -/
  values : Array (Option Value)
  /-- Collections that are not filled, the last first. -/
  unfilled : List NodeId
  /-- What every scalar that spells no number though it has the type of one stands for. -/
  noNumber : Value

/-- Puts nodes on the heap. -/
abbrev Loader := StateT Loading Proc

namespace Loader

/-- Says what is wrong with a document. -/
def fail {α : Type} (e : Fault) : Loader α := StateT.lift (Proc.error e.type e.line)

/-- A result, or a failure with what is wrong. -/
def ofExcept {α : Type} : Except Fault α → Loader α
  | .ok a => return a
  | .error e => fail e

/-- The node with an identity. -/
def shape (id : NodeId) : Loader Shape := return (← get).nodes.getD id default

/-- A node is replaced. -/
def reshape (id : NodeId) (s : Shape) : Loader Unit :=
  modify fun l => { l with nodes := l.nodes.setIfInBounds id s }

/-- Says that a node is of another kind than its tag asks for. -/
def unexpected {α : Type} (expected : Text) (s : Shape) : Loader α :=
  fail ⟨.constructorError, "expected a " ++ expected ++ " node, but found " ++ s.kind⟩

/-- The text of a scalar, or of the value that stands for a mapping. -/
def text (id : NodeId) : (fuel : Nat) → Loader Text
  | 0 => return []
  | fuel + 1 => do
    match ← shape id with
    | .scalar _ t => return t
    | .mapping tag entries =>
      let standIns ← entries.filterM fun (key, _) => return (← shape key).tag = .standIn
      match standIns with
      | (_, value) :: _ => text value fuel
      | [] => unexpected "scalar" (.mapping tag entries)
    | s => unexpected "scalar" s

/-- A moment as a value. -/
def moment (t : Text) : Loader Value :=
  match Moment.ofText? t with
  | none => fail ⟨.attributeError, "'NoneType' object has no attribute 'groupdict'"⟩
  | some m =>
    match m.fault? with
    | some line => fail ⟨.valueError, line⟩
    | none => return .foreign m.typeName m.text m.quoted

/-- The value of a node that is no collection by its tag. -/
def plainValue (tag : Tag) (id : NodeId) : Loader Value := do
  let fuel := (← get).nodes.size + 1
  match tag with
  | .null =>
    let _ ← text id fuel
    return .none
  | .bool => return .bool (← ofExcept (truth (← text id fuel)))
  | .int => return .int (← ofExcept (whole (← text id fuel)))
  | .float =>
    let t ← text id fuel
    if spellsNoNumber t then return (← get).noNumber
    else StateT.lift (Numeral.float (← ofExcept (decimal t))).value
  | .timestamp => moment (← text id fuel)
  | .str => return .str (← text id fuel)
  | tag =>
    fail ⟨.constructorError, "could not determine a constructor for the tag " ++
      Text.quoted tag.address⟩

/-- A collection is on the heap and has to be filled. -/
def collection (id : NodeId) (o : Object) : Loader Ref := do
  modify fun l => { l with unfilled := id :: l.unfilled }
  StateT.lift (Proc.alloc o)

/-- The value of a node; a collection is empty for the time being. -/
def value (id : NodeId) : Loader Value := do
  match (← get).values.getD id none with
  | some v => return v
  | none =>
    let v ← match (← shape id).tag with
      | .sequence => Value.list <$> collection id (.list [])
      | .mapping => Value.dict <$> collection id (.dict [])
      | tag => plainValue tag id
    modify fun l => { l with values := l.values.setIfInBounds id (some v) }
    return v

/-- The entries of a mapping. -/
def entries (id : NodeId) : Loader (List (NodeId × NodeId)) := do
  match ← shape id with
  | .mapping _ entries => return entries
  | _ => return []

/-- The entries of a mapping are replaced. -/
def setEntries (id : NodeId) (entries : List (NodeId × NodeId)) : Loader Unit := do
  reshape id (.mapping (← shape id).tag entries)

/-- Says that something cannot be merged. -/
def unmergeable {α : Type} : Loader α := fail ⟨.constructorError, "while constructing a mapping"⟩

/-- The first entry, from a position on, that merges others or whose key is a stand-in: its position
and the tag of its key before it. -/
def nextSpecial (nodes : Array Shape) (index : Nat) :
    List (NodeId × NodeId) → Option (Nat × Tag × NodeId × NodeId)
  | [] => none
  | (key, value) :: rest =>
    let tag := (nodes.getD key default).tag
    if tag = .merge ∨ tag = .standIn then some (index, tag, key, value)
    else nextSpecial nodes (index + 1) rest

mutual

/-- A mapping takes in the entries of the mappings that it merges; its own come after them, so that
they win. -/
def flatten (id : NodeId) : (fuel : Nat) → Loader Unit
  | 0 => return ()
  | fuel + 1 => do
    let merged ← gather id 0 [] fuel
    if !merged.isEmpty then setEntries id (merged ++ (← entries id))

/-- What a mapping merges is taken out of it, from a position on, and gathered. -/
def gather (id : NodeId) (index : Nat) (merged : List (NodeId × NodeId)) :
    (fuel : Nat) → Loader (List (NodeId × NodeId))
  | 0 => return merged
  | fuel + 1 => do
    let es ← entries id
    match nextSpecial (← get).nodes index (es.drop index) with
    | none => return merged
    | some (index, .standIn, key, _) =>
      reshape key ((← shape key).retag .str)
      gather id (index + 1) merged fuel
    | some (index, _, _, value) =>
      setEntries id (es.eraseIdx index)
      match ← shape value with
      | .mapping .. =>
        flatten value fuel
        gather id index (merged ++ (← entries value)) fuel
      | .sequence _ items =>
        let groups ← items.mapM fun item => do
          match ← shape item with
          | .mapping .. =>
            flatten item fuel
            entries item
          | _ => unmergeable
        gather id index (merged ++ groups.reverse.flatten) fuel
      | _ => unmergeable

end

/-- Entries of a mapping as values: later ones win. -/
def entryValues (es : Entries) : List (NodeId × NodeId) → Loader Entries
  | [] => return es
  | (key, v) :: rest => do
    let k ← value key
    if k.unhashable?.isSome then
      fail ⟨.constructorError, "while constructing a mapping"⟩
    else entryValues (es.insert k (← value v)) rest

/-- The number of entries of all mappings. -/
def entryCount : Loader Nat := do
  let lengths := (← get).nodes.toList.map fun
    | .mapping _ es => es.length
    | _ => 0
  return lengths.foldr (fun m n => m + n) 0

/-- A collection is filled. -/
def fill (id : NodeId) : Loader Unit := do
  let place ← value id
  match ← shape id, place with
  | .sequence _ items, .list r =>
    let vs ← items.mapM value
    StateT.lift (Proc.put r (.list vs))
  | .mapping .., .dict r =>
    let count ← entryCount
    flatten id (2 * count + 4)
    let es ← entryValues [] (← entries id)
    StateT.lift (Proc.put r (.dict es))
  | s, .list _ => unexpected "sequence" s
  | s, _ => unexpected "mapping" s

/-- Collections are filled level by level. -/
def fillAll : (fuel : Nat) → Loader Unit
  | 0 => return ()
  | fuel + 1 => do
    let level := (← get).unfilled.reverse
    if level.isEmpty then return ()
    else
      modify fun l => { l with unfilled := [] }
      level.forM fill
      fillAll fuel

end Loader

namespace Document

/-- The value of a document. -/
def load (d : Document) : Proc Value := do
  let start : Loading := ⟨d.nodes, Array.replicate d.nodes.size none, [], .nan (← Proc.mark)⟩
  let loader : Loader Value := do
    let v ← Loader.value d.root
    Loader.fillAll (d.nodes.size + 1)
    return v
  return (← loader.run start).1

end Document

/-- The value that a text spells; nothing if it holds no document. -/
def load (t : Text) : Proc Value := do
  match Document.ofTokens? (Tokens.ofText t) with
  | .error e => Proc.error e.type e.line
  | .ok none => return .none
  | .ok (some d) => d.load

end Stencil.Yaml
