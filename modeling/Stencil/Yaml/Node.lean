import Stencil.Yaml.Scalar
import Stencil.Yaml.Token

/-!
# YAML nodes

The nodes of a document make up a graph: an alias stands for the very node that has its anchor,
which may be one around it.

## Main definitions

* `Yaml.Shape`, `Yaml.Document` — the nodes of a document.
* `Yaml.Document.ofTokens?` — the document that tokens make up.
-/

namespace Stencil.Yaml

/-- The place of a node in its document. -/
abbrev NodeId := Nat

/-- A node, in which others stand for themselves by their places. -/
inductive Shape where
  | scalar (tag : Tag) (t : Text)
  | sequence (tag : Tag) (items : List NodeId)
  | mapping (tag : Tag) (entries : List (NodeId × NodeId))
  deriving DecidableEq, Repr, Inhabited

/-- The nodes of a document and the outermost of them. -/
structure Document where
  nodes : Array Shape
  root : NodeId
  deriving DecidableEq, Repr, Inhabited

/-- Where reading a document stands. -/
structure Reading where
  tokens : List Token
  /-- What is wrong after the tokens. -/
  fault : Option Fault
  nodes : Array Shape
  anchors : List (Text × NodeId)
  /-- What the handles of tags stand for. -/
  handles : List (Text × Text)
  /-- The number of collections around the next node. -/
  depth : Nat
  deriving Inhabited

/-- Takes tokens and makes nodes, or fails. -/
abbrev Reader := StateT Reading (Except Fault)

namespace Token

/-- What a token is called in messages. -/
def id : Token → Text
  | version _ | handle .. | otherDirective => "<directive>"
  | documentStart => "<document start>"
  | documentEnd => "<document end>"
  | streamEnd => "<stream end>"
  | blockSequenceStart => "<block sequence start>"
  | blockMappingStart => "<block mapping start>"
  | blockEnd => "<block end>"
  | flowSequenceStart => "["
  | flowSequenceEnd => "]"
  | flowMappingStart => "\x7b"
  | flowMappingEnd => "\x7d"
  | blockEntry => "-"
  | flowEntry => ","
  | key => "?"
  | value => ":"
  | reference _ => "<alias>"
  | anchor _ => "<anchor>"
  | tag .. => "<tag>"
  | scalar .. => "<scalar>"

end Token

namespace Reader

/-- Fails as the parser does. -/
def fail {α : Type} (line : Text) : Reader α := throw ⟨.parserError, line⟩

/-- The next token, which is not taken. -/
def peek : Reader Token := do
  let s ← get
  match s.tokens, s.fault with
  | t :: _, _ => return t
  | [], some e => throw e
  | [], none => return .streamEnd

/-- The next token is taken. -/
def skip : Reader Unit := modify fun s => { s with tokens := s.tokens.tail }

/-- The next token is taken if it is a given one. -/
def skipIf (t : Token) : Reader Bool := do
  if (← peek) = t then
    skip
    return true
  else return false

/-- A new node. -/
def add (shape : Shape) : Reader NodeId := do
  let s ← get
  set { s with nodes := s.nodes.push shape }
  return s.nodes.size

/-- A node gets its final shape. -/
def settle (id : NodeId) (shape : Shape) : Reader Unit :=
  modify fun s => { s with nodes := s.nodes.setIfInBounds id shape }

/-- A new node, for which an anchor stands if it has one. -/
def addNamed (anchor : Option Text) (shape : Shape) : Reader NodeId := do
  let id ← add shape
  if let some a := anchor then
    modify fun s => { s with anchors := (a, id) :: s.anchors }
  return id

/-- How many collections may stand inside each other. -/
def maxDepth : Nat := 489

/-- What a collection holds, unless it stands too deep. -/
def inside {α : Type} (contents : Reader α) : Reader α := do
  let depth := (← get).depth
  if maxDepth ≤ depth then throw ⟨.recursionError, "maximum recursion depth exceeded"⟩
  else
    modify fun s => { s with depth := depth + 1 }
    let held ← contents
    modify fun s => { s with depth }
    return held

/-- A scalar that is not written. -/
def empty : Reader NodeId := add (.scalar .null [])

/-- The node that an alias stands for. -/
def aliased (id : Text) : Reader NodeId := do
  match (← get).anchors.find? (·.1 == id) with
  | some (_, node) => return node
  | none => throw ⟨.composerError, "found undefined alias " ++ Text.quoted id⟩

/-- An anchor that is not in use. -/
def checkAnchor (anchor : Option Text) : Reader Unit := do
  if let some a := anchor then
    if (← get).anchors.any (·.1 == a) then
      throw ⟨.composerError,
        "found duplicate anchor " ++ Text.quoted a ++ "; first occurrence"⟩

/-- A tag as it is written, with its handle resolved. -/
def resolveTag (handle : Option Text) (suffix : Text) : Reader Text := do
  match handle with
  | none => return suffix
  | some h =>
    match (← get).handles.find? (·.1 == h) with
    | some (_, address) => return address ++ suffix
    | none => fail "while parsing a node"

/-- What stands before a node: its anchor and its tag. -/
def properties : Reader (Option Text × Option Text) := do
  let written (t : Token) : Reader (Option Text) := do
    match t with
    | .tag handle suffix =>
      skip
      some <$> resolveTag handle suffix
    | _ => return none
  match ← peek with
  | .anchor id =>
    skip
    return (some id, ← written (← peek))
  | .tag handle suffix =>
    skip
    match ← peek with
    | .anchor id =>
      skip
      return (some id, some (← resolveTag handle suffix))
    | _ => return (none, some (← resolveTag handle suffix))
  | _ => return (none, none)

/-- The kind of a node with a tag, or without one. -/
def tagOr (tag : Option Text) (standard : Tag) : Tag :=
  match tag with
  | none => standard
  | some t => if t = "!" then standard else Tag.ofAddress t

/-- The kind of a scalar. -/
def scalarTag (tag : Option Text) (t : Text) (plain : Bool) : Tag :=
  match tag with
  | none => if plain then Tag.ofPlain t else .str
  | some _ => tagOr tag (Tag.ofPlain t)

mutual

/-- A node; only a node of a block may be a block collection, and only a part of a block mapping a
sequence that is not indented. -/
def node (block bare : Bool) : (fuel : Nat) → Reader NodeId
  | 0 => fail []
  | fuel + 1 => do
    match ← peek with
    | .reference id =>
      skip
      aliased id
    | _ =>
      let (anchor, tag) ← properties
      let begun (shape : Shape) : Reader NodeId := do
        checkAnchor anchor
        addNamed anchor shape
      let sequence (items : Reader (List NodeId)) : Reader NodeId := do
        let kind := tagOr tag .sequence
        let id ← begun (.sequence kind [])
        settle id (.sequence kind (← inside items))
        return id
      let mapping (entries : Reader (List (NodeId × NodeId))) : Reader NodeId := do
        let kind := tagOr tag .mapping
        let id ← begun (.mapping kind [])
        settle id (.mapping kind (← inside entries))
        return id
      match ← peek with
      | .blockEntry =>
        if bare then sequence (bareEntries fuel) else absent block anchor tag
      | .scalar t plain =>
        skip
        begun (.scalar (scalarTag tag t plain) t)
      | .flowSequenceStart =>
        skip
        sequence (flowItems true fuel)
      | .flowMappingStart =>
        skip
        mapping (flowEntries true fuel)
      | .blockSequenceStart =>
        if block then
          skip
          sequence (blockItems fuel)
        else absent block anchor tag
      | .blockMappingStart =>
        if block then
          skip
          mapping (blockEntries fuel)
        else absent block anchor tag
      | _ => absent block anchor tag
where
  /-- A node of which only the anchor or the tag is written. -/
  absent (block : Bool) (anchor tag : Option Text) : Reader NodeId := do
    if anchor.isNone ∧ tag.isNone then
      fail (if block then "while parsing a block node" else "while parsing a flow node")
    else
      checkAnchor anchor
      addNamed anchor (.scalar (scalarTag tag [] true) [])

/-- A node unless one of some tokens follows, which stand for a node that is not written. -/
def nodeUnless (tokens : List Token) (block bare : Bool) : (fuel : Nat) → Reader NodeId
  | 0 => fail []
  | fuel + 1 => do if tokens.contains (← peek) then empty else node block bare fuel

/-- The items of an indented sequence. -/
def blockItems : (fuel : Nat) → Reader (List NodeId)
  | 0 => fail []
  | fuel + 1 => do
    if ← skipIf .blockEntry then
      let item ← nodeUnless [.blockEntry, .blockEnd] true false fuel
      return item :: (← blockItems fuel)
    else if ← skipIf .blockEnd then return []
    else fail "while parsing a block collection"

/-- The items of a sequence that is not indented. -/
def bareEntries : (fuel : Nat) → Reader (List NodeId)
  | 0 => fail []
  | fuel + 1 => do
    if ← skipIf .blockEntry then
      let item ← nodeUnless [.blockEntry, .key, .value, .blockEnd] true false fuel
      return item :: (← bareEntries fuel)
    else return []

/-- The entries of an indented mapping. -/
def blockEntries : (fuel : Nat) → Reader (List (NodeId × NodeId))
  | 0 => fail []
  | fuel + 1 => do
    if ← skipIf .key then
      let key ← nodeUnless [.key, .value, .blockEnd] true true fuel
      let value ←
        if ← skipIf .value then nodeUnless [.key, .value, .blockEnd] true true fuel else empty
      return (key, value) :: (← blockEntries fuel)
    else if ← skipIf .blockEnd then return []
    else fail "while parsing a block mapping"

/-- The items of a sequence in brackets, of which a single entry is a mapping. -/
def flowItems (first : Bool) : (fuel : Nat) → Reader (List NodeId)
  | 0 => fail []
  | fuel + 1 => do
    if ← skipIf .flowSequenceEnd then return []
    else
      if !first then
        if !(← skipIf .flowEntry) then fail "while parsing a flow sequence"
      if ← skipIf .flowSequenceEnd then return []
      else
        let item ←
          if ← skipIf .key then
            let id ← add (.mapping .mapping [])
            let entry ← inside do
              let key ← nodeUnless [.value, .flowEntry, .flowSequenceEnd] false false fuel
              let value ←
                if ← skipIf .value then
                  nodeUnless [.flowEntry, .flowSequenceEnd] false false fuel
                else empty
              return (key, value)
            settle id (.mapping .mapping [entry])
            pure id
          else node false false fuel
        return item :: (← flowItems false fuel)

/-- The entries of a mapping in braces. -/
def flowEntries (first : Bool) : (fuel : Nat) → Reader (List (NodeId × NodeId))
  | 0 => fail []
  | fuel + 1 => do
    if ← skipIf .flowMappingEnd then return []
    else
      if !first then
        if !(← skipIf .flowEntry) then fail "while parsing a flow mapping"
      if ← skipIf .flowMappingEnd then return []
      else
        let entry ←
          if ← skipIf .key then
            let key ← nodeUnless [.value, .flowEntry, .flowMappingEnd] false false fuel
            let value ←
              if ← skipIf .value then
                nodeUnless [.flowEntry, .flowMappingEnd] false false fuel
              else empty
            pure (key, value)
          else
            let key ← node false false fuel
            pure (key, ← empty)
        return entry :: (← flowEntries false fuel)

end

/-- What the handles of tags stand for unless directives say otherwise. -/
def standardHandles : List (Text × Text) :=
  [(Text.ofString "!", Text.ofString "!"), (Text.ofString "!!", standardAddress)]

/-- Directives before a document. -/
def directives (versioned : Bool) (handles : List (Text × Text)) :
    (fuel : Nat) → Reader (List (Text × Text))
  | 0 => return handles
  | fuel + 1 => do
    match ← peek with
    | .version major =>
      skip
      if versioned then fail "found duplicate YAML directive"
      else if major ≠ 1 then
        fail "found incompatible YAML document (version 1.* is required)"
      else directives true handles fuel
    | .handle id address =>
      skip
      if handles.any (·.1 == id) then fail ("duplicate tag handle " ++ Text.quoted id)
      else directives versioned ((id, address) :: handles) fuel
    | .otherDirective =>
      skip
      directives versioned handles fuel
    | _ => return handles

/-- Ends of documents are passed. -/
def skipEnds : (fuel : Nat) → Reader Unit
  | 0 => return ()
  | fuel + 1 => do if ← skipIf .documentEnd then skipEnds fuel

/-- A document begins explicitly, unless the text ends. -/
def documentStart (fuel : Nat) : Reader Bool := do
  skipEnds fuel
  if (← peek) = .streamEnd then return false
  else
    let handles ← directives false [] fuel
    modify fun s => { s with handles := handles ++ standardHandles }
    if ← skipIf .documentStart then return true
    else fail ("expected '<document start>', but found " ++ Text.quoted (← peek).id)

/-- A token before which a document holds nothing. -/
def isOutside : Token → Bool
  | .version _ | .handle .. | .otherDirective | .documentStart | .documentEnd | .streamEnd => true
  | _ => false

/-- The only document of a text, if there is one. -/
def document (fuel : Nat) : Reader (Option NodeId) := do
  let t ← peek
  let root ←
    if isOutside t && t ≠ .documentEnd then
      if ← documentStart fuel then
        if isOutside (← peek) then some <$> empty else some <$> node true false fuel
      else pure none
    else some <$> node true false fuel
  match root with
  | none => return none
  | some root =>
    let _ ← skipIf .documentEnd
    if ← documentStart fuel then
      throw ⟨.composerError, "expected a single document in the stream"⟩
    else return some root

end Reader

namespace Document

/-- The document that tokens make up, if there is one. -/
def ofTokens? (ts : Tokens) : Except Fault (Option Document) := do
  let start : Reading := ⟨ts.tokens, ts.fault, #[], [], Reader.standardHandles, 0⟩
  let (root, s) ← (Reader.document (4 * ts.tokens.length + 8)).run start
  return root.map fun root => ⟨s.nodes, root⟩

end Document

end Stencil.Yaml
