import Stencil.Yaml.Spelling

/-!
# YAML tokens

A text is cut into tokens. Indentation becomes tokens of its own that begin and end collections. A
scalar or a collection on one line may turn out to be a key when a colon follows it; then the token
that announces a key is put in front of it.

## Main definitions

* `Yaml.Token` — tokens.
* `Yaml.Tokens` — the tokens of a text, as far as there are any.
* `Yaml.Tokens.ofText` — the tokens of a text.
-/

namespace Stencil.Yaml

/-- Tokens. -/
inductive Token where
  /-- A directive; `TAG` has a handle and what it stands for, `YAML` a version. -/
  | version (major : Nat)
  | handle (id address : Text)
  | otherDirective
  | documentStart
  | documentEnd
  | streamEnd
  | blockSequenceStart
  | blockMappingStart
  | blockEnd
  | flowSequenceStart
  | flowSequenceEnd
  | flowMappingStart
  | flowMappingEnd
  | blockEntry
  | flowEntry
  | key
  | value
  | reference (id : Text)
  | anchor (id : Text)
  | tag (handle : Option Text) (suffix : Text)
  | scalar (t : Text) (plain : Bool)
  deriving DecidableEq, Repr, Inhabited

/-- The tokens of a text up to the first fault. -/
structure Tokens where
  tokens : List Token
  fault : Option Fault
  deriving Repr, Inhabited

/-- What may turn out to be a key: the number of its token, whether it has to be one, and where it
begins. -/
structure KeyCandidate where
  token : Nat
  required : Bool
  index : Nat
  line : Nat
  column : Nat
  deriving DecidableEq, Repr, Inhabited

/-- Where scanning stands. -/
structure Scan where
  cursor : Cursor
  tokens : Array Token
  /-- The number of flow collections around. -/
  flow : Nat
  /-- The column of the block collection around, -1 outside all of them. -/
  indent : Int
  /-- The columns of the block collections around that one. -/
  outer : List Int
  /-- A key may begin here. -/
  mayBeginKey : Bool
  /-- What may turn out to be a key, by the number of flow collections around. -/
  candidates : List (Nat × KeyCandidate)
  done : Bool
  deriving Inhabited

namespace Scan

/-- The beginning of a text. -/
def start (t : Text) : Scan := ⟨Cursor.start t, #[], 0, -1, [], true, [], false⟩

/-- The column that has been reached. -/
def column (s : Scan) : Int := s.cursor.column

/-- The scan with another token. -/
def push (s : Scan) (t : Token) : Scan := { s with tokens := s.tokens.push t }

/-- The scan at another place. -/
def moveTo (s : Scan) (c : Cursor) : Scan := { s with cursor := c }

/-- A code point is passed that makes up a token. -/
def mark (s : Scan) (t : Token) : Scan := (s.push t).moveTo s.cursor.next

/-- The candidate for a key at the present number of flow collections. -/
def candidate? (s : Scan) : Option KeyCandidate :=
  (s.candidates.find? (·.1 == s.flow)).map (·.2)

/-- The scan without that candidate. -/
def dropCandidate (s : Scan) : Scan :=
  { s with candidates := s.candidates.filter (·.1 != s.flow) }

/-- The fault of something that had to be a key and is none. -/
def keyFault : Fault := ⟨.scannerError, "while scanning a simple key"⟩

/-- The candidate at the present number of flow collections turns out to be no key. -/
def refuteCandidate (s : Scan) : Except Fault Scan :=
  match s.candidate? with
  | some k => if k.required then .error keyFault else .ok s.dropCandidate
  | none => .ok s

/-- Candidates turn out to be no keys when their line ends or they are too long. -/
def refuteStale (s : Scan) : Except Fault Scan :=
  let isStale (k : KeyCandidate) : Bool :=
    k.line != s.cursor.line || k.index + 1024 < s.cursor.index
  if s.candidates.any fun (_, k) => isStale k && k.required then .error keyFault
  else .ok { s with candidates := s.candidates.filter fun (_, k) => !isStale k }

/-- What begins here may turn out to be a key. -/
def propose (s : Scan) : Except Fault Scan :=
  if s.mayBeginKey then do
    let c := s.cursor
    let required : Bool := s.flow == 0 && s.indent == s.column
    let s ← s.refuteCandidate
    let k : KeyCandidate := ⟨s.tokens.size, required, c.index, c.line, c.column⟩
    return { s with candidates := s.candidates ++ [(s.flow, k)] }
  else .ok s

/-- Block collections that are indented by more than a column end, except inside flow
collections. -/
def unwind (s : Scan) (column : Int) : Scan :=
  if s.flow ≠ 0 then s else go s.outer s
where
  go : List Int → Scan → Scan
    | [], s => s
    | i :: outer, s =>
      if column < s.indent then go outer { s.push .blockEnd with indent := i, outer } else s

/-- A block collection begins at a column unless it is there already; its token is put at a
position. -/
def beginBlock (s : Scan) (column : Int) (position : Nat) (t : Token) : Scan :=
  if s.indent < column then
    { s with
      indent := column
      outer := s.indent :: s.outer
      tokens := s.tokens.insertIdxIfInBounds position t }
  else s

/-- Spaces, comments and ends of lines before a token are passed. -/
def skipToToken : (fuel : Nat) → Scan → Scan
  | 0, s => s
  | fuel + 1, s =>
    let c := (s.cursor.skip fun a => a == ' ').skipComment
    if isBreak (c.peek 0) then
      skipToToken fuel
        { s with cursor := c.lineBreak.2, mayBeginKey := s.mayBeginKey || s.flow == 0 }
    else s.moveTo c

/-- The fault of something that may not stand here. -/
def misplaced (line : Text) : Except Fault Scan := scannerFault line

/-- The end of the text. -/
def streamEnd (s : Scan) : Except Fault Scan := do
  let s ← (s.unwind (-1)).refuteCandidate
  return { s.push .streamEnd with mayBeginKey := false, candidates := [], done := true }

/-- A number in decimal. -/
def number (c : Cursor) : Except Fault (Nat × Cursor) :=
  let digits := c.ahead CodePoint.isDigit
  if digits.isEmpty then scannerFault "while scanning a directive"
  else
    .ok (digits.foldl (fun v d => 10 * v + (CodePoint.digit? 10 d).getD 0) 0,
      c.forward digits.length)

/-- The value of a directive with a name. -/
def directiveValue (id : Text) (c : Cursor) : Except Fault (Token × Cursor) := do
  let blank (c : Cursor) : Cursor := c.skip fun a => a == ' '
  if id = "YAML" then
    let (major, c) ← number (blank c)
    if c.peek 0 != '.' then scannerFault "while scanning a directive"
    else
      let (_, c) ← number c.next
      if isSpaceOrEnd (c.peek 0) then return (.version major, c)
      else scannerFault "while scanning a directive"
  else if id = "TAG" then
    let (handle, c) ← tagHandle "directive" (blank c)
    if c.peek 0 != ' ' then scannerFault "while scanning a directive"
    else
      let (address, c) ← tagAddress "directive" (blank c)
      if isSpaceOrEnd (c.peek 0) then return (.handle handle address, c)
      else scannerFault "while scanning a directive"
  else return (.otherDirective, c.skip fun a => !isLineEnd a)

/-- A directive. -/
def directive (s : Scan) : Except Fault Scan := do
  let s ← (s.unwind (-1)).refuteCandidate
  let id := s.cursor.next.ahead isNamePart
  let c := s.cursor.next.forward id.length
  if id.isEmpty || !isSpaceOrEnd (c.peek 0) then scannerFault "while scanning a directive"
  else
    let (t, c) ← directiveValue id c
    let c := (c.skip fun a => a == ' ').skipComment
    if isLineEnd (c.peek 0) then
      return { s.push t with cursor := c.lineBreak.2, mayBeginKey := false }
    else scannerFault "while scanning a directive"

/-- A marker of documents. -/
def documentMarker (s : Scan) (t : Token) : Except Fault Scan := do
  let s ← (s.unwind (-1)).refuteCandidate
  return { s.push t with cursor := s.cursor.forward 3, mayBeginKey := false }

/-- The beginning of a flow collection. -/
def flowStart (s : Scan) (t : Token) : Except Fault Scan := do
  let s ← s.propose
  return { s.mark t with flow := s.flow + 1, mayBeginKey := true }

/-- The end of a flow collection. -/
def flowEnd (s : Scan) (t : Token) : Except Fault Scan := do
  let s ← s.refuteCandidate
  return { s.mark t with flow := s.flow - 1, mayBeginKey := false }

/-- A comma between items of a flow collection. -/
def flowEntry (s : Scan) : Except Fault Scan := do
  let s ← s.refuteCandidate
  return { s.mark .flowEntry with mayBeginKey := true }

/-- The sign of an item of a block sequence. -/
def blockEntry (s : Scan) : Except Fault Scan := do
  if s.flow = 0 ∧ !s.mayBeginKey then misplaced "sequence entries are not allowed here"
  else
    let s := if s.flow = 0 then s.beginBlock s.column s.tokens.size .blockSequenceStart else s
    let s ← s.refuteCandidate
    return { s.mark .blockEntry with mayBeginKey := true }

/-- The sign of a key. -/
def keySign (s : Scan) : Except Fault Scan := do
  if s.flow = 0 ∧ !s.mayBeginKey then misplaced "mapping keys are not allowed here"
  else
    let s := if s.flow = 0 then s.beginBlock s.column s.tokens.size .blockMappingStart else s
    let s ← s.refuteCandidate
    return { s.mark .key with mayBeginKey := s.flow == 0 }

/-- The sign of a value. If something may be a key it turns out to be one. -/
def valueSign (s : Scan) : Except Fault Scan := do
  match s.candidate? with
  | some k =>
    let s := s.dropCandidate
    let s := { s with tokens := s.tokens.insertIdxIfInBounds k.token .key }
    let s := if s.flow = 0 then s.beginBlock k.column k.token .blockMappingStart else s
    return { s.mark .value with mayBeginKey := false }
  | none =>
    if s.flow = 0 ∧ !s.mayBeginKey then misplaced "mapping values are not allowed here"
    else
      let s := if s.flow = 0 then s.beginBlock s.column s.tokens.size .blockMappingStart else s
      let s ← s.refuteCandidate
      return { s.mark .value with mayBeginKey := s.flow == 0 }

/-- A token that may turn out to be a key, or to belong to one. -/
def node (s : Scan) (read : Cursor → Except Fault (Token × Cursor)) : Except Fault Scan := do
  let s ← s.propose
  let (t, c) ← read s.cursor
  return { s.push t with cursor := c, mayBeginKey := false }

/-- A block scalar. -/
def blockScalar (s : Scan) (fold : Bool) : Except Fault Scan := do
  let s ← { s with mayBeginKey := true }.refuteCandidate
  let (t, c) ← block fold s.indent s.cursor
  return (s.push (.scalar t false)).moveTo c

/-- A plain scalar. -/
def plainScalar (s : Scan) : Except Fault Scan := do
  let s ← s.propose
  let (t, c, fresh) :=
    plain (s.flow ≠ 0) (s.indent + 1) [] (s.cursor.rest.length + 1) s.cursor false
  return { s.push (.scalar t true) with cursor := c, mayBeginKey := fresh }

/-- A plain scalar may begin here. -/
def isPlainStart (s : Scan) : Bool :=
  let a := s.cursor.peek 0
  let signs : Text := "-?:,[]\x7b\x7d#&*!|>'\"%@\x60"
  !(isBlankOrEnd a || signs.contains a) ||
    (!isBlankOrEnd (s.cursor.peek 1) && (a == '-' || (s.flow == 0 && (a == '?' || a == ':'))))

/-- The token that begins at a code point. -/
def token (s : Scan) : Except Fault Scan :=
  let c := s.cursor
  let a := c.peek 0
  let beforeBlank := isBlankOrEnd (c.peek 1)
  if a == 0 then s.streamEnd
  else if a == '%' && c.column == 0 then s.directive
  else if c.column == 0 && c.isMarker '-' then s.documentMarker .documentStart
  else if c.column == 0 && c.isMarker '.' then s.documentMarker .documentEnd
  else if a == '[' then s.flowStart .flowSequenceStart
  else if a == '\x7b' then s.flowStart .flowMappingStart
  else if a == ']' then s.flowEnd .flowSequenceEnd
  else if a == '\x7d' then s.flowEnd .flowMappingEnd
  else if a == ',' then s.flowEntry
  else if a == '-' && beforeBlank then s.blockEntry
  else if a == '?' && (s.flow != 0 || beforeBlank) then s.keySign
  else if a == ':' && (s.flow != 0 || beforeBlank) then s.valueSign
  else if a == '*' then s.node fun c => (anchorName c).map fun (id, c) => (.reference id, c)
  else if a == '&' then s.node fun c => (anchorName c).map fun (id, c) => (.anchor id, c)
  else if a == '!' then s.node fun c => (tag c).map fun ((handle, t), c) => (.tag handle t, c)
  else if a == '|' && s.flow == 0 then s.blockScalar false
  else if a == '>' && s.flow == 0 then s.blockScalar true
  else if a == '\'' then s.node fun c => (quoted false c).map fun (t, c) => (.scalar t false, c)
  else if a == '"' then s.node fun c => (quoted true c).map fun (t, c) => (.scalar t false, c)
  else if s.isPlainStart then s.plainScalar
  else scannerFault "while scanning for the next token"

/-- The next token, with what ends before it. -/
def step (s : Scan) : Except Fault Scan := do
  let s := if s.cursor.index = 0 ∧ s.cursor.peek 0 = 0xFEFF then s.moveTo s.cursor.next else s
  let s ← (s.skipToToken (s.cursor.rest.length + 1)).refuteStale
  (s.unwind s.column).token

/-- The number of tokens that are settled: what may still turn out to be a key is not. -/
def settled (s : Scan) : Nat :=
  s.candidates.foldl (fun n (_, k) => min n k.token) s.tokens.size

/-- The tokens up to the end of the text or the first fault. -/
def run : (fuel : Nat) → Scan → Tokens
  | 0, s => ⟨s.tokens.toList, none⟩
  | fuel + 1, s =>
    if s.done then ⟨s.tokens.toList, none⟩
    else
      match s.step with
      | .ok s => run fuel s
      | .error e => ⟨s.tokens.toList.take s.settled, some e⟩

end Scan

namespace Tokens

/-- The tokens of a text. -/
def ofText (t : Text) : Tokens :=
  match unreadable? t with
  | some e => ⟨[], some e⟩
  | none => (Scan.start t).run (t.length + 2)

end Tokens

end Stencil.Yaml
