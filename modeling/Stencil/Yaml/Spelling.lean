import Stencil.Text.Utf8
import Stencil.Yaml.Cursor

/-!
# Spellings of YAML scalars

A scalar is written plain, in quotes or as a block. Lines of plain and quoted scalars are folded:
one end of a line becomes a space, further ones are kept. A block keeps its lines, or folds those
that are not indented further.

## Main definitions

* `Yaml.quoted`, `Yaml.plain`, `Yaml.block` — the text of a scalar and what follows it.
* `Yaml.anchorName`, `Yaml.tag` — names before scalars and collections.
-/

namespace Stencil.Yaml

/-- The fault of a scanner. -/
def scannerFault {α : Type} (line : Text) : Except Fault α := .error ⟨.scannerError, line⟩

/-- The letters of escapes in double quotes with what they stand for. -/
def escapes : List (CodePoint × CodePoint) :=
  [('0', 0), ('a', 7), ('b', 8), ('t', 9), ('\t', 9), ('n', 10), ('v', 11), ('f', 12), ('r', 13),
    ('e', 27), (' ', 32), ('"', '"'), ('\\', '\\'), ('/', '/'), ('N', 0x85), ('_', 0xA0),
    ('L', 0x2028), ('P', 0x2029)]

/-- The letters of escapes in double quotes that are followed by so many hexadecimal digits. -/
def codeEscapes : List (CodePoint × Nat) := [('x', 2), ('u', 4), ('U', 8)]

/-- Ends of lines inside quotes, and the blanks around them. -/
def quotedBreaks : (fuel : Nat) → Cursor → Except Fault (Text × Cursor)
  | 0, c => .ok ([], c)
  | fuel + 1, c =>
    if c.isAnyMarker then scannerFault "while scanning a quoted scalar"
    else
      let c := c.skip fun a => a == ' ' || a == '\t'
      if isBreak (c.peek 0) then do
        let (t, c) := c.lineBreak
        let (ts, c) ← quotedBreaks fuel c
        return (t ++ ts, c)
      else .ok ([], c)

/-- The end of a line as it is folded: a space unless more follow. -/
def folded (first more : Text) : Text :=
  if first ≠ "\n" then first ++ more else if more.isEmpty then [' '] else more

/-- Blanks inside quotes. -/
def quotedSpaces (c : Cursor) : Except Fault (Text × Cursor) := do
  let blanks := c.ahead fun a => a == ' ' || a == '\t'
  let c := c.forward blanks.length
  let a := c.peek 0
  if a == 0 then scannerFault "while scanning a quoted scalar"
  else if isBreak a then
    let (first, c) := c.lineBreak
    let (more, c) ← quotedBreaks (c.rest.length + 1) c
    return (folded first more, c)
  else return (blanks, c)

/-- The value of hexadecimal digits. -/
def hexValue (digits : Text) : Option Nat :=
  digits.foldl (fun v d => match v, CodePoint.digit? 16 d with
    | some v, some d => some (16 * v + d)
    | _, _ => none) (some 0)

/-- What an escape in double quotes stands for; the backslash has been passed. -/
def escape (c : Cursor) : Except Fault (Text × Cursor) :=
  let a := c.peek 0
  match escapes.find? (·.1 == a), codeEscapes.find? (·.1 == a) with
  | some (_, b), _ => .ok ([b], c.next)
  | none, some (_, width) =>
    let digits := c.next.rest.take width
    if digits.length = width then
      match hexValue digits with
      | some code =>
        if code < 0x110000 then .ok ([code], c.next.forward width)
        else .error ⟨.valueError, "chr() arg not in range(0x110000)"⟩
      | none => scannerFault "while scanning a double-quoted scalar"
    else scannerFault "while scanning a double-quoted scalar"
  | none, none =>
    if isBreak a then
      let (_, c) := c.lineBreak
      quotedBreaks (c.rest.length + 1) c
    else scannerFault "while scanning a double-quoted scalar"

/-- Code points inside quotes up to a blank or the closing quote. -/
def quotedRun (double : Bool) : (fuel : Nat) → Cursor → Except Fault (Text × Cursor)
  | 0, c => .ok ([], c)
  | fuel + 1, c =>
    let run := c.ahead fun a => !(a == '\'' || a == '"' || a == '\\' || isBlankOrEnd a)
    let c := c.forward run.length
    let a := c.peek 0
    let go (t : Text) (c : Cursor) : Except Fault (Text × Cursor) := do
      let (ts, c) ← quotedRun double fuel c
      return (run ++ t ++ ts, c)
    if !double && a == '\'' && c.peek 1 == '\'' then go ['\''] (c.forward 2)
    else if (double && a == '\'') || (!double && (a == '"' || a == '\\')) then go [a] c.next
    else if double && a == '\\' then do
      let (t, c) ← escape c.next
      go t c
    else .ok (run, c)

/-- What follows the first run inside quotes, up to the closing quote. -/
def quotedRest (double : Bool) (quote : CodePoint) :
    (fuel : Nat) → Cursor → Except Fault (Text × Cursor)
  | 0, c => .ok ([], c)
  | fuel + 1, c =>
    if c.peek 0 == quote then .ok ([], c.next)
    else do
      let (t, c) ← quotedSpaces c
      let (u, c) ← quotedRun double (c.rest.length + 1) c
      let (v, c) ← quotedRest double quote fuel c
      return (t ++ u ++ v, c)

/-- A scalar in quotes. -/
def quoted (double : Bool) (c : Cursor) : Except Fault (Text × Cursor) := do
  let quote := c.peek 0
  let (t, c) ← quotedRun double (c.rest.length + 1) c.next
  let (u, c) ← quotedRest double quote (c.rest.length + 1) c
  return (t ++ u, c)

/-- Ends of lines inside a plain scalar; none if a marker of documents follows. -/
def plainBreaks : (fuel : Nat) → Cursor → Option (Text × Cursor)
  | 0, c => some ([], c)
  | fuel + 1, c =>
    if c.peek 0 == ' ' then plainBreaks fuel c.next
    else if isBreak (c.peek 0) then
      let (t, c) := c.lineBreak
      if c.isAnyMarker then none
      else (plainBreaks fuel c).map fun (ts, c) => (t ++ ts, c)
    else some ([], c)

/-- Blanks inside a plain scalar with what follows them, and whether a line has ended; nothing if
the scalar ends there. -/
def plainSpaces (c : Cursor) : Option Text × Cursor × Bool :=
  let blanks := c.ahead fun a => a == ' '
  let c := c.forward blanks.length
  if isBreak (c.peek 0) then
    let (first, after) := c.lineBreak
    if after.isAnyMarker then (none, after, true)
    else
      match plainBreaks (after.rest.length + 1) after with
      | none => (none, after.skip fun a => a == ' ' || isBreak a, true)
      | some (more, c) => (some (folded first more), c, true)
  else if blanks.isEmpty then (none, c, false)
  else (some blanks, c, false)

/-- The number of code points of a plain scalar before the next blank. -/
def plainLength (flow : Bool) : Text → Nat
  | [] => 0
  | a :: rest =>
    let after := rest.headD 0
    let closes (b : CodePoint) : Bool :=
      b == ',' || b == '[' || b == ']' || b == '\x7b' || b == '\x7d'
    if isBlankOrEnd a || (a == ':' && (isBlankOrEnd after || (flow && closes after))) ||
        (flow && (closes a || a == '?')) then 0
    else plainLength flow rest + 1

/-- A plain scalar, whose further lines are indented by at least `indent`, and whether it ends at
the beginning of a line. -/
def plain (flow : Bool) (indent : Int) (spaces : Text) : (fuel : Nat) → Cursor → Bool →
    Text × Cursor × Bool
  | 0, c, fresh => ([], c, fresh)
  | fuel + 1, c, fresh =>
    let length := if c.peek 0 == '#' then 0 else plainLength flow c.rest
    if length = 0 then ([], c, fresh)
    else
      let t := spaces ++ c.rest.take length
      match plainSpaces (c.forward length) with
      | (none, c, fresh) => (t, c, fresh)
      | (some spaces, c, fresh) =>
        if c.peek 0 == '#' || (!flow && (c.column : Int) < indent) then (t, c, fresh)
        else
          let (u, c, fresh) := plain flow indent spaces fuel c fresh
          (t ++ u, c, fresh)

/-- How the end of a block is kept. -/
inductive Chomping where
  /-- One end of a line is kept. -/
  | clip
  /-- All are kept. -/
  | keep
  /-- None is kept. -/
  | strip
  deriving DecidableEq, Repr

/-- The sign of how the end of a block is kept. -/
def chomping? (a : CodePoint) : Option Chomping :=
  if a == '+' then some .keep else if a == '-' then some .strip else none

/-- The digit of an indentation, which is not zero. -/
def indentation? (c : Cursor) : Except Fault (Option Nat × Cursor) :=
  match CodePoint.digit? 10 (c.peek 0) with
  | some 0 => scannerFault "while scanning a block scalar"
  | some d => .ok (some d, c.next)
  | none => .ok (none, c)

/-- The header of a block: how its end is kept, and its indentation. -/
def blockHeader (c : Cursor) : Except Fault ((Chomping × Option Nat) × Cursor) := do
  let (chomping, increment, c) ← match chomping? (c.peek 0) with
    | some chomping => do
      let (increment, c) ← indentation? c.next
      pure (chomping, increment, c)
    | none => do
      let (increment, c) ← indentation? c
      match increment.bind fun _ => chomping? (c.peek 0) with
      | some chomping => pure (chomping, increment, c.next)
      | none => pure (Chomping.clip, increment, c)
  if !isSpaceOrEnd (c.peek 0) then scannerFault "while scanning a block scalar"
  else
    let c := (c.skip fun a => a == ' ').skipComment
    if !isLineEnd (c.peek 0) then scannerFault "while scanning a block scalar"
    else return ((chomping, increment), c.lineBreak.2)

/-- Blank lines at the beginning of a block, and the deepest indentation among them. -/
def blockIndentation (deepest : Nat) : (fuel : Nat) → Cursor → Text × Nat × Cursor
  | 0, c => ([], deepest, c)
  | fuel + 1, c =>
    if c.peek 0 == ' ' then blockIndentation (max deepest c.next.column) fuel c.next
    else if isBreak (c.peek 0) then
      let (t, c) := c.lineBreak
      let (ts, deepest, c) := blockIndentation deepest fuel c
      (t ++ ts, deepest, c)
    else ([], deepest, c)

/-- Spaces up to a column are passed. -/
def skipTo (column : Nat) (c : Cursor) : Cursor :=
  c.forward (min (c.ahead fun a => a == ' ').length (column - c.column))

/-- Blank lines inside a block. -/
def blockBreaks (indent : Nat) : (fuel : Nat) → Cursor → Text × Cursor
  | 0, c => ([], c)
  | fuel + 1, c =>
    let c := skipTo indent c
    if isBreak (c.peek 0) then
      let (t, c) := c.lineBreak
      let (ts, c) := blockBreaks indent fuel c
      (t ++ ts, c)
    else ([], c)

/-- The lines of a block after blank lines: its text without its end, the end of its last line, and
the blank lines after that. -/
def blockLines (fold : Bool) (indent : Nat) (breaks : Text) : (fuel : Nat) → Cursor →
    Text × Text × Text × Cursor
  | 0, c => ([], [], breaks, c)
  | fuel + 1, c =>
    if c.column = indent ∧ c.peek 0 ≠ 0 then
      let indented (a : CodePoint) : Bool := a == ' ' || a == '\t'
      let flush := !indented (c.peek 0)
      let row := c.ahead fun a => !isLineEnd a
      let (ending, c) := (c.forward row.length).lineBreak
      let (after, c) := blockBreaks indent (c.rest.length + 1) c
      if c.column = indent ∧ c.peek 0 ≠ 0 then
        let joint : Text :=
          if fold && ending == ("\n" : Text) && flush && !indented (c.peek 0) then
            if after.isEmpty then [' '] else []
          else ending
        let (t, final, left, c) := blockLines fold indent after fuel c
        (breaks ++ row ++ joint ++ t, final, left, c)
      else (breaks ++ row, ending, after, c)
    else ([], [], breaks, c)

/-- A block whose lines are indented by more than `indent`. -/
def block (fold : Bool) (indent : Int) (c : Cursor) : Except Fault (Text × Cursor) := do
  let ((chomping, increment), c) ← blockHeader c.next
  let least := (max (indent + 1) 1).toNat
  let (breaks, indent, c) := match increment with
    | none =>
      let (breaks, deepest, c) := blockIndentation 0 (c.rest.length + 1) c
      (breaks, max least deepest, c)
    | some n =>
      let indent := least + n - 1
      let (breaks, c) := blockBreaks indent (c.rest.length + 1) c
      (breaks, indent, c)
  let (t, final, left, c) := blockLines fold indent breaks (c.rest.length + 1) c
  return (match chomping with
    | .clip => t ++ final
    | .keep => t ++ final ++ left
    | .strip => t, c)

/-- A code point of a name: an ASCII letter, a digit, a hyphen or a low line. -/
def isNamePart (a : CodePoint) : Bool :=
  CodePoint.isDigit a || CodePoint.isAsciiLetter a || a == '-' || a == '_'

/-- The name of an anchor or an alias, before which its sign stands. -/
def anchorName (c : Cursor) : Except Fault (Text × Cursor) :=
  let line : Text :=
    if c.peek 0 == '*' then "while scanning an alias" else "while scanning an anchor"
  let name := c.next.ahead isNamePart
  let c := c.next.forward name.length
  let a := c.peek 0
  let mayFollow : Text := "?:,]\x7d%@\x60"
  if name.isEmpty then scannerFault line
  else if isBlankOrEnd a || mayFollow.contains a then .ok (name, c)
  else scannerFault line

/-- The handle of a tag: a name between exclamation marks, or one such mark. -/
def tagHandle (kind : Text) (c : Cursor) : Except Fault (Text × Cursor) :=
  if c.peek 0 != '!' then scannerFault ("while scanning a " ++ kind)
  else if c.peek 1 == ' ' then .ok (['!'], c.next)
  else
    let name := c.next.ahead isNamePart
    if c.peek (name.length + 1) == '!' then
      .ok ("!" ++ name ++ "!", c.forward (name.length + 2))
    else scannerFault ("while scanning a " ++ kind)

/-- A code point of a tag's address. -/
def isAddressPart (a : CodePoint) : Bool :=
  let marks : Text := "-;/?:@&=+$,_.!~*'()[]%"
  CodePoint.isDigit a || CodePoint.isAsciiLetter a || marks.contains a

/-- The octets that escapes in an address stand for, three code points each. -/
def addressOctets : Text → Option (List Nat × Text)
  | a :: d :: e :: rest =>
    if a == '%' then
      match hexValue [d, e], addressOctets rest with
      | some n, some (ns, rest) => some (n :: ns, rest)
      | _, _ => none
    else some ([], a :: d :: e :: rest)
  | rest => if rest.head? == some ('%' : CodePoint) then none else some ([], rest)

/-- A tag's address with its escapes resolved. -/
def unescapeAddress : (fuel : Nat) → Text → Option Text
  | 0, _ => some []
  | fuel + 1, t =>
    match t with
    | [] => some []
    | a :: rest =>
      if a == '%' then
        match addressOctets t with
        | some (octets, rest) =>
          match Text.decode? octets, unescapeAddress fuel rest with
          | some u, some v => some (u ++ v)
          | _, _ => none
        | none => none
      else (unescapeAddress fuel rest).map (a :: ·)

/-- A tag's address. -/
def tagAddress (kind : Text) (c : Cursor) : Except Fault (Text × Cursor) :=
  let raw := c.ahead isAddressPart
  if raw.isEmpty then scannerFault ("while parsing a " ++ kind)
  else
    match unescapeAddress (raw.length + 1) raw with
    | some t => .ok (t, c.forward raw.length)
    | none => scannerFault ("while scanning a " ++ kind)

/-- A tag: its handle, if it has one, and the rest. -/
def tag (c : Cursor) : Except Fault ((Option Text × Text) × Cursor) := do
  let a := c.peek 1
  let (value, c) ←
    if a == '<' then do
      let (t, c) ← tagAddress "tag" (c.forward 2)
      if c.peek 0 != '>' then scannerFault "while parsing a tag"
      else pure ((none, t), c.next)
    else if isBlankOrEnd a then pure ((none, ['!']), c.next)
    else do
      let named := (c.next.ahead fun b => !isSpaceOrEnd b).contains ('!' : CodePoint)
      let (handle, c) ← if named then tagHandle "tag" c else pure (['!'], c.next)
      let (t, c) ← tagAddress "tag" c
      pure ((some handle, t), c)
  if isSpaceOrEnd (c.peek 0) then return (value, c) else scannerFault "while scanning a tag"

end Stencil.Yaml
