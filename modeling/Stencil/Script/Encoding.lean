import Stencil.Script.Constant
import Stencil.Text.Charset.Basic

/-!
# The text of a script

A script in octets is UTF-8 unless a comment in one of its first two rows declares another charset.
Octets that are not UTF-8 are found where they matter: they may stand in comments.

## Main definitions

* `Encoding.declared?` — the name of the charset that a row declares.
* `Encoding.text?` — the text of a script.
-/

namespace Stencil.Script

namespace Encoding

/-- What may stand before a comment in a row. -/
def isBlank (c : CodePoint) : Bool := c == ' ' || c == '\t' || c == '\x0c'

/-- What the name of a charset is spelled with. -/
def isNamePart (c : CodePoint) : Bool :=
  CodePoint.isDigit c || CodePoint.isAsciiLetter c || c == '-' || c == '_' || c == '.'

/-- The word that a declaration begins with; a colon or an equals sign comes after it. -/
def keyword : Text := "coding"

/-- The name that the first declaration in a comment holds. -/
def named? : Octets → Option Text
  | [] => none
  | c :: rest =>
    match (c :: rest).drop keyword.length with
    | mark :: after =>
      let isGap (d : Nat) : Bool := d == ' ' || d == '\t'
      let name : Text := (after.dropWhile isGap).takeWhile isNamePart
      if keyword.isPrefixOf (c :: rest) ∧ (mark = ':' ∨ mark = '=') ∧ name ≠ [] then some name
      else named? rest
    | [] => none

/-- The name of the charset that a row declares, which has to hold nothing before the comment. -/
def declared? (row : Octets) : Option Text :=
  let comment := row.dropWhile isBlank
  if comment.head? = some ('#' : CodePoint) then named? comment else none

/-- A row may come before the one that declares a charset. -/
def isBare (row : Octets) : Bool :=
  match row.dropWhile isBlank with
  | [] => true
  | c :: _ => c == '#'

/-- The name of the charset that is declared for a script. -/
def declaredIn? (octets : Octets) : Option Text :=
  match Text.rows octets with
  | first :: second :: _ =>
    (declared? first).or (if isBare first then declared? second else none)
  | [first] => declared? first
  | [] => none

/-- What stands between the parts of a name. -/
def hyphen : CodePoint := '-'

/-- A name is one of some names, perhaps with more after a minus sign. -/
def isOneOf (names : List String) (name : Text) : Bool :=
  names.any fun s =>
    let s := Text.ofString s
    name == s || (s ++ [hyphen]).isPrefixOf name

/-- The name by which the charset of a declaration is looked up; only what it begins with counts
for the usual two. -/
def usual (name : Text) : Text :=
  let start : Text := (name.take 12).map fun (c : CodePoint) =>
    if c = '_' then hyphen else lowerAscii c
  if isOneOf ["utf-8"] start then "utf-8"
  else if isOneOf ["latin-1", "iso-8859-1", "iso-latin-1"] start then "iso-8859-1"
  else name

/-- Code points given by their numbers after a backslash; nothing else is an escape. -/
def unescapeNumbers? : (skip : Nat) → Text → Option Text
  | _, [] => some []
  | skip + 1, _ :: rest => unescapeNumbers? skip rest
  | 0, c :: rest =>
    match if c = '\\' then rest.head? else none with
    | none => (unescapeNumbers? 0 rest).map (c :: ·)
    | some d =>
      if d = 'u' ∨ d = 'U' then do
        let width := if d = 'u' then 4 else 8
        let value ← hexEscape? width rest.tail
        return value :: (← unescapeNumbers? (width + 1) rest)
      else (unescapeNumbers? 1 rest).map ([c, d] ++ ·)

/-- The text of octets in a charset. Two more charsets are made up of the escapes of strings. -/
def decode? (name : Text) (octets : Octets) : Option Text :=
  let usual := Charset.usualName name
  if usual = "unicode_escape" then unescape octets
  else if usual = "raw_unicode_escape" then unescapeNumbers? 0 octets
  else (Charset.ofName? name).bind (·.decode? octets)

/-- The octets of a script with its last row ended. -/
def ended (octets : Octets) : Octets :=
  if octets.getLast? = some 10 then octets else octets ++ [10]

/-- The mark at the beginning of octets that are UTF-8. -/
def mark : Octets := [0xEF, 0xBB, 0xBF]

/-- The text of a script, unless its charset is unknown or not that of its octets. A script with a
mark may declare no other charset. -/
def text? (octets : Octets) : Option Text :=
  let marked := mark.isPrefixOf octets
  let octets := Text.unifyLineEnds (if marked then octets.drop mark.length else octets)
  match (declaredIn? octets).map usual with
  | none => some (Text.ofOctets octets)
  | some name =>
    if name = "utf-8" then some (Text.ofOctets octets)
    else if marked then none
    else do
      let t ← decode? name (ended octets)
      if t.any CodePoint.isSurrogate then none
      else return t.takeWhile fun (c : CodePoint) => c ≠ 0

end Encoding

end Stencil.Script
