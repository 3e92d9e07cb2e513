import Stencil.Text.Quoted
import Stencil.Value.Exception

/-!
# Reading YAML text

Where reading stands in a text, with the line and the column that indentation is measured by.

## Main definitions

* `Yaml.Fault` — why a text is no YAML.
* `Yaml.Cursor` — the text that is left, and its place.
* `Yaml.Cursor.forward` — so many code points are passed.
-/

namespace Stencil.Yaml

/-- Why a text is no YAML: the class of the error, and the first line of what is said about it. -/
structure Fault where
  type : ExceptionClass
  line : Text
  deriving DecidableEq, Repr, Inhabited

/-- A code point that ends a line. -/
def isBreak (c : CodePoint) : Bool :=
  c == '\n' || c == '\r' || c == 0x85 || c == 0x2028 || c == 0x2029

/-- The end of a line or of the text. -/
def isLineEnd (c : CodePoint) : Bool := c == 0 || isBreak c

/-- A space, or the end of a line. -/
def isSpaceOrEnd (c : CodePoint) : Bool := c == ' ' || isLineEnd c

/-- A space, a tab, or the end of a line. -/
def isBlankOrEnd (c : CodePoint) : Bool := c == '\t' || isSpaceOrEnd c

/-- A code point that a text may hold. -/
def isAllowed (c : CodePoint) : Bool :=
  c == 9 || c == 10 || c == 13 || (0x20 ≤ c && c ≤ 0x7E) || c == 0x85 ||
    (0xA0 ≤ c && c ≤ 0xD7FF) || (0xE000 ≤ c && c ≤ 0xFFFD) ||
    (0x10000 ≤ c && c ≤ 0x10FFFF)

/-- Why a text may not be read at all. -/
def unreadable? (t : Text) : Option Fault :=
  (t.find? fun c => !isAllowed c).map fun c =>
    let width := if c < 0x10000 then 4 else if c < 0x100000 then 5 else 6
    ⟨.readerError, "unacceptable character #x" ++ Text.hex width c ++
      ": special characters are not allowed"⟩

/-- A code point in a message, of which zero stands for the end of the text. -/
def shown (c : CodePoint) : Text := Text.quoted [c]

/-- The text that is left, and where it begins. -/
structure Cursor where
  rest : Text
  index : Nat
  line : Nat
  column : Nat
  deriving DecidableEq, Repr, Inhabited

namespace Cursor

/-- The beginning of a text. -/
def start (t : Text) : Cursor := ⟨t, 0, 0, 0⟩

/-- The code point so far ahead; zero after the end. -/
def peek (c : Cursor) (ahead : Nat) : CodePoint := c.rest.getD ahead 0

/-- One code point is passed. -/
def next (c : Cursor) : Cursor :=
  match c.rest with
  | [] => c
  | a :: rest =>
    if a == '\n' || a == 0x85 || a == 0x2028 || a == 0x2029 ||
        (a == '\r' && rest.head? != some ('\n' : CodePoint)) then
      ⟨rest, c.index + 1, c.line + 1, 0⟩
    else if a == 0xFEFF then ⟨rest, c.index + 1, c.line, c.column⟩
    else ⟨rest, c.index + 1, c.line, c.column + 1⟩

/-- So many code points are passed. -/
def forward (c : Cursor) : Nat → Cursor
  | 0 => c
  | n + 1 => c.next.forward n

/-- The code points ahead as long as they are of a kind. -/
def ahead (c : Cursor) (p : CodePoint → Bool) : Text := c.rest.takeWhile p

/-- The code points of a kind are passed. -/
def skip (c : Cursor) (p : CodePoint → Bool) : Cursor := c.forward (c.ahead p).length

/-- The end of a line is passed; it counts as a line feed unless it is a separator. -/
def lineBreak (c : Cursor) : Text × Cursor :=
  let a := c.peek 0
  if a == '\r' && c.peek 1 == '\n' then (['\n'], c.forward 2)
  else if a == '\r' || a == '\n' || a == 0x85 then (['\n'], c.next)
  else if a == 0x2028 || a == 0x2029 then ([a], c.next)
  else ([], c)

/-- A marker of documents, three of one code point, stands ahead. -/
def isMarker (c : Cursor) (mark : CodePoint) : Bool :=
  c.peek 0 == mark && c.peek 1 == mark && c.peek 2 == mark && isBlankOrEnd (c.peek 3)

/-- A marker of documents stands ahead. -/
def isAnyMarker (c : Cursor) : Bool := c.isMarker '-' || c.isMarker '.'

/-- A comment is passed. -/
def skipComment (c : Cursor) : Cursor :=
  if c.peek 0 == '#' then c.skip fun a => !isLineEnd a else c

end Cursor

end Stencil.Yaml
