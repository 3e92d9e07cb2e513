import Stencil.Text.ClassTable

/-!
# Classes of code points

Which code points make up words and identifiers, which stand for decimal digits, and which are
printed as they are. ASCII is decided by ranges, the rest by the tables of Unicode 14.

## Main definitions

* `CodePoint.isWord` — letters, numerals and the underscore.
* `CodePoint.isIdentifierStart`, `CodePoint.isIdentifierPart` — identifiers.
* `CodePoint.decimalValue?` — the value of a decimal digit of any script.
* `CodePoint.isPrintable` — shown as it is inside quotes.
-/

namespace Stencil.CodePoint

/-- An ASCII digit. -/
def isDigit (c : CodePoint) : Bool := 0x30 ≤ c && c ≤ 0x39

/-- An ASCII letter. -/
def isAsciiLetter (c : CodePoint) : Bool := (0x41 ≤ c && c ≤ 0x5A) || (0x61 ≤ c && c ≤ 0x7A)

/-- A letter, a numeral of any kind, or the underscore. -/
def isWord (c : CodePoint) : Bool :=
  if c < 0x80 then isDigit c || isAsciiLetter c || c == '_' else inTable alphanumeric c

/-- What an identifier may begin with. -/
def isIdentifierStart (c : CodePoint) : Bool :=
  if c < 0x80 then isAsciiLetter c || c == '_' else inTable identifierStart c

/-- What may follow in an identifier. -/
def isIdentifierPart (c : CodePoint) : Bool :=
  if c < 0x80 then isDigit c || isAsciiLetter c || c == '_' else inTable identifierContinue c

/-- The value of a decimal digit of any script. -/
def decimalValue? (c : CodePoint) : Option Nat :=
  if c < 0x80 then if isDigit c then some (c - 0x30) else none
  else match rank decimalZero c with
    | 0 => none
    | n + 1 =>
      let first := decimalZero.getD n 0
      if c ≤ first + 9 then some (c - first) else none

/-- Shown as it is inside quotes. -/
def isPrintable (c : CodePoint) : Bool :=
  if c < 0x80 then 0x20 ≤ c && c < 0x7F else !inTable unprintable c

end Stencil.CodePoint
