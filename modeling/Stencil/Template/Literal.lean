import Stencil.Text.Basic

/-!
# Literal text as a statement

A literal segment becomes one statement that writes it. The text stands between single quotes with
escapes such that the statement spans exactly as many rows as the literal does, and holds no
control character, no surrogate and no bare quote.

## Main definitions

* `Literal.escape` — the escaped form of one code point.
* `Literal.statement` — the statement that writes a text.
-/

namespace Stencil.Literal

/-- A code point between single quotes. A line feed is written as an escape and then continues
on a new row, so that rows of the statement and of the literal correspond. -/
def escape (c : CodePoint) : Text :=
  if c = '\r' then "\\r"
  else if c = '\n' then "\\n\\\n"
  else if c = '\\' ∨ c = '\'' then ['\\', c]
  else if (c < 0x20 ∧ c ≠ '\t') ∨ c = 0x7F then "\\x" ++ Text.hex 2 c
  else if c.isSurrogate then "\\u" ++ Text.hex 4 c
  else [c]

/-- What stands between the quotes for a text. -/
def escapeText (t : Text) : Text := t.flatMap escape

/-- The statement that writes a text. -/
def statement (t : Text) : Text := "write('" ++ escapeText t ++ "')"

end Stencil.Literal
