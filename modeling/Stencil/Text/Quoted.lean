import Stencil.Text.Class

/-!
# Quoted texts

The quoted form of a text, as it appears inside printed values and in messages. The quotes are
single unless the text holds a single quote and no double quote. The quote and the backslash are
escaped, tab, line feed and carriage return have letters, and what is not printable is written
with its number.

## Main definitions

* `Text.quoted` — the quoted form.
* `Text.marked` — a name in a message.
-/

namespace Stencil.Text

/-- The number of a code point after a backslash, with as many digits as it needs. -/
def numericEscape (c : CodePoint) : Text :=
  if c < 0x100 then "\\x" ++ hex 2 c
  else if c < 0x10000 then "\\u" ++ hex 4 c
  else "\\U" ++ hex 8 c

/-- One code point between the given quotes. -/
def quotedPoint (quote c : CodePoint) : Text :=
  if c = quote ∨ c = '\\' then ['\\', c]
  else if c = '\n' then "\\n"
  else if c = '\r' then "\\r"
  else if c = '\t' then "\\t"
  else if c.isPrintable then [c]
  else numericEscape c

/-- The quoted form of a text. -/
def quoted (t : Text) : Text :=
  let quote : CodePoint :=
    if (39 : CodePoint) ∈ t ∧ (34 : CodePoint) ∉ t then '"' else '\''
  quote :: t.flatMap (quotedPoint quote) ++ [quote]

/-- A text with numbers for everything beyond ASCII. -/
def inAscii (t : Text) : Text := t.flatMap fun c => if c < 0x80 then [c] else numericEscape c

/-- A text as it is, between single quotes. -/
def marked (t : Text) : Text := "'" ++ t ++ "'"

end Stencil.Text
