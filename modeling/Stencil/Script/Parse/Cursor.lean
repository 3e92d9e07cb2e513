import Stencil.Script.Terminal
import Stencil.Text.Normal

/-!
# Reading terminals

A parser takes terminals from the front of a list. It fails at a row: that of the first terminal
that does not fit.

## Main definitions

* `SyntaxFault` — where a script is no script.
* `Cursor`, `Parser` — the terminals that are left, and what takes them.
-/

namespace Stencil.Script

/-- Where a script breaks the rules of its grammar. -/
structure SyntaxFault where
  row : Nat
  deriving DecidableEq, Repr, Inhabited

/-- The terminals that are left, and the extent of the last one taken. -/
structure Cursor where
  rest : List Terminal
  last : Span
  deriving Inhabited

/-- Takes terminals and yields a value, or fails at a row. -/
abbrev Parser := StateT Cursor (Except SyntaxFault)

namespace Parser

/-- The row of the next terminal, or of the last one if none is left. -/
def row : Parser Nat := fun c =>
  .ok (match c.rest with
    | t :: _ => t.span.row
    | [] => c.last.endRow, c)

/-- Fails at the next terminal. -/
def fail {α : Type} : Parser α := do throw ⟨← row⟩

/-- Fails at a row. -/
def failAt {α : Type} (row : Nat) : Parser α := throw ⟨row⟩

/-- The next terminal. -/
def peek : Parser (Option Terminal) := fun c => .ok (c.rest.head?, c)

/-- The extent of the next terminal. -/
def here : Parser Span := fun c =>
  .ok (match c.rest with
    | t :: _ => t.span
    | [] => c.last, c)

/-- The extent from a beginning to the last terminal taken. -/
def since (start : Span) : Parser Span := fun c => .ok (start.through c.last, c)

/-- Takes the next terminal. -/
def take : Parser Terminal := fun c =>
  match c.rest with
  | t :: rest => .ok (t, ⟨rest, t.span⟩)
  | [] => .error ⟨c.last.endRow⟩

/-- The next terminal is this punctuation. -/
def atOp (text : Text) : Parser Bool := do
  return match ← peek with
    | some t => t.isOp text
    | none => false

/-- The next terminal is this word. -/
def atWord (text : Text) : Parser Bool := do
  return match ← peek with
    | some t => t.isWord text
    | none => false

/-- Takes this punctuation if it comes next. -/
def op? (text : Text) : Parser Bool := do
  if ← atOp text then
    let _ ← take
    return true
  else return false

/-- Takes this word if it comes next. -/
def word? (text : Text) : Parser Bool := do
  if ← atWord text then
    let _ ← take
    return true
  else return false

/-- Takes this punctuation. -/
def op (text : Text) : Parser Unit := do
  if ← op? text then return () else fail

/-- Takes this word. -/
def word (text : Text) : Parser Unit := do
  if ← word? text then return () else fail

/-- Takes a word that may name something. Spellings with one normal form are the same name; the
words of the language are recognized by their own spelling only. -/
def name : Parser Text := do
  match ← peek with
  | some t =>
    if t.isName then
      let _ ← take
      return t.text.normal
    else fail
  | none => fail

/-- The value of a parser on terminals of their own, which it takes completely. -/
def onAll {α : Type} (p : Parser α) (terminals : List Terminal) (last : Span) :
    Except SyntaxFault α := do
  let (value, c) ← p ⟨terminals, last⟩
  match c.rest with
  | [] => .ok value
  | t :: _ => .error ⟨t.span.row⟩

end Parser

end Stencil.Script
