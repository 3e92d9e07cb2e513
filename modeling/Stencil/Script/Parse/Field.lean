import Stencil.Script.Constant
import Stencil.Script.Terminal

/-!
# Texts with values put in

The body of a string whose braces hold expressions. A doubled brace stands for itself. A field
holds an expression, possibly an equals sign that shows the expression as well, and possibly an
exclamation mark with the letter of a conversion.

## Main definitions

* `Field` — a piece of the body: text, or the text of an expression.
* `Field.split?` — the pieces of a body.
-/

namespace Stencil.Script

/-- A piece of the body of a string whose braces hold expressions. -/
inductive Field where
  /-- Text with its escapes. -/
  | text (raw : Text)
  /-- Text without escapes. -/
  | shown (t : Text)
  /-- The text of an expression that begins after so many line feeds. -/
  | value (source : Text) (rowOffset : Nat) (conversion : Conversion)
  deriving DecidableEq, Repr, Inhabited

namespace Field

/-- The length of the expression at the beginning of a text, which ends before an exclamation mark,
a colon, an equals sign or a closing brace that stands outside of brackets and strings. -/
def sourceLength? : (skip : Nat) → (nest : List CodePoint) → Option Quote → Text → Option Nat
  | _, _, _, [] => none
  | skip + 1, nest, quote, _ :: rest => (sourceLength? skip nest quote rest).map (· + 1)
  | 0, nest, some q, c :: rest =>
    if c = '\\' then none
    else if q.marks.isPrefixOf (c :: rest) then
      (sourceLength? (q.marks.length - 1) nest none rest).map (· + 1)
    else (sourceLength? 0 nest (some q) rest).map (· + 1)
  | 0, nest, none, c :: rest =>
    let further (skip : Nat) := (sourceLength? skip nest none rest).map (· + 1)
    if c = '\\' ∨ c = '#' then none
    else if c = '\'' ∨ c = '"' then
      let triple := [c, c].isPrefixOf rest
      (sourceLength? (if triple then 2 else 0) nest (some ⟨c, triple⟩) rest).map (· + 1)
    else if c = '(' ∨ c = '[' ∨ c = '\x7b' then
      (sourceLength? 0 (c :: nest) none rest).map (· + 1)
    else if nest = [] ∧ (c = '!' ∨ c = ':' ∨ c = '\x7d' ∨ c = '=' ∨ c = '<' ∨ c = '>') then
      if (['='] : Text).isPrefixOf rest ∧ c ≠ ':' ∧ c ≠ '\x7d' then further 1
      else if c = '<' ∨ c = '>' then further 0
      else some 0
    else if c = ')' ∨ c = ']' ∨ c = '\x7d' then
      match nest with
      | o :: outer =>
        if o = Terminals.partner c then (sourceLength? 0 outer none rest).map (· + 1) else none
      | [] => none
    else further 0

/-- What the scan of text before a brace is inside of. -/
inductive Inside where
  | plain
  /-- A backslash came before. -/
  | escape
  /-- A backslash and the letter of names came before. -/
  | letter
  /-- The name of a code point. -/
  | name
  deriving DecidableEq, Repr

/-- How the text before a brace ends, with its length. -/
inductive TextEnd where
  /-- At the end, or before a brace that does not belong to the text. -/
  | plain (length : Nat)
  /-- With a brace, after which the same brace is to be passed over. -/
  | doubled (length : Nat)
  /-- Before a closing brace that has no partner. -/
  | unpaired
  deriving DecidableEq, Repr

/-- How the text at the beginning of a body ends; `n` code points of it are passed already. Braces
are doubled only in the outermost body. -/
def textEnd (raw outermost : Bool) : Inside → (n : Nat) → Text → TextEnd
  | _, n, [] => .plain n
  | inside, n, c :: rest =>
    let brace : TextEnd ⊕ Unit :=
      if c = '\x7b' ∨ c = '\x7d' then
        if outermost then
          if rest.head? = some c then .inl (.doubled (n + 1))
          else if c = '\x7d' then .inl .unpaired
          else .inl (.plain n)
        else .inl (.plain n)
      else .inr ()
    match inside with
    | .name => textEnd raw outermost (if c = '\x7d' then .plain else .name) (n + 1) rest
    | .letter => textEnd raw outermost (if c = '\x7b' then .name else .plain) (n + 1) rest
    | .escape =>
      if c = 'N' then textEnd raw outermost .letter (n + 1) rest
      else match brace with
        | .inl e => e
        | .inr () => textEnd raw outermost .plain (n + 1) rest
    | .plain =>
      if c = '\\' ∧ !raw ∧ !rest.isEmpty then textEnd raw outermost .escape (n + 1) rest
      else match brace with
        | .inl e => e
        | .inr () => textEnd raw outermost .plain (n + 1) rest

/-- A field after its opening brace and its length with the closing brace. -/
def field? (rowOffset : Nat) (t : Text) : Option (List Field × Nat) := do
  let n ← sourceLength? 0 [] none t
  let source : Text := t.take n
  if source.isBlank then none
  let shows := (['='] : Text).isPrefixOf (t.drop n)
  let blanks := if shows then ((t.drop (n + 1)).takeWhile CodePoint.isSpace).length else 0
  let m := if shows then n + 1 + blanks else n
  let label := if shows then [shown (t.take m)] else []
  let close (conversion : Conversion) (taken : Nat) : Option (List Field × Nat) :=
    if (['\x7d'] : Text).isPrefixOf (t.drop taken) then
      some (label ++ [value source rowOffset conversion], taken + 1)
    else none
  match t.drop m with
  | mark :: letter :: _ =>
    if mark = '!' then
      if letter = 's' then close .plain (m + 2)
      else if letter = 'r' then close .quoted (m + 2)
      else if letter = 'a' then close .ascii (m + 2)
      else none
    else close (if shows then .quoted else .plain) m
  | _ => close (if shows then .quoted else .plain) m

/-- The pieces of the rest of a body that begins after so many line feeds. -/
def split? (raw : Bool) : (fuel : Nat) → (rowOffset : Nat) → Text → Option (List Field)
  | 0, _, t => if t = [] then some [] else none
  | fuel + 1, rowOffset, t =>
    let piece (n : Nat) : List Field := if n = 0 then [] else [text (t.take n)]
    let offset (n : Nat) : Nat := rowOffset + Text.lineFeeds (t.take n)
    match textEnd raw true .plain 0 t with
    | .unpaired => none
    | .doubled n => (split? raw fuel (offset n) (t.drop (n + 1))).map (piece n ++ ·)
    | .plain n =>
      match t.drop n with
      | [] => some (piece n)
      | _ :: rest => do
        let (fields, taken) ← field? (offset n) rest
        let others ←
          split? raw fuel (offset n + Text.lineFeeds (rest.take taken)) (rest.drop taken)
        return piece n ++ fields ++ others

end Field

end Stencil.Script
