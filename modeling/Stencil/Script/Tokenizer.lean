import Stencil.Script.Lexeme

/-!
# The tokens of rows

Rows become tokens one after another. Between rows the tokenizer remembers the bracket level, an
open string, a backslash that joined two rows, and the indentations of the enclosing blocks.

## Main definitions

* `Tokenizer` — what is remembered between rows; `Tokenizer.row` takes one row.
* `Tokens` — tokens, and the error that ended them early.
* `tokenize` — the tokens of the rows of a script.
-/

namespace Stencil.Script

/-- A string whose end has not been found yet. -/
structure OpenString where
  /-- The string so far, with a line feed after each row. -/
  text : Text
  start : Pos
  quote : Quote
  deriving DecidableEq, Repr, Inhabited

/-- How a row ends. -/
inductive RowEnding where
  /-- With the end of a statement or inside brackets. -/
  | plain
  /-- With a backslash that joins the next row. -/
  | joined
  /-- Inside a string. -/
  | within (string : OpenString)
  deriving DecidableEq, Repr, Inhabited

/-- The tokens of a row, the bracket level after it and the way it ends. -/
structure RowScan where
  tokens : List Token
  depth : Int
  ending : RowEnding
  deriving DecidableEq, Repr, Inhabited

namespace RowScan

/-- A token in front. -/
def cons (t : Token) (s : RowScan) : RowScan := { s with tokens := t :: s.tokens }

end RowScan

/-- A blank between tokens. -/
def isGap (c : CodePoint) : Bool := c == ' ' || c == '\x0c' || c == '\t'

/-- How an operator changes the bracket level. -/
def depthChange (kind : Kind) (text : Text) : Int :=
  if kind ≠ .op then 0
  else if text = "(" ∨ text = "[" ∨ text = "\x7b" then 1
  else if text = ")" ∨ text = "]" ∨ text = "\x7d" then -1
  else 0

/-- The tokens of the rest of a row that begins at a column, of which the first `skip` code points
are already taken. A code point that begins no token stands as a token of unknown kind, and so does
each blank before it. -/
def scanRow (row : Nat) : (skip column : Nat) → (depth : Int) → Text → RowScan
  | _, column, depth, [] =>
    ⟨[⟨if depth > 0 then .rowEnd else .newline, "\n", ⟨row, column⟩, ⟨row, column + 1⟩⟩], depth,
      .plain⟩
  | skip + 1, column, depth, _ :: rest => scanRow row skip (column + 1) depth rest
  | 0, column, depth, c :: rest =>
    match lexeme ((c :: rest).dropWhile isGap) with
    | .unknown =>
      (scanRow row 0 (column + 1) depth rest).cons
        ⟨.unknown, [c], ⟨row, column⟩, ⟨row, column + 1⟩⟩
    | found =>
      if isGap c then scanRow row 0 (column + 1) depth rest
      else match found with
        | .token kind length =>
          let text := (c :: rest).take length
          (scanRow row (length - 1) (column + 1) (depth + depthChange kind text) rest).cons
            ⟨kind, text, ⟨row, column⟩, ⟨row, column + length⟩⟩
        | .opening quote => ⟨[], depth, .within ⟨c :: rest ++ "\n", ⟨row, column⟩, quote⟩⟩
        | .joiner => ⟨[], depth, .joined⟩
        | .rowEnd | .unknown => ⟨[], depth, .plain⟩

/-- What is remembered between rows. -/
structure Tokenizer where
  /-- The bracket level; negative after closing brackets without partners. -/
  depth : Int
  /-- The row before ended in a backslash. -/
  joined : Bool
  /-- The indentations of the enclosing blocks, innermost first, without the outermost zero. -/
  indents : List Nat
  /-- A string that is open at the beginning of the row. -/
  within : Option OpenString
  /-- A string over several rows is given up when a row of it does not end in a backslash. This is
  so from a string between single marks on until a string over several rows ends well. -/
  strict : Bool
  deriving DecidableEq, Repr, Inhabited

namespace Tokenizer

/-- Before the first row. -/
def initial : Tokenizer := ⟨0, false, [], none, false⟩

/-- After the end of a row. -/
def resume (s : Tokenizer) (scan : RowScan) : Tokenizer :=
  match scan.ending with
  | .plain => { s with depth := scan.depth, joined := false, within := none }
  | .joined => { s with depth := scan.depth, joined := true, within := none }
  | .within string =>
    { s with
      depth := scan.depth
      joined := false
      within := some string
      strict := s.strict || !string.quote.triple }

/-- The column that leading blanks lead to: tabs go to the next multiple of eight and a form feed
starts over. -/
def indentation (blanks : Text) : Nat :=
  blanks.foldl (fun column (c : CodePoint) =>
    if c = ' ' then column + 1 else if c = '\t' then (column / 8 + 1) * 8 else 0) 0

/-- The blocks that stay open when a row returns to a column, and the number of those that end;
nothing if no block has that column. -/
def dedent? (column : Nat) : List Nat → Option (Nat × List Nat)
  | [] => if column = 0 then some (0, []) else none
  | i :: indents =>
    if column < i then (dedent? column indents).map fun (n, kept) => (n + 1, kept)
    else if column = i then some (0, i :: indents)
    else none

/-- A row that begins a statement, or holds none. -/
def statementRow (s : Tokenizer) (row : Nat) (text : Text) :
    Except TokenError (List Token × Tokenizer) :=
  let blanks := text.takeWhile isGap
  let width := blanks.length
  let rest := text.drop width
  let lineEnd (column : Nat) : Token :=
    ⟨.rowEnd, "\n", ⟨row, column⟩, ⟨row, column + 1⟩⟩
  match rest with
  | [] => .ok ([lineEnd width], s)
  | c :: _ =>
    if c = '#' then
      .ok ([⟨.comment, rest, ⟨row, width⟩, ⟨row, text.length⟩⟩, lineEnd text.length], s)
    else
      let column := indentation blanks
      let scan := scanRow row width 0 0 text
      if s.indents.headD 0 < column then
        let opened : Token := ⟨.indent, blanks, ⟨row, 0⟩, ⟨row, width⟩⟩
        .ok (opened :: scan.tokens, { s with indents := column :: s.indents }.resume scan)
      else match dedent? column s.indents with
        | none => .error (.unevenDedent row)
        | some (n, indents) =>
          let closed : Token := ⟨.dedent, [], ⟨row, width⟩, ⟨row, width⟩⟩
          .ok (List.replicate n closed ++ scan.tokens, { s with indents }.resume scan)

/-- The tokens of one row. -/
def row (s : Tokenizer) (row : Nat) (text : Text) : Except TokenError (List Token × Tokenizer) :=
  match s.within with
  | some string =>
    match string.quote.closing? text with
    | some n =>
      let scan := scanRow row n 0 s.depth text
      .ok (⟨.string, string.text ++ text.take n, string.start, ⟨row, n⟩⟩ :: scan.tokens,
        { s with strict := false }.resume scan)
    | none =>
      let whole := string.text ++ text ++ "\n"
      if s.strict = false ∨ text.getLast? = some ('\\' : CodePoint) then
        .ok ([], { s with within := some { string with text := whole } })
      else
        .ok ([⟨.unknown, whole, string.start, ⟨row, text.length + 1⟩⟩], { s with within := none })
  | none =>
    if s.depth = 0 ∧ s.joined = false then s.statementRow row text
    else
      let scan := scanRow row 0 0 s.depth text
      .ok (scan.tokens, s.resume scan)

/-- What stands after the last row. -/
def finish (s : Tokenizer) (row : Nat) : Except TokenError (List Token) :=
  match s.within with
  | some string => .error (.endInString string.start)
  | none =>
    if s.depth = 0 ∧ s.joined = false then
      let place : Pos := ⟨row, 0⟩
      .ok (s.indents.map (fun _ => ⟨.dedent, [], place, place⟩) ++ [⟨.endMarker, [], place, place⟩])
    else .error (.endInStatement ⟨row, 0⟩)

end Tokenizer

/-- Tokens, and the error that ended them early. -/
structure Tokens where
  tokens : List Token
  fault : Option TokenError
  deriving DecidableEq, Repr, Inhabited

namespace Tokens

/-- The tokens of rows from a state of the tokenizer on. -/
def ofRows (s : Tokenizer) (row : Nat) : List Text → Tokens
  | [] =>
    match s.finish row with
    | .ok tokens => ⟨tokens, none⟩
    | .error e => ⟨[], some e⟩
  | text :: rows =>
    match s.row row text with
    | .ok (tokens, s') =>
      let rest := ofRows s' (row + 1) rows
      { rest with tokens := tokens ++ rest.tokens }
    | .error e => ⟨[], some e⟩

/-- The tokens, unless an error ended them. -/
def complete (t : Tokens) : Except TokenError (List Token) :=
  match t.fault with
  | none => .ok t.tokens
  | some e => .error e

end Tokens

/-- The tokens of the rows of a script. -/
def tokenize (rows : List Text) : Except TokenError (List Token) :=
  (Tokens.ofRows Tokenizer.initial 1 rows).complete

end Stencil.Script
