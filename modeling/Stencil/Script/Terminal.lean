import Stencil.Script.Lexeme
import Stencil.Script.Syntax
import Stencil.Text.Utf8

/-!
# Terminals

A script that is to be run is read more strictly than a code section on its own. Its words and
numbers have to be well-formed and to keep apart, its brackets have to match, and tabs and spaces
have to indent in the same way. Comments and the ends of rows inside brackets are passed over; what
is left are the terminals of the grammar.

## Main definitions

* `Terminal` — a token of the grammar with its extent in octets.
* `keywords` — the words that name nothing.
* `Terminals` — the terminals of a script, with the way they end.
* `Terminals.ofText` — the terminals of a script.
-/

namespace Stencil.Script

/-- A token of the grammar. -/
structure Terminal where
  kind : Kind
  text : Text
  span : Span
  /-- The number of brackets that are open after it. -/
  depth : Nat
  deriving DecidableEq, Repr, Inhabited

/-- The words of the language, which name nothing. -/
def keywords : List Text :=
  ["False", "None", "True", "and", "as", "assert", "async", "await", "break", "class", "continue",
    "def", "del", "elif", "else", "except", "finally", "for", "from", "global", "if", "import",
    "in", "is", "lambda", "nonlocal", "not", "or", "pass", "raise", "return", "try", "while",
    "with", "yield"].map Text.ofString

namespace Terminal

/-- The terminal is a word that may name something. -/
def isName (t : Terminal) : Bool := t.kind == .name && !decide (t.text ∈ keywords)

/-- The terminal is the given punctuation. -/
def isOp (t : Terminal) (text : Text) : Bool := t.kind == .op && t.text == text

/-- The terminal is the given word. -/
def isWord (t : Terminal) (text : Text) : Bool := t.kind == .name && t.text == text

end Terminal

namespace Terminals

/-- How the terminals of a script end. -/
inductive Ending where
  /-- With the script. -/
  | complete
  /-- With something at a row that no script may hold; it is reported before any fault of the
  grammar. -/
  | broken (row : Nat)
  /-- With something at a row that is reported where the grammar leads to it; before that, only the
  row of the innermost bracket that is still open may be. -/
  | stuck (row : Nat) (bracket : Option Nat)
  deriving DecidableEq, Repr, Inhabited

end Terminals

/-- The terminals of a script and how they end. -/
structure Terminals where
  list : List Terminal
  ending : Terminals.Ending
  deriving DecidableEq, Repr, Inhabited

namespace Terminals

/-- How deep brackets may nest. -/
def maxBrackets : Nat := 200

/-- How deep blocks may be indented, the outermost block included. -/
def maxIndents : Nat := 100

/-- A blank between terminals. -/
def isBlank (c : CodePoint) : Bool := c == ' ' || c == '\t' || c == '\x0c'

/-- What is left of a text from the end of its row on. -/
def fromRowEnd (t : Text) : Text := t.dropWhile fun (c : CodePoint) => c != '\n'

/-- A code point that the words of scripts are looked for among. -/
def isWordPart (c : CodePoint) : Bool :=
  0x80 ≤ c || c == '_' || CodePoint.isDigit c || CodePoint.isAsciiLetter c

/-- The bracket that a closing bracket belongs to. -/
def partner (c : CodePoint) : CodePoint :=
  if c = ')' then '(' else if c = ']' then '[' else '\x7b'

/-- What is left does not begin with a word that clings to the number before it; words that join
numbers may. -/
def keepsApart (t : Text) : Bool :=
  !t.head?.any isWordPart ||
    (["and", "else", "for", "if", "in", "is", "or", "not"].map Text.ofString).any (·.isPrefixOf t)

/-- How far digits reach, in groups with single underscores before and between them; nothing if an
underscore has no digit after it. -/
def digits? (p : CodePoint → Bool) : Text → Option Nat
  | [] => some 0
  | c :: rest =>
    if p c then (digits? p rest).map (· + 1)
    else if c = '_' then if rest.head?.any p then (digits? p rest).map (· + 1) else none
    else some 0

/-- How far the mark of an imaginary number reaches, if the number ends well. -/
def markEnd? (t : Text) : Option Nat :=
  if beginsImaginary t then if keepsApart t.tail then some 1 else none
  else if keepsApart t then some 0 else none

/-- How far an exponent and the mark of an imaginary number reach. -/
def exponentEnd? (t : Text) : Option Nat := do
  match t with
  | e :: rest =>
    if e = 'e' ∨ e = 'E' then
      let sign := match rest with
        | s :: _ => if s = '+' ∨ s = '-' then 1 else 0
        | [] => 0
      if (rest.drop sign).head?.any CodePoint.isDigit then
        let n ← digits? CodePoint.isDigit (rest.drop sign)
        let m ← markEnd? (rest.drop (sign + n))
        return 1 + sign + n + m
      else if sign = 0 ∧ keepsApart t then return 0
      else none
    else markEnd? t
  | [] => return 0

/-- How far the digits after a point and what may follow them reach. -/
def fractionEnd? (t : Text) : Option Nat := do
  let n ← if t.head?.any CodePoint.isDigit then digits? CodePoint.isDigit t else pure 0
  return n + (← exponentEnd? (t.drop n))

/-- How far a number reaches that begins with a digit; nothing if it is none. -/
def number? (t : Text) : Option Nat := do
  let based (p : CodePoint → Bool) : Option Nat := do
    let n ← digits? p (t.drop 2)
    if n = 0 ∨ (t.drop (2 + n)).head?.any CodePoint.isDigit ∨ !keepsApart (t.drop (2 + n)) then none
    else return 2 + n
  let start := (t.take 2).map lowerAscii
  if start = "0x" then based fun c => (CodePoint.digit? 16 c).isSome
  else if start = "0o" then based fun c => (CodePoint.digit? 8 c).isSome
  else if start = "0b" then based fun c => (CodePoint.digit? 2 c).isSome
  else
    let n ← digits? CodePoint.isDigit t
    let rest := t.drop n
    let pointed := rest.head? = some ('.' : CodePoint)
    let m ← if pointed then (fractionEnd? rest.tail).map (· + 1) else exponentEnd? rest
    let padded := t.head? = some ('0' : CodePoint) ∧
      (t.take n).any fun (c : CodePoint) => c ≠ '0' ∧ c ≠ '_'
    if padded ∧ m = 0 then none else return n + m

/-- How far a string reaches after its opening quotes, with the closing ones; `n` are counted
already. Between single marks it has to end on its row. -/
def stringEnd? (q : Quote) (n : Nat) : Text → Option Nat
  | [] => none
  | [c] => if q.marks = [c] then some (n + 1) else none
  | c :: d :: rest =>
    if c = '\\' then stringEnd? q (n + 2) rest
    else if q.marks.isPrefixOf (c :: d :: rest) then some (n + q.marks.length)
    else if c = '\n' ∧ !q.triple then none
    else stringEnd? q (n + 1) (d :: rest)

/-- The length of the word at the beginning of a text, if it is well-formed. -/
def word? (t : Text) : Option Nat :=
  let word := t.takeWhile isWordPart
  match word with
  | [] => none
  | c :: rest =>
    if c.isIdentifierStart && rest.all CodePoint.isIdentifierPart then some word.length else none

/-- The length of the operator at the beginning of a text; any other code point counts as one. -/
def operator (t : Text) : Nat :=
  if (Text.ofString "<>").isPrefixOf t then 2 else max 1 (operatorLength t)

/-- A word, a number, a string or an operator at the beginning of a text and its length; nothing if
it is none of them. -/
def visible? (t : Text) : Option (Kind × Nat) :=
  match stringStart? t with
  | some (letters, q) =>
    let opened := letters + q.marks.length
    (stringEnd? q opened (t.drop opened)).map fun n => (.string, n)
  | none =>
    match t with
    | [] => none
    | c :: rest =>
      if c.isDigit then (number? t).map fun n => (.number, n)
      else if isWordPart c then (word? t).map fun n => (.name, n)
      else if c = '.' ∧ rest.head?.any CodePoint.isDigit then
        (fractionEnd? rest).map fun n => (.number, n + 1)
      else if c.isPrintable then some (.op, operator t)
      else none

/-- The indentation of a row in two measures, in which a tab goes to the next multiple of eight and
counts as one column. If a row is joined to others, the first of them that is indented counts. -/
structure Margin where
  wide : Nat
  narrow : Nat
  joined : Nat
  deriving DecidableEq, Repr, Inhabited

namespace Margin

/-- The margin after one more blank. -/
def blank (m : Margin) (c : CodePoint) : Margin :=
  if c = ' ' then { m with wide := m.wide + 1, narrow := m.narrow + 1 }
  else if c = '\t' then { m with wide := (m.wide / 8 + 1) * 8, narrow := m.narrow + 1 }
  else { m with wide := 0, narrow := 0 }

/-- The margin after the end of a joined row. -/
def join (m : Margin) : Margin := if m.joined = 0 then { m with joined := m.wide } else m

/-- The two measures. -/
def measures (m : Margin) : Nat × Nat :=
  if m.joined = 0 then (m.wide, m.narrow) else (m.joined, m.joined)

end Margin

/-- Where the scan of a script stands. -/
structure Scan where
  rest : Text
  row : Nat
  /-- The number of octets before it on its row. -/
  column : Nat
  /-- Nothing has been found on the row. -/
  fresh : Bool
  /-- The open brackets with their rows, innermost first. -/
  brackets : List (CodePoint × Nat)
  /-- The indentations of the enclosing blocks, innermost first, without the outermost one. -/
  indents : List (Nat × Nat)
  deriving Inhabited

namespace Scan

/-- The scan stops at its row. -/
def stuck (s : Scan) : Ending := .stuck s.row (s.brackets.head?.map (·.2))

/-- The scan stops at its row with something that is reported before anything else. -/
def broken (s : Scan) : Ending := .broken s.row

/-- The scan stops because the script does, though a bracket is open or a row is to be joined. -/
def cut (s : Scan) : Ending :=
  let bracket := s.brackets.head?.map (·.2)
  .stuck (bracket.getD s.row) bracket

/-- The scan after a text without line feeds, which stands before `rest`. -/
def pass (s : Scan) (passed rest : Text) : Scan :=
  { s with rest, column := s.column + Text.octetCount passed }

/-- The scan at the beginning of the next row, if there is one. -/
def nextRow (s : Scan) (rest : Text) : Scan :=
  { s with rest, row := if rest.isEmpty then s.row else s.row + 1, column := 0 }

/-- The scan after the first code points, which may span rows. -/
def after (s : Scan) (n : Nat) : Scan :=
  let passed := s.rest.take n
  let rows := Text.lineFeeds passed
  let last := (Text.rows passed).getLastD []
  { s with
    rest := s.rest.drop n
    row := s.row + rows
    column := (if rows = 0 then s.column else 0) + Text.octetCount last
    fresh := false }

/-- A terminal that spans what lies between two places. -/
def terminal (s after : Scan) (kind : Kind) (text : Text) : Terminal :=
  ⟨kind, text, ⟨s.row, s.column, after.row, after.column⟩, after.brackets.length⟩

/-- A terminal without a text. -/
def empty (s : Scan) (kind : Kind) : Terminal := s.terminal s kind []

/-- The margin at the beginning of a row, and the scan after it. -/
def margin (s : Scan) : (fuel : Nat) → Margin → Except Ending (Margin × Scan)
  | 0, m => .ok (m, s)
  | fuel + 1, m =>
    match s.rest with
    | [] => .ok (m, s)
    | c :: rest =>
      if isBlank c then (s.pass [c] rest).margin fuel (m.blank c)
      else if c = '\\' then
        match rest with
        | d :: after =>
          if d ≠ '\n' then .error s.stuck
          else if after.isEmpty then .error s.cut
          else (s.nextRow after).margin fuel m.join
        | [] => .error s.stuck
      else .ok (m, s)

/-- The blocks that stay open when a row returns to a margin, and the number of those that end. -/
def dedent? (wide narrow : Nat) : List (Nat × Nat) → Option (Nat × List (Nat × Nat))
  | [] => if wide = 0 ∧ narrow = 0 then some (0, []) else none
  | (w, n) :: outer =>
    if wide < w then (dedent? wide narrow outer).map fun (ended, kept) => (ended + 1, kept)
    else if wide = w ∧ narrow = n then some (0, (w, n) :: outer)
    else none

/-- The changes of indentation at the beginning of a statement. -/
def indent (s : Scan) (m : Margin) : Except Ending (List Terminal × Scan) :=
  let (wide, narrow) := m.measures
  let (w, n) := s.indents.headD (0, 0)
  if w < wide then
    if maxIndents ≤ s.indents.length + 1 ∨ narrow ≤ n then .error s.stuck
    else .ok ([s.empty .indent], { s with indents := (wide, narrow) :: s.indents })
  else
    match dedent? wide narrow s.indents with
    | some (ended, indents) =>
      .ok (List.replicate ended (s.empty .dedent), { s with indents })
    | none => .error s.stuck

/-- What the beginning of a row brings: a row with nothing on it is passed over, any other may begin
a statement. -/
def begin (s : Scan) : Except Ending (List Terminal × Scan) := do
  let (m, s) ← s.margin s.rest.length ⟨0, 0, 0⟩
  let s := { s with fresh := false }
  match s.rest with
  | c :: _ =>
    if c = '#' ∨ c = '\n' then
      return ([], { (s.nextRow (fromRowEnd s.rest).tail) with fresh := true })
    else if s.brackets.isEmpty then s.indent m
    else return ([], s)
  | [] => if s.brackets.isEmpty then s.indent m else return ([], s)

/-- The brackets after an operator at a row; nothing if it closes what is not open. -/
def bracketsAfter (text : Text) (row : Nat) (brackets : List (CodePoint × Nat)) :
    Option (List (CodePoint × Nat)) :=
  let mark := text.headD 0
  if mark = '(' ∨ mark = '[' ∨ mark = '\x7b' then
    if brackets.length < maxBrackets then some ((mark, row) :: brackets) else none
  else if mark = ')' ∨ mark = ']' ∨ mark = '\x7d' then
    match brackets with
    | (c, _) :: outer => if c = partner mark then some outer else none
    | [] => none
  else some brackets

/-- What comes next on a row. -/
def step (s : Scan) : Except (List Terminal × Ending) (List Terminal × Scan) :=
  let stop {α : Type} (e : Ending) : Except (List Terminal × Ending) α := .error ([], e)
  if s.fresh then s.begin.mapError fun e => ([], e)
  else
    match s.rest with
    | [] =>
      if s.brackets.isEmpty then .error ([s.empty .endMarker], .complete) else stop s.cut
    | c :: rest =>
      if isBlank c then .ok ([], s.pass [c] rest)
      else if c = '#' then .ok ([], s.pass [] (fromRowEnd s.rest))
      else if c = '\n' then
        let ended := { (s.nextRow rest) with fresh := true }
        .ok (if s.brackets.isEmpty then [s.empty .newline] else [], ended)
      else if c = '\\' then
        match rest with
        | d :: after =>
          if d ≠ '\n' then stop s.stuck
          else if after.isEmpty then stop s.cut
          else .ok ([], s.nextRow after)
        | [] => stop s.stuck
      else
        match visible? s.rest with
        | none => stop s.broken
        | some (kind, n) =>
          let text := s.rest.take n
          let brackets? := if kind = .op then bracketsAfter text s.row s.brackets
            else some s.brackets
          match brackets? with
          | none => stop s.broken
          | some brackets =>
            let next := { (s.after n) with brackets }
            .ok ([s.terminal next kind text], next)

/-- The terminals from a place on, after those that are found already, the last of them first. -/
def run : (fuel : Nat) → Scan → List Terminal → Terminals
  | 0, s, found => ⟨found.reverse, s.stuck⟩
  | fuel + 1, s, found =>
    match s.step with
    | .ok (ts, next) => next.run fuel (ts.reverse ++ found)
    | .error (ts, e) => ⟨(ts.reverse ++ found).reverse, e⟩

end Scan

/-- A script with all line ends unified, whose last row ends with one. -/
def lines (source : Text) : Text :=
  let t := source.unifyLineEnds
  if t.getLast? = some ('\n' : CodePoint) then t else t ++ "\n"

/-- The terminals of a script. Every step takes a code point or ends a row that has just begun. -/
def ofText (source : Text) : Terminals :=
  let t := lines source
  Scan.run (2 * t.length + 2) ⟨t, 1, 0, true, [], []⟩ []

end Terminals

end Stencil.Script
