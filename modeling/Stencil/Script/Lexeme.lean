import Stencil.Script.Token

/-!
# Lexemes

What stands at the beginning of the rest of a row: a number, an operator, a string, a word, a
comment, or nothing that a script knows.

## Main definitions

* `Quote`, `Quote.closing?` — string quotes and where a string ends.
* `numberLength` — how far a number reaches.
* `operatorLength` — how far the longest operator reaches.
* `Lexeme`, `lexeme` — what the rest of a row begins with.
-/

namespace Stencil.Script

/-- The quotes around a string. -/
structure Quote where
  /-- A single or a double quote. -/
  mark : CodePoint
  /-- Three marks on each side; such a string may span rows. -/
  triple : Bool
  deriving DecidableEq, Repr, Inhabited

namespace Quote

/-- The marks on each side of the string. -/
def marks (q : Quote) : Text := List.replicate (if q.triple then 3 else 1) q.mark

/-- How many code points of a row belong to a string that is open at its beginning, up to and with
the closing quote. A backslash takes the next code point with it. -/
def closing? (q : Quote) : Text → Option Nat
  | [] => none
  | [c] => if c ≠ '\\' ∧ q.marks = [c] then some 1 else none
  | c :: d :: rest =>
    if c = '\\' then (closing? q rest).map (· + 2)
    else if q.marks.isPrefixOf (c :: d :: rest) then some q.marks.length
    else (closing? q (d :: rest)).map (· + 1)

end Quote

/-- A backslash with nothing after it ends the row. -/
def endsInBackslash : Text → Bool
  | [] => false
  | [c] => c = '\\'
  | c :: d :: rest => if c = '\\' then endsInBackslash rest else endsInBackslash (d :: rest)

/-- How far digits reach, each of them after an optional underscore. -/
def digitRun (p : CodePoint → Bool) : Text → Nat
  | [] => 0
  | [c] => if p c then 1 else 0
  | c :: d :: rest =>
    if p c then 1 + digitRun p (d :: rest)
    else if c = '_' ∧ p d then 2 + digitRun p rest
    else 0

/-- How far decimal digits reach that begin with a digit. -/
def decimalRun : Text → Nat
  | [] => 0
  | c :: rest => if c.isDigit then 1 + digitRun CodePoint.isDigit rest else 0

/-- How far an exponent reaches. -/
def exponentLength : Text → Nat
  | [] => 0
  | e :: rest =>
    if e = 'e' ∨ e = 'E' then
      let signLength := match rest with
        | s :: _ => if s = '-' ∨ s = '+' then 1 else 0
        | [] => 0
      match decimalRun (rest.drop signLength) with
      | 0 => 0
      | n => 1 + signLength + n
    else 0

/-- How far a number with a point or an exponent reaches. -/
def floatLength (t : Text) : Nat :=
  let whole := decimalRun t
  match t.drop whole with
  | [] => 0
  | c :: rest =>
    if c = '.' then
      let fraction := decimalRun rest
      if whole = 0 ∧ fraction = 0 then 0
      else
        let n := whole + 1 + fraction
        n + exponentLength (t.drop n)
    else if whole = 0 then 0
    else match exponentLength (c :: rest) with
      | 0 => 0
      | n => whole + n

/-- The rest of a number begins with the mark of an imaginary part. -/
def beginsImaginary : Text → Bool
  | [] => false
  | c :: _ => c = 'j' || c = 'J'

/-- How far an integer reaches. -/
def integerLength (t : Text) : Nat :=
  let based (lower upper : CodePoint) (p : CodePoint → Bool) : Nat :=
    match t with
    | z :: b :: rest =>
      if z = '0' ∧ (b = lower ∨ b = upper) then
        match digitRun p rest with
        | 0 => 0
        | n => 2 + n
      else 0
    | _ => 0
  let hexadecimal := based 'x' 'X' fun c => (CodePoint.digit? 16 c).isSome
  let binary := based 'b' 'B' fun c => (CodePoint.digit? 2 c).isSome
  let octal := based 'o' 'O' fun c => (CodePoint.digit? 8 c).isSome
  if hexadecimal ≠ 0 then hexadecimal
  else if binary ≠ 0 then binary
  else if octal ≠ 0 then octal
  else match t with
    | c :: rest =>
      if c = '0' then 1 + digitRun (fun d => d = '0') rest else decimalRun t
    | [] => 0

/-- How far a number reaches; zero if none begins here. -/
def numberLength (t : Text) : Nat :=
  let whole := decimalRun t
  let float := floatLength t
  if whole ≠ 0 ∧ beginsImaginary (t.drop whole) then whole + 1
  else if float ≠ 0 then
    if beginsImaginary (t.drop float) then float + 1 else float
  else integerLength t

/-- The operators and brackets, longer ones first. -/
def operators : List Text :=
  ["**=", "//=", ">>=", "<<=", "...", "!=", "%=", "&=", "**", "*=", "+=", "-=", "->", "//", "/=",
    ":=", "<<", "<=", "==", ">=", ">>", "@=", "^=", "|=", "%", "&", "(", ")", "*", "+", ",", "-",
    ".", "/", ":", ";", "<", "=", ">", "@", "[", "]", "^", "\x7b", "|", "\x7d",
    "~"].map Text.ofString

/-- How far the longest operator reaches; zero if none begins here. -/
def operatorLength (t : Text) : Nat :=
  match operators.find? (·.isPrefixOf t) with
  | some o => o.length
  | none => 0

/-- The letters that may stand before the quote of a string, in lower case. -/
def stringMarks : List Text := ["", "b", "r", "u", "f", "br", "rb", "fr", "rf"]

/-- An ASCII letter in lower case; other code points stay. -/
def lowerAscii (c : CodePoint) : CodePoint := if 0x41 ≤ c ∧ c ≤ 0x5A then c + 0x20 else c

/-- The number of letters before the quote of a string, and the quotes, if a string begins here. -/
def stringStart? (t : Text) : Option (Nat × Quote) :=
  let candidate (n : Nat) : Option (Nat × Quote) :=
    if (t.take n).map lowerAscii ∈ stringMarks then
      match t.drop n with
      | q :: rest =>
        if q = '\'' ∨ q = '"' then some (n, ⟨q, [q, q].isPrefixOf rest⟩) else none
      | [] => none
    else none
  (candidate 0).or ((candidate 1).or (candidate 2))

/-- What the rest of a row begins with. -/
inductive Lexeme where
  /-- A token of so many code points. -/
  | token (kind : Kind) (length : Nat)
  /-- A string that goes on in the next row. -/
  | opening (quote : Quote)
  /-- A backslash that joins the next row to this one. -/
  | joiner
  /-- Nothing is left. -/
  | rowEnd
  /-- The first code point begins no token. -/
  | unknown
  deriving DecidableEq, Repr, Inhabited

/-- The lexeme of a string with so many letters before its quotes. -/
def stringLexeme (t : Text) (letters : Nat) (q : Quote) : Option Lexeme :=
  let opened := letters + q.marks.length
  match q.closing? (t.drop opened) with
  | some n => some (.token .string (opened + n))
  | none =>
    if q.triple ∨ endsInBackslash (t.drop opened) then some (.opening q) else none

/-- The lexeme of a word; one that begins like no identifier counts as an operator. -/
def wordLexeme (t : Text) : Lexeme :=
  match t with
  | [] => .rowEnd
  | c :: rest =>
    if c.isWord then
      .token (if c.isIdentifierStart then .name else .op)
        (1 + (rest.takeWhile CodePoint.isWord).length)
    else .unknown

/-- What the rest of a row, less leading blanks, begins with. -/
def lexeme (t : Text) : Lexeme :=
  match t with
  | [] => .rowEnd
  | c :: rest =>
    if c = '\\' ∧ rest = [] then .joiner
    else if c = '#' then .token .comment t.length
    else
      let string := stringStart? t
      match string.filter (·.2.triple) with
      | some (letters, q) => (stringLexeme t letters q).getD .unknown
      | none =>
        let number := numberLength t
        let operator := operatorLength t
        if number ≠ 0 then .token .number number
        else if operator ≠ 0 then .token .op operator
        else match string.bind fun (letters, q) => stringLexeme t letters q with
          | some l => l
          | none => wordLexeme t

end Stencil.Script
