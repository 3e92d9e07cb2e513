import Stencil.Number.Limit
import Stencil.Script.Lexeme
import Stencil.Script.Syntax
import Stencil.Text.Name.Basic
import Stencil.Text.Utf8

/-!
# Constants in scripts

What the tokens of strings and numbers stand for. A backslash inside a string begins an escape: a
line feed that is passed over, a letter for a control character, a number in octal or hexadecimal,
the name of a code point. A backslash before any other code point, or at the end, stands for itself.

## Main definitions

* `StringToken` — the letters, quotes and body of a string token.
* `unescape` — the text that the body of a string denotes.
* `StringToken.value?` — the text that a string token denotes.
* `number?` — the constant that a number token denotes.
-/

namespace Stencil.Script

/-- A string token taken apart. -/
structure StringToken where
  /-- The letters before the quotes, in lower case. -/
  letters : Text
  quote : Quote
  body : Text
  deriving DecidableEq, Repr, Inhabited

namespace StringToken

/-- A string token taken apart. -/
def ofText? (t : Text) : Option StringToken :=
  (stringStart? t).map fun (n, quote) =>
    let width := quote.marks.length
    ⟨(t.take n).map lowerAscii, quote, ((t.drop (n + width)).take (t.length - n - 2 * width))⟩

/-- Backslashes stand for themselves. -/
def isRaw (s : StringToken) : Bool := s.letters.contains ('r' : CodePoint)

/-- Braces hold expressions. -/
def isJoined (s : StringToken) : Bool := s.letters.contains ('f' : CodePoint)

/-- The token denotes octets. -/
def isOctets (s : StringToken) : Bool := s.letters.contains ('b' : CodePoint)

end StringToken

/-- The value of digits in a base. -/
def digitsValue? (base : Nat) (t : Text) : Option Nat :=
  t.foldl (fun value c => match value, CodePoint.digit? base c with
    | some v, some d => some (v * base + d)
    | _, _ => none) (some 0)

/-- A code point given by exactly `width` hexadecimal digits. -/
def hexEscape? (width : Nat) (t : Text) : Option CodePoint :=
  let digits := t.take width
  if digits.length = width then
    (digitsValue? 16 digits).filter (· < 0x110000)
  else none

/-- The letters of escapes for single code points. -/
def letterEscapes : List (CodePoint × CodePoint) :=
  [('\\', '\\'), ('\'', '\''), ('"', '"'), ('a', 7), ('b', 8), ('f', 12), ('n', 10), ('r', 13),
    ('t', 9), ('v', 11)]

/-- A code point given by its name between braces, and the length with the braces. -/
def nameEscape? (t : Text) : Option (CodePoint × Nat) :=
  match t with
  | c :: rest =>
    let name := rest.takeWhile fun (d : CodePoint) => d ≠ '\x7d'
    if c = '\x7b' ∧ name.length < rest.length then
      (CodePoint.ofName? name).map fun v => (v, name.length + 2)
    else none
  | [] => none

/-- What the text after a backslash denotes, and how much of it is taken. -/
def escape? : Text → Option (Text × Nat)
  | [] => some (['\\'], 0)
  | c :: rest =>
    if c = '\n' then some ([], 1)
    else match letterEscapes.find? (·.1 == c) with
      | some (_, value) => some ([value], 1)
      | none =>
        let octal := ((c :: rest).take 3).takeWhile fun d => (CodePoint.digit? 8 d).isSome
        if octal ≠ [] then (digitsValue? 8 octal).map fun v => ([v], octal.length)
        else if c = 'x' then (hexEscape? 2 rest).map fun v => ([v], 3)
        else if c = 'u' then (hexEscape? 4 rest).map fun v => ([v], 5)
        else if c = 'U' then (hexEscape? 8 rest).map fun v => ([v], 9)
        else if c = 'N' then (nameEscape? rest).map fun (v, taken) => ([v], taken + 1)
        else some (['\\', c], 1)

/-- The text that the body of a string denotes, less its first `skip` code points, if its escapes
are well-formed. -/
def unescapeFrom : (skip : Nat) → Text → Option Text
  | _, [] => some []
  | skip + 1, _ :: rest => unescapeFrom skip rest
  | 0, c :: rest =>
    if c = '\\' then
      match escape? rest with
      | some (value, taken) => (unescapeFrom taken rest).map (value ++ ·)
      | none => none
    else (unescapeFrom 0 rest).map (c :: ·)

/-- The text that the body of a string denotes, if its escapes are well-formed. -/
def unescape (body : Text) : Option Text := unescapeFrom 0 body

/-- The text that the body of a string, or a part of it, denotes. It has to hold nothing but code
points. -/
def StringToken.read? (s : StringToken) (body : Text) : Option Text :=
  if !body.isWhole then none else if s.isRaw then some body else unescape body

/-- The text that a string token without expressions denotes. -/
def StringToken.value? (s : StringToken) : Option Text :=
  if s.isOctets then none else s.read? s.body

/-- A decimal number with a point or an exponent as digits and a power of ten. -/
def decimal? (t : Text) : Option Const :=
  let mantissa := t.takeWhile fun (c : CodePoint) => c ≠ 'e' ∧ c ≠ 'E'
  let whole := mantissa.takeWhile fun (c : CodePoint) => c ≠ '.'
  let fraction := mantissa.drop (whole.length + 1)
  let exponent : Option Int :=
    match t.drop mantissa.length with
    | [] => some 0
    | _ :: sign :: digits =>
      if sign = '-' then (digitsValue? 10 digits).map fun v => -(v : Int)
      else if sign = '+' then (digitsValue? 10 digits).map fun v => (v : Int)
      else (digitsValue? 10 (sign :: digits)).map fun v => (v : Int)
    | _ => none
  match digitsValue? 10 (whole ++ fraction), exponent with
  | some digits, some e => some (.decimal digits (e - fraction.length))
  | _, _ => none

/-- A number token less its underscores. -/
def digitsOf (t : Text) : Text := t.filter fun (c : CodePoint) => c ≠ '_'

/-- A number token is a decimal number with too many digits; zeros do not count. -/
def isOverlong (t : Text) : Bool :=
  let digits := digitsOf t
  digits.all CodePoint.isDigit && digits.head? != some ('0' : CodePoint) &&
    Digits.limit < digits.length

/-- The constant that a number token denotes; imaginary numbers are none. -/
def number? (t : Text) : Option Const :=
  let digits := digitsOf t
  let based (base : Nat) : Option Const := (digitsValue? base (digits.drop 2)).map Const.int
  let start := (digits.take 2).map lowerAscii
  if isOverlong t then none
  else if start = "0x" then based 16
  else if start = "0o" then based 8
  else if start = "0b" then based 2
  else if digits.all CodePoint.isDigit then (digitsValue? 10 digits).map Const.int
  else decimal? digits

end Stencil.Script
