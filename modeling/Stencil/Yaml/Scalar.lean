import Stencil.Number.Double
import Stencil.Number.Limit
import Stencil.Yaml.Moment

/-!
# What YAML scalars stand for

A plain scalar without a tag stands for nothing, a truth value, a number or a point in time if it
is spelled like one, and for its text otherwise.

## Main definitions

* `Yaml.Tag` — kinds of nodes; `Yaml.Tag.ofPlain` is that of a plain scalar.
* `Yaml.whole`, `Yaml.decimal`, `Yaml.truth` — the values of scalars.
-/

namespace Stencil.Yaml

/-- The kind of a node. -/
inductive Tag where
  | null
  | bool
  | int
  | float
  | timestamp
  /-- Entries of other mappings are taken in. -/
  | merge
  /-- The value of a mapping that stands for a scalar. -/
  | standIn
  | str
  | sequence
  | mapping
  | other (id : Text)
  deriving DecidableEq, Repr, Inhabited

/-- The address that the standard kinds have in common. -/
def standardAddress : Text := "tag:yaml.org,2002:"

namespace Tag

/-- The standard kinds by their names. -/
def standard : List (Text × Tag) :=
  [(Text.ofString "null", null), (Text.ofString "bool", bool), (Text.ofString "int", int),
    (Text.ofString "float", float), (Text.ofString "timestamp", timestamp),
    (Text.ofString "merge", merge), (Text.ofString "value", standIn), (Text.ofString "str", str),
    (Text.ofString "seq", sequence), (Text.ofString "map", mapping)]

/-- The kind with an address. -/
def ofAddress (t : Text) : Tag :=
  match standard.find? fun (id, _) => standardAddress ++ id == t with
  | some (_, tag) => tag
  | none => other t

/-- The address of a kind. -/
def address (tag : Tag) : Text :=
  match tag with
  | other id => id
  | tag =>
    match standard.find? (·.2 == tag) with
    | some (id, _) => standardAddress ++ id
    | none => []

end Tag

/-- A text less a sign in front. -/
def unsigned (t : Text) : Text :=
  match t with
  | c :: rest => if c = '-' ∨ c = '+' then rest else t
  | [] => []

/-- A text less its low lines. -/
def withoutLowLines (t : Text) : Text := t.filter fun (c : CodePoint) => c ≠ '_'

/-- Digits and low lines that begin with a digit. -/
def isDigits (t : Text) : Bool :=
  t.head?.any CodePoint.isDigit && t.all fun (c : CodePoint) => CodePoint.isDigit c || c == '_'

/-- A number below sixty with at most two digits. -/
def isSixtieth (t : Text) : Bool :=
  match t with
  | [a] => CodePoint.isDigit a
  | [a, b] => CodePoint.isDigit a && a ≤ ('5' : CodePoint) && CodePoint.isDigit b
  | _ => false

/-- A text is spelled as a whole number. -/
def isWhole (t : Text) : Bool :=
  let t := unsigned t
  match t with
  | [] => false
  | a :: rest =>
    if a = '0' then
      match rest with
      | [] => true
      | b :: digits =>
        if b = 'b' then
          digits ≠ [] && digits.all fun (c : CodePoint) => c == '0' || c == '1' || c == '_'
        else if b = 'x' then
          digits ≠ [] &&
            digits.all fun (c : CodePoint) => (CodePoint.digit? 16 c).isSome || c == '_'
        else rest.all fun (c : CodePoint) => (CodePoint.digit? 8 c).isSome || c == '_'
    else
      match Text.splitOn ':' t with
      | first :: pieces => isDigits first && pieces.all isSixtieth
      | [] => false

/-- An exponent with a sign, or nothing. -/
def isExponent (t : Text) : Bool :=
  match t with
  | [] => true
  | e :: sign :: digits =>
    (e == 'e' || e == 'E') && (sign == '-' || sign == '+') && digits ≠ [] &&
      digits.all CodePoint.isDigit
  | _ => false

/-- Digits, low lines and an exponent, as they follow a point. -/
def isFraction (t : Text) : Bool :=
  isExponent (t.dropWhile fun (c : CodePoint) => CodePoint.isDigit c || c == '_')

/-- A text is spelled as a number with a point. -/
def isDecimal (t : Text) : Bool :=
  let t' := unsigned t
  let infinite := ([".inf", ".Inf", ".INF"].map Text.ofString).contains t'
  let none_ := ([".nan", ".NaN", ".NAN"].map Text.ofString).contains t
  match Text.cut? "." t' with
  | none => false
  | some (before, after) =>
    infinite || none_ ||
      (before.isEmpty && t' == t && after.head?.any CodePoint.isDigit && isFraction after) ||
      (isDigits before && isFraction after) ||
      (match Text.splitOn ':' before with
        | first :: piece :: pieces =>
          isDigits first && (piece :: pieces).all isSixtieth &&
            after.all fun (c : CodePoint) => CodePoint.isDigit c || c == '_'
        | _ => false)

/-- The spellings of nothing. -/
def nulls : List Text := ["", "~", "null", "Null", "NULL"].map Text.ofString

/-- The spellings of the truth values. -/
def truths : List (Text × Bool) :=
  ["yes", "Yes", "YES", "true", "True", "TRUE", "on", "On", "ON"].map
    (fun s => (Text.ofString s, true)) ++
  ["no", "No", "NO", "false", "False", "FALSE", "off", "Off", "OFF"].map
    (fun s => (Text.ofString s, false))

/-- The kind of a plain scalar without a tag. -/
def Tag.ofPlain (t : Text) : Tag :=
  if nulls.contains t then .null
  else if truths.any (·.1 == t) then .bool
  else if isDecimal t then .float
  else if isWhole t then .int
  else if t = "<<" then .merge
  else if t = "=" then .standIn
  else if Moment.isSpelling t then .timestamp
  else if t = "!" ∨ t = "&" ∨ t = "*" then .other (standardAddress ++ "yaml")
  else .str

/-- The value of digits in a base, of which there has to be one. -/
def digitsIn? (base : Nat) (t : Text) : Option Nat :=
  if t.isEmpty then none
  else t.foldl (fun v c => match v, CodePoint.digit? base c with
    | some v, some d => some (base * v + d)
    | _, _ => none) (some 0)

/-- A number in parts of sixty, the greatest first. -/
def sexagesimal? (pieces : List Text) : Option Nat :=
  pieces.foldl (fun v p => match v, digitsIn? 10 p with
    | some v, some n => some (60 * v + n)
    | _, _ => none) (some 0)

/-- The fault of a number that is indexed though it is empty. -/
def emptyNumber {α : Type} : Except Fault α := .error ⟨.indexError, "string index out of range"⟩

/-- The whole number that a scalar spells, or what is wrong with it. -/
def whole (t : Text) : Except Fault Int :=
  let t := withoutLowLines t
  let negative := t.head? == some ('-' : CodePoint)
  let signed (n : Nat) : Int := if negative then -(n : Int) else n
  let digits := unsigned t
  let read (base : Nat) (shown : Text) (value : Option Nat) : Except Fault Int :=
    match value with
    | some n =>
      if base = 10 ∧ Digits.limit < shown.length then
        .error ⟨.valueError, Digits.readingMessage shown.length⟩
      else .ok (signed n)
    | none =>
      .error ⟨.valueError, "invalid literal for int() with base " ++ Text.ofNat base ++ ": " ++
        Text.quoted shown⟩
  match t, digits with
  | [], _ | _, [] => emptyNumber
  | _, a :: rest =>
    let (b, after) := (rest.headD 0, rest.tail)
    if a = '0' ∧ b = 'b' then read 2 after (digitsIn? 2 after)
    else if a = '0' ∧ b = 'x' then read 16 after (digitsIn? 16 after)
    else if a = '0' then read 8 digits (digitsIn? 8 digits)
    else if digits.contains (':' : CodePoint) then
      let pieces := Text.splitOn ':' digits
      let wrong := pieces.find? fun p => (digitsIn? 10 p).isNone || Digits.limit < p.length
      read 10 (wrong.getD []) (sexagesimal? pieces)
    else read 10 digits (digitsIn? 10 digits)

/-- The sum of numbers with a point, each worth sixty times the one before. -/
def sexagesimalSum (base sum : Float) : List Float → Float
  | [] => sum
  | x :: xs => sexagesimalSum (base * 60.0) (sum + x * base) xs

/-- The letters of a text as small ones, within ASCII. -/
def lowered (t : Text) : Text := t.map fun c => if 0x41 ≤ c ∧ c ≤ 0x5A then c + 32 else c

/-- A scalar spells what is no number though it has the type of one. -/
def spellsNoNumber (t : Text) : Bool := lowered (unsigned (withoutLowLines t)) = ".nan"

/-- The number with a point that a scalar spells, or what is wrong with it. -/
def decimal (t : Text) : Except Fault Float :=
  let t := withoutLowLines t
  let negative := t.head? == some ('-' : CodePoint)
  let signed (x : Float) : Float := if negative then -x else x
  let digits := lowered (unsigned t)
  let read (piece : Text) : Except Fault Float :=
    match Double.ofText? piece with
    | some x => .ok x
    | none => .error ⟨.valueError, "could not convert string to float: " ++ Text.quoted piece⟩
  if t.isEmpty then emptyNumber
  else if digits = ".inf" then .ok (signed (1.0 / 0.0))
  else if digits.contains (':' : CodePoint) then
    ((Text.splitOn ':' digits).mapM read).map fun xs => signed (sexagesimalSum 1.0 0.0 xs.reverse)
  else (read digits).map signed

/-- The truth value that a scalar spells, or what is wrong with it. -/
def truth (t : Text) : Except Fault Bool :=
  let lower := lowered t
  match truths.find? (·.1 == lower) with
  | some (_, b) => .ok b
  | none => .error ⟨.keyError, lower⟩

end Stencil.Yaml
