import Stencil.Number.Notation
import Stencil.Value.Order

/-!
# Texts with marks for values

A percent sign in a text begins a mark, in whose place a value is written. A mark may name the key
under which its value is found, and say how wide and how exact it is to be written; its last letter
says as what.

## Main definitions

* `Mark`, `Mark.read?` — a mark, and the mark at the beginning of a text.
* `Mark.write` — a value in the place of a mark.
* `Format.fill` — a text with values put in for all its marks.
-/

namespace Stencil

/-- What goes wrong while values are put into a text, as an exception. -/
abbrev Filling := Except Thrown

/-- Says what goes wrong. -/
def Filling.refuse {α : Type} (type : ExceptionClass) (message : Text) : Filling α :=
  Except.error (Thrown.plain type [.str message])

/-- A text, or the reason why there is none as an exception. -/
def Filling.ofWriting {α : Type} (t : Except WritingFault α) : Filling α :=
  match t with
  | .ok a => .ok a
  | .error .digits => Filling.refuse .valueError Digits.writingMessage
  | .error .depth =>
    Filling.refuse .recursionError
      "maximum recursion depth exceeded while getting the repr of an object"

/-- The values that marks take one after another. -/
structure Supply where
  /-- What keys are looked up in, if that is possible. -/
  mapping : Option Value
  values : List Value

namespace Supply

/-- The values for the marks of a text that are given as one. -/
def of (v : Value) : Supply :=
  match v with
  | .tuple _ vs => ⟨none, vs⟩
  | .dict _ | .list _ | .range .. => ⟨some v, [v]⟩
  | v => ⟨none, [v]⟩

/-- The next value. -/
def next (s : Supply) : Filling (Value × Supply) :=
  match s.values with
  | v :: vs => .ok (v, { s with values := vs })
  | [] => Filling.refuse .typeError "not enough arguments for format string"

/-- The value of a key comes next, and no others after it. -/
def seek (h : Heap) (key : Text) (s : Supply) : Filling Supply :=
  match s.mapping with
  | none => Filling.refuse .typeError "format requires a mapping"
  | some (.dict r) =>
    match (h.dict r).getText? key with
    | some v => .ok { s with values := [v] }
    | none => Except.error (Thrown.plain .keyError [.str key])
  | some v =>
    Filling.refuse .typeError (v.typeName h ++ " indices must be integers or slices, not str")

end Supply

/-- A mark in a text. -/
structure Mark where
  /-- The value stands on the left. -/
  left : Bool
  /-- A sign is written before numbers that are not negative. -/
  sign : Bool
  /-- A blank is written there. -/
  blank : Bool
  /-- Numbers are written in their fuller form. -/
  full : Bool
  /-- Numbers are filled up with zeros. -/
  zeros : Bool
  width : Option Nat
  precision : Option Nat
  /-- As what the value is written. -/
  letter : CodePoint
  deriving DecidableEq, Repr, Inhabited

namespace Mark

/-- A mark that says nothing. -/
def plain : Mark := ⟨false, false, false, false, false, none, none, 0⟩

/-- What is left of a text with how many code points of it have been passed, counted from 0. -/
structure Place where
  rest : Text
  index : Nat

namespace Place

/-- The place after a code point. -/
def skip (p : Place) : Place := ⟨p.rest.drop 1, p.index + 1⟩

end Place

/-- Says that a text ends inside a mark. -/
def incomplete {α : Type} : Filling α := Filling.refuse .valueError "incomplete format"

/-- A key up to the parenthesis that closes it. -/
def key? : (depth : Nat) → Text → Option Text
  | _, [] => none
  | depth, c :: rest =>
    if c = ')' then
      match depth with
      | 0 => some []
      | depth + 1 => (key? depth rest).map (c :: ·)
    else if c = '(' then (key? (depth + 1) rest).map (c :: ·)
    else (key? depth rest).map (c :: ·)

/-- The flags at a place. -/
def flags (m : Mark) (index : Nat) : Text → Mark × Place
  | [] => (m, ⟨[], index⟩)
  | c :: rest =>
    if c = '-' then flags { m with left := true } (index + 1) rest
    else if c = '+' then flags { m with sign := true } (index + 1) rest
    else if c = ' ' then flags { m with blank := true } (index + 1) rest
    else if c = '#' then flags { m with full := true } (index + 1) rest
    else if c = '0' then flags { m with zeros := true } (index + 1) rest
    else (m, ⟨c :: rest, index⟩)

/-- The largest width that is possible. -/
def maxWidth : Nat := 9223372036854775807

/-- The largest precision that is possible. -/
def maxPrecision : Nat := 2147483647

/-- Digits at a place; nothing for a number beyond a limit. -/
def digits (limit : Nat) (n : Nat) (index : Nat) : Text → Option (Nat × Place)
  | [] => some (n, ⟨[], index⟩)
  | c :: rest =>
    match CodePoint.digit? 10 c with
    | some d => if limit < n * 10 + d then none else digits limit (n * 10 + d) (index + 1) rest
    | none => some (n, ⟨c :: rest, index⟩)

/-- A value that says how wide or exact another one is written. -/
def measure (limit : Nat) (s : Supply) : Filling (Int × Supply) := do
  let (v, s) ← s.next
  let bounded (i : Int) : Filling (Int × Supply) :=
    if (limit : Int) < i ∨ i < -(limit : Int) - 1 then
      Filling.refuse .overflowError (if limit = maxWidth then
        "Python int too large to convert to C ssize_t" else
        "Python int too large to convert to C int")
    else .ok (i, s)
  match v with
  | .int i => bounded i
  | .bool b => bounded (if b then 1 else 0)
  | _ => Filling.refuse .typeError "* wants int"

/-- The width at a place. -/
def readWidth (m : Mark) (p : Place) (s : Supply) : Filling (Mark × Place × Supply) := do
  match p.rest with
  | c :: _ =>
    if c = '*' then
      let (i, s) ← measure maxWidth s
      return ({ m with width := some i.natAbs, left := m.left || i < 0 }, p.skip, s)
    else if (CodePoint.digit? 10 c).isSome then
      match digits maxWidth 0 p.index p.rest with
      | some (n, p) => return ({ m with width := some n }, p, s)
      | none => Filling.refuse .valueError "width too big"
    else return (m, p, s)
  | [] => return (m, p, s)

/-- The precision at a place. -/
def readPrecision (m : Mark) (p : Place) (s : Supply) : Filling (Mark × Place × Supply) := do
  match p.rest with
  | c :: rest =>
    if c = '.' then
      if rest.head? = some ('*' : CodePoint) then
        let (i, s) ← measure maxPrecision s
        return ({ m with precision := some i.toNat }, p.skip.skip, s)
      else
        match digits maxPrecision 0 p.skip.index rest with
        | some (n, p) => return ({ m with precision := some n }, p, s)
        | none => Filling.refuse .valueError "precision too big"
    else return (m, p, s)
  | [] => return (m, p, s)

/-- The mark at a place behind a percent sign, what follows it, and what is left of the values. -/
def read (h : Heap) (p : Place) (s : Supply) : Filling (Mark × Place × Supply) := do
  let (p, s) ← match p.rest with
    | c :: rest =>
      if c = '(' then
        match key? 0 rest with
        | some key => do
          let s ← s.seek h key
          pure ((⟨rest.drop (key.length + 1), p.index + key.length + 2⟩ : Place), s)
        | none => Filling.refuse .valueError "incomplete format key"
      else pure (p, s)
    | [] => pure (p, s)
  let (m, p) := flags plain p.index p.rest
  let (m, p, s) ← readWidth m p s
  let (m, p, s) ← readPrecision m p s
  let p := match p.rest with
    | c :: _ => if c = 'h' ∨ c = 'l' ∨ c = 'L' then p.skip else p
    | [] => p
  match p.rest with
  | c :: _ => return ({ m with letter := c }, p.skip, s)
  | [] => incomplete

/-- A written value made as wide as a mark asks for. A number may have a sign, and in its fuller
form `marks` more code points that tell its base; zeros go behind both. -/
def fit (m : Mark) (isNumber : Bool) (marks : Nat) (t : Text) : Text :=
  let own : Text := t.take 1
  let hasOwn := isNumber && (own == "-" || own == "+")
  let sign : Text :=
    if !isNumber then [] else if hasOwn then own
    else if m.sign then "+" else if m.blank then " " else []
  let body := if hasOwn then t.drop 1 else t
  let base := body.take marks
  let number := body.drop marks
  let room := m.width.getD 0 - (sign.length + body.length)
  let gap (c : CodePoint) : Text := List.replicate room c
  if m.left then sign ++ base ++ number ++ gap ' '
  else if isNumber && m.zeros then sign ++ base ++ gap '0' ++ number
  else gap ' ' ++ sign ++ base ++ number

/-- A whole number in a base with at least so many digits. -/
def inBase (m : Mark) (base : Nat) (i : Int) : Text :=
  let digits := Notation.padded (m.precision.getD 0) ((Nat.toDigits base i.natAbs).map Char.toNat)
  let digits :=
    if m.letter = 'X' then digits.map fun c => if 0x61 ≤ c then c - 32 else c else digits
  let marks : Text := if m.full then ['0', m.letter] else []
  (if i < 0 then ("-" : Text) else []) ++ marks ++ digits

/-- A value as a whole number, where only such a one will do. -/
def wholeOf (h : Heap) (m : Mark) (exact : Bool) (v : Value) : Filling Int :=
  let refused (what : Text) : Filling Int :=
    Filling.refuse .typeError ("%" ++ [m.letter] ++ " format: " ++ what ++ " is required, not " ++
      v.typeName h)
  match v.numeral? with
  | some (.int i) => .ok i
  | some (.float x) =>
    if exact then refused "an integer"
    else match Double.truncate? x with
      | some i => .ok i
      | none =>
        if Double.isNaN x then Filling.refuse .valueError "cannot convert float NaN to integer"
        else Filling.refuse .overflowError "cannot convert float infinity to integer"
  | none => refused (if exact then "an integer" else "a real number")

/-- A value as a double. -/
def doubleOf (h : Heap) (v : Value) : Filling Float :=
  match v.numeral? with
  | some (.float x) => .ok x
  | some (.int i) =>
    let x := Double.ofInt i
    if Double.view x = .infinite (i < 0) then
      Filling.refuse .overflowError "int too large to convert to float"
    else .ok x
  | none => Filling.refuse .typeError ("must be real number, not " ++ v.typeName h)

/-- A value as a single code point. -/
def pointOf (v : Value) : Filling CodePoint :=
  match v with
  | .str [c] => .ok c
  | .str _ => Filling.refuse .typeError "%c requires int or char"
  | v =>
    match v.numeral? with
    | some (.int i) =>
      if 0 ≤ i ∧ i < 0x110000 then .ok i.toNat
      else Filling.refuse .overflowError "%c arg not in range(0x110000)"
    | _ => Filling.refuse .typeError "%c requires int or char"

/-- The notation that a letter asks for. -/
def notation? (c : CodePoint) : Option Notation :=
  if c = 'f' ∨ c = 'F' then some .fixed
  else if c = 'e' ∨ c = 'E' then some .exponent
  else if c = 'g' ∨ c = 'G' then some .general
  else none

/-- ASCII letters in upper case. -/
def upperAscii (t : Text) : Text := t.map fun c => if 0x61 ≤ c ∧ c ≤ 0x7A then c - 32 else c

/-- A value in the place of a mark that ends before `index`. -/
def write (h : Heap) (m : Mark) (index : Nat) (v : Value) : Filling Text := do
  let c := m.letter
  let short (t : Text) : Text := m.fit false 0 (t.take (m.precision.getD t.length))
  if c = 's' then return short (← Filling.ofWriting (v.text? h))
  else if c = 'r' then return short (← Filling.ofWriting (v.quoted? h))
  else if c = 'a' then
    return short (Text.inAscii (← Filling.ofWriting (v.quoted? h)))
  else if c = 'd' ∨ c = 'i' ∨ c = 'u' then
    let i ← m.wholeOf h false v
    let t ← Filling.ofWriting (Value.intText i.natAbs)
    let t := Notation.padded (m.precision.getD 0) t
    return m.fit true 0 (if i < 0 then "-" ++ t else t)
  else if c = 'x' ∨ c = 'X' ∨ c = 'o' then
    let i ← m.wholeOf h true v
    return m.fit true (if m.full then 2 else 0) (m.inBase (if c = 'o' then 8 else 16) i)
  else if c = 'c' then return m.fit false 0 [← pointOf v]
  else
    match notation? c with
    | some form =>
      let t := Double.notated form (m.precision.getD 6) m.full (← doubleOf h v)
      return m.fit true 0 (if c < 0x61 then upperAscii t else t)
    | none =>
      let shown : CodePoint := if 31 ≤ c ∧ c ≤ 126 then c else '?'
      Filling.refuse .valueError ("unsupported format character " ++ Text.marked [shown] ++
        " (0x" ++ ((Nat.toDigits 16 c).map Char.toNat) ++ ") at index " ++
        Text.ofNat (index - 1))

end Mark

namespace Format

/-- Says that values are left. -/
def leftOver {α : Type} : Filling α :=
  Filling.refuse .typeError "not all arguments converted during string formatting"

/-- A text with values put in for its marks, which are read with fuel for each code point. -/
def fillFrom (h : Heap) : (fuel : Nat) → Mark.Place → Supply → Filling Text
  | 0, _, _ => Mark.incomplete
  | fuel + 1, p, s =>
    match p.rest with
    | [] => if s.mapping.isNone && !s.values.isEmpty then leftOver else .ok []
    | c :: rest => do
      if c ≠ '%' then return c :: (← fillFrom h fuel p.skip s)
      else if rest.head? = some ('%' : CodePoint) then
        return c :: (← fillFrom h fuel p.skip.skip s)
      else
        let (m, p, s) ← Mark.read h p.skip s
        if m.letter = '%' then return '%' :: (← fillFrom h fuel p s)
        else
          let (v, s) ← s.next
          let t ← m.write h p.index v
          return t ++ (← fillFrom h fuel p s)

/-- A text with values put in for its marks; no value may be left, but what has keys may. -/
def fill (h : Heap) (t : Text) (v : Value) : Filling Text :=
  fillFrom h (t.length + 1) ⟨t, 0⟩ (Supply.of v)

end Format

end Stencil
