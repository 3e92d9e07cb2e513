import Stencil.Text.Utf8

/-!
# Charsets of units

Charsets that write code points in units of sixteen bits, in which a code point beyond U+FFFF is a
pair of surrogates. The units are two octets each, or six bits at a time in letters and digits.

## Main definitions

* `Charset.ofUnits?` — the text of units.
* `Charset.decodePairs?` — the text of octets of which two make up a unit.
* `Charset.decodeShifted?` — the text of octets of ASCII, in which a plus sign begins a run of
  units and a minus sign may end it.
-/

namespace Stencil.Charset

/-- The code point of two surrogates. -/
def ofSurrogates? (high low : Nat) : Option CodePoint :=
  if 0xD800 ≤ high ∧ high < 0xDC00 ∧ 0xDC00 ≤ low ∧ low < 0xE000 then
    some (0x10000 + (high - 0xD800) * 0x400 + (low - 0xDC00))
  else none

/-- The text of units; surrogates have to come in pairs. -/
def ofUnits? : List Nat → Option Text
  | [] => some []
  | [u] => if CodePoint.isSurrogate u then none else some [u]
  | u :: v :: rest =>
    if CodePoint.isSurrogate u then do
      let c ← ofSurrogates? u v
      return c :: (← ofUnits? rest)
    else (ofUnits? (v :: rest)).map (u :: ·)

/-- The units of octets, the lower octet first or last. -/
def units? (lowFirst : Bool) : Octets → Option (List Nat)
  | [] => some []
  | [_] => none
  | a :: b :: rest =>
    (units? lowFirst rest).map ((if lowFirst then 0x100 * b + a else 0x100 * a + b) :: ·)

/-- The text of octets of which two make up a unit. -/
def decodePairs? (lowFirst : Bool) (octets : Octets) : Option Text := do
  ofUnits? (← units? lowFirst octets)

/-- The six bits that a letter, a digit, a plus sign or a slash stands for. -/
def sixBits? (c : CodePoint) : Option Nat :=
  if 'A' ≤ c ∧ c ≤ 'Z' then some (c - 'A')
  else if 'a' ≤ c ∧ c ≤ 'z' then some (c - 'a' + 26)
  else if '0' ≤ c ∧ c ≤ '9' then some (c - '0' + 52)
  else if c = '+' then some 62
  else if c = '/' then some 63
  else none

/-- A run of units: how many bits of the next unit are there, their value, and the units before,
the last of them first. -/
structure Run where
  width : Nat
  value : Nat
  units : List Nat
  deriving Repr, Inhabited

namespace Run

/-- A run before its first bits. -/
def start : Run := ⟨0, 0, []⟩

/-- Six more bits. -/
def push (r : Run) (bits : Nat) : Run :=
  let width := r.width + 6
  let value := 64 * r.value + bits
  if width < 16 then { r with width, value }
  else
    let unit := Nat.pow 2 (width - 16)
    ⟨width - 16, value % unit, value / unit :: r.units⟩

/-- The text of a run; bits that make up no unit have to be few and zero. -/
def text? (r : Run) : Option Text :=
  if r.width < 6 ∧ r.value = 0 then ofUnits? r.units.reverse else none

end Run

/-- The text of octets of ASCII with runs of units in them. -/
def decodeShifted? : Option Run → Octets → Option Text
  | none, [] => some []
  | some run, [] => run.text?
  | none, [c] => if c = '+' then some [] else if c < 0x80 then some [c] else none
  | none, c :: d :: rest =>
    if c = '+' then
      if d = '-' then (decodeShifted? none rest).map (c :: ·)
      else if (sixBits? d).isSome then decodeShifted? (some Run.start) (d :: rest)
      else none
    else if c < 0x80 then (decodeShifted? none (d :: rest)).map (c :: ·)
    else none
  | some run, c :: rest =>
    match sixBits? c with
    | some bits => decodeShifted? (some (run.push bits)) rest
    | none => do
      let before ← run.text?
      if c = '-' then return before ++ (← decodeShifted? none rest)
      else if c < 0x80 then return before ++ c :: (← decodeShifted? none rest)
      else none

end Stencil.Charset
