import Stencil.Text.Basic

/-!
# Doubles as fractions

A finite double is a whole number times a power of two. Reading one from a fraction takes the
nearest, and of two equally near ones the even.

## Main definitions

* `Dyadic`, `Double.view` — what a double stands for.
* `Double.ofRatio` — the double nearest to a fraction.
* `Double.ofScientific` — the double nearest to digits times a power of ten.
* `Double.shortest` — the fewest digits that read back as a double.
* `Double.text` — a double in decimal.
-/

namespace Stencil

/-- What a double stands for. -/
inductive Dyadic where
  | nan
  | infinite (negative : Bool)
  /-- The whole number `m` times two to the power `q`. -/
  | finite (negative : Bool) (m : Nat) (q : Int)
  deriving DecidableEq, Repr, Inhabited

namespace Double

/-- Two to a power. -/
def exp2 (n : Nat) : Nat := Nat.pow 2 n

/-- Ten to a power. -/
def exp10 (n : Nat) : Nat := Nat.pow 10 n

/-- What the bits of a double stand for. -/
def viewBits (bits : Nat) : Dyadic :=
  let negative : Bool := bits / exp2 63 % 2 == 1
  let exponent : Nat := bits / exp2 52 % exp2 11
  let fraction : Nat := bits % exp2 52
  if exponent = 2047 then if fraction = 0 then .infinite negative else .nan
  else if exponent = 0 then .finite negative fraction (-1074)
  else .finite negative (fraction + exp2 52) ((exponent : Int) - 1075)

/-- What a double stands for. -/
def view (x : Float) : Dyadic := viewBits x.toBits.toNat

/-- A double is no number. -/
def isNaN (x : Float) : Bool := view x == .nan

/-- A quotient rounded to the nearest whole number, to the even one at a tie. -/
def roundQuotient (num den : Nat) : Nat :=
  let q := num / den
  let r := num % den
  if 2 * r < den then q
  else if den < 2 * r then q + 1
  else if q % 2 = 0 then q else q + 1

/-- The whole number times a power of two that is nearest to a positive fraction, with at most 53
bits and an exponent of at least -1074. -/
def nearest (num den : Nat) : Nat × Int :=
  let guess : Int := (num.log2 : Int) - den.log2 - 53
  let scaled (e : Int) : Nat :=
    if 0 ≤ e then roundQuotient num (den * exp2 e.toNat)
    else roundQuotient (num * exp2 (-e).toNat) den
  let settle (e : Int) : Nat × Int :=
    let e := max e (-1074)
    let m := scaled e
    (m, e)
  let (m, e) := settle guess
  if m < exp2 53 then (m, e)
  else
    let (m, e) := settle (guess + 1)
    if m < exp2 53 then (m, e)
    else
      let (m, e) := settle (guess + 2)
      if m < exp2 53 then (m, e) else (m / 2, e + 1)

/-- The bits of a whole number of at most 53 bits times a power of two, infinite if too large. -/
def bitsOf (negative : Bool) (m : Nat) (e : Int) : Nat :=
  let sign := if negative then exp2 63 else 0
  if m < exp2 52 then sign + m
  else if 971 < e then sign + 2047 * exp2 52
  else sign + (e + 1075).toNat * exp2 52 + (m - exp2 52)

/-- The double nearest to a fraction, infinite if the fraction is too large. -/
def ofRatio (negative : Bool) (num den : Nat) : Float :=
  let bits :=
    if num = 0 then bitsOf negative 0 0
    else
      let (m, e) := nearest num den
      bitsOf negative m e
  Float.ofBits (UInt64.ofNat bits)

/-- A power of ten that no double reaches. -/
def farExponent : Nat := 400

/-- The double nearest to digits times a power of ten. Powers beyond all doubles are not
computed. -/
def ofScientific (digits : Nat) (exponent : Int) : Float :=
  if digits = 0 then ofRatio false 0 1
  else if (farExponent : Int) < exponent then
    Float.ofBits (UInt64.ofNat (bitsOf false (exp2 52) 972))
  else if exponent < -((farExponent + digits.log2 : Nat) : Int) then ofRatio false 0 1
  else if 0 ≤ exponent then ofRatio false (digits * exp10 exponent.toNat) 1
  else ofRatio false digits (exp10 (-exponent).toNat)

/-- The double nearest to a whole number. -/
def ofInt (i : Int) : Float := ofRatio (i < 0) i.natAbs 1

/-- A positive fraction's power of ten: that of its first decimal digit. -/
def decimalExponent (num den : Nat) : Int :=
  if den ≤ num then ((Nat.toDigits 10 (num / den)).length : Int) - 1
  else -(fall 400 1 (num * 10))
where
  fall : Nat → Nat → Nat → Nat
    | 0, k, _ => k
    | fuel + 1, k, n => if den ≤ n then k else fall fuel (k + 1) (n * 10)

/-- The fewest digits, and their power of ten, of a decimal that reads back as `m * 2 ^ q`. -/
def shortest (m : Nat) (q : Int) : Nat × Int :=
  -- Four times the number and the ends of the interval that reads back as it, over `den`.
  let den := if 0 ≤ q then 4 else 4 * exp2 (-q).toNat
  let unit := if 0 ≤ q then exp2 q.toNat else 1
  let num := 4 * m * unit
  let low := if m = exp2 52 ∧ q ≠ -1074 then (4 * m - 1) * unit else (4 * m - 2) * unit
  let high := (4 * m + 2) * unit
  let closed := m % 2 == 0
  let first := decimalExponent num den
  let attempt (n : Nat) : Option (Nat × Int) :=
    let step : Int := first - (n - 1)
    -- The number divided by ten to the power `step`, as a fraction `a / b`.
    let up := if 0 ≤ step then 1 else exp10 (-step).toNat
    let down := if 0 ≤ step then exp10 step.toNat else 1
    let a := num * up
    let b := den * down
    let inside (d : Nat) : Bool :=
      let x := d * b
      if closed then low * up ≤ x && x ≤ high * up else low * up < x && x < high * up
    let below := a / b
    let above := below + 1
    let belowIn := inside below
    let aboveIn := inside above
    let nearBelow := 2 * (a - below * b) < b || (2 * (a - below * b) == b && below % 2 == 0)
    if belowIn && (nearBelow || !aboveIn) then some (below, step)
    else if aboveIn then some (above, step)
    else none
  (List.range 17).findSome? (fun i => attempt (i + 1)) |>.getD (m, 0)

/-- A decimal with a point, or with an exponent if it is below 10^-4 or from 10^16 on. -/
def decimalText (digits : Nat) (step : Int) : Text :=
  let ds := Text.ofNat digits
  let kept := (ds.reverse.dropWhile fun (c : CodePoint) => c = '0').reverse
  let kept : Text := if kept.isEmpty then "0" else kept
  let point : Int := ds.length + step
  if -4 < point ∧ point ≤ 16 then
    if point ≤ 0 then "0." ++ List.replicate (-point).toNat ('0' : CodePoint) ++ kept
    else if kept.length ≤ point.toNat then
      kept ++ List.replicate (point.toNat - kept.length) ('0' : CodePoint) ++ ".0"
    else kept.take point.toNat ++ "." ++ kept.drop point.toNat
  else
    let e := point - 1
    let fraction := if kept.length ≤ 1 then [] else ('.' : CodePoint) :: kept.drop 1
    let magnitude := Text.ofNat e.natAbs
    let padded := if magnitude.length < 2 then ('0' : CodePoint) :: magnitude else magnitude
    kept.take 1 ++ fraction ++ (if e < 0 then "e-" else "e+") ++ padded

/-- A double in decimal. -/
def text (x : Float) : Text :=
  match view x with
  | .nan => "nan"
  | .infinite negative => if negative then "-inf" else "inf"
  | .finite negative m q =>
    let magnitude : Text :=
      if m = 0 then "0.0"
      else
        let (digits, step) := shortest m q
        decimalText digits step
    if negative then ('-' : CodePoint) :: magnitude else magnitude

/-- A double without its fraction, if it is finite. -/
def truncate? (x : Float) : Option Int :=
  match view x with
  | .finite negative m q =>
    let n := if 0 ≤ q then m * exp2 q.toNat else m / exp2 (-q).toNat
    some (if negative then -(n : Int) else n)
  | _ => none

/-- What is left of a double after division by another, with the sign of the first. -/
def remainder (x y : Float) : Float :=
  match view x, view y with
  | .finite negative m q, .finite _ n r =>
    if n = 0 then 0.0 / 0.0
    else
      let low := min q r
      let a := m * exp2 (q - low).toNat
      let b := n * exp2 (r - low).toNat
      let rest := a % b
      if 0 ≤ low then ofRatio negative (rest * exp2 low.toNat) 1
      else ofRatio negative rest (exp2 (-low).toNat)
  | .finite .., .infinite _ => x
  | _, _ => 0.0 / 0.0

/-- A double rounded down to a whole number. -/
def floor (x : Float) : Float :=
  match view x with
  | .finite negative m q =>
    if 0 ≤ q then x
    else
      let unit := exp2 (-q).toNat
      let whole := if negative ∧ m % unit ≠ 0 then m / unit + 1 else m / unit
      ofRatio negative whole 1
  | _ => x

/-- The whole quotient and the remainder of doubles, where the remainder has the sign of the
divisor. -/
def divideFloor (x y : Float) : Float × Float :=
  let rest := remainder x y
  let quotient := (x - rest) / y
  let zero (like : Float) : Float := if like < 0.0 ∨ 1.0 / like < 0.0 then -0.0 else 0.0
  let (quotient, rest) :=
    if rest == 0.0 then (quotient, zero y)
    else if (y < 0.0) != (rest < 0.0) then (quotient - 1.0, rest + y)
    else (quotient, rest)
  if quotient == 0.0 then (zero (x / y), rest)
  else
    let whole := floor quotient
    (if 0.5 < quotient - whole then whole + 1.0 else whole, rest)

/-- The order of a whole number and a finite double, exactly. -/
def compareInt (i : Int) (x : Float) : Option Ordering :=
  match view x with
  | .nan => none
  | .infinite negative => some (if negative then .gt else .lt)
  | .finite negative m q =>
    let signed : Int := if negative then -(m : Int) else m
    if 0 ≤ q then some (compare i (signed * exp2 q.toNat))
    else some (compare (i * exp2 (-q).toNat) signed)

/-- The double that a text names: digits with a point or an exponent, `inf` or `nan`. -/
def ofText? (t : Text) : Option Float :=
  let (negative, t) := match t with
    | c :: rest => if c = '-' then (true, rest) else if c = '+' then (false, rest) else (false, t)
    | [] => (false, t)
  let sign (x : Float) : Float := if negative then -x else x
  if t = "inf" then some (sign (1.0 / 0.0))
  else if t = "nan" then some (0.0 / 0.0)
  else
    let mantissa := t.takeWhile fun (c : CodePoint) => c ≠ 'e' ∧ c ≠ 'E'
    let exponentText := t.drop (mantissa.length + 1)
    let whole := mantissa.takeWhile fun (c : CodePoint) => c ≠ '.'
    let fraction := mantissa.drop (whole.length + 1)
    let value? (digits : Text) : Option Nat :=
      digits.foldl (fun v c => match v, CodePoint.digit? 10 c with
        | some v, some d => some (10 * v + d)
        | _, _ => none) (some 0)
    let exponent? : Option Int := match exponentText with
      | [] => if mantissa.length = t.length then some 0 else none
      | c :: rest =>
        if c = '-' then if rest.isEmpty then none else (value? rest).map fun n => -(n : Int)
        else if c = '+' then if rest.isEmpty then none else (value? rest).map fun n => (n : Int)
        else (value? (c :: rest)).map fun n => (n : Int)
    match value? (whole ++ fraction), exponent? with
    | some digits, some e =>
      if (whole ++ fraction).isEmpty then none
      else some (sign (ofScientific digits (e - fraction.length)))
    | _, _ => none

end Double

end Stencil
