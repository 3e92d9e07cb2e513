import Stencil.Number.Double

/-!
# Doubles with a given number of digits

The notations in which a double has as many digits as are asked for: with a fixed number of places
after the point, with an exponent, and whichever of the two is the shorter one. All of them round
the exact value of the double to the nearest decimal, and to an even last digit at a tie.

## Main definitions

* `Notation` — the notations.
* `Double.notated` — a double in a notation.
-/

namespace Stencil

/-- How a double is written. -/
inductive Notation where
  /-- With so many places after the point. -/
  | fixed
  /-- With one digit before the point and so many places after it, and an exponent. -/
  | exponent
  /-- With so many digits in all, and with an exponent if it is very small or large. -/
  | general
  deriving DecidableEq, Repr, Inhabited

namespace Notation

/-- Zeros before a number so that it has at least `width` digits. -/
def padded (width : Nat) (t : Text) : Text :=
  List.replicate (width - t.length) ('0' : CodePoint) ++ t

/-- A whole number with a point before its last digits; the point of a number without places is
written only if it is asked for. -/
def withPoint (n places : Nat) (point : Bool) : Text :=
  let digits := padded (places + 1) (Text.ofNat n)
  let whole := digits.take (digits.length - places)
  let fraction := digits.drop (digits.length - places)
  if fraction.isEmpty then if point then whole ++ "." else whole else whole ++ "." ++ fraction

/-- An exponent with its sign and at least two digits. -/
def exponentText (e : Int) : Text :=
  (if e < 0 then "e-" else "e+") ++ padded 2 (Text.ofNat e.natAbs)

/-- The first digits of a positive fraction, `count` of them, rounded, and the power of ten of the
first digit. -/
def leading (num den count : Nat) : Nat × Int :=
  let first := Double.decimalExponent num den
  let scaled (e : Int) : Nat :=
    let step : Int := e - (count - 1 : Nat)
    if 0 ≤ step then Double.roundQuotient num (den * Double.exp10 step.toNat)
    else Double.roundQuotient (num * Double.exp10 (-step).toNat) den
  let n := scaled first
  if n < Double.exp10 count then (n, first) else (n / 10, first + 1)

/-- A text without the zeros at its end, and then without a point at its end. -/
def trimmed (t : Text) : Text :=
  if (46 : CodePoint) ∈ t then
    let kept := (t.reverse.dropWhile fun (c : CodePoint) => c = '0')
    (if kept.head? = some ('.' : CodePoint) then kept.tail else kept).reverse
  else t

/-- The least power of ten whose numbers have an exponent because they are small is one below. -/
def smallest : Int := -4

/-- A fraction in a notation with `precision` digits; `full` keeps what could be left out. -/
def fraction (form : Notation) (precision : Nat) (full : Bool) (num den : Nat) : Text :=
  match form with
  | fixed => withPoint (Double.roundQuotient (num * Double.exp10 precision) den) precision full
  | exponent =>
    let (n, e) := if num = 0 then (0, 0) else leading num den (precision + 1)
    withPoint n precision full ++ exponentText e
  | general =>
    let count := max 1 precision
    let (n, e) := if num = 0 then (0, 0) else leading num den count
    let shorten (t : Text) : Text := if full then t else trimmed t
    if smallest ≤ e ∧ e < count then
      let places := ((count : Int) - 1 - e).toNat
      shorten (withPoint n places full)
    else shorten (withPoint n (count - 1) full) ++ exponentText e

end Notation

namespace Double

/-- A double in a notation with `precision` digits; `full` keeps what could be left out. -/
def notated (form : Notation) (precision : Nat) (full : Bool) (x : Float) : Text :=
  match view x with
  | .nan => "nan"
  | .infinite negative => if negative then "-inf" else "inf"
  | .finite negative m q =>
    let t :=
      if 0 ≤ q then form.fraction precision full (m * exp2 q.toNat) 1
      else form.fraction precision full m (exp2 (-q).toNat)
    if negative then ('-' : CodePoint) :: t else t

end Double

end Stencil
