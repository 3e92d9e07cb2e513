import Stencil.Text.Basic

/-!
# How long a whole number may be

Turning a whole number into decimal digits and back takes time that grows faster than their number,
so that neither is done for very long numbers.

## Main definitions

* `Digits.limit` — the largest number of digits.
* `Digits.exceeded` — a whole number has more.
* `Digits.writingMessage`, `Digits.readingMessage` — what is said about such numbers.
-/

namespace Stencil.Digits

/-- The largest number of digits that are written or read. -/
def limit : Nat := 4300

/-- The least number that has too many decimal digits. -/
def bound : Nat := Nat.pow 10 limit

/-- A whole number has too many decimal digits. -/
def exceeded (i : Int) : Bool := bound ≤ i.natAbs

/-- The beginning of what is said about numbers with too many digits. -/
def complaint : Text :=
  "Exceeds the limit (" ++ Text.ofNat limit ++ " digits) for integer string conversion"

/-- What can be done about numbers with too many digits. -/
def advice : Text := "; use sys.set_int_max_str_digits() to increase the limit"

/-- What is said about a number that is too long to be written. -/
def writingMessage : Text := complaint ++ advice

/-- What is said about so many digits, which are too many to be read. -/
def readingMessage (count : Nat) : Text :=
  complaint ++ ": value has " ++ Text.ofNat count ++ " digits" ++ advice

end Stencil.Digits
