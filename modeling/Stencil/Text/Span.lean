import Stencil.Text.Basic

/-!
# Tables of numbers

The rows of a table hold entries with blanks between them. An entry names a number, or the first and
the last of several, and after a sign what it says about them. Numbers are hexadecimal; what an
entry says may be in another base, and be several numbers with plus signs between them.

## Main definitions

* `Text.Span` — an entry of a table.
* `Text.Span.ofTable` — all entries of a table.
* `Text.Span.find?` — the entry for a number.
-/

namespace Stencil.Text

/-- An entry of a table. -/
structure Span where
  first : CodePoint
  last : CodePoint
  sign : CodePoint
  /-- What it says: of several code points, about the first. -/
  values : List Nat
  deriving Repr, Inhabited

namespace Span

/-- A number in a base up to sixteen. -/
def number (base : Nat) (t : Text) : Nat :=
  t.foldl (fun n c => base * n + (CodePoint.digit? base c).getD 0) 0

/-- An entry of a table whose values are numbers in a base. -/
def ofText (base : Nat) (t : Text) : Span :=
  let isPart (c : CodePoint) : Bool := (CodePoint.digit? 16 c).isSome || c == '-'
  let range := (splitOn '-' (t.takeWhile isPart)).map (number 16)
  let rest := t.dropWhile isPart
  ⟨range.headD 0, range.getLastD 0, rest.headD 0, (splitOn '+' rest.tail).map (number base)⟩

/-- The entries of a table whose values are numbers in a base. -/
def ofTable (base : Nat) (table : List String) : Array Span :=
  (table.flatMap fun row => (splitOn ' ' (ofString row)).map (ofText base)).toArray

/-- The entry for a code point in a table, whose entries are in increasing order. -/
def find? (table : Array Span) (c : CodePoint) : Option Span :=
  go table.size 0 table.size
where
  go : (fuel : Nat) → Nat → Nat → Option Span
    | 0, _, _ => none
    | fuel + 1, low, high =>
      if low < high then
        let middle := (low + high) / 2
        match table[middle]? with
        | none => none
        | some s =>
          if c < s.first then go fuel low middle
          else if s.last < c then go fuel (middle + 1) high
          else some s
      else none

end Span

end Stencil.Text
