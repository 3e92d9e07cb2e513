import Stencil.Text.Span
import Stencil.Text.Utf8

/-!
# Charsets of grids

Charsets with more code points than one octet can tell apart arrange them in grids. The octets of a
code point say where in a grid it is.

## Main definitions

* `Charset.Form` — which octets lead into a grid, and `Charset.Form.index?`, where they lead.
* `Charset.Grid` — the code points of a grid.
* `Charset.Gridded` — a charset made up of grids; `Charset.Gridded.decode?` reads octets in it.
-/

namespace Stencil.Charset

/-- The ranges of the octets that lead into a grid: of the first, of the second, and so on. -/
abbrev Form := List (List (Nat × Nat))

namespace Form

/-- The number of octets in ranges. -/
def size (ranges : List (Nat × Nat)) : Nat :=
  ranges.foldl (fun n r => n + (r.2 + 1 - r.1)) 0

/-- The place of an octet in ranges. -/
def place? (b : Nat) : List (Nat × Nat) → Option Nat
  | [] => none
  | (first, last) :: rest =>
    if first ≤ b ∧ b ≤ last then some (b - first)
    else (place? b rest).map (· + (last + 1 - first))

/-- The number of the cell that octets lead to after `before` others, in each of which they would
lead to one. -/
def indexFrom? (before : Nat) : Form → Octets → Option Nat
  | [], [] => some before
  | ranges :: form, b :: octets => do
    indexFrom? (before * size ranges + (← place? b ranges)) form octets
  | _, _ => none

/-- The number of the cell that octets lead to. -/
def index? (form : Form) (octets : Octets) : Option Nat := indexFrom? 0 form octets

end Form

/-- A grid. A row of it holds the hexadecimal number of a cell, and after a blank the code points of
that cell and the ones after it; a further blank stands for none. -/
structure Grid where
  form : Form
  /-- What is in some cells, as a table of numbers; it counts more than the rows. -/
  spans : List String
  rows : List String

/-- A grid of single octets. -/
def Grid.octets (spans : List String) : Grid := ⟨[[(0, 0xFF)]], spans, []⟩

/-- The code points of neighbouring cells. -/
structure Strip where
  first : Nat
  cells : Array CodePoint

/-- The strip in a row of a grid. -/
def Strip.ofRow (row : String) : Strip :=
  let row := Text.ofString row
  let isDigit (c : CodePoint) : Bool := c ≠ ' '
  ⟨Text.Span.number 16 (row.takeWhile isDigit), ((row.dropWhile isDigit).drop 1).toArray⟩

/-- A grid whose rows have been read. -/
structure Chart where
  form : Form
  spans : Array Text.Span
  strips : List Strip

namespace Chart

/-- A grid read. -/
def ofGrid (g : Grid) : Chart :=
  ⟨g.form, Text.Span.ofTable 16 g.spans, g.rows.map Strip.ofRow⟩

/-- The code point of octets. -/
def find? (m : Chart) (octets : Octets) : Option CodePoint := do
  let n ← m.form.index? octets
  match Text.Span.find? m.spans n with
  | some s => s.values.head?.map (· + (n - s.first))
  | none =>
    let strip ← m.strips.find? fun s => s.first ≤ n && n < s.first + s.cells.size
    strip.cells[n - strip.first]?.filter (· ≠ (' ' : CodePoint))

end Chart

/-- A charset made up of grids. -/
structure Gridded where
  id : String
  /-- The other names of the charset. -/
  others : List String
  grids : List Grid

namespace Gridded

/-- The greatest number of octets that a code point has. -/
def most : Nat := 4

/-- The code point at the beginning of octets, and how many of them it has. -/
def first? (charts : List Chart) (octets : Octets) : Option (CodePoint × Nat) :=
  (List.range most).findSome? fun n =>
    (charts.findSome? (·.find? (octets.take (n + 1)))).map fun c => (c, n + 1)

/-- The text of octets less the first `skip` of them, if all of them stand for something. -/
def decodeFrom? (charts : List Chart) : (skip : Nat) → Octets → Option Text
  | _, [] => some []
  | skip + 1, _ :: rest => decodeFrom? charts skip rest
  | 0, b :: rest =>
    match first? charts (b :: rest) with
    | some (c, n) => (decodeFrom? charts (n - 1) rest).map (c :: ·)
    | none => none

/-- The text of octets. -/
def decode? (g : Gridded) (octets : Octets) : Option Text :=
  decodeFrom? (g.grids.map Chart.ofGrid) 0 octets

end Gridded

end Stencil.Charset
