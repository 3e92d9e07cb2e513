import Stencil.Text.Basic

/-!
# Layout of a code section

The rows of a code section as statements of their own: moved left by the margin they share,
without blanks at their ends and without blank rows before the first and after the last. The first
row begins in the middle of a template line; it counts as indented by the column at which it
stands, so that the indentation of the rows relative to each other is kept.

## Main definitions

* `Layout` — the rows and the number of rows dropped before them.
* `Layout.ofCode` — the layout of the code that stands at a column of its line.
-/

namespace Stencil

namespace Text

/-- A space or a tab. -/
def isTabOrSpace (c : CodePoint) : Bool := c == ' ' || c == '\t'

/-- The spaces and tabs that a row begins with. -/
def margin (row : Text) : Text := row.takeWhile isTabOrSpace

/-- The longest text that two texts begin with. -/
def commonPrefix : Text → Text → Text
  | c :: t, d :: u => if c = d then c :: commonPrefix t u else []
  | _, _ => []

/-- The margin that all rows share that hold more than spaces and tabs. -/
def commonMargin : List Text → Option Text
  | [] => none
  | row :: rows =>
    if row.all isTabOrSpace then commonMargin rows
    else match commonMargin rows with
      | none => some (margin row)
      | some m => some (commonPrefix (margin row) m)

/-- The rows without their common margin; rows of spaces and tabs only become empty. -/
def dedent (rows : List Text) : List Text :=
  let width := ((commonMargin rows).getD []).length
  rows.map fun row => if row.all isTabOrSpace then [] else row.drop width

end Text

/-- The rows of a code section, ready to be indented anew. -/
structure Layout where
  /-- The rows, from the first to the last that is not blank. -/
  rows : List Text
  /-- How many blank rows stood before them. -/
  skipped : Nat
  deriving DecidableEq, Repr, Inhabited

namespace Layout

/-- Rows without the blank ones at the end. -/
def trimEnd : List Text → List Text
  | [] => []
  | row :: rows =>
    match trimEnd rows with
    | [] => if Text.isBlank row then [] else [row]
    | next :: kept => row :: next :: kept

/-- Rows without the blank ones at both ends, and the number of those dropped in front. -/
def trim (rows : List Text) : Layout :=
  ⟨trimEnd (rows.dropWhile Text.isBlank), (rows.takeWhile Text.isBlank).length⟩

/-- The layout of code that begins at a column of its line. -/
def ofCode (code : Text) (column : Nat) : Layout :=
  let laid := List.replicate column (32 : CodePoint) ++ Text.unifyLineEnds code
  trim ((Text.dedent (Text.rows laid)).map Text.stripEnd)

end Layout

end Stencil
