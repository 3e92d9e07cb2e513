import Stencil.Script.Grammar.Literal

/-!
# Where a text is no script

A text is read twice if it is no script: first as what scripts may look like, then with the mistakes
that are common. A mistake that is found tells its row. If there is none, the text goes wrong at the
last terminal that was looked at when it was first read. What no script may hold at all, and a
bracket that is never closed, are told first even if they come later.

## Main definitions

* `Grammar.faultRow?` — the row at which a text is no phrase of a kind.
-/

namespace Stencil.Script.Grammar

/-- The row that is told where the terminals end. -/
def endRow (ts : Terminals) : Nat :=
  match ts.ending with
  | .broken row | .stuck row _ => row
  | .complete => (ts.list.getLast?.map (·.span.row)).getD 1

/-- The row that is told instead of the row of a mistake, where `seen` is the row of the last
terminal that has been looked at. -/
def overriding (ts : Terminals) (seen row : Nat) : Nat :=
  match ts.ending with
  | .broken row => row
  | .stuck _ (some bracket) => if bracket < seen then bracket else row
  | .stuck _ none | .complete => row

/-- The row at which terminals are no phrase of a kind. -/
def rowOfFault? (ts : Terminals) (c : Source) (p : Phrase) : Option Nat :=
  match c.read p false 0 with
  | (.found _ _, _) => none
  | (.mistake row, s) => some (overriding ts (c.rowSeen s) row)
  | (.ended, _) => some (endRow ts)
  | (.missing, first) =>
    match c.read p true first.seen with
    | (.mistake row, s) => some (overriding ts (c.rowSeen s) row)
    | (.ended, _) => some (endRow ts)
    | (.found _ _, s) | (.missing, s) =>
      let last := c.terminals.getD (first.seen - 1) default
      if last.kind = .indent ∨ last.kind = .dedent then some (c.rowSeen s)
      else some (overriding ts (c.rowSeen s) last.span.row)

/-- The row at which a text is no phrase of a kind; strings may hold expressions so many levels
deep. -/
def faultRow? : (nesting : Nat) → Phrase → Text → Option Nat
  | 0, _, _ => none
  | nesting + 1, p, t =>
    let ts := Terminals.ofText t
    rowOfFault? ts ⟨ts.list.toArray, Literal.flaw? (faultRow? nesting .starExpressions)⟩ p

end Stencil.Script.Grammar
