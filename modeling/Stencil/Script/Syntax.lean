import Stencil.Text.Basic

/-!
# Syntax of scripts

The statements and expressions of the scripts that code sections hold. Every node carries its
extent, from which tracebacks take their rows.

## Main definitions

* `Span` — the extent of a node.
* `Expr`, `Stmt` — expressions and statements.
-/

namespace Stencil.Script

/-- The extent of a node; columns count octets. -/
structure Span where
  row : Nat
  column : Nat
  endRow : Nat
  endColumn : Nat
  deriving DecidableEq, Repr, Inhabited

namespace Span

/-- The extent from the beginning of one node to the end of another. -/
def through (a b : Span) : Span := ⟨a.row, a.column, b.endRow, b.endColumn⟩

/-- The extent with its rows moved. -/
def relocate (f : Nat → Nat) (s : Span) : Span := { s with row := f s.row, endRow := f s.endRow }

end Span

/-- A constant that is written as such. -/
inductive Const where
  | none
  | bool (b : Bool)
  | int (n : Nat)
  /-- A number with a point or an exponent: digits and a power of ten. -/
  | decimal (digits : Nat) (exponent : Int)
  | str (t : Text)
  deriving DecidableEq, Repr, Inhabited

/-- Operators between two numbers or sequences. -/
inductive BinaryOp where
  | add
  | sub
  | mul
  | div
  | floorDiv
  | mod
  deriving DecidableEq, Repr, Inhabited

/-- Operators before a value. -/
inductive UnaryOp where
  | neg
  | plus
  | not
  deriving DecidableEq, Repr, Inhabited

/-- Comparisons. -/
inductive CompareOp where
  | eq
  | ne
  | lt
  | le
  | gt
  | ge
  | is
  | isNot
  | mem
  | notMem
  deriving DecidableEq, Repr, Inhabited

/-- How a value inside a text is turned into text. -/
inductive Conversion where
  /-- As it is written out. -/
  | plain
  /-- In its quoted form. -/
  | quoted
  /-- In its quoted form, with numbers for everything beyond ASCII. -/
  | ascii
  deriving DecidableEq, Repr, Inhabited

mutual

/-- Expressions. -/
inductive Expr where
  | const (span : Span) (value : Const)
  | name (span : Span) (id : Text)
  /-- A text with values put in. -/
  | joined (span : Span) (pieces : List Piece)
  | list (span : Span) (items : List Expr)
  | tuple (span : Span) (items : List Expr)
  | dict (span : Span) (entries : List Entry)
  | binary (span : Span) (op : BinaryOp) (left right : Expr)
  | unary (span : Span) (op : UnaryOp) (operand : Expr)
  /-- Operands joined by `and` or by `or`. -/
  | logic (span : Span) (conjunction : Bool) (first : Expr) (rest : List Expr)
  | compare (span : Span) (first : Expr) (rest : List Comparison)
  /-- One of two values by a test. -/
  | choose (span : Span) (test yes no : Expr)
  | index (span : Span) (base key : Expr)
  /-- The bounds and the step of a run of items. -/
  | slice (span : Span) (lower upper step : Option Expr)
  /-- An attribute; its name ends on row `nameRow`. -/
  | attr (span : Span) (base : Expr) (id : Text) (nameRow : Nat)
  | call (span : Span) (function : Expr) (args : List Expr) (named : List Named)
  /-- A list built by one loop. -/
  | comprehension (span : Span) (item : Expr) (target : Target) (source : Expr)
      (conditions : List Expr)
  | await (span : Span) (value : Expr)

/-- A piece of a text with values put in. -/
inductive Piece where
  | text (t : Text)
  | value (e : Expr) (conversion : Conversion)

/-- A key and its value. -/
inductive Entry where
  | mk (key value : Expr)

/-- One comparison of a chain. -/
inductive Comparison where
  | mk (op : CompareOp) (right : Expr)

/-- An argument given by name. -/
inductive Named where
  | mk (span : Span) (id : Text) (value : Expr)

/-- What a value can be assigned to. -/
inductive Target where
  | name (span : Span) (id : Text)
  | items (span : Span) (targets : List Target)
  | index (span : Span) (base key : Expr)
  | attr (span : Span) (base : Expr) (id : Text) (nameRow : Nat)

end

deriving instance Inhabited for Expr, Piece, Entry, Comparison, Named, Target

namespace Expr

/-- The extent of an expression. -/
def span : Expr → Span
  | const s _ | name s _ | joined s _ | list s _ | tuple s _ | dict s _ | binary s _ _ _
  | unary s _ _ | logic s _ _ _ | compare s _ _ | choose s _ _ _ | index s _ _ | slice s _ _ _
  | attr s _ _ _ | call s _ _ _ | comprehension s _ _ _ _ | await s _ => s

end Expr

namespace Target

/-- The extent of a target. -/
def span : Target → Span
  | name s _ | items s _ | index s _ _ | attr s _ _ _ => s

end Target

/-- A parameter of a function. -/
structure Param where
  span : Span
  id : Text
  ascription : Option Expr
  default : Option Expr
  deriving Inhabited

/-- The parameters of a function, by the ways in which arguments reach them. -/
structure Params where
  /-- Reached by position only. -/
  positional : List Param
  /-- Reached by position or by name. -/
  plain : List Param
  /-- Takes the positional arguments that are left. -/
  rest : Option Param
  /-- Reached by name only. -/
  named : List Param
  /-- Takes the named arguments that are left. -/
  namedRest : Option Param
  deriving Inhabited

namespace Params

/-- All parameters in the order in which they are written. -/
def all (p : Params) : List Param :=
  p.positional ++ p.plain ++ p.rest.toList ++ p.named ++ p.namedRest.toList

/-- All parameters in the order in which their annotations are evaluated. -/
def ascribed (p : Params) : List Param :=
  p.plain ++ p.positional ++ p.rest.toList ++ p.named ++ p.namedRest.toList

end Params

mutual

/-- Statements. -/
inductive Stmt where
  | expr (span : Span) (value : Expr)
  | assign (span : Span) (targets : List Target) (value : Expr)
  | annotate (span : Span) (target : Target) (ascription : Expr) (value : Option Expr)
  | update (span : Span) (target : Target) (op : BinaryOp) (value : Expr)
  | branch (span : Span) (test : Expr) (yes no : List Stmt)
  | each (span : Span) (target : Target) (source : Expr) (body orelse : List Stmt)
  | loop (span : Span) (test : Expr) (body orelse : List Stmt)
  | attempt (span : Span) (body : List Stmt) (handlers : List Handler)
      (orelse final : List Stmt)
  | raise (span : Span) (exception : Option Expr)
  | give (span : Span) (value : Option Expr)
  | define (span : Span) (suspending : Bool) (id : Text) (params : Params)
      (returns : Option Expr) (body : List Stmt)
  | pass (span : Span)
  | leave (span : Span)
  | again (span : Span)

/-- A clause that handles exceptions. -/
inductive Handler where
  | mk (span : Span) (type : Option Expr) (id : Option Text) (body : List Stmt)

end

deriving instance Inhabited for Stmt, Handler

namespace Stmt

/-- The extent of a statement. -/
def span : Stmt → Span
  | expr s _ | assign s _ _ | annotate s _ _ _ | update s _ _ _ | branch s _ _ _ | each s _ _ _ _
  | loop s _ _ _ | attempt s _ _ _ _ | raise s _ | give s _ | define s _ _ _ _ _ | pass s | leave s
  | again s => s

end Stmt

end Stencil.Script
