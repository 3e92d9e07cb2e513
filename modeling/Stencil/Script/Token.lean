import Stencil.Text.Class

/-!
# Tokens of a script

A script is cut into tokens, each with its text and its extent. Rows count from 1 and columns from
0, both in code points.

## Main definitions

* `Kind`, `Token` — what a token is and where it stands.
* `Token.significant` — it is neither a comment nor layout.
* `TokenError` — why the rows of a script are no sequence of tokens.
-/

namespace Stencil.Script

/-- A position in a script. -/
structure Pos where
  /-- The number of the row, from 1. -/
  row : Nat
  /-- The number of code points before it on its row. -/
  column : Nat
  deriving DecidableEq, Repr, Inhabited

/-- What a token is. -/
inductive Kind where
  | name
  | number
  | string
  | op
  | comment
  /-- The end of a statement. -/
  | newline
  /-- The end of a row that ends no statement. -/
  | rowEnd
  | indent
  | dedent
  /-- A code point, or the rest of a broken string, that begins no token. -/
  | unknown
  | endMarker
  deriving DecidableEq, Repr, Inhabited

/-- A token and where it stands. -/
structure Token where
  kind : Kind
  text : Text
  start : Pos
  stop : Pos
  deriving DecidableEq, Repr, Inhabited

namespace Token

/-- The token is neither a comment nor layout. -/
def significant (t : Token) : Bool :=
  match t.kind with
  | .name | .number | .string | .op | .unknown => true
  | .comment | .newline | .rowEnd | .indent | .dedent | .endMarker => false

/-- The token is the given punctuation. -/
def isOp (t : Token) (text : Text) : Bool := t.kind == .op && t.text == text

/-- The token is the given word. -/
def isWord (t : Token) (text : Text) : Bool := t.kind == .name && t.text == text

end Token

/-- Why rows are no sequence of tokens. -/
inductive TokenError where
  /-- A string over several rows never ends; it began here. -/
  | endInString (start : Pos)
  /-- A bracket or a continued row is left open at the end. -/
  | endInStatement (at_ : Pos)
  /-- A row returns to an indentation that no enclosing block has. -/
  | unevenDedent (row : Nat)
  deriving DecidableEq, Repr, Inhabited

namespace TokenError

/-- A position as a pair. -/
def posText (p : Pos) : Text := "(" ++ Text.ofNat p.row ++ ", " ++ Text.ofNat p.column ++ ")"

/-- The error in words. -/
def message : TokenError → Text
  | endInString start => "('EOF in multi-line string', " ++ posText start ++ ")"
  | endInStatement place => "('EOF in multi-line statement', " ++ posText place ++ ")"
  | unevenDedent row =>
    "unindent does not match any outer indentation level (<tokenize>, line " ++ Text.ofNat row ++
      ")"

end TokenError

end Stencil.Script
