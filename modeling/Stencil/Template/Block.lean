import Stencil.Script.Tokenizer
import Stencil.Template.Layout

/-!
# Blocks over code sections

Blocks of the script are opened and closed by whole code sections: a section whose last token is a
colon opens one, a section with the single word `end` closes one, and a section that begins with a
clause keyword closes one and usually opens another.

## Main definitions

* `Block.headerColumn?` — where the statement that a section leaves open begins.
* `Block.Role` — what a section does to the blocks around it; `Block.role` reads it off the tokens.
* `Block.awaitCalls` — the rows of a section with every direct inclusion awaited.
-/

namespace Stencil.Block

open Script

/-- Keywords that close the current block and open a sibling. -/
def clauseKeywords : List Text := ["elif", "else", "except", "finally"].map Text.ofString

/-- The first significant token of the last statement and the last significant token, where `head`
and `last` are those so far and `fresh` holds before the first token of a statement. -/
def ends (head last : Option Token) (fresh : Bool) : List Token → Option Token × Option Token
  | [] => (head, last)
  | t :: rest =>
    if t.kind = .newline then ends head last true rest
    else if t.significant then ends (if fresh then some t else head) (some t) false rest
    else ends head last fresh rest

/-- The column of the statement that ends in a colon and so opens a block, if the last one does. -/
def headerColumn? (tokens : List Token) : Option Nat :=
  match ends none none true tokens with
  | (some head, some last) => if last.isOp ":" then some head.start.column else none
  | _ => none

/-- What a section does to the blocks around it. -/
inductive Role where
  /-- Ends the current block. -/
  | close
  /-- Holds statements: `clause` if it goes on after the current block with this keyword, `header`
  if its last statement, which begins at this column, opens a block. -/
  | statements (clause : Option Text) (header : Option Nat)
  deriving DecidableEq, Repr, Inhabited

/-- The role of a section with these tokens. -/
def role (tokens : List Token) : Role :=
  let significant := tokens.filter Token.significant
  match significant with
  | [t] => if t.isWord "end" then .close else statements significant
  | _ => statements significant
where
  statements (significant : List Token) : Role :=
    let clause := match significant with
      | t :: _ => if t.text ∈ clauseKeywords then some t.text else none
      | [] => none
    .statements clause (headerColumn? tokens)

/-- The positions of direct inclusions: the word `include` before an opening parenthesis, where
the token before it is no dot and neither of the words `await` and `def`. -/
def includeCalls (previous : Option Token) : List Token → List Pos
  | [] => []
  | t :: rest =>
    let free := match previous with
      | none => true
      | some p => !(p.isOp "." || p.text == "await" || p.text == "def")
    let called := match rest with
      | next :: _ => next.isOp "("
      | [] => false
    let others := includeCalls (some t) rest
    if t.isWord "include" && called && free then t.start :: others else others

/-- The rows with the word `await` put in at a position. -/
def awaitAt (p : Pos) (rows : List Text) : List Text :=
  rows.modify (p.row - 1) fun row => row.take p.column ++ "await " ++ row.drop p.column

/-- The rows of a section with every direct inclusion awaited. -/
def awaitCalls (rows : List Text) (tokens : List Token) : List Text :=
  (includeCalls none (tokens.filter Token.significant)).foldr awaitAt rows

end Stencil.Block
