import Stencil.Script.Syntax
import Stencil.Text.Quoted

/-!
# Positions of nodes

A script whose rows are moved to the lines of a template must still make sense: no node may end
before it begins. The nodes are looked at one after another, each before what is inside it.

## Main definitions

* `Node` — a node as far as its position is concerned; `nodesOf` gives those of statements.
* `NodeFault` — what is wrong with a node.
* `firstFault?` — the first node that is wrong.
* `depthOf` — how deep nodes stand inside each other.
-/

namespace Stencil.Script

/-- A node as far as its position is concerned. -/
structure Node where
  span : Span
  /-- The name that the node consists of. -/
  name : Option Text
  /-- The position has to make sense. -/
  checked : Bool
  deriving DecidableEq, Repr, Inhabited

namespace Node

/-- A node with an extent. -/
def at_ (span : Span) : Node := ⟨span, none, true⟩

/-- A node that consists of a name. -/
def named (span : Span) (id : Text) : Node := ⟨span, some id, true⟩

/-- A node whose position nobody looks at. -/
def loose (span : Span) : Node := ⟨span, none, false⟩

end Node

mutual

/-- The nodes of an expression, itself first. -/
def Expr.nodes : Expr → List Node
  | .const s _ => [Node.at_ s]
  | .name s id => [Node.named s id]
  | .joined s pieces => Node.at_ s :: nodesOfPieces pieces
  | .list s items | .tuple s items => Node.at_ s :: nodesOfAll items
  | .dict s entries => Node.at_ s :: nodesOfKeys entries ++ nodesOfEntryValues entries
  | .binary s _ left right => Node.at_ s :: left.nodes ++ right.nodes
  | .unary s _ operand => Node.at_ s :: operand.nodes
  | .logic s _ first rest => Node.at_ s :: first.nodes ++ nodesOfAll rest
  | .compare s first rest => Node.at_ s :: nodesOfComparisons rest ++ first.nodes
  | .choose s test yes no => Node.at_ s :: test.nodes ++ yes.nodes ++ no.nodes
  | .index s base key => Node.at_ s :: key.nodes ++ base.nodes
  | .slice s lower upper step =>
    Node.at_ s :: nodesOfBound lower ++ nodesOfBound upper ++ nodesOfBound step
  | .attr s base _ _ => Node.at_ s :: base.nodes
  | .call s function args named =>
    Node.at_ s :: function.nodes ++ nodesOfAll args ++ nodesOfNamed named
  | .comprehension s item target source conditions =>
    Node.at_ s :: target.nodes ++ source.nodes ++ nodesOfAll conditions ++ item.nodes
  | .await s value => Node.at_ s :: value.nodes

/-- The nodes of expressions. -/
def nodesOfAll : List Expr → List Node
  | [] => []
  | e :: es => e.nodes ++ nodesOfAll es

/-- The nodes of an expression that may be missing. -/
def nodesOfBound : Option Expr → List Node
  | none => []
  | some e => e.nodes

/-- The nodes of the pieces of a text. -/
def nodesOfPieces : List Piece → List Node
  | [] => []
  | .text _ :: rest => nodesOfPieces rest
  | .value e _ :: rest => e.nodes ++ nodesOfPieces rest

/-- The nodes of the keys of a dictionary. -/
def nodesOfKeys : List Entry → List Node
  | [] => []
  | .mk key _ :: rest => key.nodes ++ nodesOfKeys rest

/-- The nodes of the values of a dictionary. -/
def nodesOfEntryValues : List Entry → List Node
  | [] => []
  | .mk _ value :: rest => value.nodes ++ nodesOfEntryValues rest

/-- The nodes of a chain of comparisons. -/
def nodesOfComparisons : List Comparison → List Node
  | [] => []
  | .mk _ right :: rest => right.nodes ++ nodesOfComparisons rest

/-- The nodes of arguments given by name. -/
def nodesOfNamed : List Named → List Node
  | [] => []
  | .mk s _ value :: rest => Node.loose s :: value.nodes ++ nodesOfNamed rest

/-- The nodes of a target. -/
def Target.nodes : Target → List Node
  | .name s id => [Node.named s id]
  | .items s targets => Node.at_ s :: nodesOfTargets targets
  | .index s base key => Node.at_ s :: key.nodes ++ base.nodes
  | .attr s base _ _ => Node.at_ s :: base.nodes

/-- The nodes of targets. -/
def nodesOfTargets : List Target → List Node
  | [] => []
  | t :: ts => t.nodes ++ nodesOfTargets ts

end

namespace Params

/-- The nodes of parameters: those of the parameters first, and then those of their defaults. -/
def nodes (p : Params) : List Node :=
  let plain (q : Param) : List Node := Node.at_ q.span :: nodesOfBound q.ascription
  let rest (q : Param) : List Node := Node.loose q.span :: nodesOfBound q.ascription
  p.positional.flatMap plain ++ p.plain.flatMap plain ++ p.rest.toList.flatMap rest ++
    p.named.flatMap plain ++ p.namedRest.toList.flatMap rest ++
    (p.positional ++ p.plain ++ p.named).flatMap fun q => nodesOfBound q.default

end Params

mutual

/-- The nodes of a statement, itself first. -/
def Stmt.nodes : Stmt → List Node
  | .expr s value => Node.at_ s :: value.nodes
  | .assign s targets value => Node.at_ s :: nodesOfTargets targets ++ value.nodes
  | .annotate s target ascription value =>
    Node.at_ s :: target.nodes ++ nodesOfBound value ++ ascription.nodes
  | .update s target _ value => Node.at_ s :: target.nodes ++ value.nodes
  | .branch s test yes no => Node.at_ s :: test.nodes ++ nodesOf yes ++ nodesOf no
  | .each s target source body orelse =>
    Node.at_ s :: target.nodes ++ source.nodes ++ nodesOf body ++ nodesOf orelse
  | .loop s test body orelse => Node.at_ s :: test.nodes ++ nodesOf body ++ nodesOf orelse
  | .attempt s body handlers orelse final =>
    Node.at_ s :: nodesOf body ++ nodesOfHandlers handlers ++ nodesOf orelse ++ nodesOf final
  | .raise s exception => Node.at_ s :: nodesOfBound exception
  | .give s value => Node.at_ s :: nodesOfBound value
  | .define s _ _ params returns body =>
    Node.at_ s :: nodesOf body ++ params.nodes ++ nodesOfBound returns
  | .pass s | .leave s | .again s => [Node.at_ s]

/-- The nodes of statements. -/
def nodesOf : List Stmt → List Node
  | [] => []
  | s :: ss => s.nodes ++ nodesOf ss

/-- The nodes of handlers. -/
def nodesOfHandlers : List Handler → List Node
  | [] => []
  | .mk s type _ body :: rest =>
    Node.at_ s :: nodesOfBound type ++ nodesOf body ++ nodesOfHandlers rest

end

/-- What is wrong with a node. -/
inductive NodeFault where
  /-- It ends on a line before the one on which it begins. -/
  | lines (first last : Int)
  /-- It begins on a line that no file has and ends on another one. -/
  | negative (first last : Int) (column endColumn : Nat)
  /-- It ends before it begins on a line. -/
  | columns (line : Int) (column endColumn : Nat)
  /-- It is a constant and not a name. -/
  | constant (id : Text)
  deriving DecidableEq, Repr

namespace NodeFault

/-- A fault in words. -/
def message : NodeFault → Text
  | lines first last =>
    "AST node line range (" ++ Text.ofInt first ++ ", " ++ Text.ofInt last ++ ") is not valid"
  | negative first last column endColumn =>
    "AST node column range (" ++ Text.ofNat column ++ ", " ++ Text.ofNat endColumn ++
      ") for line range (" ++ Text.ofInt first ++ ", " ++ Text.ofInt last ++ ") is not valid"
  | columns line column endColumn =>
    "line " ++ Text.ofInt line ++ ", column " ++ Text.ofNat column ++ "-" ++
      Text.ofNat endColumn ++ " is not a valid range"
  | constant id =>
    "identifier field can't represent " ++ Text.marked id ++ " constant"

end NodeFault

/-- The words that stand for constants and name nothing. -/
def constantWords : List Text := ["None", "True", "False"].map Text.ofString

/-- What is wrong with a node whose rows are moved. -/
def Node.fault? (moved : Nat → Int) (n : Node) : Option NodeFault :=
  let first := moved n.span.row
  let last := moved n.span.endRow
  let column := n.span.column
  let endColumn := n.span.endColumn
  if !n.checked then none
  else if last < first then some (.lines first last)
  else if first < 0 ∧ first ≠ last then some (.negative first last column endColumn)
  else if first = last ∧ endColumn < column then some (.columns first column endColumn)
  else n.name.bind fun id => if id ∈ constantWords then some (.constant id) else none

/-- The first node of statements that is wrong, with its rows moved. -/
def firstFault? (moved : Nat → Int) (stmts : List Stmt) : Option NodeFault :=
  (nodesOf stmts).findSome? (Node.fault? moved)

/-- Every node of statements is on lines that a machine integer can number, with its rows moved. -/
def fits (moved : Nat → Int) (stmts : List Stmt) : Bool :=
  let small (i : Int) : Bool := -2147483648 ≤ i && i ≤ 2147483647
  (nodesOf stmts).all fun n => small (moved n.span.row) && small (moved n.span.endRow)

mutual

/-- How deep the nodes of an expression stand inside each other. -/
def Expr.depth : Expr → Nat
  | .const .. => 1
  | .name .. => 2
  | .joined _ pieces => 1 + depthOfPieces pieces
  | .list _ items | .tuple _ items => 1 + max 1 (depthOfAll items)
  | .dict _ entries => 1 + depthOfEntries entries
  | .binary _ _ left right => 1 + max left.depth right.depth
  | .unary _ _ operand | .await _ operand => 1 + operand.depth
  | .logic _ _ first rest => 1 + max first.depth (depthOfAll rest)
  | .compare _ first rest => 1 + max first.depth (depthOfComparisons rest)
  | .choose _ test yes no => 1 + max test.depth (max yes.depth no.depth)
  | .index _ base key => 1 + max base.depth key.depth
  | .slice _ lower upper step =>
    1 + max (depthOfBound lower) (max (depthOfBound upper) (depthOfBound step))
  | .attr _ base _ _ => 1 + base.depth
  | .call _ function args named =>
    1 + max function.depth (max (depthOfAll args) (depthOfNamed named))
  | .comprehension _ item target source conditions =>
    1 + max item.depth (1 + max target.depth (max source.depth (depthOfAll conditions)))

/-- How deep the nodes of expressions stand inside each other. -/
def depthOfAll : List Expr → Nat
  | [] => 0
  | e :: es => max e.depth (depthOfAll es)

/-- How deep the nodes of an expression that may be missing stand inside each other. -/
def depthOfBound : Option Expr → Nat
  | none => 0
  | some e => e.depth

/-- How deep the nodes of the pieces of a text stand inside each other. -/
def depthOfPieces : List Piece → Nat
  | [] => 0
  | .text _ :: rest => max 1 (depthOfPieces rest)
  | .value e _ :: rest => max (1 + e.depth) (depthOfPieces rest)

/-- How deep the nodes of the entries of a dictionary stand inside each other. -/
def depthOfEntries : List Entry → Nat
  | [] => 0
  | .mk key value :: rest => max (max key.depth value.depth) (depthOfEntries rest)

/-- How deep the nodes of a chain of comparisons stand inside each other. -/
def depthOfComparisons : List Comparison → Nat
  | [] => 0
  | .mk _ right :: rest => max right.depth (depthOfComparisons rest)

/-- How deep the nodes of arguments given by name stand inside each other. -/
def depthOfNamed : List Named → Nat
  | [] => 0
  | .mk _ _ value :: rest => max (1 + value.depth) (depthOfNamed rest)

/-- How deep the nodes of a target stand inside each other. -/
def Target.depth : Target → Nat
  | .name .. => 2
  | .items _ targets => 1 + max 1 (depthOfTargets targets)
  | .index _ base key => 1 + max base.depth key.depth
  | .attr _ base _ _ => 1 + base.depth

/-- How deep the nodes of targets stand inside each other. -/
def depthOfTargets : List Target → Nat
  | [] => 0
  | t :: ts => max t.depth (depthOfTargets ts)

end

/-- How deep the nodes of parameters stand inside each other. -/
def Params.depth (p : Params) : Nat :=
  p.all.foldl (fun n q => max n (max (2 + depthOfBound q.ascription) (1 + depthOfBound q.default)))
    1

mutual

/-- How deep the nodes of a statement stand inside each other. -/
def Stmt.depth : Stmt → Nat
  | .expr _ value => 1 + value.depth
  | .assign _ targets value => 1 + max (depthOfTargets targets) value.depth
  | .annotate _ target ascription value =>
    1 + max target.depth (max ascription.depth (depthOfBound value))
  | .update _ target _ value => 1 + max target.depth value.depth
  | .branch _ test yes no => 1 + max test.depth (max (depthOf yes) (depthOf no))
  | .each _ target source body orelse =>
    1 + max (max target.depth source.depth) (max (depthOf body) (depthOf orelse))
  | .loop _ test body orelse => 1 + max test.depth (max (depthOf body) (depthOf orelse))
  | .attempt _ body handlers orelse final =>
    1 + max (max (depthOf body) (depthOfHandlers handlers)) (max (depthOf orelse) (depthOf final))
  | .raise _ exception => 1 + depthOfBound exception
  | .give _ value => 1 + depthOfBound value
  | .define _ _ _ params returns body =>
    1 + max params.depth (max (depthOfBound returns) (depthOf body))
  | .pass _ | .leave _ | .again _ => 1

/-- How deep the nodes of statements stand inside each other. -/
def depthOf : List Stmt → Nat
  | [] => 0
  | s :: ss => max s.depth (depthOf ss)

/-- How deep the nodes of handlers stand inside each other. -/
def depthOfHandlers : List Handler → Nat
  | [] => 0
  | .mk _ type _ body :: rest =>
    max (1 + max (depthOfBound type) (depthOf body)) (depthOfHandlers rest)

end

end Stencil.Script
