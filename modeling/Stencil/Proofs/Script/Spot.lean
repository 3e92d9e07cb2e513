import Stencil.Eval.Stmt

/-!
# Spots in scripts

Where in a script an exception can be located: at the expression, the target or the clause that
fails or whose call does, on the row on which it begins. An attribute is located where its name is,
and so is a call of it.

## Main definitions

* `Spot`, `Spot.row` — a node at which exceptions are located, and the row for it.
* `spotsOf` — the spots in statements.
-/

namespace Stencil.Script

/-- A node at which exceptions are located. -/
inductive Spot where
  | expr (e : Expr)
  | target (t : Target)
  | stmt (s : Stmt)
  | handler (h : Handler)

namespace Spot

/-- The row for exceptions at a node. -/
def row : Spot → Nat
  | expr (.attr _ _ _ nameRow) | target (.attr _ _ _ nameRow) => nameRow
  | expr (.call s function _ _) => function.callRow s
  | expr e => e.span.row
  | target t => t.span.row
  | stmt s => s.span.row
  | handler (.mk s ..) => s.row

end Spot

mutual

/-- The spots in an expression. -/
def Expr.spots : Expr → List Spot
  | .const .. => []
  | .name s id => [.expr (.name s id)]
  | .joined s pieces => .expr (.joined s pieces) :: spotsOfPieces pieces
  | .list _ items | .tuple _ items => spotsOfAll items
  | .dict s entries => .expr (.dict s entries) :: spotsOfEntries entries
  | .binary s op left right =>
    .expr (.binary s op left right) :: (left.spots ++ right.spots)
  | .unary s op operand => .expr (.unary s op operand) :: operand.spots
  | .logic _ _ first rest => first.spots ++ spotsOfAll rest
  | .compare s first rest =>
    .expr (.compare s first rest) :: (first.spots ++ spotsOfComparisons rest)
  | .choose _ test yes no => test.spots ++ (yes.spots ++ no.spots)
  | .index s base key => .expr (.index s base key) :: (base.spots ++ key.spots)
  | .slice _ lower upper step =>
    spotsOfBound lower ++ (spotsOfBound upper ++ spotsOfBound step)
  | .attr s base id nameRow => .expr (.attr s base id nameRow) :: base.spots
  | .call s function args named =>
    .expr (.call s function args named) ::
      (function.spots ++ (spotsOfAll args ++ spotsOfNamed named))
  | .comprehension s item target source conditions =>
    .expr (.comprehension s item target source conditions) ::
      (source.spots ++ (target.spots ++ (spotsOfAll conditions ++ item.spots)))
  | .await s value => .expr (.await s value) :: value.spots

/-- The spots in expressions. -/
def spotsOfAll : List Expr → List Spot
  | [] => []
  | e :: es => e.spots ++ spotsOfAll es

/-- The spots in an expression that may be missing. -/
def spotsOfBound : Option Expr → List Spot
  | none => []
  | some e => e.spots

/-- The spots in the pieces of a text. -/
def spotsOfPieces : List Piece → List Spot
  | [] => []
  | .text _ :: rest => spotsOfPieces rest
  | .value e _ :: rest => e.spots ++ spotsOfPieces rest

/-- The spots in the entries of a dictionary. -/
def spotsOfEntries : List Entry → List Spot
  | [] => []
  | .mk key value :: rest => key.spots ++ (value.spots ++ spotsOfEntries rest)

/-- The spots in a chain of comparisons. -/
def spotsOfComparisons : List Comparison → List Spot
  | [] => []
  | .mk _ right :: rest => right.spots ++ spotsOfComparisons rest

/-- The spots in arguments given by name. -/
def spotsOfNamed : List Named → List Spot
  | [] => []
  | .mk _ _ value :: rest => value.spots ++ spotsOfNamed rest

/-- The spots in a target. -/
def Target.spots : Target → List Spot
  | .name s id => [.target (.name s id)]
  | .items s targets => .target (.items s targets) :: spotsOfTargets targets
  | .index s base key => .target (.index s base key) :: (base.spots ++ key.spots)
  | .attr s base id nameRow => .target (.attr s base id nameRow) :: base.spots

/-- The spots in targets. -/
def spotsOfTargets : List Target → List Spot
  | [] => []
  | t :: ts => t.spots ++ spotsOfTargets ts

end

/-- The spots in the defaults and the annotations of parameters. -/
def spotsOfParams (params : List Param) : List Spot :=
  params.flatMap fun q => spotsOfBound q.default ++ spotsOfBound q.ascription

mutual

/-- The spots in a statement. -/
def Stmt.spots : Stmt → List Spot
  | .expr _ value => value.spots
  | .assign _ targets value => value.spots ++ spotsOfTargets targets
  | .annotate _ target ascription value =>
    target.spots ++ (ascription.spots ++ spotsOfBound value)
  | .update s target op value =>
    .stmt (.update s target op value) :: (target.spots ++ value.spots)
  | .branch _ test yes no => test.spots ++ (spotsOf yes ++ spotsOf no)
  | .each s target source body orelse =>
    .stmt (.each s target source body orelse) ::
      (target.spots ++ (source.spots ++ (spotsOf body ++ spotsOf orelse)))
  | .loop _ test body orelse => test.spots ++ (spotsOf body ++ spotsOf orelse)
  | .attempt _ body handlers orelse final =>
    spotsOf body ++ (spotsOfHandlers handlers ++ (spotsOf orelse ++ spotsOf final))
  | .raise s exception => .stmt (.raise s exception) :: spotsOfBound exception
  | .give _ value => spotsOfBound value
  | .define _ _ _ params returns body =>
    spotsOfParams params.all ++ (spotsOfBound returns ++ spotsOf body)
  | .pass _ | .leave _ | .again _ => []

/-- The spots in statements. -/
def spotsOf : List Stmt → List Spot
  | [] => []
  | s :: rest => s.spots ++ spotsOf rest

/-- The spots in clauses that handle exceptions. -/
def spotsOfHandlers : List Handler → List Spot
  | [] => []
  | .mk s type id body :: rest =>
    .handler (.mk s type id body) ::
      (spotsOfBound type ++ (spotsOf body ++ spotsOfHandlers rest))

end

end Stencil.Script
