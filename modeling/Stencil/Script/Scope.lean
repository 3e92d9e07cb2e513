import Stencil.Script.Syntax

/-!
# Names that statements bind

A name that a function binds anywhere in its body is its own throughout the body; other names are
looked up outside.

## Main definitions

* `Target.names`, `namesOf` — the names that a target and that statements bind.
-/

namespace Stencil.Script

mutual

/-- The names that a target binds. -/
def Target.names : Target → List Text
  | .name _ id => [id]
  | .items _ targets => namesOfTargets targets
  | .index .. | .attr .. => []

/-- The names that targets bind. -/
def namesOfTargets : List Target → List Text
  | [] => []
  | t :: ts => t.names ++ namesOfTargets ts

end

mutual

/-- The names that a statement binds in the function that it belongs to. -/
def Stmt.names : Stmt → List Text
  | .assign _ targets _ => namesOfTargets targets
  | .annotate _ target _ _ | .update _ target _ _ => target.names
  | .branch _ _ yes no => namesOf yes ++ namesOf no
  | .each _ target _ body orelse => target.names ++ namesOf body ++ namesOf orelse
  | .loop _ _ body orelse => namesOf body ++ namesOf orelse
  | .attempt _ body handlers orelse final =>
    namesOf body ++ namesOfHandlers handlers ++ namesOf orelse ++ namesOf final
  | .define _ _ id _ _ _ => [id]
  | .expr .. | .raise .. | .give .. | .pass .. | .leave .. | .again .. => []

/-- The names that statements bind in the function that they belong to. -/
def namesOf : List Stmt → List Text
  | [] => []
  | s :: ss => s.names ++ namesOf ss

/-- The names that handlers bind. -/
def namesOfHandlers : List Handler → List Text
  | [] => []
  | .mk _ _ id body :: rest => id.toList ++ namesOf body ++ namesOfHandlers rest

end

end Stencil.Script
