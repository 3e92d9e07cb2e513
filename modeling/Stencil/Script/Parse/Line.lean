import Stencil.Script.Parse.Expr

/-!
# Statements on one line

A logical line holds simple statements, or the head of a compound statement that is followed by
simple statements on the same line or by an indented block.

## Main definitions

* `Head` — the head of a compound statement or of one of its clauses.
* `Clause` — what a line holds.
* `Parse.clause` — what the terminals of a line are.
-/

namespace Stencil.Script

/-- The head of a compound statement or of one of its clauses. -/
inductive Head where
  | branch (test : Expr)
  | otherBranch (test : Expr)
  | orelse
  | loop (test : Expr)
  | each (target : Target) (source : Expr)
  | attempt
  | handler (type : Option Expr) (id : Option Text)
  | final
  | define (suspending : Bool) (id : Text) (params : Params) (returns : Option Expr)

/-- What a line holds. -/
inductive Clause where
  | simple (stmts : List Stmt)
  /-- A head, and the statements after its colon if there are any. -/
  | opened (span : Span) (head : Head) (inline : List Stmt)

namespace Parse

open Script.Parser

/-- Nothing is left of the line. -/
def atEnd : Parser Bool := do return (← peek).isNone

/-- An expression as something to assign to. -/
def targetOf (e : Expr) : Parser Target :=
  match Target.ofExpr? e with
  | some t => return t
  | none => failAt e.span.row

/-- The operators of assignments that update their target. -/
def updateOps : List (Text × BinaryOp) :=
  [("+=", .add), ("-=", .sub), ("*=", .mul), ("/=", .div), ("//=", .floorDiv), ("%=", .mod)]

/-- The values of a chain of assignments, the last of which is what is assigned. -/
def assigned (depth : Nat) : (fuel : Nat) → Parser (List Expr)
  | 0 => fail
  | fuel + 1 => do
    let e ← expressions depth
    if ← op? "=" then return e :: (← assigned depth fuel) else return [e]

/-- An assignment or an expression on its own. -/
def assignment (fuel : Nat) : Parser Stmt := do
  let start ← here
  let e ← expressions fuel
  let next ← peek
  if ← op? "=" then
    let values ← assigned fuel fuel
    let targets ← (e :: values.dropLast).mapM targetOf
    return .assign (← since start) targets (values.getLastD e)
  else if ← op? ":" then
    let target ← match e with
      | .name .. | .attr .. | .index .. => targetOf e
      | _ => failAt e.span.row
    let ascription ← expression fuel
    let value ← if ← op? "=" then some <$> expressions fuel else pure none
    return .annotate (← since start) target ascription value
  else match next.bind fun t => updateOps.find? fun (text, _) => t.isOp text with
    | some (_, op) => do
      let _ ← take
      let target ← match e with
        | .name .. | .attr .. | .index .. => targetOf e
        | _ => failAt e.span.row
      let value ← expressions fuel
      return .update (← since start) target op value
    | none => return .expr (← since start) e

/-- One simple statement. -/
def simple (fuel : Nat) : Parser Stmt := do
  let start ← here
  if ← word? "pass" then return .pass start
  else if ← word? "break" then return .leave start
  else if ← word? "continue" then return .again start
  else if ← word? "return" then
    let value ← if ← atExpression then some <$> expressions fuel else pure none
    return .give (← since start) value
  else if ← word? "raise" then
    let exception ← if ← atExpression then some <$> expression fuel else pure none
    return .raise (← since start) exception
  else assignment fuel

/-- Simple statements with semicolons between them, up to the end of the line. -/
def simples (depth : Nat) : (fuel : Nat) → Parser (List Stmt)
  | 0 => fail
  | fuel + 1 => do
    let s ← simple depth
    if ← op? ";" then
      if ← atEnd then return [s] else return s :: (← simples depth fuel)
    else if ← atEnd then return [s]
    else fail

/-- One parameter with its ascription and its default. -/
def parameter (fuel : Nat) (mayDefault : Bool) : Parser Param := do
  let start ← here
  let id ← name
  let ascription ← if ← op? ":" then some <$> expression fuel else pure none
  let span ← since start
  let default ← if mayDefault then if ← op? "=" then some <$> expression fuel else pure none
    else pure none
  return ⟨span, id, ascription, default⟩

/-- A comma between parameters, or the closing parenthesis after the last. -/
def another : Parser Bool := do
  if ← op? "," then return true
  else
    op ")"
    return false

/-- Parameters up to the closing parenthesis, which is taken, after those in `p`. The flag `byName`
holds after a star, where parameters are reached by name only. -/
def parameters (depth : Nat) (byName : Bool) (p : Params) : (fuel : Nat) → Parser Params
  | 0 => fail
  | fuel + 1 => do
    if ← op? ")" then return p
    else if ← op? "**" then
      let q ← parameter depth false
      let _ ← op? ","
      op ")"
      return { p with namedRest := some q }
    else if ← atOp "*" then
      if byName then fail
      op "*"
      if ← op? "," then
        if (← atOp ")") || (← atOp "**") then fail
        parameters depth true p fuel
      else
        let q ← parameter depth false
        let p := { p with rest := some q }
        if ← another then parameters depth true p fuel else return p
    else if ← atOp "/" then
      if byName ∨ !p.positional.isEmpty ∨ p.plain.isEmpty then fail
      op "/"
      let p := { p with positional := p.plain, plain := [] }
      if ← another then parameters depth false p fuel else return p
    else
      let row ← row
      let q ← parameter depth true
      if byName then
        let p := { p with named := p.named ++ [q] }
        if ← another then parameters depth true p fuel else return p
      else if q.default.isNone ∧ (p.positional ++ p.plain).any (·.default.isSome) then failAt row
      else
        let p := { p with plain := p.plain ++ [q] }
        if ← another then parameters depth false p fuel else return p

/-- The head of a compound statement, up to its colon. -/
def head? (fuel : Nat) : Parser (Option Head) := do
  if ← word? "if" then return some (.branch (← expression fuel))
  else if ← word? "elif" then return some (.otherBranch (← expression fuel))
  else if ← word? "else" then return some .orelse
  else if ← word? "while" then return some (.loop (← expression fuel))
  else if ← word? "for" then
    let target ← loopTarget fuel (primary fuel)
    word "in"
    return some (.each target (← expressions fuel))
  else if ← word? "try" then return some .attempt
  else if ← word? "except" then
    if ← atOp ":" then return some (.handler none none)
    let type ← expression fuel
    let id ← if ← word? "as" then some <$> name else pure none
    return some (.handler (some type) id)
  else if ← word? "finally" then return some .final
  else if ← word? "async" then
    word "def"
    some <$> definition true
  else if ← word? "def" then some <$> definition false
  else return none
where
  definition (suspending : Bool) : Parser Head := do
    let id ← name
    op "("
    let params ← parameters fuel false ⟨[], [], none, [], none⟩ fuel
    let returns ← if ← op? "->" then some <$> expression fuel else pure none
    return .define suspending id params returns

/-- What a line holds. -/
def clause (fuel : Nat) : Parser Clause := do
  let start ← here
  match ← head? fuel with
  | some head => do
    op ":"
    if ← atEnd then return .opened start head []
    else return .opened start head (← simples fuel fuel)
  | none => return .simple (← simples fuel fuel)

end Parse

end Stencil.Script
