import Stencil.Script.Syntax

/-!
# Rules beyond the grammar

What a script has to obey besides its grammar: no parameter is named twice, no argument is given
twice by name, one name cannot be assigned to, loops are left and continued from inside only,
functions are left from inside only, and only a suspending function awaits. Two faults of a script
are told apart by their order: parameters come first, then all else in the order in which it is
executed. The statements that are executed on the way out of a block count at every exit.

## Main definitions

* `repeatedParam?` — the first parameter that is named twice.
* `Misplaced` — where the first fault of another kind is.
* `Surroundings` — what a statement or an expression stands in.
* `checkAll` — statements obey the rules for what may stand where.
-/

namespace Stencil.Script

/-- The first parameter that has the name of one before it. -/
def Params.repeated? (p : Params) : Option Span :=
  go [] p.all
where
  go (seen : List Text) : List Param → Option Span
    | [] => none
    | q :: rest => if q.id ∈ seen then some q.span else go (q.id :: seen) rest

mutual

/-- The first parameter in a statement that has the name of one before it. -/
def Stmt.repeatedParam? : Stmt → Option Span
  | .branch _ _ yes no => (repeatedParam? yes).or (repeatedParam? no)
  | .each _ _ _ body orelse | .loop _ _ body orelse =>
    (repeatedParam? body).or (repeatedParam? orelse)
  | .attempt _ body handlers orelse final =>
    (repeatedParam? body).or ((repeatedParam? orelse).or
      ((repeatedParamInHandlers? handlers).or (repeatedParam? final)))
  | .define _ _ _ params _ body => params.repeated?.or (repeatedParam? body)
  | .expr .. | .assign .. | .annotate .. | .update .. | .raise .. | .give .. | .pass .. | .leave ..
  | .again .. => none

/-- The first parameter in statements that has the name of one before it. -/
def repeatedParam? : List Stmt → Option Span
  | [] => none
  | s :: ss => s.repeatedParam?.or (repeatedParam? ss)

/-- The first parameter in handlers that has the name of one before it. -/
def repeatedParamInHandlers? : List Handler → Option Span
  | [] => none
  | .mk _ _ _ body :: rest => (repeatedParam? body).or (repeatedParamInHandlers? rest)

end

/-- Where the first fault of a script is. -/
inductive Misplaced where
  | row (row : Nat)
  /-- It is found on the way out of a block, which has no row. -/
  | nowhere
  deriving DecidableEq, Repr, Inhabited

/-- The check of a part of a script. -/
abbrev Check := Except Misplaced Unit

/-- There is a fault at a row. -/
def faultAt (row : Nat) : Check := .error (.row row)

/-- A block around a statement, in the function that it belongs to. -/
inductive Block where
  | loop
  /-- Statements are executed on the way out. -/
  | guarded (final : List Stmt)
  | other
  deriving Inhabited

/-- What a statement or an expression stands in. -/
structure Surroundings where
  /-- Inside a function. -/
  inFunction : Bool
  /-- That function may wait. -/
  suspending : Bool
  /-- Inside a loop that builds a list. -/
  inComprehension : Bool
  /-- The loops and handled blocks around it in that function, innermost first. -/
  blocks : List Block
  deriving Inhabited

namespace Surroundings

/-- Outside of any function. -/
def outside : Surroundings := ⟨false, false, false, []⟩

/-- Inside a function. -/
def inside (suspending : Bool) : Surroundings := ⟨true, suspending, false, []⟩

/-- How many loops and handled blocks may stand inside each other. -/
def maxBlocks : Nat := 20

/-- One more block around; there has to be room for it, or else there is a fault at a row. -/
def within (c : Surroundings) (row : Nat) (b : Block) : Except Misplaced Surroundings :=
  if maxBlocks ≤ c.blocks.length then .error (.row row)
  else .ok { c with blocks := b :: c.blocks }

/-- Inside a loop that builds a list. -/
def building (c : Surroundings) : Surroundings := { c with inComprehension := true, blocks := [] }

/-- A wait at a row may stand here. -/
def mayWait (c : Surroundings) (row : Nat) : Check :=
  if c.inComprehension ∨ (c.inFunction ∧ c.suspending) then .ok () else faultAt row

end Surroundings

/-- The name that cannot be assigned to. -/
def fixedName : Text := "__debug__"

/-- A name is assigned to at a row. -/
def checkName (row : Nat) (id : Text) : Check := if id = fixedName then faultAt row else .ok ()

/-- The names under which arguments are given in a call at a row. -/
def checkNames (row : Nat) : List (Span × Text) → Check
  | [] => .ok ()
  | (_, id) :: rest => do
    checkName row id
    match rest.find? fun (_, other) => other == id with
    | some (s, _) => faultAt s.row
    | none => checkNames row rest

mutual

/-- An expression waits. -/
def Expr.waits : Expr → Bool
  | .const .. | .name .. => false
  | .joined _ pieces => pieceWaits pieces
  | .list _ items | .tuple _ items => anyWaits items
  | .dict _ entries => entryWaits entries
  | .binary _ _ left right => left.waits || right.waits
  | .unary _ _ operand => operand.waits
  | .logic _ _ first rest => first.waits || anyWaits rest
  | .compare _ first rest => first.waits || comparisonWaits rest
  | .choose _ test yes no => test.waits || yes.waits || no.waits
  | .index _ base key => base.waits || key.waits
  | .slice _ lower upper step => boundWaits lower || boundWaits upper || boundWaits step
  | .attr _ base _ _ => base.waits
  | .call _ function args named => function.waits || anyWaits args || namedWaits named
  | .comprehension _ item target source conditions =>
    item.waits || target.waits || source.waits || anyWaits conditions
  | .await .. => true

/-- One of some expressions waits. -/
def anyWaits : List Expr → Bool
  | [] => false
  | e :: es => e.waits || anyWaits es

/-- An expression that may be missing waits. -/
def boundWaits : Option Expr → Bool
  | none => false
  | some e => e.waits

/-- A piece of a text waits. -/
def pieceWaits : List Piece → Bool
  | [] => false
  | .text _ :: rest => pieceWaits rest
  | .value e _ :: rest => e.waits || pieceWaits rest

/-- An entry of a dictionary waits. -/
def entryWaits : List Entry → Bool
  | [] => false
  | .mk key value :: rest => key.waits || value.waits || entryWaits rest

/-- A comparison waits. -/
def comparisonWaits : List Comparison → Bool
  | [] => false
  | .mk _ right :: rest => right.waits || comparisonWaits rest

/-- An argument given by name waits. -/
def namedWaits : List Named → Bool
  | [] => false
  | .mk _ _ value :: rest => value.waits || namedWaits rest

/-- A target waits. -/
def Target.waits : Target → Bool
  | .name .. => false
  | .items _ targets => anyTargetWaits targets
  | .index _ base key => base.waits || key.waits
  | .attr _ base _ _ => base.waits

/-- One of some targets waits. -/
def anyTargetWaits : List Target → Bool
  | [] => false
  | t :: ts => t.waits || anyTargetWaits ts

end

mutual

/-- An expression obeys the rules for what may stand where. -/
def Expr.check (c : Surroundings) : Expr → Check
  | .const .. | .name .. => .ok ()
  | .joined _ pieces => checkPieces c pieces
  | .list _ items | .tuple _ items => checkExprs c items
  | .dict _ entries => checkEntries c entries
  | .binary _ _ left right => do
    left.check c
    right.check c
  | .unary _ _ operand => operand.check c
  | .logic _ _ first rest => do
    first.check c
    checkExprs c rest
  | .compare _ first rest => do
    first.check c
    checkComparisons c rest
  | .choose _ test yes no => do
    test.check c
    yes.check c
    no.check c
  | .index _ base key => do
    base.check c
    key.check c
  | .slice _ lower upper step => do
    checkBound c lower
    checkBound c upper
    checkBound c step
  | .attr _ base _ _ => base.check c
  | .call s function args named => do
    checkNames s.row (named.map fun | .mk s id _ => (s, id))
    function.check c
    checkExprs c args
    checkNamed c named
  | .comprehension s item target source conditions => do
    if item.waits || target.waits || anyWaits conditions then c.mayWait s.row
    target.check c.building
    checkExprs c.building conditions
    item.check c.building
    source.check c
  | .await s value => do
    c.mayWait s.row
    value.check c

/-- Expressions obey the rules. -/
def checkExprs (c : Surroundings) : List Expr → Check
  | [] => .ok ()
  | e :: es => do
    e.check c
    checkExprs c es

/-- An expression that may be missing obeys the rules. -/
def checkBound (c : Surroundings) : Option Expr → Check
  | none => .ok ()
  | some e => e.check c

/-- The pieces of a text obey the rules. -/
def checkPieces (c : Surroundings) : List Piece → Check
  | [] => .ok ()
  | .text _ :: rest => checkPieces c rest
  | .value e _ :: rest => do
    e.check c
    checkPieces c rest

/-- The entries of a dictionary obey the rules. -/
def checkEntries (c : Surroundings) : List Entry → Check
  | [] => .ok ()
  | .mk key value :: rest => do
    key.check c
    value.check c
    checkEntries c rest

/-- Comparisons obey the rules. -/
def checkComparisons (c : Surroundings) : List Comparison → Check
  | [] => .ok ()
  | .mk _ right :: rest => do
    right.check c
    checkComparisons c rest

/-- Arguments given by name obey the rules. -/
def checkNamed (c : Surroundings) : List Named → Check
  | [] => .ok ()
  | .mk _ _ value :: rest => do
    value.check c
    checkNamed c rest

/-- A target obeys the rules. -/
def Target.check (c : Surroundings) : Target → Check
  | .name s id => checkName s.row id
  | .items _ targets => checkTargets c targets
  | .index _ base key => do
    base.check c
    key.check c
  | .attr _ base id nameRow => do
    base.check c
    checkName nameRow id

/-- Targets obey the rules. -/
def checkTargets (c : Surroundings) : List Target → Check
  | [] => .ok ()
  | t :: ts => do
    t.check c
    checkTargets c ts

end

/-- Parameters of a function that is defined at a row obey the rules, as far as the statements
around the function are concerned. -/
def Params.check (c : Surroundings) (row : Nat) (p : Params) (returns : Option Expr) : Check := do
  p.all.forM fun q => checkName row q.id
  p.all.forM fun q => checkBound c q.default
  p.ascribed.forM (checkBound c ·.ascription)
  checkBound c returns

mutual

/-- A statement obeys the rules. Statements that are executed on the way out of a block are looked
at where the block is left, with fuel for each statement. -/
def checkStmt : (fuel : Nat) → Surroundings → Stmt → Check
  | 0, _, _ => .ok ()
  | fuel + 1, c, s =>
    match s with
    | .expr _ value => value.check c
    | .assign _ targets value => do
      value.check c
      checkTargets c targets
    | .annotate _ target ascription value => do
      match value, target with
      | some e, target => do
        e.check c
        target.check c
      | none, .name s id => checkName s.row id
      | none, .attr _ base id nameRow => do
        checkName nameRow id
        base.check c
      | none, .index _ base key => do
        base.check c
        key.check c
      | none, .items .. => .ok ()
      if c.inFunction then return () else ascription.check c
    | .update _ target _ value => do
      match target with
      | .name s id => do
        value.check c
        checkName s.row id
      | .index _ base key => do
        base.check c
        key.check c
        value.check c
      | .attr _ base _ _ => do
        base.check c
        value.check c
      | .items .. => .ok ()
    | .branch _ test yes no => do
      test.check c
      checkStmts fuel c yes
      checkStmts fuel c no
    | .each s target source body orelse => do
      let inner ← c.within s.row .loop
      source.check inner
      target.check inner
      checkStmts fuel inner body
      checkStmts fuel c orelse
    | .loop s test body orelse => do
      let inner ← c.within s.row .loop
      test.check inner
      checkStmts fuel inner body
      checkStmts fuel c orelse
    | .attempt s body handlers orelse final => do
      let outer ← if final.isEmpty then .ok c else c.within s.row (.guarded final)
      if handlers.isEmpty then checkStmts fuel outer body
      else
        let inner ← outer.within s.row .other
        checkStmts fuel inner body
        checkStmts fuel outer orelse
        let caught ← outer.within s.row .other
        checkHandlers fuel caught handlers
      if final.isEmpty then return ()
      checkStmts fuel c final
      let ending ← c.within s.row .other
      checkStmts fuel ending final
    | .raise _ exception => checkBound c exception
    | .give s value => do
      if c.inFunction then checkBound c value else faultAt s.row
      let _ ← unwind fuel c.blocks c false false
      return ()
    | .define s suspending id params returns body => do
      params.check c s.row returns
      checkStmts fuel (.inside suspending) body
      checkName s.row id
    | .leave s | .again s => do
      let (found, passed) ← unwind fuel c.blocks c true false
      if found then return ()
      else if passed then .error .nowhere
      else faultAt s.row
    | .pass _ => .ok ()

/-- Statements obey the rules. -/
def checkStmts : (fuel : Nat) → Surroundings → List Stmt → Check
  | 0, _, _ => .ok ()
  | _, _, [] => .ok ()
  | fuel + 1, c, s :: ss => do
    checkStmt fuel c s
    checkStmts fuel c ss

/-- Handlers obey the rules; a handler for everything comes last. -/
def checkHandlers : (fuel : Nat) → Surroundings → List Handler → Check
  | 0, _, _ => .ok ()
  | _, _, [] => .ok ()
  | fuel + 1, c, .mk s type id body :: rest => do
    if type.isNone ∧ !rest.isEmpty then faultAt s.row
    checkBound c type
    id.forM (checkName s.row)
    checkStmts fuel (← c.within s.row .other) body
    checkHandlers fuel c rest

/-- The way out of blocks, up to a loop if one is looked for: whether there is one, and whether
statements are executed on the way. -/
def unwind : (fuel : Nat) → List Block → Surroundings → (toLoop passed : Bool) →
    Except Misplaced (Bool × Bool)
  | 0, _, _, _, passed => .ok (false, passed)
  | _, [], _, _, passed => .ok (false, passed)
  | fuel + 1, b :: outer, c, toLoop, passed => do
    match b with
    | .loop => if toLoop then return (true, passed) else unwind fuel outer c toLoop passed
    | .guarded final =>
      checkStmts fuel { c with blocks := outer } final
      unwind fuel outer c toLoop true
    | .other => unwind fuel outer c toLoop passed

end

mutual

/-- The number of statements in a statement, itself included. -/
def Stmt.size : Stmt → Nat
  | .branch _ _ yes no => 1 + sizeOfAll yes + sizeOfAll no
  | .each _ _ _ body orelse | .loop _ _ body orelse => 1 + sizeOfAll body + sizeOfAll orelse
  | .attempt _ body handlers orelse final =>
    1 + sizeOfAll body + sizeOfHandlers handlers + sizeOfAll orelse + sizeOfAll final
  | .define _ _ _ _ _ body => 1 + sizeOfAll body
  | .expr .. | .assign .. | .annotate .. | .update .. | .raise .. | .give .. | .pass .. | .leave ..
  | .again .. => 1

/-- The number of statements in statements. -/
def sizeOfAll : List Stmt → Nat
  | [] => 0
  | s :: ss => s.size + sizeOfAll ss

/-- The number of statements in handlers. -/
def sizeOfHandlers : List Handler → Nat
  | [] => 0
  | .mk _ _ _ body :: rest => 1 + sizeOfAll body + sizeOfHandlers rest

end

/-- Statements obey the rules for what may stand where. On the way from a statement to what it
leads to no statement comes twice, so that there is fuel for all of them with the blocks that they
leave. -/
def checkAll (c : Surroundings) (stmts : List Stmt) : Check :=
  checkStmts ((Surroundings.maxBlocks + 3) * (sizeOfAll stmts + 1)) c stmts

end Stencil.Script
