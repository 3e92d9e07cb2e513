import Stencil.Script.Terminal

/-!
# Patterns of terminals

The grammar of scripts is data: what a phrase may look like is a list of alternatives, each a row of
patterns, and the first alternative that fits is taken. Some alternatives fit common mistakes; they
are considered only after a text turned out to be no script, and say where it went wrong.

## Main definitions

* `Phrase` — what parts of scripts are called.
* `Pattern` — what terminals may look like.
* `Tree` — what has been found; `Tree.misfit?` is the part of it that nothing can be assigned to.
* `Alternative`, `Rule` — what a phrase may look like.
-/

namespace Stencil.Script.Grammar

/-- What encloses parameters. -/
inductive Signature where
  /-- Parentheses in the head of a function. -/
  | head
  /-- The head of a function without a name. -/
  | anonymous
  deriving DecidableEq, Repr, Hashable

/-- What parts of scripts are called. Those whose names begin with `faulty` are mistakes. -/
inductive Phrase where
  -- Statements
  | script
  | statements
  | statement
  | simpleStatements
  | simpleStatement
  | compoundStatement
  | assignment
  | assigned
  | updateOperator
  | returnStatement
  | raiseStatement
  | globalStatement
  | nonlocalStatement
  | deleteStatement
  | assertStatement
  | importStatement
  | importNames
  | importFrom
  | importTargets
  | importAliases
  | importAlias
  | moduleAliases
  | moduleAlias
  | moduleName
  | block
  | decorators
  | classDefinition
  | classBody
  | functionDefinition
  | functionBody
  | ifStatement
  | elifClause
  | elseClause
  | whileStatement
  | forStatement
  | withStatement
  | withItem
  | tryStatement
  | exceptClause
  | exceptStarClause
  | finallyClause
  | faultyAssignment
  | faultyAnnotation
  | faultyDelete
  | faultyBlock
  | faultyWithItem
  | faultyForTarget
  | faultyImportTargets
  | faultyWith
  | faultyWithBlock
  | faultyTry
  | faultyExcept
  | faultyFinally
  | faultyExceptBlock
  | faultyExceptStarBlock
  | faultyIf
  | faultyElif
  | faultyElse
  | faultyWhile
  | faultyFor
  | faultyFunction
  | faultyClass
  -- Parameters
  | parameters (s : Signature)
  | parameterList (s : Signature)
  | plainPositional (s : Signature)
  | defaultPositional (s : Signature)
  | afterStar (s : Signature)
  | namedRest (s : Signature)
  | plainParameter (s : Signature)
  | starParameter
  | defaultParameter (s : Signature)
  | parameterOrDefault (s : Signature)
  | parameter (s : Signature)
  | annotation
  | default
  | faultyParameters (s : Signature)
  | faultyParametersBefore (s : Signature)
  | faultyAfterStar (s : Signature)
  | faultyNamedRest (s : Signature)
  | faultyDefault
  -- Cases
  | matchStatement
  | subject
  | caseBlock
  | guard
  | casePatterns
  | casePattern
  | boundPattern
  | anyPattern
  | closedPattern
  | literalPattern
  | literalKey
  | complexNumber
  | signedNumber
  | signedReal
  | realNumber
  | imaginaryNumber
  | capture
  | wildcard
  | valuePattern
  | dottedName
  | nameOrDotted
  | groupPattern
  | sequencePattern
  | openSequence
  | sequenceItems
  | sequenceItem
  | starPattern
  | mappingPattern
  | mappingItems
  | mappingItem
  | mappingRest
  | classPattern
  | positionalPatterns
  | namedPatterns
  | namedPattern
  | faultyMatch
  | faultyCase
  | faultyBound
  | faultyClassPattern
  | faultyClassArguments
  -- Expressions
  | expressions
  | expression
  | yieldExpression
  | starExpressions
  | starExpression
  | starNamedExpressions
  | starNamedExpression
  | namingExpression
  | namedExpression
  | disjunction
  | conjunction
  | inversion
  | comparison
  | comparisonPair
  | unions
  | exclusions
  | intersections
  | shifts
  | sum
  | term
  | factor
  | power
  | awaited
  | primary
  | slices
  | slice
  | atom
  | group
  | anonymousFunction
  | strings
  | list
  | tuple
  | set
  | dictionary
  | entries
  | entry
  | pair
  | clauses
  | clause
  | listComprehension
  | setComprehension
  | generator
  | dictionaryComprehension
  | arguments
  | argumentList
  | namedArguments
  | unpacked
  | namedOrUnpacked
  | namedOrDoubleUnpacked
  | faultyExpression
  | quietExpression
  | faultyOldStatement
  | faultyNamed
  | faultyComprehension
  | faultyDictionaryComprehension
  | faultyGroup
  | faultyEntries
  | faultyPair
  | faultyArguments
  | faultyNamedArgument
  -- Targets
  | starTargets
  | starTargetList
  | starTargetTuple
  | starTarget
  | starAtomTarget
  | starAtom
  | singleTarget
  | placeTarget
  | targetBase
  | targetAhead
  | deleteTargets
  | deleteTarget
  | deleteAtom
  deriving DecidableEq, Repr, Hashable

/-- What terminals may look like. -/
inductive Pattern where
  | op (text : Text)
  | word (text : Text)
  /-- A word that is a name elsewhere. -/
  | softWord (text : Text)
  /-- Any word that is a name elsewhere but may begin a statement. -/
  | anySoftWord
  | name
  | number
  /-- One string. -/
  | text
  /-- Strings one after another, which together denote a text. -/
  | texts
  | lineEnd
  | indent
  | dedent
  | scriptEnd
  | phrase (p : Phrase)
  /-- All of some patterns in a row. -/
  | row (ps : List Pattern)
  /-- The first of some patterns that fits. -/
  | oneOf (ps : List Pattern)
  | maybe (p : Pattern)
  | many (p : Pattern)
  | some (p : Pattern)
  /-- One or more with an operator between neighbours. -/
  | listed (separator : Text) (p : Pattern)
  /-- The pattern would fit here. -/
  | ahead (p : Pattern)
  /-- The pattern would not fit here. -/
  | except (p : Pattern)
  /-- From here on no later alternative is considered. -/
  | commit
  /-- The operator has to come here. -/
  | demand (text : Text)

/-- A phrase as a pattern. -/
def the (p : Phrase) : Pattern := .phrase p

/-- What a part of a script is, as far as it matters for what can be assigned to. -/
inductive Shape where
  /-- Parts in a row that are no expression. -/
  | several
  | list
  | tuple
  /-- An expression after a star. -/
  | starred
  /-- A test for membership, by what is looked for. -/
  | membership
  /-- A name, an attribute or an item. -/
  | place
  /-- The arguments of a call that are given by position. -/
  | arguments
  | other
  deriving DecidableEq, Repr, Inhabited

/-- What has been found. -/
inductive Tree where
  | nothing
  | leaf (t : Terminal)
  /-- A part that begins at a row. -/
  | node (shape : Shape) (row : Nat) (parts : List Tree)
  deriving Inhabited

/-- What is done with a target. -/
inductive Use where
  | assign
  | loop
  | delete
  deriving DecidableEq, Repr

namespace Tree

/-- The row at which a tree begins. -/
def row : Tree → Nat
  | nothing => 0
  | leaf t => t.span.row
  | node _ r _ => r

/-- The expressions in a tree of parts in a row, less commas and brackets. -/
def elements : Tree → List Tree
  | nothing => []
  | leaf t => if t.kind = .op ∧ t.text ≠ "..." then [] else [leaf t]
  | node .several _ parts => go parts
  | node s r parts => [node s r parts]
where
  go : List Tree → List Tree
    | [] => []
    | t :: ts => t.elements ++ go ts

mutual

/-- The first part of an expression that cannot be a target. -/
def misfit? (use : Use) : Tree → Option Tree
  | nothing => none
  | leaf t =>
    if t.kind = .name ∧ !([Text.ofString "True", Text.ofString "False",
      Text.ofString "None"].contains t.text) then none else some (leaf t)
  | node .place _ _ => none
  | node .list _ parts | node .tuple _ parts => misfitAmong? use parts
  | node .starred r parts =>
    if use = .delete then some (node .starred r parts) else misfitAmong? use parts
  | node .membership r parts =>
    if use = .loop then misfitAmong? use parts else some (node .membership r parts)
  | node s r parts => some (node s r parts)

/-- The first of some parts that cannot be a target. -/
def misfitAmong? (use : Use) : List Tree → Option Tree
  | [] => none
  | t :: ts => (t.misfit? use).or (misfitAmong? use ts)

end

end Tree

/-- What has fitted an alternative. -/
structure Match where
  /-- The row at which it begins. -/
  row : Nat
  /-- The last terminal of it. -/
  last : Terminal
  parts : List Tree

/-- What follows from a match. -/
inductive Verdict where
  | found (t : Tree)
  /-- It is a mistake at a row. -/
  | mistake (row : Nat)
  /-- It is a mistake at the last terminal that has been looked at. -/
  | mistakeHere
  /-- Neither it nor any later alternative counts. -/
  | nothing

/-- One of the ways in which a phrase may look. -/
structure Alternative where
  parts : List Pattern
  judge : Match → Verdict

namespace Match

/-- The part at an index. -/
def part (m : Match) (i : Nat) : Tree := m.parts.getD i .nothing

/-- The match as a tree of a shape. -/
def shaped (m : Match) (s : Shape) (parts : List Tree) : Verdict := .found (.node s m.row parts)

end Match

namespace Alternative

/-- A single part as it is, several as something that is no target. -/
def is (parts : List Pattern) : Alternative :=
  ⟨parts, fun m => match m.parts with
    | [t] => .found t
    | _ => m.shaped .other []⟩

/-- The part at an index stands for the whole. -/
def inner (i : Nat) (parts : List Pattern) : Alternative := ⟨parts, fun m => .found (m.part i)⟩

/-- The expressions in all parts make up a tree of a shape. -/
def elements (s : Shape) (parts : List Pattern) : Alternative :=
  ⟨parts, fun m => m.shaped s (m.parts.flatMap Tree.elements)⟩

/-- A tree of a shape around the part at an index. -/
def around (s : Shape) (i : Nat) (parts : List Pattern) : Alternative :=
  ⟨parts, fun m => m.shaped s [m.part i]⟩

/-- A mistake at the part at an index. -/
def wrong (i : Nat) (parts : List Pattern) : Alternative :=
  ⟨parts, fun m => .mistake (m.part i).row⟩

/-- A mistake at the last terminal that has been looked at. -/
def wrongHere (parts : List Pattern) : Alternative := ⟨parts, fun _ => .mistakeHere⟩

/-- A mistake if the part at an index holds something that cannot be a target. -/
def misused (use : Use) (i : Nat) (parts : List Pattern) : Alternative :=
  ⟨parts, fun m => match (m.part i).misfit? use with
    | some t => .mistake t.row
    | none => .nothing⟩

end Alternative

/-- What is remembered about a phrase at a terminal. -/
inductive Memory where
  /-- Nothing. -/
  | fresh
  /-- What was found, for as long as it makes no difference whether mistakes count. -/
  | free
  /-- What was found the first time, even if mistakes count the second time. -/
  | kept
  /-- What has been found so far, with which the phrase may begin itself. -/
  | growing
  deriving DecidableEq, Repr, Inhabited

/-- What a phrase may look like. -/
structure Rule where
  memory : Memory
  /-- It is a mistake. -/
  faulty : Bool
  /-- Mistakes inside it do not count. -/
  quiet : Bool
  alternatives : List Alternative
  deriving Inhabited

namespace Rule

/-- A phrase. -/
def plain (alternatives : List Alternative) : Rule := ⟨.free, false, false, alternatives⟩

/-- A phrase that is looked for again every time. -/
def fresh (alternatives : List Alternative) : Rule := ⟨.fresh, false, false, alternatives⟩

/-- A phrase that is remembered. -/
def kept (alternatives : List Alternative) : Rule := ⟨.kept, false, false, alternatives⟩

/-- A phrase that may begin with itself. -/
def growing (alternatives : List Alternative) : Rule := ⟨.growing, false, false, alternatives⟩

/-- A mistake. -/
def mistake (alternatives : List Alternative) : Rule := ⟨.free, true, false, alternatives⟩

end Rule

end Stencil.Script.Grammar
