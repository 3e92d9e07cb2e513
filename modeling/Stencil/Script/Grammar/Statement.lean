import Stencil.Script.Grammar.Pattern

/-!
# The grammar of statements

Simple and compound statements, with the mistakes that are common in them: a missing colon, a block
that is not indented, a target that nothing can be assigned to.

## Main definitions

* `Phrase.statementRule` — what statements may look like.
-/

namespace Stencil.Script.Grammar

/-- Parts before the end of a line where a block should be, and parts before a colon that no
indented block follows: the mistakes in the head of a compound statement. -/
def headMistakes (parts : List Pattern) : List Alternative :=
  [.wrongHere (parts ++ [.lineEnd]),
    .wrongHere (parts ++ [.op ":", .lineEnd, .except .indent])]

/-- A value that is assigned: what is yielded, or expressions. -/
def value : Pattern := .oneOf [the .yieldExpression, the .starExpressions]

/-- Targets in front of an assignment. -/
def assignedTargets : Pattern := .row [the .starTargets, .op "="]

/-- The name of what an expression stands for. -/
def asName : Pattern := .maybe (.row [.word "as", .name])

/-- The word before the definition of a function that is awaited, a loop or a block. -/
def maybeAsync : Pattern := .maybe (.word "async")

/-- Expressions with targets after them, in the head of a block with managers. -/
def managers (first : Pattern) : Pattern :=
  .listed "," (.row [first, .maybe (.row [.word "as", the .starTarget])])

namespace Phrase

/-- What simple statements and the outermost parts of scripts may look like. -/
def simpleRule : Phrase → Rule
  | script => .plain [.is [.maybe (the statements), .scriptEnd]]
  | statements => .plain [.is [.some (the statement)]]
  | statement => .plain [.is [the compoundStatement], .is [the simpleStatements]]
  | simpleStatements => .plain [
      .is [the simpleStatement, .except (.op ";"), .lineEnd],
      .is [.listed ";" (the simpleStatement), .maybe (.op ";"), .lineEnd]]
  | simpleStatement => .kept [
      .is [the assignment],
      .is [the starExpressions],
      .is [.ahead (.word "return"), the returnStatement],
      .is [.ahead (.oneOf [.word "import", .word "from"]), the importStatement],
      .is [.ahead (.word "raise"), the raiseStatement],
      .is [.word "pass"],
      .is [.ahead (.word "del"), the deleteStatement],
      .is [.ahead (.word "yield"), the yieldExpression],
      .is [.ahead (.word "assert"), the assertStatement],
      .is [.word "break"],
      .is [.word "continue"],
      .is [.ahead (.word "global"), the globalStatement],
      .is [.ahead (.word "nonlocal"), the nonlocalStatement]]
  | assignment => .plain [
      .is [.name, .op ":", the expression, .maybe (.row [.op "=", the assigned])],
      .is [.oneOf [.row [.op "(", the singleTarget, .op ")"], the placeTarget], .op ":",
        the expression, .maybe (.row [.op "=", the assigned])],
      .is [.some assignedTargets, value, .except (.op "=")],
      .is [the singleTarget, the updateOperator, .commit, value],
      .is [the faultyAssignment]]
  | assigned => .plain [.is [value]]
  | updateOperator => .plain [.is [.oneOf (["+=", "-=", "*=", "@=", "/=", "%=", "&=", "|=", "^=",
      "<<=", ">>=", "**=", "//="].map fun s => .op (Text.ofString s))]]
  | returnStatement => .plain [.is [.word "return", .maybe (the starExpressions)]]
  | raiseStatement => .plain [
      .is [.word "raise", the expression, .maybe (.row [.word "from", the expression])],
      .is [.word "raise"]]
  | globalStatement => .plain [.is [.word "global", .listed "," .name]]
  | nonlocalStatement => .plain [.is [.word "nonlocal", .listed "," .name]]
  | deleteStatement => .plain [
      .is [.word "del", the deleteTargets, .ahead (.oneOf [.op ";", .lineEnd])],
      .is [the faultyDelete]]
  | assertStatement => .plain [
      .is [.word "assert", the expression, .maybe (.row [.op ",", the expression])]]
  | importStatement => .plain [.is [the importNames], .is [the importFrom]]
  | importNames => .plain [.is [.word "import", the moduleAliases]]
  | importFrom => .plain [
      .is [.word "from", .many (.oneOf [.op ".", .op "..."]), the moduleName, .word "import",
        the importTargets],
      .is [.word "from", .some (.oneOf [.op ".", .op "..."]), .word "import", the importTargets]]
  | importTargets => .plain [
      .is [.op "(", the importAliases, .maybe (.op ","), .op ")"],
      .is [the importAliases, .except (.op ",")],
      .is [.op "*"],
      .is [the faultyImportTargets]]
  | importAliases => .plain [.is [.listed "," (the importAlias)]]
  | importAlias => .plain [.is [.name, asName]]
  | moduleAliases => .plain [.is [.listed "," (the moduleAlias)]]
  | moduleAlias => .plain [.is [the moduleName, asName]]
  | moduleName => .growing [.is [the moduleName, .op ".", .name], .is [.name]]
  | faultyAssignment => .mistake [
      .wrong 0 [the faultyAnnotation, .op ":", the expression],
      .wrong 0 [the starNamedExpression, .op ",", .many (the starNamedExpressions), .op ":",
        the expression],
      .wrong 0 [the expression, .op ":", the expression],
      .misused .assign 1 [.many assignedTargets, the starExpressions, .op "="],
      .wrong 1 [.many assignedTargets, the yieldExpression, .op "="],
      .wrong 0 [the starExpressions, the updateOperator, value]]
  | faultyAnnotation => .mistake [
      .is [the list], .is [the tuple], .inner 1 [.op "(", the faultyAnnotation, .op ")"]]
  | faultyDelete => .mistake [.misused .delete 1 [.word "del", the starExpressions]]
  | faultyImportTargets => .mistake [.wrongHere [the importAliases, .op ",", .lineEnd]]
  | _ => .plain []

/-- What compound statements may look like. -/
def compoundRule : Phrase → Rule
  | compoundStatement => .plain [
      .is [.ahead (.oneOf [.word "def", .op "@", .word "async"]), the functionDefinition],
      .is [.ahead (.word "if"), the ifStatement],
      .is [.ahead (.oneOf [.word "class", .op "@"]), the classDefinition],
      .is [.ahead (.oneOf [.word "with", .word "async"]), the withStatement],
      .is [.ahead (.oneOf [.word "for", .word "async"]), the forStatement],
      .is [.ahead (.word "try"), the tryStatement],
      .is [.ahead (.word "while"), the whileStatement],
      .is [the matchStatement]]
  | block => .kept [
      .is [.lineEnd, .indent, the statements, .dedent],
      .is [the simpleStatements],
      .is [the faultyBlock]]
  | faultyBlock => .mistake [.wrongHere [.lineEnd, .except .indent]]
  | decorators => .plain [.is [.some (.row [.op "@", the namedExpression, .lineEnd])]]
  | classDefinition => .plain [.is [the decorators, the classBody], .is [the classBody]]
  | classBody => .plain [
      .is [the faultyClass],
      .is [.word "class", .name, .maybe (.row [.op "(", .maybe (the arguments), .op ")"]), .op ":",
        the block]]
  | faultyClass => .mistake (headMistakes
      [.word "class", .name, .maybe (.row [.op "(", .maybe (the arguments), .op ")"])])
  | functionDefinition => .plain [.is [the decorators, the functionBody], .is [the functionBody]]
  | functionBody => .plain [
      .is [the faultyFunction],
      .is [.word "def", .name, .demand "(", .maybe (the (parameters .head)), .op ")",
        .maybe (.row [.op "->", the expression]), .demand ":", the block],
      .is [.word "async", .word "def", .name, .demand "(", .maybe (the (parameters .head)), .op ")",
        .maybe (.row [.op "->", the expression]), .demand ":", the block]]
  | faultyFunction => .mistake [
      .wrongHere [maybeAsync, .word "def", .name, .op "(", .maybe (the (parameters .head)), .op ")",
        .maybe (.row [.op "->", the expression]), .op ":", .lineEnd, .except .indent]]
  | ifStatement => .plain [
      .is [the faultyIf],
      .is [.word "if", the namedExpression, .op ":", the block, the elifClause],
      .is [.word "if", the namedExpression, .op ":", the block, .maybe (the elseClause)]]
  | elifClause => .plain [
      .is [the faultyElif],
      .is [.word "elif", the namedExpression, .op ":", the block, the elifClause],
      .is [.word "elif", the namedExpression, .op ":", the block, .maybe (the elseClause)]]
  | elseClause => .plain [.is [the faultyElse], .is [.word "else", .demand ":", the block]]
  | whileStatement => .plain [
      .is [the faultyWhile],
      .is [.word "while", the namedExpression, .op ":", the block, .maybe (the elseClause)]]
  | forStatement => .plain [
      .is [the faultyFor],
      .is [.word "for", the starTargets, .word "in", .commit, the starExpressions, .op ":",
        the block, .maybe (the elseClause)],
      .is [.word "async", .word "for", the starTargets, .word "in", .commit, the starExpressions,
        .op ":", the block, .maybe (the elseClause)],
      .is [the faultyForTarget]]
  | withStatement => .plain [
      .is [the faultyWithBlock],
      .is [.word "with", .op "(", .listed "," (the withItem), .maybe (.op ","), .op ")", .op ":",
        the block],
      .is [.word "with", .listed "," (the withItem), .op ":", the block],
      .is [.word "async", .word "with", .op "(", .listed "," (the withItem), .maybe (.op ","),
        .op ")", .op ":", the block],
      .is [.word "async", .word "with", .listed "," (the withItem), .op ":", the block],
      .is [the faultyWith]]
  | withItem => .plain [
      .is [the expression, .word "as", the starTarget,
        .ahead (.oneOf [.op ",", .op ")", .op ":"])],
      .is [the faultyWithItem],
      .is [the expression]]
  | tryStatement => .plain [
      .is [the faultyTry],
      .is [.word "try", .demand ":", the block, the finallyClause],
      .is [.word "try", .demand ":", the block, .some (the exceptClause), .maybe (the elseClause),
        .maybe (the finallyClause)],
      .is [.word "try", .demand ":", the block, .some (the exceptStarClause),
        .maybe (the elseClause), .maybe (the finallyClause)]]
  | exceptClause => .plain [
      .is [the faultyExceptBlock],
      .is [.word "except", the expression, asName, .op ":", the block],
      .is [.word "except", .op ":", the block],
      .is [the faultyExcept]]
  | exceptStarClause => .plain [
      .is [the faultyExceptStarBlock],
      .is [.word "except", .op "*", the expression, asName, .op ":", the block],
      .is [the faultyExcept]]
  | finallyClause => .plain [
      .is [the faultyFinally],
      .is [.word "finally", .demand ":", the block]]
  | faultyIf => .mistake (headMistakes [.word "if", the namedExpression])
  | faultyElif => .mistake (headMistakes [.word "elif", the namedExpression])
  | faultyElse => .mistake [.wrongHere [.word "else", .op ":", .lineEnd, .except .indent]]
  | faultyWhile => .mistake (headMistakes [.word "while", the namedExpression])
  | faultyFor => .mistake (headMistakes
      [maybeAsync, .word "for", the starTargets, .word "in", the starExpressions])
  | faultyForTarget => .mistake [.misused .loop 2 [maybeAsync, .word "for", the starExpressions]]
  | faultyWith => .mistake [
      .wrongHere [maybeAsync, .word "with", managers (the expression), .lineEnd],
      .wrongHere [maybeAsync, .word "with", .op "(", managers (the expressions), .maybe (.op ","),
        .op ")", .lineEnd]]
  | faultyWithBlock => .mistake [
      .wrongHere [maybeAsync, .word "with", managers (the expression), .op ":", .lineEnd,
        .except .indent],
      .wrongHere [maybeAsync, .word "with", .op "(", managers (the expressions), .maybe (.op ","),
        .op ")", .op ":", .lineEnd, .except .indent]]
  | faultyWithItem => .mistake [
      .misused .assign 2 [the expression, .word "as", the expression,
        .ahead (.oneOf [.op ",", .op ")", .op ":"])]]
  | faultyTry => .mistake [
      .wrongHere [.word "try", .op ":", .lineEnd, .except .indent],
      .wrongHere [.word "try", .op ":", the block,
        .except (.oneOf [.word "except", .word "finally"])],
      .wrongHere [.word "try", .op ":", .many (the block),
        .oneOf [.row [.some (the exceptClause), the exceptStarClause],
          .row [.some (the exceptStarClause), the exceptClause]], .many (the block)]]
  | faultyExcept => .mistake [
      .wrong 2 [.word "except", .maybe (.op "*"), the expression, .op ",", the expressions, asName,
        .op ":"],
      .wrongHere [.word "except", .maybe (.op "*"), the expression, asName, .lineEnd],
      .wrongHere [.word "except", .lineEnd],
      .wrongHere [.word "except", .op "*", .oneOf [.lineEnd, .op ":"]]]
  | faultyExceptBlock => .mistake [
      .wrongHere [.word "except", the expression, asName, .op ":", .lineEnd, .except .indent],
      .wrongHere [.word "except", .op ":", .lineEnd, .except .indent]]
  | faultyExceptStarBlock => .mistake [
      .wrongHere [.word "except", .op "*", the expression, asName, .op ":", .lineEnd,
        .except .indent]]
  | faultyFinally => .mistake [.wrongHere [.word "finally", .op ":", .lineEnd, .except .indent]]
  | _ => .plain []

end Phrase

end Stencil.Script.Grammar
