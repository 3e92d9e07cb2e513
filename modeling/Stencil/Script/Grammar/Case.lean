import Stencil.Script.Grammar.Pattern

/-!
# The grammar of cases

A statement that takes a value apart: a subject, and blocks each with the form that the value has to
have.

## Main definitions

* `Phrase.caseRule` — what such statements may look like.
-/

namespace Stencil.Script.Grammar

/-- No dot, parenthesis or equals sign follows. -/
def endsName : Pattern := .except (.oneOf [.op ".", .op "(", .op "="])

/-- Words that are constants. -/
def constantWords : List Alternative :=
  [.is [.word "None"], .is [.word "True"], .is [.word "False"]]

/-- Constants that a form may name. -/
def literals : List Alternative :=
  [.is [the .signedNumber, .except (.oneOf [.op "+", .op "-"])], .is [the .complexNumber],
    .is [the .strings]] ++ constantWords

/-- A number that is the imaginary part of another, or one that is not. -/
def number (imaginary : Bool) : Alternative :=
  ⟨[.number], fun m =>
    let marked := m.last.text.getLast?.any fun (c : CodePoint) => c == 'j' || c == 'J'
    if marked = imaginary then .found (m.part 0) else .mistake m.row⟩

namespace Phrase

/-- What statements that take a value apart may look like. -/
def caseRule : Phrase → Rule
  | matchStatement => .plain [
      .is [.softWord "match", the subject, .op ":", .lineEnd, .indent, .some (the caseBlock),
        .dedent],
      .is [the faultyMatch]]
  | subject => .plain [
      .is [the starNamedExpression, .op ",", .maybe (the starNamedExpressions)],
      .is [the namedExpression]]
  | caseBlock => .plain [
      .is [the faultyCase],
      .is [.softWord "case", the casePatterns, .maybe (the guard), .op ":", the block]]
  | guard => .plain [.is [.word "if", the namedExpression]]
  | casePatterns => .plain [.is [the openSequence], .is [the casePattern]]
  | casePattern => .plain [.is [the boundPattern], .is [the anyPattern]]
  | boundPattern => .plain [
      .is [the anyPattern, .word "as", the capture],
      .is [the faultyBound]]
  | anyPattern => .plain [.is [.listed "|" (the closedPattern)]]
  | closedPattern => .kept [
      .is [the literalPattern], .is [the capture], .is [the wildcard], .is [the valuePattern],
      .is [the groupPattern], .is [the sequencePattern], .is [the mappingPattern],
      .is [the classPattern]]
  | literalPattern => .plain literals
  | literalKey => .plain literals
  | complexNumber => .plain [
      .is [the signedReal, .op "+", the imaginaryNumber],
      .is [the signedReal, .op "-", the imaginaryNumber]]
  | signedNumber => .plain [.is [.number], .is [.op "-", .number]]
  | signedReal => .plain [.is [the realNumber], .is [.op "-", the realNumber]]
  | realNumber => .plain [number false]
  | imaginaryNumber => .plain [number true]
  | capture => .plain [.is [.except (.softWord "_"), .name, endsName]]
  | wildcard => .plain [.is [.softWord "_"]]
  | valuePattern => .plain [.is [the dottedName, endsName]]
  | dottedName => .growing [.is [the nameOrDotted, .op ".", .name]]
  | nameOrDotted => .fresh [.is [the dottedName], .is [.name]]
  | groupPattern => .plain [.inner 1 [.op "(", the casePattern, .op ")"]]
  | sequencePattern => .plain [
      .is [.op "[", .maybe (the sequenceItems), .op "]"],
      .is [.op "(", .maybe (the openSequence), .op ")"]]
  | openSequence => .plain [.is [the sequenceItem, .op ",", .maybe (the sequenceItems)]]
  | sequenceItems => .plain [.is [.listed "," (the sequenceItem), .maybe (.op ",")]]
  | sequenceItem => .plain [.is [the starPattern], .is [the casePattern]]
  | starPattern => .kept [.is [.op "*", the capture], .is [.op "*", the wildcard]]
  | mappingPattern => .plain [
      .is [.op "\x7b", .op "\x7d"],
      .is [.op "\x7b", the mappingRest, .maybe (.op ","), .op "\x7d"],
      .is [.op "\x7b", the mappingItems, .op ",", the mappingRest, .maybe (.op ","), .op "\x7d"],
      .is [.op "\x7b", the mappingItems, .maybe (.op ","), .op "\x7d"]]
  | mappingItems => .plain [.is [.listed "," (the mappingItem)]]
  | mappingItem => .plain [
      .is [.oneOf [the literalKey, the dottedName], .op ":", the casePattern]]
  | mappingRest => .plain [.is [.op "**", the capture]]
  | classPattern => .plain [
      .is [the nameOrDotted, .op "(", .op ")"],
      .is [the nameOrDotted, .op "(", the positionalPatterns, .maybe (.op ","), .op ")"],
      .is [the nameOrDotted, .op "(", the namedPatterns, .maybe (.op ","), .op ")"],
      .is [the nameOrDotted, .op "(", the positionalPatterns, .op ",", the namedPatterns,
        .maybe (.op ","), .op ")"],
      .is [the faultyClassPattern]]
  | positionalPatterns => .plain [.is [.listed "," (the casePattern)]]
  | namedPatterns => .plain [.is [.listed "," (the namedPattern)]]
  | namedPattern => .plain [.is [.name, .op "=", the casePattern]]
  | faultyMatch => .mistake [
      .wrongHere [.softWord "match", the subject, .lineEnd],
      .wrongHere [.softWord "match", the subject, .op ":", .lineEnd, .except .indent]]
  | faultyCase => .mistake [
      .wrongHere [.softWord "case", the casePatterns, .maybe (the guard), .lineEnd],
      .wrongHere [.softWord "case", the casePatterns, .maybe (the guard), .op ":", .lineEnd,
        .except .indent]]
  | faultyBound => .mistake [
      .wrong 2 [the anyPattern, .word "as", .softWord "_"],
      .wrong 3 [the anyPattern, .word "as", .except .name, the expression]]
  | faultyClassPattern => .mistake [
      .wrong 2 [the nameOrDotted, .op "(", the faultyClassArguments]]
  | faultyClassArguments => .mistake [
      .inner 3 [.maybe (.row [the positionalPatterns, .op ","]), the namedPatterns, .op ",",
        the positionalPatterns]]
  | _ => .plain []

end Phrase

end Stencil.Script.Grammar
