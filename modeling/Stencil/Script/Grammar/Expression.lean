import Stencil.Script.Grammar.Pattern

/-!
# The grammar of expressions

Expressions and what they can be assigned to. Among the mistakes are a missing comma, an equals sign
where values are compared, and a loop without parentheses among arguments.

## Main definitions

* `Phrase.operationRule`, `Phrase.displayRule`, `Phrase.argumentRule` — what expressions may look
  like.
* `Phrase.targetRule` — what targets may look like.
-/

namespace Stencil.Script.Grammar

/-- An operator that groups to the left: a phrase before it, and one that binds tighter after it. -/
def leftward (self tighter : Phrase) (operators : List Text) : Rule :=
  .growing (operators.map (fun o => .is [the self, .op o, the tighter]) ++ [.is [the tighter]])

/-- Operands with the same word between them. -/
def chain (operand : Phrase) (joint : Text) : Rule :=
  .kept [.is [the operand, .some (.row [.word joint, the operand])], .is [the operand]]

/-- An expression before which nothing is named, or one that names its value. -/
def namingOr : Pattern :=
  .oneOf [the .namingExpression, .row [the .expression, .except (.op ":=")]]

/-- Items with commas between them: at least two, or one with a comma after it. -/
def tupleOf (item : Phrase) : List Alternative :=
  [.elements .tuple [the item, .some (.row [.op ",", the item]), .maybe (.op ",")],
    .elements .tuple [the item, .op ","], .is [the item]]

/-- A word that begins an old statement that has become a function. -/
def isOldStatement (t : Tree) : Bool :=
  match t with
  | .leaf t => t.isWord "print" || t.isWord "exec"
  | _ => false

/-- Brackets in which a loop may stand. -/
def opening (brackets : List Text) : Pattern := .oneOf (brackets.map .op)

/-- The arguments of a call that are given by position, in the arguments found first and those found
after them. -/
def positional (m : Match) : Verdict :=
  let byPosition (t : Tree) : Bool := match t with
    | .node .starred _ _ => true
    | _ => false
  let later := (m.parts.drop 1).flatMap Tree.elements
  m.shaped .arguments ((m.part 0).elements ++ later.filter byPosition)

/-- A loop that is the last of several arguments needs parentheses. -/
def bareLoop (m : Match) : Verdict :=
  match m.part 0 with
  | .node .arguments _ (_ :: args) =>
    match args.getLast? with
    | some t => .mistake t.row
    | none => .nothing
  | _ => .nothing

namespace Phrase

/-- What expressions with operators may look like. -/
def operationRule : Phrase → Rule
  | expressions => .plain (tupleOf expression)
  | expression => .kept [
      .is [the faultyExpression],
      .is [the faultyOldStatement],
      .is [the disjunction, .word "if", the disjunction, .word "else", the expression],
      .is [the disjunction],
      .is [the anonymousFunction]]
  | quietExpression => ⟨.free, false, true, [
      .is [the disjunction, .word "if", the disjunction, .word "else", the expression],
      .is [the disjunction],
      .is [the anonymousFunction]]⟩
  | yieldExpression => .plain [
      .is [.word "yield", .word "from", the expression],
      .is [.word "yield", .maybe (the starExpressions)]]
  | starExpressions => .plain (tupleOf starExpression)
  | starExpression => .kept [.around .starred 1 [.op "*", the unions], .is [the expression]]
  | starNamedExpressions => .plain [.is [.row [.listed "," (the starNamedExpression),
      .maybe (.op ",")]]]
  | starNamedExpression => .plain [
      .around .starred 1 [.op "*", the unions], .is [the namedExpression]]
  | namingExpression => .plain [.is [.name, .op ":=", .commit, the expression]]
  | namedExpression => .plain [
      .is [the namingExpression],
      .is [the faultyNamed],
      .inner 0 [the expression, .except (.op ":=")]]
  | disjunction => chain conjunction "or"
  | conjunction => chain inversion "and"
  | inversion => .kept [.is [.word "not", the inversion], .is [the comparison]]
  | comparison => .plain [
      ⟨[the unions, .some (the comparisonPair)], fun m =>
        match (m.part 1).elements with
        | .node .membership _ _ :: _ => m.shaped .membership [m.part 0]
        | _ => m.shaped .other []⟩,
      .is [the unions]]
  | comparisonPair => .plain (
      ["==", "!=", "<=", "<", ">=", ">"].map (fun s => .is [.op (Text.ofString s), the unions]) ++
      [.is [.word "not", .word "in", the unions],
        .elements .membership [.word "in", the unions],
        .is [.word "is", .word "not", the unions],
        .is [.word "is", the unions]])
  | unions => leftward unions exclusions ["|"]
  | exclusions => leftward exclusions intersections ["^"]
  | intersections => leftward intersections shifts ["&"]
  | shifts => leftward shifts sum ["<<", ">>"]
  | sum => leftward sum term ["+", "-"]
  | term => leftward term factor ["*", "/", "//", "%", "@"]
  | factor => .kept [
      .is [.op "+", the factor], .is [.op "-", the factor], .is [.op "~", the factor],
      .is [the power]]
  | power => .plain [.is [the awaited, .op "**", the factor], .is [the awaited]]
  | awaited => .kept [.is [.word "await", the primary], .is [the primary]]
  | faultyExpression => .mistake [
      ⟨[.except (.oneOf [.row [.name, .text], .anySoftWord]), the disjunction,
          the quietExpression], fun m =>
        if isOldStatement (m.part 1) ∨ m.last.depth = 0 then .nothing
        else .mistake (m.part 1).row⟩,
      .wrong 0 [the disjunction, .word "if", the disjunction,
        .except (.oneOf [.word "else", .op ":"])]]
  | faultyOldStatement => .mistake [
      ⟨[.name, .except (.op "("), the starExpressions], fun m =>
        if isOldStatement (m.part 0) then .mistake m.row else .nothing⟩]
  | faultyNamed => ⟨.kept, true, false, [
      .wrong 0 [the expression, .op ":=", the expression],
      .wrong 0 [.name, .op "=", the unions, .except (.oneOf [.op "=", .op ":="])],
      .wrong 1 [.except (.oneOf [the list, the tuple, the generator, .word "True", .word "None",
          .word "False"]),
        the unions, .op "=", the unions, .except (.oneOf [.op "=", .op ":="])]]⟩
  | _ => .plain []

/-- What expressions with trailers and in brackets may look like. -/
def displayRule : Phrase → Rule
  | primary => .growing [
      .elements .place [the primary, .op ".", .name],
      .is [the primary, the generator],
      .is [the primary, .op "(", .maybe (the arguments), .op ")"],
      .elements .place [the primary, .op "[", the slices, .op "]"],
      .is [the atom]]
  | slices => .plain [
      .inner 0 [the slice, .except (.op ",")],
      .is [.listed "," (.oneOf [the slice, the unpacked]), .maybe (.op ",")]]
  | slice => .plain [
      .is [.maybe (the expression), .op ":", .maybe (the expression),
        .maybe (.row [.op ":", .maybe (the expression)])],
      .is [the namedExpression]]
  | atom => .plain [
      .is [.name],
      .is [.word "True"],
      .is [.word "False"],
      .is [.word "None"],
      .is [.ahead .text, the strings],
      .is [.number],
      .inner 1 [.ahead (.op "("), .oneOf [the tuple, the group, the generator]],
      .inner 1 [.ahead (.op "["), .oneOf [the list, the listComprehension]],
      .inner 1 [.ahead (.op "\x7b"),
        .oneOf [the dictionary, the set, the dictionaryComprehension, the setComprehension]],
      .is [.op "..."]]
  | group => .plain [
      .inner 1 [.op "(", .oneOf [the yieldExpression, the namedExpression], .op ")"],
      .is [the faultyGroup]]
  | faultyGroup => .mistake [
      .wrong 1 [.op "(", the unpacked, .op ")"],
      .wrong 1 [.op "(", .op "**", the expression, .op ")"]]
  | anonymousFunction => .plain [
      .is [.word "lambda", .maybe (the (parameters .anonymous)), .op ":", the expression]]
  | strings => .kept [.is [.texts]]
  | list => .plain [.elements .list [.op "[", .maybe (the starNamedExpressions), .op "]"]]
  | tuple => .plain [
      .elements .tuple [.op "(", .maybe (.row [the starNamedExpression, .op ",",
        .maybe (the starNamedExpressions)]), .op ")"]]
  | set => .plain [.is [.op "\x7b", the starNamedExpressions, .op "\x7d"]]
  | dictionary => .plain [
      .is [.op "\x7b", .maybe (the entries), .op "\x7d"],
      .is [.op "\x7b", the faultyEntries, .op "\x7d"]]
  | entries => .plain [.is [.listed "," (the entry), .maybe (.op ",")]]
  | entry => .plain [.is [.op "**", the unions], .is [the pair]]
  | pair => .plain [.is [the expression, .op ":", the expression]]
  | clauses => .plain [.is [.some (the clause)]]
  | clause => .plain [
      .is [.word "async", .word "for", the starTargets, .word "in", .commit, the disjunction,
        .many (.row [.word "if", the disjunction])],
      .is [.word "for", the starTargets, .word "in", .commit, the disjunction,
        .many (.row [.word "if", the disjunction])],
      .is [the faultyForTarget]]
  | listComprehension => .plain [
      .is [.op "[", the namedExpression, the clauses, .op "]"],
      .is [the faultyComprehension]]
  | setComprehension => .plain [
      .is [.op "\x7b", the namedExpression, the clauses, .op "\x7d"],
      .is [the faultyComprehension]]
  | generator => .plain [
      .is [.op "(", namingOr, the clauses, .op ")"],
      .is [the faultyComprehension]]
  | dictionaryComprehension => .plain [
      .is [.op "\x7b", the pair, the clauses, .op "\x7d"],
      .is [the faultyDictionaryComprehension]]
  | faultyComprehension => .mistake [
      .wrong 1 [opening ["[", "(", "\x7b"], the unpacked, the clauses],
      .wrong 1 [opening ["[", "\x7b"], the starNamedExpression, .op ",", the starNamedExpressions,
        the clauses],
      .wrong 1 [opening ["[", "\x7b"], the starNamedExpression, .op ",", the clauses]]
  | faultyDictionaryComprehension => .mistake [
      .wrong 1 [.op "\x7b", .op "**", the unions, the clauses, .op "\x7d"]]
  | faultyEntries => .mistake [
      .is [.listed "," (the entry), .op ",", the faultyPair],
      .wrong 2 [the expression, .op ":", .op "*", the unions],
      .wrong 1 [the expression, .op ":", .ahead (.oneOf [.op "\x7d", .op ","])]]
  | faultyPair => .mistake [
      .wrong 0 [the expression, .except (.op ":")],
      .wrong 2 [the expression, .op ":", .op "*", the unions],
      .wrong 1 [the expression, .op ":", .ahead (.oneOf [.op "\x7d", .op ","])]]
  | _ => .plain []

/-- What the arguments of calls may look like. -/
def argumentRule : Phrase → Rule
  | arguments => .kept [
      .is [the argumentList, .maybe (.op ","), .ahead (.op ")")],
      .is [the faultyArguments]]
  | argumentList => .plain [
      ⟨[.listed "," (.oneOf [the unpacked, .row [namingOr, .except (.op "=")]]),
        .maybe (.row [.op ",", the namedArguments])], fun m => positional m⟩,
      ⟨[the namedArguments], fun m => positional { m with parts := .nothing :: m.parts }⟩]
  | namedArguments => .plain [
      .elements .several [.listed "," (the namedOrUnpacked), .op ",",
        .listed "," (the namedOrDoubleUnpacked)],
      .elements .several [.listed "," (the namedOrUnpacked)],
      .elements .several [.listed "," (the namedOrDoubleUnpacked)]]
  | unpacked => .plain [.around .starred 1 [.op "*", the expression]]
  | namedOrUnpacked => .plain [
      .is [the faultyNamedArgument],
      .is [.name, .op "=", the expression],
      .is [the unpacked]]
  | namedOrDoubleUnpacked => .plain [
      .is [the faultyNamedArgument],
      .is [.name, .op "=", the expression],
      .is [.op "**", the expression]]
  | faultyNamedArgument => .mistake [
      .wrong 0 [.oneOf [.word "True", .word "False", .word "None"], .op "="],
      .wrong 0 [.name, .op "=", the expression, the clauses],
      .wrong 1 [.except (.row [.name, .op "="]), the expression, .op "="]]
  | faultyArguments => .mistake [
      .wrong 0 [the argumentList, .op ",", .op "*"],
      .wrong 0 [the expression, the clauses, .op ",",
        .maybe (.oneOf [the argumentList, .row [the expression, the clauses]])],
      .wrong 0 [.name, .op "=", the expression, the clauses],
      ⟨[the argumentList, the clauses], bareLoop⟩,
      .wrong 2 [the argumentList, .op ",", the expression, the clauses],
      .wrongHere [the argumentList, .op ",", the argumentList]]
  | _ => .plain []

/-- What can be assigned to and deleted. -/
def targetRule : Phrase → Rule
  | starTargets => .plain [
      .inner 0 [the starTarget, .except (.op ",")],
      .is [the starTarget, .many (.row [.op ",", the starTarget]), .maybe (.op ",")]]
  | starTargetList => .plain [.is [.listed "," (the starTarget), .maybe (.op ",")]]
  | starTargetTuple => .plain [
      .is [the starTarget, .some (.row [.op ",", the starTarget]), .maybe (.op ",")],
      .is [the starTarget, .op ","]]
  | starTarget => .kept [
      .is [.op "*", .row [.except (.op "*"), the starTarget]],
      .is [the starAtomTarget]]
  | starAtomTarget => .kept [
      .is [the targetBase, .op ".", .name, .except (the targetAhead)],
      .is [the targetBase, .op "[", the slices, .op "]", .except (the targetAhead)],
      .is [the starAtom]]
  | starAtom => .plain [
      .is [.name],
      .is [.op "(", the starAtomTarget, .op ")"],
      .is [.op "(", .maybe (the starTargetTuple), .op ")"],
      .is [.op "[", .maybe (the starTargetList), .op "]"]]
  | singleTarget => .plain [
      .is [the placeTarget], .is [.name], .is [.op "(", the singleTarget, .op ")"]]
  | placeTarget => .plain [
      .is [the targetBase, .op ".", .name, .except (the targetAhead)],
      .is [the targetBase, .op "[", the slices, .op "]", .except (the targetAhead)]]
  | targetBase => .growing [
      .is [the targetBase, .op ".", .name, .ahead (the targetAhead)],
      .is [the targetBase, .op "[", the slices, .op "]", .ahead (the targetAhead)],
      .is [the targetBase, the generator, .ahead (the targetAhead)],
      .is [the targetBase, .op "(", .maybe (the arguments), .op ")", .ahead (the targetAhead)],
      .is [the atom, .ahead (the targetAhead)]]
  | targetAhead => .plain [.is [.op "("], .is [.op "["], .is [.op "."]]
  | deleteTargets => .plain [.is [.listed "," (the deleteTarget), .maybe (.op ",")]]
  | deleteTarget => .kept [
      .is [the targetBase, .op ".", .name, .except (the targetAhead)],
      .is [the targetBase, .op "[", the slices, .op "]", .except (the targetAhead)],
      .is [the deleteAtom]]
  | deleteAtom => .plain [
      .is [.name],
      .is [.op "(", the deleteTarget, .op ")"],
      .is [.op "(", .maybe (the deleteTargets), .op ")"],
      .is [.op "[", .maybe (the deleteTargets), .op "]"]]
  | _ => .plain []

end Phrase

end Stencil.Script.Grammar
