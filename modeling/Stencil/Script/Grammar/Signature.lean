import Stencil.Script.Grammar.Pattern

/-!
# The grammar of parameters

The parameters of a function, in the head of its definition or of an expression that is one: first
those reached by position, then those after a star, which are reached by name.

## Main definitions

* `Phrase.signatureRule` — what parameters may look like.
-/

namespace Stencil.Script.Grammar

namespace Signature

/-- What ends parameters. -/
def close : Signature → Text
  | head => ")"
  | anonymous => ":"

end Signature

/-- Parts before a comma, or before the end of parameters. -/
def beforeNext (s : Signature) (parts : List Pattern) : List Alternative :=
  [.is (parts ++ [.op ","]), .is (parts ++ [.ahead (.op s.close)])]

/-- Parameters that are reached by position only, of either kind. -/
def positionalOnly (s : Signature) : Pattern :=
  .oneOf [the (.plainPositional s), the (.defaultPositional s)]

namespace Phrase

/-- What parameters may look like. -/
def signatureRule : Phrase → Rule
  | parameters s => .plain [.is [the (faultyParameters s)], .is [the (parameterList s)]]
  | parameterList s => .plain [
      .is [the (plainPositional s), .many (the (plainParameter s)),
        .many (the (defaultParameter s)), .maybe (the (afterStar s))],
      .is [the (defaultPositional s), .many (the (defaultParameter s)), .maybe (the (afterStar s))],
      .is [.some (the (plainParameter s)), .many (the (defaultParameter s)),
        .maybe (the (afterStar s))],
      .is [.some (the (defaultParameter s)), .maybe (the (afterStar s))],
      .is [the (afterStar s)]]
  | plainPositional s => .plain (beforeNext s [.some (the (plainParameter s)), .op "/"])
  | defaultPositional s => .plain (beforeNext s
      [.many (the (plainParameter s)), .some (the (defaultParameter s)), .op "/"])
  | afterStar s => .plain (
      [.is [the (faultyAfterStar s)],
        .is [.op "*", the (plainParameter s), .many (the (parameterOrDefault s)),
          .maybe (the (namedRest s))]] ++
      (match s with
        | .head => [.is [.op "*", the starParameter, .many (the (parameterOrDefault s)),
            .maybe (the (namedRest s))]]
        | .anonymous => []) ++
      [.is [.op "*", .op ",", .some (the (parameterOrDefault s)), .maybe (the (namedRest s))],
        .is [the (namedRest s)]])
  | namedRest s => .plain [.is [the (faultyNamedRest s)], .is [.op "**", the (plainParameter s)]]
  | plainParameter s => .plain (beforeNext s [the (parameter s)])
  | starParameter => .plain (beforeNext .head [.name, .op ":", the starExpression])
  | defaultParameter s => .plain (beforeNext s [the (parameter s), the default])
  | parameterOrDefault s => .plain (beforeNext s [the (parameter s), .maybe (the default)])
  | parameter s => .plain [.is (match s with
      | .head => [.name, .maybe (the annotation)]
      | .anonymous => [.name])]
  | annotation => .plain [.is [.op ":", the expression]]
  | default => .plain [.is [.op "=", the expression], .is [the faultyDefault]]
  | faultyDefault => .mistake [.wrong 0 [.op "=", .ahead (.oneOf [.op ")", .op ","])]]
  | faultyParameters s => .mistake [
      .wrong 2 [.many (the (plainParameter s)), the (faultyParametersBefore s),
        the (plainParameter s)],
      .wrong 1 [.many (the (plainParameter s)), .op "(",
        match s with
        | .head => .some (the (plainParameter s))
        | .anonymous => .listed "," (the (parameter s)),
        .maybe (.op ","), .op ")"],
      .wrong 0 [.op "/", .op ","],
      .wrong 2 [positionalOnly s, .many (the (parameterOrDefault s)), .op "/"],
      .wrong 5 [.maybe (positionalOnly s), .many (the (parameterOrDefault s)), .op "*",
        .oneOf [.op ",", the (plainParameter s)], .many (the (parameterOrDefault s)), .op "/"],
      .wrong 2 [.some (the (parameterOrDefault s)), .op "/", .op "*"]]
  | faultyParametersBefore s => .mistake [
      .is [the (defaultPositional s)], .is [.some (the (defaultParameter s))]]
  | faultyAfterStar s => .mistake [
      (match s with
        | .head => Alternative.wrong 0
        | .anonymous => Alternative.wrongHere)
        [.op "*", .oneOf [.op s.close, .row [.op ",", .oneOf [.op s.close, .op "**"]]]],
      .wrong 2 [.op "*", the (parameter s), .op "="],
      .wrong 3 [.op "*", .oneOf [the (plainParameter s), .op ","],
        .many (the (parameterOrDefault s)), .op "*", .oneOf [the (plainParameter s), .op ","]]]
  | faultyNamedRest s => .mistake [
      .wrong 2 [.op "**", the (parameter s), .op "="],
      .wrong 3 [.op "**", the (parameter s), .op ",", the (parameter s)],
      .wrong 3 [.op "**", the (parameter s), .op ",", .oneOf [.op "*", .op "**", .op "/"]]]
  | _ => .plain []

end Phrase

end Stencil.Script.Grammar
