import Stencil.Eval.Frame
import Stencil.Eval.Operator

/-!
# Arguments

How the arguments of a call reach the parameters of a function: by position as far as there are
parameters, then by name, and from defaults for what is still missing.

## Main definitions

* `Arguments.bind` — the names of the parameters with what they stand for.
-/

namespace Stencil.Arguments

open Script

/-- The names of parameters. -/
def ids (params : List Param) : List Text := params.map (·.id)

/-- Names in quotes, with `and` before the last. -/
def listed : List Text → Text
  | [] => []
  | [a] => Text.marked a
  | [a, b] => Text.marked a ++ " and " ++ Text.marked b
  | a :: b :: c :: rest =>
    let names := (a :: b :: c :: rest).map Text.marked
    Text.join ", " names.dropLast ++ ", and " ++ names.getLastD []

/-- An ending for any number but one. -/
def plural (n : Int) : Text := if n = 1 then [] else "s"

/-- Says that a function `title` was not given some arguments. -/
def missing {α : Type} (title kind : Text) (names : List Text) : Proc α :=
  Proc.error .typeError (title ++ "() missing " ++ Text.ofNat names.length ++ " required " ++
    kind ++ " argument" ++ plural names.length ++ ": " ++ listed names)

/-- Says that a function `title` was given too many arguments by position. -/
def tooMany {α : Type} (title : Text) (capacity optional given named : Nat) : Proc α :=
  let range : Text :=
    if optional = 0 then Text.ofNat capacity
    else "from " ++ Text.ofNat (capacity - optional) ++ " to " ++ Text.ofNat capacity
  let takes := range ++ " positional argument" ++
    (if optional = 0 then plural capacity else ("s" : Text))
  let namedText : Text :=
    if named = 0 then []
    else " positional argument" ++ plural given ++ " (and " ++ Text.ofNat named ++
      " keyword-only argument" ++ plural named ++ ")"
  Proc.error .typeError (title ++ "() takes " ++ takes ++ " but " ++ Text.ofNat given ++
    namedText ++ (if given = 1 ∧ named = 0 then " was given" else " were given"))

/-- Arguments by name join those that are bound already; what no parameter is named for is
collected, if the function takes it. -/
def bindNamed (title : Text) (p : Params) (all : Names) :
    Names → (bound extra : Names) → Proc (Names × Names)
  | [], bound, extra => return (bound, extra)
  | (id, v) :: rest, bound, extra =>
    if id ∈ ids p.plain ++ ids p.named then
      if (bound.get? id).isSome then
        Proc.error .typeError (title ++ "() got multiple values for argument " ++ Text.marked id)
      else bindNamed title p all rest (bound.set id v) extra
    else if p.namedRest.isSome then bindNamed title p all rest bound (extra ++ [(id, v)])
    else if id ∈ ids p.positional then
      let passed := (ids p.positional).filter fun id => (all.get? id).isSome
      Proc.error .typeError (title ++
        "() got some positional-only arguments passed as keyword arguments: " ++
        Text.marked (Text.join ", " passed))
    else
      Proc.error .typeError (title ++ "() got an unexpected keyword argument " ++ Text.marked id)

/-- What the parameters without a value stand for by default, and those that have no default. -/
def supply (defaults bound : Names) : List Param → Names × List Text
  | [] => (bound, [])
  | q :: rest =>
    if (bound.get? q.id).isSome then supply defaults bound rest
    else
      match defaults.get? q.id with
      | some v => supply defaults (bound.set q.id v) rest
      | none => ((supply defaults bound rest).1, q.id :: (supply defaults bound rest).2)

/-- The names of the parameters of a function `title` with what they stand for in a call. -/
def bind (title : Text) (p : Params) (defaults : Names) (args : List Value) (named : Names) :
    Proc Names := do
  let positional := p.positional ++ p.plain
  let (bound, extra) ← bindNamed title p named named ((ids positional).zip args) []
  if positional.length < args.length ∧ p.rest.isNone then
    let optional := (positional.filter fun q => (defaults.get? q.id).isSome).length
    let byName := (p.named.filter fun q => (bound.get? q.id).isSome).length
    tooMany title positional.length optional args.length byName
  else
    let (bound, lacking) := supply defaults bound positional
    if !lacking.isEmpty then missing title "positional" lacking
    else
      let (bound, lacking) := supply defaults bound p.named
      if !lacking.isEmpty then missing title "keyword-only" lacking
      else
        let bound := match p.rest with
          | some q => bound.set q.id (.tuple none (args.drop positional.length))
          | none => bound
        match p.namedRest with
        | some q => do
          let rest ← Eval.newDict (extra.map fun (id, v) => (.str id, v))
          return bound.set q.id rest
        | none => return bound

/-- A parameter with a name. -/
def param (id : Text) : Param := ⟨default, id, none, none⟩

/-- Parameters with these names. -/
def plain (names : List Text) : Params := ⟨[], names.map param, none, [], none⟩

/-- Parameters that take any arguments by position. -/
def any : Params := ⟨[], [], some (param "args"), [], none⟩

end Stencil.Arguments
