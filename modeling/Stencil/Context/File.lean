import Stencil.Text.Utf8
import Stencil.Yaml.Load

/-!
# Context files

A context may be kept in a YAML file, whose outermost node is a mapping or nothing.

## Main definitions

* `Context.ofFile` — the context in a file.
-/

namespace Stencil.Context

/-- The text of octets, in which all line ends are line feeds. -/
def textOf (octets : Octets) : Proc Text :=
  match Text.decode? octets with
  | some t => return t.unifyLineEnds
  | none => Proc.error .unicodeDecodeError (Text.undecodable 0 octets.length octets)

/-- The context in a file: a new dictionary. -/
def ofFile (path : Path) : Proc Value := do
  match ← Proc.ask (.read ((← Proc.machine).directory.join path) .blocking) with
  | .error e => Proc.error e.type (e.message path.text)
  | .ok octets =>
    match ← Yaml.load (← textOf octets) with
    | .none => Eval.newDict []
    | .dict r => return .dict r
    | _ => Proc.error .valueError ("Context file must contain a mapping: " ++ path.text)

end Stencil.Context
