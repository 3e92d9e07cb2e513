import Stencil.Eval.Operator

/-!
# Contexts

A context maps names to what a template is given. It has to grant `write`. What it lacks of
`require` and `include` is supplied when the template is run: in place where the name is there
without a value, at the end where it is not there at all.

## Main definitions

* `Entries.merge` — a context with another one laid over it.
* `Context.check` — a value as a context.
* `Context.missing`, `Context.bind` — what a context lacks, and the context with it supplied.
* `Context.inherit` — the context of an inclusion.
-/

namespace Stencil

namespace Value

/-- A value can be called. -/
def isCallable : Value → Bool
  | .function _ | .native _ | .method .. | .unbound .. | .exceptionClass _ | .capability _ => true
  | _ => false

/-- A value stands for no value. -/
def isNone : Value → Bool
  | .none => true
  | _ => false

end Value

namespace Entries

/-- Entries with others laid over them, in new entries: the others' values win. -/
def merge (below above : Entries) : Entries := below.update above

/-- A name is not there, or has no value. -/
def lacks (es : Entries) (id : Text) : Bool := (es.getText? id).all Value.isNone

end Entries

namespace Context

/-- Says that a value is no context. -/
def refuse {α : Type} : Proc α :=
  Proc.error .contextError "context must be a mapping including a 'write' function."

/-- Entries grant what every context has to grant. -/
def grantsWrite (es : Entries) : Bool := (es.getText? "write").any Value.isCallable

/-- A value as a context: a dictionary that grants `write`. -/
def check (v : Value) : Proc Ref := do
  match v with
  | .dict r => if grantsWrite ((← Proc.heap).dict r) then return r else refuse
  | _ => refuse

/-- The context with what it lacks: a way to load modules first, then one to include templates. -/
def bind (es : Entries) (require include_ : Option Value) : Entries :=
  let es := match require with
    | some v => es.insert (.str "require") v
    | none => es
  match include_ with
  | some v => es.insert (.str "include") v
  | none => es

/-- The entries that a template in a directory is run with; `factory` makes what includes other
templates, and is asked only if the context lacks it. -/
def build (context : Value) (directory : Path) (factory : Path → Ref → Proc Value) :
    Proc Entries := do
  let r ← check context
  let es := (← Proc.heap).dict r
  let require : Option Value ←
    if es.lacks "require" then do
      Proc.log (.injected "require" directory)
      pure (some (.capability (.requirement directory)))
    else pure none
  let include_ : Option Value ←
    if es.lacks "include" then do
      Proc.log (.injected "include" directory)
      some <$> factory directory r
    else pure none
  return bind es require include_

/-- The context of an inclusion: a copy of the context around, with another laid over it. -/
def inherit (context : Ref) (override : Value) : Proc Value := do
  let h ← Proc.heap
  match override with
  | .none => Eval.newDict (h.dict context)
  | .dict r => Eval.newDict ((h.dict context).merge (h.dict r))
  | v =>
    Proc.error .contextError ("include context must be a mapping, got " ++ v.typeName h)

end Context

end Stencil
