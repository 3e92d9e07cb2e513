import Stencil.Eval.Operator

/-!
# Data and values

Data come from a host and are put on the heap of a machine as values; what a run yields is given
back as data.

## Main definitions

* `Datum.load` — a datum as a value.
* `Eval.datum` — a value as a datum.
-/

namespace Stencil

namespace Datum

mutual

/-- A datum as a value, where `granted` says what the capabilities in it are. -/
def load (granted : Text → Value) : Datum → Proc Value
  | .none => return .none
  | .bool b => return .bool b
  | .int i => return .int i
  | .float x => (Numeral.float x).value
  | .str t => return .str t
  | .list items => do Eval.newList (← loadAll granted items)
  | .tuple items => do Eval.newTuple (← loadAll granted items)
  | .dict entries => do Eval.newDict (Entries.ofPairs (← loadEntries granted entries))
  | .granted id => return granted id
  | .other type => return .foreign type [] []

/-- Data as values. -/
def loadAll (granted : Text → Value) : List Datum → Proc (List Value)
  | [] => return []
  | d :: ds => do
    let v ← d.load granted
    return v :: (← loadAll granted ds)

/-- Pairs of data as entries, whose keys have to be such. -/
def loadEntries (granted : Text → Value) : List (Datum × Datum) → Proc Entries
  | [] => return []
  | (key, value) :: rest => do
    let k ← key.load granted
    let v ← value.load granted
    Eval.checkKey k
    return (k, v) :: (← loadEntries granted rest)

end

end Datum

namespace Capability

/-- The capability that data name: `write` writes, any other notes its arguments. -/
def named (channel : Nat) (mode : Mode) (id : Text) : Value :=
  if id = "write" then .capability (.write channel id)
  else .capability (.record channel id (if id = "include" then mode else .blocking))

end Capability

namespace Eval

/-- A value as a datum. -/
def datum (v : Value) : Proc Datum := return v.datum (← Proc.heap)

end Eval

end Stencil
