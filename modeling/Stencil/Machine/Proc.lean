import Stencil.Machine.Request
import Stencil.Value.Print

/-!
# Processes

A run is a process over a machine: the heap, the modules that are loaded, what has been written and
what has been logged. It ends with a value or an exception, and on its way it asks requests; while
it waits for an answer the machine is free for other runs.

## Main definitions

* `Machine`, `Event`, `LogEntry` — the machine and what it records.
* `Step` — a process that has the machine: it is done, or it asks.
* `Proc` — a process that is given the machine.
* `Step.finish` — a process with a world that answers its requests.
-/

namespace Stencil

/-- What a host sees of a run. -/
inductive Event where
  /-- A text on an output channel. -/
  | wrote (channel : Nat) (t : Text)
  /-- A call of a capability that notes its arguments. -/
  | called (channel : Nat) (id : Text) (args : List Datum)
  deriving Inhabited

namespace RunState

/-- The name of a state. -/
def text : RunState → Text
  | unstarted => "unstarted"
  | reading => "reading"
  | transpiling => "transpiling"
  | contextBuilding => "context_building"
  | executing => "executing"
  | completed => "completed"
  | failed => "failed"

end RunState

/-- What is logged. -/
inductive LogEntry where
  /-- A run passes from one state to another. -/
  | advanced (run : Ref) (path : Path) (before after : RunState)
  | compiled (path : Text) (parts : Nat) (mode : Mode)
  | injected (capability : Text) (directory : Path)
  | including (target : Path) (mode : Mode)
  | ended (path reason : Text)
  /-- A command begins to run a template, and to write its output, and is done. -/
  | running (template : Path)
  | writing (output : Path)
  | finished
  deriving DecidableEq, Repr, Inhabited

namespace LogEntry

/-- A log entry in words. -/
def message : LogEntry → Text
  | advanced _ path before after =>
    path.text ++ ": " ++ before.text ++ " -> " ++ after.text
  | compiled path parts mode =>
    "Transpiled " ++ path ++ " (" ++ Text.ofNat parts ++ " segments, suspending=" ++
      (if mode = .suspending then ("True" : Text) else "False") ++ ")"
  | injected capability directory => "Injecting " ++ capability ++ " for " ++ directory.text
  | including target mode =>
    "Including " ++ target.text ++ if mode = .suspending then (" (async)" : Text) else []
  | ended path reason => "Async run of " ++ path ++ " failed: " ++ reason
  | running template => "Running template from " ++ Text.marked template.text ++ "..."
  | writing output => "Writing output to " ++ Text.marked output.text ++ "..."
  | finished => "Done."

/-- An entry tells how a command goes on. -/
def isProgress : LogEntry → Bool
  | running _ | writing _ | finished => true
  | _ => false

end LogEntry

/-- The state that runs share. -/
structure Machine where
  heap : Heap
  /-- The modules that are loaded, by the file or the name that they were loaded from. -/
  modules : List (Text × Ref)
  events : Array Event
  log : Array LogEntry
  /-- The directory from which relative paths are seen. -/
  directory : Path
  deriving Inhabited

namespace Machine

/-- A machine on which nothing has run. -/
def fresh (directory : Path) : Machine := ⟨Heap.empty, [], #[], #[], directory⟩

end Machine

/-- How a suspended process goes on. -/
inductive Resumption (α : Type) where
  | answer (a : α)
  | cancel

/-- A process that has the machine. -/
inductive Step (α : Type) where
  | done (a : α) (m : Machine)
  | ask (q : Request) (m : Machine) (next : Resumption q.Reply → Machine → Step α)

/-- How a process ends. -/
inductive Outcome (α : Type) where
  | value (a : α)
  | raised (exception : Ref)
  /-- The steps that it was allowed were not enough. -/
  | exhausted
  deriving DecidableEq, Repr, Inhabited

/-- A process that is given the machine. -/
def Proc (α : Type) := Machine → Step (Outcome α)

namespace Step

variable {α β : Type}

/-- A process followed by another that depends on how it ends. -/
def bind (f : α → Machine → Step β) : Step α → Step β
  | done a m => f a m
  | ask q m next => ask q m fun reply m' => bind f (next reply m')

/-- What a process ends with if a world answers its requests. -/
def finish {σ : Type} (world : (q : Request) → σ → q.Reply × σ) :
    Step α → σ → α × Machine × σ
  | done a m, s => (a, m, s)
  | ask q m next, s => finish world (next (.answer (world q s).1) m) (world q s).2

/-- A process up to the first request at which it suspends. -/
def runToSuspension {σ : Type} (world : (q : Request) → σ → q.Reply × σ) :
    Step α → σ → Step α × σ
  | done a m, s => (done a m, s)
  | ask q m next, s =>
    if q.suspends then (ask q m next, s)
    else runToSuspension world (next (.answer (world q s).1) m) (world q s).2

/-- A process in a world of effects. -/
def perform {n : Type → Type} [Monad n] (world : (q : Request) → n q.Reply) :
    Step α → n (α × Machine)
  | done a m => pure (a, m)
  | ask q m next => do perform world (next (.answer (← world q)) m)

end Step

namespace Proc

variable {α β : Type}

/-- The process that ends with a value at once. -/
def pure (a : α) : Proc α := fun m => .done (.value a) m

/-- A process followed by another if it ends with a value. -/
def bind (p : Proc α) (f : α → Proc β) : Proc β := fun m =>
  Step.bind (fun o m => match o with
    | .value a => f a m
    | .raised r => .done (.raised r) m
    | .exhausted => .done .exhausted m) (p m)

instance : Monad Proc where
  pure := Proc.pure
  bind := Proc.bind

instance : Inhabited (Proc α) := ⟨fun m => .done .exhausted m⟩

/-- The process that has no steps left. -/
def exhausted : Proc α := fun m => .done .exhausted m

/-- The process that ends with an exception. -/
def throw (r : Ref) : Proc α := fun m => .done (.raised r) m

/-- A process whose exception is handled by another. -/
def handle (p : Proc α) (f : Ref → Proc α) : Proc α := fun m =>
  Step.bind (fun o m => match o with
    | .raised r => f r m
    | o => .done o m) (p m)

/-- A process that ends with the exception of another as a value. -/
def attempt (p : Proc α) : Proc (Except Ref α) := fun m =>
  Step.bind (fun o m => match o with
    | .value a => .done (.value (.ok a)) m
    | .raised r => .done (.value (.error r)) m
    | .exhausted => .done .exhausted m) (p m)

/-- A process followed by one that runs however it ends; an exception of the second counts. -/
def andFinally (p : Proc α) (f : Proc Unit) : Proc α := do
  let result ← p.attempt
  f
  match result with
  | .ok a => return a
  | .error r => throw r

/-- Takes steps from one state to the next, as many as `fuel`, until one gives a result. -/
def iterate {σ : Type} (step : σ → Proc (σ ⊕ α)) : (fuel : Nat) → σ → Proc α
  | 0, _ => exhausted
  | fuel + 1, s => do
    match ← step s with
    | .inl s => iterate step fuel s
    | .inr a => return a

/-- The machine. -/
def machine : Proc Machine := fun m => .done (.value m) m

/-- The heap. -/
def heap : Proc Heap := fun m => .done (.value m.heap) m

/-- Changes the machine. -/
def modify (f : Machine → Machine) : Proc Unit := fun m => .done (.value ()) (f m)

/-- Puts a new object on the heap. -/
def alloc (o : Object) : Proc Ref := fun m =>
  let (r, heap) := m.heap.alloc o
  .done (.value r) { m with heap }

/-- Replaces an object on the heap. -/
def put (r : Ref) (o : Object) : Proc Unit := modify fun m => { m with heap := m.heap.set r o }

/-- Gives a list on the heap other items. -/
def setItems (r : Ref) (items : List Value) : Proc Unit :=
  modify fun m => { m with heap := m.heap.setItems r items }

/-- Gives a dictionary on the heap other entries. -/
def setEntries (r : Ref) (entries : Entries) : Proc Unit :=
  modify fun m => { m with heap := m.heap.setEntries r entries }

/-- Asks a request; a process that is cancelled meanwhile ends with an exception. -/
def ask (q : Request) : Proc q.Reply := fun m =>
  .ask q m fun reply m => match reply with
    | .answer a => .done (.value a) m
    | .cancel =>
      let (r, heap) := m.heap.alloc (.exception (.plain .cancelledError []))
      .done (.raised r) { m with heap }

/-- Raises a new exception. -/
def raise (e : Thrown) : Proc α := do throw (← alloc (.exception e))

/-- Raises a new exception of a class with a message. -/
def error (type : ExceptionClass) (message : Text) : Proc α :=
  raise (.plain type [.str message])

/-- A new identity. -/
def mark : Proc Ref := alloc .mark

/-- A text, or an exception for the reason why there is none. -/
def ofWriting (t : Except WritingFault α) : Proc α :=
  match t with
  | .ok a => pure a
  | .error .digits => error .valueError Digits.writingMessage
  | .error .depth =>
    error .recursionError
      "maximum recursion depth exceeded while getting the repr of an object"

/-- The text of a value. -/
def text (v : Value) : Proc Text := do ofWriting (v.text? (← heap))

/-- The quoted form of a value. -/
def quoted (v : Value) : Proc Text := do ofWriting (v.quoted? (← heap))

/-- Records an event. -/
def emit (e : Event) : Proc Unit := modify fun m => { m with events := m.events.push e }

/-- Logs something. -/
def log (e : LogEntry) : Proc Unit := modify fun m => { m with log := m.log.push e }

end Proc

end Stencil
