import Stencil.Command.Arguments
import Stencil.Context.File
import Stencil.Run.Launch

/-!
# The command

The command runs a template with a context out of a file and writes what the template writes to an
output file, but only once the template has ended well.

## Main definitions

* `Command.Ending` — how the command ends.
* `Command.perform` — a template is run and its output is written.
* `Command.execute` — the command with a list of arguments.
-/

namespace Stencil.Command

/-- How much is logged. -/
inductive Level where
  | debug
  | info
  | warning
  /-- The command has not got as far as to log anything. -/
  | critical
  deriving DecidableEq, Repr, Inhabited

namespace Level

/-- The name of a level. -/
def text : Level → Text
  | debug => "DEBUG"
  | info => "INFO"
  | warning => "WARNING"
  | critical => "CRITICAL"

/-- The level of a command. -/
def of (debug verbose : Bool) : Level :=
  if debug then .debug else if verbose then .info else .warning

/-- What is said about the progress of a command is logged. -/
def showsProgress : Level → Bool
  | debug | info => true
  | warning | critical => false

end Level

/-- Why the command fails. -/
inductive Complaint where
  /-- The context file grants what the command itself grants. -/
  | writeDefined
  | raised (exception : Ref)
  deriving DecidableEq, Repr, Inhabited

namespace Complaint

/-- A complaint in words; the errors of this library go without their class. -/
def message (h : Heap) : Complaint → Text
  | writeDefined => "context file must not define 'write'"
  | raised r =>
    match h.thrown? r with
    | none => []
    | some e =>
      if e.type.isA .libraryError then e.message h
      else Text.ofString e.type.text ++ ": " ++ e.message h

end Complaint

/-- How the command ends. -/
structure Ending where
  /-- What it gives as its status; a script may end the program with any value. -/
  status : Value
  level : Level
  output : Text
  complaint : Option Complaint
  deriving Inhabited

/-- The name of the command and its version. -/
def title : Text := "blank 0.1.0\n"

/-- What is said about the arguments of the command. -/
def usage : Text :=
  "Usage: blank [-c FILE] [--start-delim TEXT] [--end-delim TEXT] [-v] TEMPLATE OUTPUT\n"

/-- The name of the capability to write in what is said about faulty calls. -/
def writerTitle : Text := "cli.<locals>.write"

/-- The channel of the command. -/
def channel : Nat := 0

/-- What has been written on the command's channel since so many events. -/
def written (since : Nat) (m : Machine) : Text :=
  (m.events.toList.drop since).flatMap fun
    | .wrote c t => if c = channel then t else []
    | .called .. => []

/-- The path so many levels above another one. -/
def above (p : Path) : Nat → Path
  | 0 => p
  | n + 1 => above p.parent n

/-- Text is written to a file, for which directories are made; a text that has no octets leaves the
file empty. -/
def save (output : Path) (t : Text) : Proc Unit := do
  let place := (← Proc.machine).directory.join output
  match ← Proc.ask (.makeDirectories place.parent) with
  | .error (e, n) => Proc.error e.type (e.message (above output.parent n).text)
  | .ok () =>
    match ← Proc.ask (.write place (Text.encode? t)) with
    | .error e => Proc.error e.type (e.message output.text)
    | .ok () =>
      match t.unencodable? with
      | some message => Proc.error .unicodeEncodeError message
      | none => return ()

/-- A template is run and its output is written, unless the context file forbids it. -/
def perform (I : Interp) (j : Job) : Proc (Option Complaint) := do
  let extra : Entries ← match j.context with
    | none => pure []
    | some path => do
      match ← Context.ofFile path with
      | .dict r => pure ((← Proc.heap).dict r)
      | _ => pure []
  if (extra.getText? "write").isSome then return some .writeDefined
  else
    let options ← Options.orRefuse (Options.ofTexts j.start j.stop)
    Proc.log (.running j.template)
    let granted : Entries := [(.str "write", .capability (.write channel writerTitle))]
    let context ← Eval.newDict (granted.merge extra)
    let since := (← Proc.machine).events.size
    Run.blocking I j.template.text context (.options options)
    Proc.log (.writing j.output)
    save j.output (written since (← Proc.machine))
    Proc.log .finished
    return none

/-- The status that an exception asks for which ends the program. -/
def exitStatus (h : Heap) (r : Ref) : Value :=
  match ((h.thrown? r).bind fun e => e.attribute? "code").getD .none with
  | .none => .int 0
  | v => v

/-- A status is a given number. -/
def hasStatus (h : Heap) (v : Value) (n : Int) : Bool :=
  (v.same? h (.int n)).getD false

/-- The status of a program that is interrupted. -/
def interruptedStatus : Value := .int 130

/-- The command with a list of arguments. Exceptions that neither are errors nor end a program are
raised. -/
def execute (I : Interp) (debug : Bool) (arguments : List Text) : Proc Ending := do
  match Order.ofArguments? arguments with
  | none => return ⟨.int 2, .critical, [], none⟩
  | some .version => return ⟨.int 0, .critical, title, none⟩
  | some .help => return ⟨.int 0, .critical, usage, none⟩
  | some (.job j) =>
    let level := Level.of debug j.verbose
    match ← (perform I j).attempt with
    | .ok none => return ⟨.int 0, level, [], none⟩
    | .ok (some complaint) => return ⟨.int 1, level, [], some complaint⟩
    | .error r =>
      if ← Run.isA r .exception then return ⟨.int 1, level, [], some (.raised r)⟩
      else if ← Run.isA r .systemExit then
        return ⟨exitStatus (← Proc.heap) r, level, [], none⟩
      else if ← Run.isA r .keyboardInterrupt then
        return ⟨interruptedStatus, level, [], none⟩
      else Proc.throw r

end Stencil.Command
