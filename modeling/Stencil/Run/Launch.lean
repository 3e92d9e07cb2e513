import Stencil.Options.Basic
import Stencil.Run.Template

/-!
# Launching runs

The ways in which a host runs a template: blocking until it has ended, as a suspending process, and
as one whose end is reported to a callback.

## Main definitions

* `Run.blocking`, `Run.suspending` — a template is run.
* `Run.report` — a template is run to its end, which is reported.
* `Run.scheduled` — the same for a run that others may run beside, and that may be cancelled.
-/

namespace Stencil.Run

/-- A template is run without interruption. -/
def blocking (I : Interp) (path : Text) (context : Value) (options : Options.Given) :
    Proc Unit := do
  let o ← Options.coerce options
  let run ← create (Path.ofText path) o.delimiters
  execute I .none run .blocking context

/-- A template is run as a process that suspends while it reads. -/
def suspending (I : Interp) (path : Text) (context : Value) : Proc Unit := do
  let run ← create (Path.ofText path) Options.standard.delimiters
  execute I .none run .suspending context

/-- What is told the exception with which a run ended, if it did not end well. -/
abbrev Callback := Option Ref → Proc Unit

/-- An exception is of a class. -/
def isA (r : Ref) (c : ExceptionClass) : Proc Bool :=
  return ((← Proc.heap).thrown? r).any fun e => e.type.isA c

/-- The failure of a run is logged. -/
def logFailure (path : Text) (r : Ref) : Proc Unit := do
  let h ← Proc.heap
  Proc.log (.ended path (((h.thrown? r).map fun e => e.message h).getD []))

/-- A template is run to its end, and its end is reported; an exception that is no error is not
reported but raised. -/
def report (I : Interp) (path : Text) (context : Value) (callback : Callback) : Proc Unit := do
  match ← (suspending I path context).attempt with
  | .ok () => callback none
  | .error r =>
    if ← isA r .exception then
      logFailure path r
      callback (some r)
    else Proc.throw r

/-- A process whose exceptions are passed over. -/
def swallow (p : Proc Unit) : Proc Unit := p.handle fun _ => return ()

/-- A run has been cancelled, which is reported with an exception of its own. -/
def reportCancelled (callback : Callback) : Proc Bool := do
  let r ← Proc.alloc (.exception (.plain .cancelledError []))
  swallow (callback (some r))
  return true

/-- A run that others may run beside is started, unless it is cancelled before, and its end is
reported. It yields whether it was cancelled. An exception that ends everything around is raised
once it is reported; exceptions of the callback are passed over. -/
def scheduled (I : Interp) (path : Text) (context : Value) (cancelled : Bool)
    (callback : Callback) : Proc Bool := do
  if cancelled then reportCancelled callback
  else
    match ← (suspending I path context).attempt with
    | .ok () =>
      swallow (callback none)
      return false
    | .error r =>
      if ← isA r .cancelledError then reportCancelled callback
      else
        logFailure path r
        swallow (callback (some r))
        if (← isA r .systemExit) || (← isA r .keyboardInterrupt) then Proc.throw r
        else return false

end Stencil.Run
