import Stencil.Context.Basic
import Stencil.Procedure.Basic
import Stencil.Run.Module
import Stencil.Template.Compile

/-!
# Running templates

A run reads a template file, compiles it, supplies what its context lacks, constructs the procedure
and calls it, in this order and each only if the one before went well. Templates that it includes
are runs of their own with contexts of their own.

## Main definitions

* `TemplateFile.read` — a template as it is on a disk.
* `Run.execute` — a run of a template.
* `Run.grant` — what the capabilities do that a run supplies.
* `Interp.standard` — evaluation with these capabilities.
-/

namespace Stencil

/-- A template file. -/
structure TemplateFile where
  /-- Where it is, from the root. -/
  path : Path
  text : Text
  deriving DecidableEq, Repr, Inhabited

namespace TemplateFile

/-- The directory from which the template's own paths are seen. -/
def directory (t : TemplateFile) : Path := t.path.parent

/-- Says that a template file cannot be read: its path as it was given, why, and the class of the
error behind it. -/
def unreadable {α : Type} (given reason : Text) (cause : ExceptionClass) : Proc α :=
  Proc.raise { Thrown.plain .fileAccessError [.str (FileAccess.message given reason)] with
    detail := .path given (some cause) }

/-- The template in a file whose path was given as a text. -/
def read (given : Text) (path : Path) (mode : Mode) : Proc TemplateFile := do
  let resolved := (← Proc.machine).directory.join path
  match ← Proc.ask (.read resolved mode) with
  | .error e =>
    if e.isSystem then unreadable given e.reason e.type else Proc.error e.type e.reason
  | .ok octets =>
    match Text.decode? octets with
    | some text => return ⟨resolved, text⟩
    | none => unreadable given FileAccess.notText .unicodeDecodeError

end TemplateFile

namespace Template

/-- Says what is wrong with a template. -/
def refuse {α : Type} (e : TemplateError) : Proc α :=
  Proc.raise { Thrown.plain .transpileError [.str e.message] with detail := .path e.path none }

/-- The delimiters with these texts, neither of which may be empty. -/
def delimiters (start stop : Text) : Proc Delimiters :=
  match Delimiters.ofTexts? start stop with
  | some d => return d
  | none => Proc.error .valueError "Delimiters must be non-empty strings"

/-- The body of the procedure for a template with a name, as a process. -/
def source (d : Delimiters) (mode : Mode) (name : Option Text) (text : Text) : Proc Source := do
  match Template.parts d mode text with
  | .error fault => refuse (TemplateError.of name fault.message)
  | .ok parts =>
    Proc.log (.compiled (name.getD TemplateError.anonymous) parts.length mode)
    return Source.ofParts parts

end Template

namespace Run

/-- A new run of the template at a path. -/
def create (path : Path) (delimiters : Delimiters) : Proc Ref :=
  Proc.alloc (.run ⟨path, delimiters, .unstarted⟩)

/-- The run at a place. -/
def get (run : Ref) : Proc TemplateRun := do
  match (← Proc.heap).get? run with
  | some (.run r) => return r
  | _ => return ⟨Path.here, Delimiters.standard, .unstarted⟩

/-- A run passes into a state. -/
def advance (run : Ref) (state : RunState) : Proc Unit := do
  let r ← get run
  Proc.log (.advanced run r.path r.state state)
  Proc.put run (.run { r with state })

/-- The stages of a run. -/
def stages (I : Interp) (caller : Caller) (run : Ref) (mode : Mode) (context : Value) :
    Proc Unit := do
  let _ ← Context.check context
  advance run .reading
  let r ← get run
  let file ← TemplateFile.read r.path.text r.path mode
  advance run .transpiling
  let source ← Template.source r.delimiters mode (some file.path.text) file.text
  advance run .contextBuilding
  let entries ← Context.build context file.directory fun directory parent =>
    return .capability (.inclusion directory parent r.delimiters mode)
  advance run .executing
  let lines := source.lines.map Int.ofNat
  let procedure ←
    Procedure.construct I source.text lines (entries.map (·.1)) mode file.path.text
  let _ ← procedure.complete I caller (entries.map (·.2))
  return ()

/-- A template is run. An exception that is an error makes the run a failed one. -/
def execute (I : Interp) (caller : Caller) (run : Ref) (mode : Mode) (context : Value) :
    Proc Unit := do
  (stages I caller run mode context).handle fun r => do
    if ((← Proc.heap).thrown? r).any fun e => e.type.isA .exception then
      advance run .failed
    Proc.throw r
  advance run .completed

/-- The path that a value names. -/
def pathOf (v : Value) : Proc Path := do
  match v with
  | .str t => return Path.ofText t
  | v =>
    Proc.error .typeError ("expected str, bytes or os.PathLike object, not " ++
      (← Eval.typeName v))

/-- A template is included, whose path is seen from a directory: it is run in a context of its own
by `run`. -/
def includeBy (run : Path → Value → Proc Unit) (directory : Path) (context : Ref) (mode : Mode)
    (target override : Value) : Proc Value := do
  let path := directory.join (← pathOf target)
  Proc.log (.including path mode)
  run path (← Context.inherit context override)
  return .none

/-- How many activations there are between a template and one that it includes. -/
def inclusionDepth : Mode → Nat
  | .blocking => 4
  | .suspending => 3

/-- A template is included as a run of its own. -/
def include_ (I : Interp) (caller : Caller) (directory : Path) (context : Ref)
    (delimiters : Delimiters) (mode : Mode) (target override : Value) : Proc Value :=
  includeBy (fun path inherited => do
    let run ← create path delimiters
    execute I (caller.deeper (inclusionDepth mode)) run mode inherited)
    directory context mode target override

/-- What the capabilities do that a run supplies. -/
def grant : Grant := fun I caller c args =>
  match c, args with
  | .inclusion directory context delimiters mode, [target, override] =>
    include_ I caller directory context delimiters mode target override
  | .requirement directory, [v] => Module.require I caller directory v
  | _, _ => return .none

end Run

namespace Interp

/-- How many rounds a loop may take. -/
def rounds : Nat := 1000000000

/-- How deep calls may go. -/
def maxDepth : Nat := 994

/-- Evaluation with the capabilities that a run supplies. -/
def standard : Interp := ofDepth Run.grant rounds maxDepth

end Interp

end Stencil
