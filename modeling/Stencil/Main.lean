import Stencil.Command.Basic

/-!
# The program

The command is executed on the files of the system.

## Main definitions

* `Command.answer` — the answer of the system to a request.
* `main` — the program.
-/

namespace Stencil.Command

/-- The number of the system for what went wrong. -/
def number? : IO.Error → Option UInt32
  | .alreadyExists _ n _ | .otherError n _ | .resourceBusy n _ | .resourceVanished n _
  | .unsupportedOperation n _ | .hardwareFault n _ | .unsatisfiedConstraints n _
  | .illegalOperation n _ | .protocolError n _ | .timeExpired n _ | .interrupted _ n _
  | .noFileOrDirectory _ n _ | .invalidArgument _ n _ | .permissionDenied _ n _
  | .resourceExhausted _ n _ | .inappropriateType _ n _ | .noSuchThing _ n _ => some n
  | .unexpectedEof | .userError _ => none

/-- A number of the system without the sign that some of its calls give it. -/
def magnitude (n : UInt32) : UInt32 := min n (0 - n)

/-- Why a path cannot be used, by what the system says. -/
def fileError (e : IO.Error) : FileError :=
  match (number? e).map magnitude with
  | some 2 => .missing
  | some 13 => .denied
  | some 17 => .exists_
  | some 20 => .notDirectory
  | some 21 => .directory
  | some 22 => .nul
  | some 36 => .nameTooLong
  | some n => .other n.toNat (Text.ofString (toString e))
  | none => .denied

/-- What the system does, or why it does not. -/
def tried {α : Type} (action : IO α) : IO (Except FileError α) := do
  try return .ok (← action) catch e => return .error (fileError e)

/-- The octets of a file. -/
def readFile (path : String) : IO (Except FileError Octets) := do
  return (← tried (IO.FS.readBinFile path)).map fun bytes => bytes.toList.map UInt8.toNat

/-- What stands at a path. -/
def probe (path : String) : IO (Except FileError (Option EntryKind)) := do
  match ← readFile path with
  | .ok _ => return .ok (some .file)
  | .error .directory => return .ok (some .directory)
  | .error e => return if e = .missing ∨ e = .notDirectory then .ok none else .error e

/-- Directories down to a path, which is `climbed` levels below the one that was asked for. -/
def makeDirectories (path : Path) (climbed : Nat) :
    (above : Nat) → IO (Except (FileError × Nat) Unit)
  | 0 => settle
  | above + 1 => do
    match ← tried (IO.FS.createDir path.text.toString) with
    | .error .missing =>
      match ← makeDirectories path.parent (climbed + 1) above with
      | .ok () => settle
      | .error e => return .error e
    | _ => settle
where
  settle : IO (Except (FileError × Nat) Unit) := do
    match ← tried (IO.FS.createDir path.text.toString), ← probe path.text.toString with
    | .ok (), _ | .error _, .ok (some .directory) => return .ok ()
    | .error e, _ => return .error (e, climbed)

/-- The answer of the system to a request. -/
def answer : (q : Request) → IO q.Reply
  | .read path _ => readFile path.text.toString
  | .probe path => probe path.text.toString
  | .resolve path => do
    match ← tried (IO.FS.realPath path.text.toString) with
    | .ok resolved => return .ok (Path.ofText (toString resolved))
    | .error _ => return .ok path.settle
  | .makeDirectories path => makeDirectories path 0 path.parts.length
  | .write path octets =>
    tried (IO.FS.writeBinFile path.text.toString
      ((octets.getD []).map UInt8.ofNat).toByteArray)

/-- What is logged is shown as far as the level asks for it. -/
def showLog (level : Level) (log : Array LogEntry) : IO Unit := do
  for entry in log do
    if level = .debug ∨ (level = .info ∧ entry.isProgress) then
      IO.eprintln entry.message.toString

/-- The status that a program gives to the system: a number, or else one for failure. -/
def systemStatus : Value → UInt32
  | .int i => (i % 256).toNat.toUInt32
  | .bool b => if b then 1 else 0
  | _ => 1

/-- A status that is no number is shown. -/
def showStatus (h : Heap) (status : Value) : IO Unit := do
  match status with
  | .int _ | .bool _ => return ()
  | v =>
    match v.text? h with
    | .ok t => IO.eprintln t.toString
    | .error _ => return ()

/-- What the command says at its end, and its status. -/
def conclude (ending : Ending) (m : Machine) : IO UInt32 := do
  showLog ending.level m.log
  IO.print ending.output.toString
  if let some complaint := ending.complaint then
    IO.eprintln ("Error: " ++ (complaint.message m.heap).toString)
  else if ending.level = .critical ∧ ending.output.isEmpty then
    IO.eprint usage.toString
  showStatus m.heap ending.status
  return systemStatus ending.status

end Stencil.Command

open Stencil

/-- The program: its arguments are those of the command. -/
def main (arguments : List String) : IO UInt32 := do
  let debug := ((← IO.getEnv "BLANK_DEBUG").getD "") != ""
  let machine := Machine.fresh (Path.ofText (Text.ofString (toString (← IO.currentDir))))
  let process := Command.execute Interp.standard debug (arguments.map Text.ofString)
  match ← (process machine).perform Command.answer with
  | (.value ending, m) => Command.conclude ending m
  | (.raised r, m) =>
    if let .ok t := (Value.exception r).text? m.heap then IO.eprintln t.toString
    return 1
  | (.exhausted, _) => return 1
