import Stencil.Eval.Call
import Stencil.Procedure.Basic
import Stencil.Script.Encoding

/-!
# Modules

What `require` loads: a file of a script, by a path that begins with a dot, or a module by its
name. A file is executed once and kept; one that fails is forgotten, so that it is tried again the
next time.

## Main definitions

* `Module.load` — the module in a file.
* `Module.named` — the module with a name.
* `Module.require` — the module that a template asks for.
-/

namespace Stencil.Module

open Script

/-- The ending of files that hold scripts. -/
def ending : Text := ".py"

/-- The modules that are known by name, with what they hold. -/
def known : List (Text × Names) :=
  let text (id value : String) : Text × Value := (Text.ofString id, .str (Text.ofString value))
  let lower := "abcdefghijklmnopqrstuvwxyz"
  let upper := "ABCDEFGHIJKLMNOPQRSTUVWXYZ"
  let marks := "!\"#$%&'()*+,-./:;<=>?@[\\]^_`\x7b|\x7d~"
  let blanks := " \t\n\r\x0b\x0c"
  [(Text.ofString "string", [
    text "whitespace" blanks,
    text "ascii_lowercase" lower,
    text "ascii_uppercase" upper,
    text "ascii_letters" (lower ++ upper),
    text "digits" "0123456789",
    text "hexdigits" "0123456789abcdefABCDEF",
    text "octdigits" "01234567",
    text "punctuation" marks,
    text "printable" ("0123456789" ++ lower ++ upper ++ marks ++ blanks)])]

/-- The module that is loaded under a key. -/
def loaded? (key : Text) : Proc (Option Ref) :=
  return ((← Proc.machine).modules.find? (·.1 == key)).map (·.2)

/-- A module is kept under a key. -/
def keep (key : Text) (r : Ref) : Proc Unit :=
  Proc.modify fun m => { m with modules := (key, r) :: m.modules }

/-- What is kept under a key is forgotten. -/
def forget (key : Text) : Proc Unit :=
  Proc.modify fun m => { m with modules := m.modules.filter (·.1 != key) }

/-- Says that there is no module with a name. -/
def noModule {α : Type} (id : Text) : Proc α :=
  Proc.error .moduleNotFoundError ("No module named " ++ Text.marked id)

/-- The module with a name. -/
def named (id : Text) : Proc Value := do
  if id.isEmpty then Proc.error .valueError "Empty module name"
  else if id.head? = some ('.' : CodePoint) then
    Proc.error .typeError ("the 'package' argument is required to perform a relative import for " ++
      Text.quoted id)
  else
    let (package, rest) := match Text.cut? "." id with
      | some (package, _) => (package, true)
      | none => (id, false)
    match known.find? (·.1 == package) with
    | none => noModule package
    | some (id', names) =>
      if rest then
        Proc.error .moduleNotFoundError ("No module named " ++ Text.marked id ++ "; " ++
          Text.marked package ++ " is not a package")
      else
        match ← loaded? id' with
        | some r => return .module r
        | none =>
          let r ← Proc.alloc (.module id' names)
          keep id' r
          return .module r

/-- What is wrong with a path, as an exception. -/
def pathError {α : Type} (e : FileError) (path : Path) : Proc α :=
  Proc.error e.type (e.message path.text)

/-- What stands at a path, which is seen from the directory of the machine. -/
def probe (path : Path) : Proc (Option EntryKind) := do
  match ← Proc.ask (.probe ((← Proc.machine).directory.join path)) with
  | .ok kind => return kind
  | .error e => pathError e path

/-- The file that a path names: the path with an ending added if that is there, a file in it if it
is a directory, or else the path itself. -/
def candidate (path : Path) : Proc Path := do
  if path.suffix.isEmpty then
    if path.name.isEmpty then
      Proc.error .valueError (path.quoted ++ " has an empty name")
    else
      let extended := path.extend ending
      if (← probe extended).isSome then return extended
      else fallback
  else fallback
where
  fallback : Proc Path := do
    if (← probe path) = some .directory then return path.join (Path.ofText "__init__.py")
    else return path

/-- The place that a path leads to, whatever is there. -/
def resolve (path : Path) : Proc Path := do
  match ← Proc.ask (.resolve ((← Proc.machine).directory.join path)) with
  | .ok resolved => return resolved
  | .error .nul => Proc.error .valueError "lstat: embedded null character in path"
  | .error e => pathError e path

/-- The script in a file. -/
def scriptOf (file : Text) (octets : Octets) : Proc (List Stmt) := do
  match Encoding.text? octets with
  | none => Procedure.notAScript file 0
  | some t =>
    let stmts ← Procedure.parse file (fun row => row) t
    match repeatedParam? stmts, checkAll .outside stmts with
    | some s, _ => Procedure.notAScript file s.row
    | none, .error (.row row) => Procedure.notAScript file row
    | none, .error .nowhere => Procedure.notAScript file (-1)
    | none, .ok () => return stmts

/-- The file of a module is executed. -/
def execute (I : Interp) (caller : Caller) (resolved : Path) (r : Ref) : Proc Unit := do
  match ← Proc.ask (.read resolved .blocking) with
  | .error e => pathError e resolved
  | .ok octets =>
    let stmts ← scriptOf resolved.text octets
    let inner := caller.deeper 5
    I.enter inner
    let _ ← execAll I ⟨resolved.text, [], none, [], r, inner.handling, inner.depth⟩ stmts
    return ()

/-- The module in the file that a path names. -/
def load (I : Interp) (caller : Caller) (path : Path) : Proc Value := do
  let resolved ← resolve (← candidate path)
  let key := resolved.text
  match ← loaded? key with
  | some r => return .module r
  | none =>
    if (← probe resolved) ≠ some .file then
      Proc.error .moduleNotFoundError ("Module not found: " ++ path.text ++ " (resolved to " ++
        key ++ ")")
    else if !(ending.isSuffixOf key) then
      Proc.error .importError ("Cannot load module from " ++ key)
    else
      let r ← Proc.alloc (.module key [])
      keep key r
      (execute I caller resolved r).handle fun e => do
        forget key
        Proc.throw e
      return .module r

/-- The module that a template in a directory asks for. -/
def require (I : Interp) (caller : Caller) (directory : Path) (v : Value) : Proc Value := do
  match v with
  | .str t =>
    if List.isPrefixOf (Text.ofString "./") t || List.isPrefixOf (Text.ofString "../") t then
      load I caller (directory.join (Path.ofText t))
    else named t
  | v => Eval.noAttribute v "startswith"

end Stencil.Module
