import Stencil.Eval.Call
import Stencil.Script.Check
import Stencil.Script.Parse.Suite
import Stencil.Script.Position
import Stencil.Text.Utf8

/-!
# Procedures

A procedure is a function whose body is a script and whose parameters are given by their names. The
names are put into the head of the function as they are, so that they may bring defaults and
annotations with them. The rows of the body are moved to the lines of the template that they come
from before the body is looked at any further.

## Main definitions

* `Procedure` — a function with what it was made of.
* `Procedure.ofStatements`, `Procedure.construct` — the procedure for statements and for a script.
* `Procedure.invoke` — a procedure is called.
-/

namespace Stencil

open Script

/-- A function with what it was made of. -/
structure Procedure where
  function : Value
  /-- The names of its parameters. -/
  names : List Value
  mode : Mode
  /-- The file that its code is said to come from. -/
  file : Text
  deriving Inhabited

namespace Procedure

/-- The name of every procedure. -/
def id : Text := "__template__"

/-- A value occurs twice in a list. -/
def hasRepeated : List Value → Bool
  | [] => false
  | v :: vs => vs.any v.sameKey || hasRepeated vs

/-- Says that a script is none. -/
def notAScript {α : Type} (file : Text) (line : Int) : Proc α :=
  Proc.raise { Thrown.plain .syntaxError [] with
    fields := [(Text.ofString "msg", .str "invalid syntax"), (Text.ofString "filename", .str file),
      (Text.ofString "lineno", .int line)] }

/-- How deep the nodes of a script may stand inside each other. -/
def maxNesting : Nat := 2970

/-- Statements whose nodes do not stand too deep inside each other. -/
def bounded (stmts : List Stmt) : Proc (List Stmt) :=
  if maxNesting < depthOf stmts then
    Proc.error .recursionError "maximum recursion depth exceeded during ast construction"
  else return stmts

/-- A script as a list of statements. -/
def parse (file : Text) (moved : Nat → Int) (t : Text) : Proc (List Stmt) :=
  match t.unencodable? with
  | some message => Proc.error .unicodeEncodeError message
  | none =>
    if (0 : CodePoint) ∈ t then
      Proc.error .valueError "source code string cannot contain null bytes"
    else
      match Script.parse t with
      | .ok stmts => bounded stmts
      | .error fault => notAScript file (moved fault.row)

/-- The head of a function with parameters and an empty body. -/
def head (mode : Mode) (names : List Text) : Text :=
  (if mode = .suspending then ("async def " : Text) else "def ") ++ id ++ "(" ++
    Text.join ", " names ++ "):\n    pass\n"

/-- The script of a procedure: the function and what follows it. -/
structure Outline where
  span : Span
  params : Params
  returns : Option Expr
  body : List Stmt
  rest : List Stmt

/-- How deep the nodes of a procedure may stand inside each other. -/
def Outline.maxDepth : Nat := 991

/-- How deep the nodes of a procedure stand inside each other. -/
def Outline.depth (o : Outline) : Nat :=
  1 + max (1 + max o.params.depth (depthOf o.body)) (depthOf o.rest)

/-- The line of the first place that breaks a rule beyond the grammar. -/
def Outline.fault? (o : Outline) (mode : Mode) (moved : Nat → Int) : Option Int :=
  let own (row : Nat) : Int := row
  let line (moved : Nat → Int) (c : Check) : Option Int :=
    match c with
    | .ok () => none
    | .error (.row row) => some (moved row)
    | .error .nowhere => some (-1)
  ((o.params.repeated?.map fun s => own s.row).or
    (((repeatedParam? o.body).map fun s => moved s.row).or
      ((repeatedParam? o.rest).map fun s => own s.row))).or
    ((line own (o.params.check .outside o.span.row o.returns)).or
      ((line moved (checkAll (.inside (mode = .suspending)) o.body)).or
        (line own (checkAll .outside o.rest))))

/-- The outline of the procedure for a script. -/
def outline (mode : Mode) (names : List Text) (body : List Stmt) : Proc Outline := do
  let stmts ← parse "<unknown>" (fun row => row) (head mode names)
  match stmts with
  | .define span _ _ params returns empty :: rest =>
    return ⟨span, params, returns, if body.isEmpty then empty else body, rest⟩
  | _ => notAScript "<unknown>" 1

/-- The names as texts. -/
def nameTexts (names : List Value) : Proc (List Text) := Eval.joinTexts [] 0 names

/-- The function of a script is defined, and then what follows it is executed. -/
def define (I : Interp) (o : Outline) (mode : Mode) (lines : LineMap) (file : Text) :
    Proc Value := do
  let globals ← Proc.alloc (.module id [])
  let f : Frame := ⟨file, [], none, [], globals, none, 0⟩
  let _ ← (Stmt.define o.span (mode = .suspending) id o.params o.returns o.body).exec I f
  match (← Proc.heap).namesOfModule globals |>.get? id with
  | some (.function r) =>
    if let some (.function c) := (← Proc.heap).get? r then
      Proc.put r (.function { c with lines })
  | _ => pure ()
  let _ ← execAll I f o.rest
  return ((← Proc.heap).namesOfModule globals |>.get? id).getD .none

/-- Refuses names of which one is given twice. -/
def refuseRepeated (names : List Value) : Proc Unit := do
  if hasRepeated names then
    Proc.error .valueError ("Duplicate parameter names: [" ++
      Text.join ", " (← names.mapM Proc.quoted) ++ "]")

/-- The procedure with an outline, for statements whose rows come from `lines`. -/
def ofOutline (I : Interp) (o : Outline) (body : List Stmt) (lines : LineMap) (names : List Value)
    (mode : Mode) (file : Text) : Proc Procedure := do
  if Outline.maxDepth < o.depth then
    Proc.error .recursionError "maximum recursion depth exceeded"
  else if !fits lines.line body then
    Proc.error .overflowError "Python int too large to convert to C int"
  else
    match firstFault? lines.line body with
    | some fault => Proc.error .valueError fault.message
    | none =>
      match o.fault? mode lines.line with
      | some line => notAScript file line
      | none => return ⟨← define I o mode lines file, names, mode, file⟩

/-- The procedure for statements, whose rows come from `lines`. -/
def ofStatements (I : Interp) (body : List Stmt) (lines : LineMap) (names : List Value)
    (mode : Mode) (file : Text) : Proc Procedure := do
  let o ← outline mode (← nameTexts names) body
  ofOutline I o body lines names mode file

/-- The procedure for a script, whose rows come from `lines`. -/
def construct (I : Interp) (source : Text) (lines : LineMap) (names : List Value) (mode : Mode)
    (file : Text) : Proc Procedure := do
  refuseRepeated names
  ofStatements I (← parse file lines.line source) lines names mode file

/-- A procedure is called with as many arguments as it has parameters. -/
def invoke (I : Interp) (p : Procedure) (caller : Caller) (args : List Value) :
    Proc Value :=
  if args.length = p.names.length then I.call caller p.function args []
  else
    Proc.error .typeError (p.file ++ ": expected " ++ Text.ofNat p.names.length ++
      " arguments, got " ++ Text.ofNat args.length)

/-- A procedure is called, and awaited if it is suspending. -/
def complete (I : Interp) (p : Procedure) (caller : Caller) (args : List Value) :
    Proc Value := do
  let v ← p.invoke I caller args
  match p.mode with
  | .blocking => return v
  | .suspending => I.await caller v

end Procedure

end Stencil
