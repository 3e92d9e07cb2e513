import Stencil.Script.Grammar.Diagnosis
import Stencil.Script.Parse.Line

/-!
# Statements from lines

Lines and changes of indentation make up blocks. A compound statement takes the block below its
head and those of the clauses that follow it.

## Main definitions

* `Item` — a line or a change of indentation; `Item.ofTerminals` cuts terminals into items.
* `Parse.statements` — the statements of a block.
* `Script.parse` — the statements of a script, or the row at which it is none.
-/

namespace Stencil.Script

/-- A line of terminals or a change of indentation. -/
inductive Item where
  | line (first : Terminal) (others : List Terminal)
  | indent (span : Span)
  | dedent (span : Span)
  | stop (span : Span)

namespace Item

/-- The row at which an item stands. -/
def row : Item → Nat
  | line first _ => first.span.row
  | indent s | dedent s | stop s => s.row

/-- Terminals cut at the ends of lines, after those already taken into the current line. -/
def ofTerminals (taken : List Terminal) : List Terminal → List Item
  | [] => flush taken
  | t :: rest =>
    match t.kind with
    | .newline => flush taken ++ ofTerminals [] rest
    | .indent => flush taken ++ indent t.span :: ofTerminals [] rest
    | .dedent => flush taken ++ dedent t.span :: ofTerminals [] rest
    | .endMarker => flush taken ++ stop t.span :: ofTerminals [] rest
    | _ => ofTerminals (t :: taken) rest
where
  flush (taken : List Terminal) : List Item :=
    match taken.reverse with
    | [] => []
    | first :: others => [line first others]

end Item

namespace Parse

/-- Takes items and yields a value, or fails at a row. -/
abbrev Reader := StateT (List Item) (Except SyntaxFault)

/-- Fails at the next item. -/
def unexpected {α : Type} : Reader α := do
  match ← get with
  | item :: _ => throw ⟨item.row⟩
  | [] => throw ⟨1⟩

/-- What a line of terminals holds. -/
def lineClause (first : Terminal) (others : List Terminal) : Except SyntaxFault Clause :=
  (clause (4 * others.length + 12)).onAll (first :: others) first.span

/-- The extent from the beginning of a head to the end of the last of some statements. -/
def extent (start : Span) (blocks : List (List Stmt)) : Span :=
  match blocks.flatten.getLast? with
  | some s => start.through s.span
  | none => start

/-- The words that begin the further clauses of a compound statement. -/
def clauseWords : List Text := ["elif", "else", "except", "finally"].map Text.ofString

/-- The clause that the next line begins with, which is not taken: its extent, its head and the
statements after its colon. -/
def nextHead : Reader (Option (Span × Head × List Stmt)) := do
  match ← get with
  | .line first others :: _ =>
    if clauseWords.any first.isWord then
      match ← lineClause first others with
      | .opened start head inline => return some (start, head, inline)
      | .simple _ => return none
    else return none
  | _ => return none

/-- Takes the next item. -/
def skip : Reader Unit := modify List.tail

/-- The statements of the last handler. -/
def lastHandled (handlers : List Handler) : List Stmt :=
  match handlers.getLast? with
  | some (.mk _ _ _ body) => body
  | none => []

mutual

/-- The statements up to the end of the block that the items begin in. -/
def statements : (fuel : Nat) → Reader (List Stmt)
  | 0 => unexpected
  | fuel + 1 => do
    match ← get with
    | .line first others :: _ =>
      if clauseWords.any first.isWord then unexpected
      else
        let clause ← lineClause first others
        skip
        let stmts ← match clause with
          | .simple stmts => pure stmts
          | .opened start head inline => List.singleton <$> compound fuel start head inline
        return stmts ++ (← statements fuel)
    | .indent s :: _ => throw ⟨s.row⟩
    | _ => return []

/-- The block of a head: the statements after its colon, or else an indented block. -/
def suite : (fuel : Nat) → (inline : List Stmt) → Reader (List Stmt)
  | 0, _ => unexpected
  | fuel + 1, inline => do
    if inline.isEmpty then
      match ← get with
      | .indent _ :: _ =>
        skip
        let body ← statements fuel
        match ← get with
        | .dedent _ :: _ =>
          skip
          return body
        | _ => unexpected
      | _ => unexpected
    else return inline

/-- A compound statement whose head has been taken. -/
def compound : (fuel : Nat) → Span → Head → (inline : List Stmt) → Reader Stmt
  | 0, _, _, _ => unexpected
  | fuel + 1, start, head, inline => do
    let body ← suite fuel inline
    match head with
    | .branch test | .otherBranch test =>
      let no ← alternatives fuel
      return .branch (extent start [body, no]) test body no
    | .loop test =>
      let orelse ← otherwise fuel
      return .loop (extent start [body, orelse]) test body orelse
    | .each target source =>
      let orelse ← otherwise fuel
      return .each (extent start [body, orelse]) target source body orelse
    | .define suspending id params returns =>
      return .define (extent start [body]) suspending id params returns body
    | .attempt =>
      let caught ← handlers fuel
      let orelse ← if caught.isEmpty then pure [] else otherwise fuel
      let final ← finally_ fuel
      if caught.isEmpty ∧ final.isEmpty then unexpected
      else
        let span := extent start [body, lastHandled caught, orelse, final]
        return .attempt span body caught orelse final
    | .orelse | .handler .. | .final => throw ⟨start.row⟩

/-- What a branch does otherwise: a further branch, a last block, or nothing. -/
def alternatives : (fuel : Nat) → Reader (List Stmt)
  | 0 => unexpected
  | fuel + 1 => do
    match ← nextHead with
    | some (start, .otherBranch test, inline) =>
      skip
      List.singleton <$> compound fuel start (.otherBranch test) inline
    | some (_, .orelse, inline) =>
      skip
      suite fuel inline
    | _ => return []

/-- The block after `else`, if there is one. -/
def otherwise : (fuel : Nat) → Reader (List Stmt)
  | 0 => unexpected
  | fuel + 1 => do
    match ← nextHead with
    | some (_, .orelse, inline) =>
      skip
      suite fuel inline
    | _ => return []

/-- The block after `finally`, if there is one. -/
def finally_ : (fuel : Nat) → Reader (List Stmt)
  | 0 => unexpected
  | fuel + 1 => do
    match ← nextHead with
    | some (_, .final, inline) =>
      skip
      suite fuel inline
    | _ => return []

/-- The clauses that handle exceptions. -/
def handlers : (fuel : Nat) → Reader (List Handler)
  | 0 => unexpected
  | fuel + 1 => do
    match ← nextHead with
    | some (start, .handler type id, inline) =>
      skip
      let body ← suite fuel inline
      return .mk (extent start [body]) type id body :: (← handlers fuel)
    | _ => return []

end

end Parse

/-- The statements of the lines of a script. -/
def parseItems (items : List Item) : Except SyntaxFault (List Stmt) :=
  match (Parse.statements (4 * items.length + 8)).run items with
  | .error e => .error e
  | .ok (stmts, rest) =>
    match rest with
    | [] | .stop _ :: _ => .ok stmts
    | item :: _ => .error ⟨item.row⟩

/-- The statements of a script, or a row at which it is none. -/
def parseStatements (source : Text) : Except SyntaxFault (List Stmt) :=
  let terminals := Terminals.ofText source
  match terminals.ending with
  | .complete => parseItems (Item.ofTerminals [] terminals.list)
  | .broken row | .stuck row _ => .error ⟨row⟩

/-- The statements of a script, or the row at which it is none. -/
def parse (source : Text) : Except SyntaxFault (List Stmt) :=
  match parseStatements source with
  | .ok stmts => .ok stmts
  | .error fault =>
    .error ⟨(Grammar.faultRow? (source.length + 1) .script source).getD fault.row⟩

end Stencil.Script
