import Std.Data.HashMap
import Stencil.Script.Constant
import Stencil.Script.Grammar.Case
import Stencil.Script.Grammar.Expression
import Stencil.Script.Grammar.Signature
import Stencil.Script.Grammar.Statement

/-!
# Reading by the grammar

Terminals are matched with the patterns of the grammar. What has been found for a phrase at a place
is remembered. A phrase that begins with itself grows: it is first found without itself, and then
again with what has been found before, as long as it gets longer.

## Main definitions

* `Phrase.rule` — what a phrase may look like.
* `Source` — terminals to be read.
* `Reading` — what the reading has come to know, and `Answer`, what it leads to.
* `Source.read` — a phrase is read.
-/

namespace Stencil.Script.Grammar

/-- What a phrase may look like. -/
def Phrase.rule (p : Phrase) : Rule :=
  let rules : List (Phrase → Rule) :=
    [operationRule, displayRule, targetRule, simpleRule, compoundRule, argumentRule, signatureRule,
      caseRule]
  (rules.findSome? fun f =>
    let r := f p
    if r.alternatives.isEmpty then none else some r).getD (.plain [])

/-- Where strings that denote a text together are wrong. -/
inductive Flaw where
  /-- It is told at the last terminal that has been looked at. -/
  | here
  | row (row : Nat)
  deriving DecidableEq, Repr

/-- Terminals to be read. -/
structure Source where
  terminals : Array Terminal
  /-- What is wrong with strings one after another. -/
  flaw? : List Terminal → Option Flaw

/-- A phrase at a place, and whether mistakes count if that makes a difference. -/
structure Place where
  phrase : Phrase
  mark : Nat
  retry : Bool
  deriving DecidableEq, Hashable

/-- What the reading of terminals has come to know. -/
structure Reading where
  /-- The number of terminals that have been looked at. -/
  seen : Nat
  /-- What has been found for phrases, and the mark at which it ends. -/
  memory : Std.HashMap Place (Option (Tree × Nat))

/-- What reading at a mark leads to. -/
inductive Answer (α : Type) where
  /-- It is there and ends at a mark. -/
  | found (a : α) (mark : Nat)
  | missing
  /-- There is a mistake at a row. -/
  | mistake (row : Nat)
  /-- There is no terminal where one has to be. -/
  | ended

/-- What is made of an answer. -/
def Answer.map {α β : Type} (f : α → β) : Answer α → Answer β
  | .found a mark => .found (f a) mark
  | .missing => .missing
  | .mistake row => .mistake row
  | .ended => .ended

namespace Source

/-- The row of the terminal at an index. -/
def rowAt (c : Source) (i : Nat) : Nat := (c.terminals.getD i default).span.row

/-- The row of the last terminal that has been looked at. -/
def rowSeen (c : Source) (s : Reading) : Nat := c.rowAt (s.seen - 1)

/-- The terminal at a mark is looked at. -/
def look (c : Source) (mark : Nat) (s : Reading) : Option Terminal × Reading :=
  match c.terminals[mark]? with
  | some t => (some t, { s with seen := max s.seen (mark + 1) })
  | none => (none, s)

/-- The terminal at a mark is taken if it fits. -/
def take (c : Source) (fits : Terminal → Bool) (mark : Nat) (s : Reading) :
    Answer Tree × Reading :=
  match c.look mark s with
  | (some t, s) => (if fits t then .found (.leaf t) (mark + 1) else .missing, s)
  | (none, s) => (.ended, s)

/-- A number is taken; it must not be too long. -/
def takeNumber (c : Source) (mark : Nat) (s : Reading) : Answer Tree × Reading :=
  match c.take (·.kind == .number) mark s with
  | (.found (.leaf t) after, s) =>
    (if isOverlong t.text then .mistake t.span.row else .found (.leaf t) after, s)
  | other => other

/-- An operator is taken that has to be there. -/
def takeDemanded (c : Source) (text : Text) (mark : Nat) (s : Reading) : Answer Tree × Reading :=
  match c.look mark s with
  | (some t, s) =>
    (if t.isOp text then .found (.leaf t) (mark + 1) else .mistake t.span.row, s)
  | (none, s) => (.ended, s)

/-- Strings one after another are taken. -/
def takeTexts (c : Source) : (fuel : Nat) → (taken : List Terminal) → (mark : Nat) → Reading →
    Answer (List Terminal) × Reading
  | 0, taken, mark, s => (.found taken.reverse mark, s)
  | fuel + 1, taken, mark, s =>
    match c.look mark s with
    | (some t, s) =>
      if t.kind = .string then c.takeTexts fuel (t :: taken) (mark + 1) s
      else (.found taken.reverse mark, s)
    | (none, s) => (.ended, s)

/-- Strings one after another, which have to denote a text. -/
def texts (c : Source) (mark : Nat) (s : Reading) : Answer Tree × Reading :=
  match c.takeTexts (c.terminals.size + 1) [] mark s with
  | (.found [] _, s) => (.missing, s)
  | (.found ts after, s) =>
    match c.flaw? ts with
    | none => (.found (.node .other (c.rowAt mark) []) after, s)
    | some .here => (.mistake (c.rowSeen s), s)
    | some (.row row) => (.mistake row, s)
  | (.missing, s) => (.missing, s)
  | (.mistake row, s) => (.mistake row, s)
  | (.ended, s) => (.ended, s)

/-- Words that are names but may begin a statement or stand for anything. -/
def softWords : List Text := ["_", "case", "match"].map Text.ofString

/-- What an alternative makes of what has fitted it between two marks. -/
def judged (c : Source) (a : Alternative) (parts : List Tree) (first after : Nat) (s : Reading) :
    Answer Tree :=
  match a.judge ⟨c.rowAt first, c.terminals.getD (after - 1) default, parts⟩ with
  | .found t => .found t after
  | .mistake row => .mistake row
  | .mistakeHere => .mistake (c.rowSeen s)
  | .nothing => .missing

mutual

/-- A pattern is read at a mark; the flag tells whether mistakes count. -/
def readPattern (c : Source) (retry : Bool) :
    (fuel : Nat) → Pattern → (mark : Nat) → Reading → Answer Tree × Reading
  | 0, _, _, s => (.missing, s)
  | fuel + 1, p, mark, s =>
    let several (ts : List Tree) : Tree := .node .several (c.rowAt mark) ts
    match p with
    | .op text => c.take (·.isOp text) mark s
    | .word text | .softWord text => c.take (·.isWord text) mark s
    | .anySoftWord => c.take (fun t => t.kind == .name && softWords.contains t.text) mark s
    | .name => c.take Terminal.isName mark s
    | .number => c.takeNumber mark s
    | .text => c.take (·.kind == .string) mark s
    | .texts => c.texts mark s
    | .lineEnd => c.take (·.kind == .newline) mark s
    | .indent => c.take (·.kind == .indent) mark s
    | .dedent => c.take (·.kind == .dedent) mark s
    | .scriptEnd => c.take (·.kind == .endMarker) mark s
    | .phrase p => c.readPhrase retry fuel p mark s
    | .row ps =>
      match c.readRow retry fuel ps [] false mark s with
      | (answer, _, s) => (answer.map several, s)
    | .oneOf ps => c.readFirst retry fuel ps mark s
    | .maybe p =>
      match c.readPattern retry fuel p mark s with
      | (.missing, s) => (.found .nothing mark, s)
      | other => other
    | .many p =>
      match c.readMany retry fuel p [] mark s with
      | (answer, s) => (answer.map several, s)
    | .some p =>
      match c.readMany retry fuel p [] mark s with
      | (.found [] _, s) => (.missing, s)
      | (answer, s) => (answer.map several, s)
    | .listed separator p =>
      match c.readPattern retry fuel p mark s with
      | (.found t after, s) =>
        match c.readMany retry fuel (.row [.op separator, p]) [t] after s with
        | (answer, s) => (answer.map several, s)
      | other => other
    | .ahead p =>
      match c.readPattern retry fuel p mark s with
      | (.found _ _, s) => (.found .nothing mark, s)
      | other => other
    | .except p =>
      match c.readPattern retry fuel p mark s with
      | (.found _ _, s) => (.missing, s)
      | (.missing, s) => (.found .nothing mark, s)
      | other => other
    | .commit => (.found .nothing mark, s)
    | .demand text => c.takeDemanded text mark s

/-- Patterns in a row are read, after those whose trees are `taken`, the last first; the flag in the
answer tells that no later alternative is considered. -/
def readRow (c : Source) (retry : Bool) :
    (fuel : Nat) → List Pattern → (taken : List Tree) → (committed : Bool) → (mark : Nat) →
      Reading → Answer (List Tree) × Bool × Reading
  | 0, _, _, committed, _, s => (.missing, committed, s)
  | _, [], taken, committed, mark, s => (.found taken.reverse mark, committed, s)
  | fuel + 1, p :: ps, taken, committed, mark, s =>
    let committed := committed || match p with
      | .commit => true
      | _ => false
    match c.readPattern retry fuel p mark s with
    | (.found t mark, s) => c.readRow retry fuel ps (t :: taken) committed mark s
    | (.missing, s) => (.missing, committed, s)
    | (.mistake row, s) => (.mistake row, committed, s)
    | (.ended, s) => (.ended, committed, s)

/-- The first pattern that fits is read. -/
def readFirst (c : Source) (retry : Bool) :
    (fuel : Nat) → List Pattern → (mark : Nat) → Reading → Answer Tree × Reading
  | 0, _, _, s | _, [], _, s => (.missing, s)
  | fuel + 1, p :: ps, mark, s =>
    match c.readPattern retry fuel p mark s with
    | (.missing, s) => c.readFirst retry fuel ps mark s
    | other => other

/-- A pattern is read as often as it fits, after the trees in `taken`, the last first. -/
def readMany (c : Source) (retry : Bool) :
    (fuel : Nat) → Pattern → (taken : List Tree) → (mark : Nat) → Reading →
      Answer (List Tree) × Reading
  | 0, _, taken, mark, s => (.found taken.reverse mark, s)
  | fuel + 1, p, taken, mark, s =>
    match c.readPattern retry fuel p mark s with
    | (.found t after, s) => c.readMany retry fuel p (t :: taken) after s
    | (.missing, s) => (.found taken.reverse mark, s)
    | (.mistake row, s) => (.mistake row, s)
    | (.ended, s) => (.ended, s)

/-- The first alternative that fits is read. -/
def readAlternatives (c : Source) (retry : Bool) :
    (fuel : Nat) → List Alternative → (mark : Nat) → Reading → Answer Tree × Reading
  | 0, _, _, s | _, [], _, s => (.missing, s)
  | fuel + 1, a :: rest, mark, s =>
    match c.readRow retry fuel a.parts [] false mark s with
    | (.found parts after, _, s) => (c.judged a parts mark after s, s)
    | (.missing, committed, s) =>
      if committed then (.missing, s) else c.readAlternatives retry fuel rest mark s
    | (.mistake row, _, s) => (.mistake row, s)
    | (.ended, _, s) => (.ended, s)

/-- A phrase is read, unless it has been before. -/
def readPhrase (c : Source) (retry : Bool) :
    (fuel : Nat) → Phrase → (mark : Nat) → Reading → Answer Tree × Reading
  | 0, _, _, s => (.missing, s)
  | fuel + 1, p, mark, s =>
    let rule := p.rule
    if rule.faulty && !retry then (.missing, s)
    else
      let place : Place := ⟨p, mark, rule.memory == .free && retry⟩
      let kept (s : Reading) (found : Option (Tree × Nat)) : Reading :=
        if rule.memory = .fresh then s else { s with memory := s.memory.insert place found }
      match s.memory[place]? with
      | some (some (t, after)) => (.found t after, s)
      | some none => (.missing, s)
      | none =>
        if rule.memory = .growing then c.grow retry fuel rule place none s
        else
          match c.readAlternatives (retry && !rule.quiet) fuel rule.alternatives mark s with
          | (.found t after, s) => (.found t after, kept s (some (t, after)))
          | (.missing, s) => (.missing, kept s none)
          | other => other

/-- A phrase that may begin with itself is read again with the best that has been found so far. -/
def grow (c : Source) (retry : Bool) :
    (fuel : Nat) → Rule → Place → (best : Option (Tree × Nat)) → Reading → Answer Tree × Reading
  | 0, _, _, _, s => (.missing, s)
  | fuel + 1, rule, place, best, s =>
    let s := { s with memory := s.memory.insert place best }
    match c.readAlternatives retry fuel rule.alternatives place.mark s with
    | (.mistake row, s) => (.mistake row, s)
    | (.ended, s) => (.ended, s)
    | (answer, s) =>
      let settled : Answer Tree := match best with
        | some (t, stop) => .found t stop
        | none => .missing
      match answer with
      | .found t after =>
        if (best.map (·.2)).getD place.mark < after then
          c.grow retry fuel rule place (some (t, after)) s
        else (settled, s)
      | _ => (settled, s)

end

/-- A phrase is read from the beginning, where `seen` terminals have been looked at before. -/
def read (c : Source) (p : Phrase) (retry : Bool) (seen : Nat) : Answer Tree × Reading :=
  c.readPhrase retry (120 * (c.terminals.size + 4)) p 0 ⟨seen, ∅⟩

end Source

end Stencil.Script.Grammar
