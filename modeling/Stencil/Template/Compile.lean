import Stencil.Template.Block
import Stencil.Template.Error
import Stencil.Template.Literal
import Stencil.Template.Segment

/-!
# Compiling a template

A template becomes the body of a procedure: every literal segment a statement that writes it, every
code section its own statements, indented by the blocks around them. Each row of the body is
mapped to the template line that it comes from.

## Main definitions

* `Mode` — whether inclusions suspend the procedure.
* `Part` — what is emitted for one segment; `Part.source` and `Part.lines` are its rows and lines.
* `Template.parts` — the parts of a template, or why there are none.
* `Source`, `Template.compile` — the body of the procedure with its line map.
-/

namespace Stencil

/-- Whether a procedure runs without interruption or is suspended while it waits. -/
inductive Mode where
  | blocking
  | suspending
  deriving DecidableEq, Repr, Inhabited

/-- What is emitted for one segment of a template. -/
inductive Part where
  /-- Literal text inside `depth` blocks, from this line of the template on. -/
  | literal (depth line : Nat) (text : Text)
  /-- The rows of a code section inside `depth` blocks, from this line of the template on. -/
  | code (depth line : Nat) (rows : List Text)
  deriving DecidableEq, Repr, Inhabited

namespace Part

/-- The indentation of rows inside blocks. -/
def indent (depth : Nat) : Text := List.replicate (4 * depth) (32 : CodePoint)

/-- A row inside blocks; a blank row stays empty. -/
def indentRow (depth : Nat) (row : Text) : Text :=
  if row.isBlank then [] else indent depth ++ row

/-- The rows emitted for a segment, with line feeds between them. -/
def source : Part → Text
  | literal depth _ text => indent depth ++ Literal.statement text
  | code depth _ rows => Text.joinRows (rows.map (indentRow depth))

/-- The template line of the first row. -/
def line : Part → Nat
  | literal _ line _ => line
  | code _ line _ => line

/-- The template lines of the rows. -/
def lines (p : Part) : List Nat := List.range' p.line (p.source.lineFeeds + 1)

end Part

/-- The body of a procedure. -/
structure Source where
  text : Text
  /-- The template line that each row comes from. -/
  lines : List Nat
  deriving DecidableEq, Repr, Inhabited

namespace Source

/-- The body that parts make up. -/
def ofParts (parts : List Part) : Source :=
  ⟨Text.joinRows (parts.map Part.source) ++ "\n", parts.flatMap Part.lines⟩

end Source

namespace Template

/-- What is emitted for a code section that stands at a place inside `depth` blocks, and the number
of blocks after it. Nothing is emitted for a blank section and for one that ends a block. -/
def sectionPart (mode : Mode) (depth : Nat) (place : Place) (code : Text) :
    Except TemplateFault (Option Part × Nat) :=
  let layout := Layout.ofCode code place.column
  match layout.rows with
  | [] => .ok (none, depth)
  | firstRow :: _ =>
    match Script.tokenize layout.rows with
    | .error e => .error (.badSection e firstRow)
    | .ok tokens =>
      match Block.role tokens with
      | .close => if depth = 0 then .error .strayEnd else .ok (none, depth - 1)
      | .statements clause header =>
        match clause, depth with
        | some keyword, 0 => .error (.strayClause keyword)
        | _, _ =>
          let outer := if clause.isSome then depth - 1 else depth
          match header with
          | some (_ + 1) => .error (.indentedHeader firstRow)
          | _ =>
            let rows := match mode with
              | .blocking => layout.rows
              | .suspending => Block.awaitCalls layout.rows tokens
            .ok (some (.code outer (place.line + layout.skipped) rows),
              if header.isSome then outer + 1 else outer)

/-- The parts for the segments of a template that begin at a place inside `depth` blocks. -/
def partsFrom (d : Delimiters) (mode : Mode) (depth : Nat) (place : Place) :
    Segments → Except TemplateFault (List Part)
  | .last literal =>
    if depth = 0 then .ok [.literal depth place.line literal] else .error (.openBlocks depth)
  | .unclosed _ _ => .error (.unpaired d.start)
  | .next literal code rest =>
    let codePlace := (place.after literal).after d.start
    match sectionPart mode depth codePlace code with
    | .error e => .error e
    | .ok (part, depth') =>
      match partsFrom d mode depth' ((codePlace.after code).after d.stop) rest with
      | .error e => .error e
      | .ok parts => .ok (.literal depth place.line literal :: (part.toList ++ parts))

/-- The parts of a template. -/
def parts (d : Delimiters) (mode : Mode) (text : Text) : Except TemplateFault (List Part) :=
  partsFrom d mode 0 Place.first (Segments.ofText d text)

/-- The body of the procedure that a template stands for. -/
def compile (d : Delimiters) (mode : Mode) (text : Text) : Except TemplateFault Source :=
  (parts d mode text).map Source.ofParts

end Template

end Stencil
