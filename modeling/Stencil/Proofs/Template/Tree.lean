import Stencil.Proofs.Script.Items
import Stencil.Proofs.Template.Literal
import Stencil.Proofs.Template.Role

/-!
# Templates by their structure

A template whose blocks are closed is a tree: literal texts with sections of statements and whole
blocks between them. The tree says what the template means without any indentation: a literal text
is a call of `write`, a section its own statements, and a block the compound statement that its
head, its clauses and their bodies make up.

Rows are counted by those before them; `rows` is the number of rows before a tree, and `depth` the
number of blocks around it.

## Main definitions

* `Tree`, `Clauses` — a template by its structure, and the further clauses of a block.
* `Tree.Valid` — the texts and the sections of a tree are what they stand for.
* `Tree.Legible`, `Tree.Upright` — blocks find all sections, and none leaves its block.
* `Tree.statements?` — the statements of a tree.
* `Tree.source` — the rows of a tree inside blocks.

## Main results

* `Tree.reads_source` — the rows of a tree hold its items.
* `Tree.parse_source` — the script of a tree is its statements.
-/

namespace Stencil

open Script Script.Terminals

mutual

/-- A template by its structure. -/
inductive Tree where
  | literal (t : Text)
  /-- Literal text, a section of simple statements, and what follows it. -/
  | simple (t code : Text) (rest : Tree)
  /-- Literal text, a block with its clauses, and what follows its end. -/
  | block (t head : Text) (body : Tree) (clauses : Clauses) (rest : Tree)

/-- The further clauses of a block. -/
inductive Clauses where
  | done
  | clause (head : Text) (body : Tree) (rest : Clauses)

end

/-! ## Sections and literals -/

namespace Tree

/-- What stands between the delimiters of a section. -/
def inner (code : Text) : Text := 32 :: (code ++ [32])

/-- A section. -/
def enclosed (code : Text) : Text :=
  Delimiters.standard.start ++ (inner code ++ Delimiters.standard.stop)

/-- The row of a section, without the blanks around it. -/
def row (code : Text) : Text := Text.stripEnd (code.dropWhile Text.isTabOrSpace)

/-- The blanks that the row of a section begins with. -/
def blanks (code : Text) : Text := (row code).takeWhile Terminals.isBlank

/-- What the row of a section holds. -/
def clause? (depth rows : Nat) (code : Text) : Option Clause :=
  match placed (row code) rows (4 * depth) with
  | first :: others => (Parse.lineClause first others).toOption
  | [] => none

/-- The line of a section. -/
def lineItems (depth rows : Nat) (code : Text) : List Item :=
  match placed (row code) rows (4 * depth) with
  | first :: others => [.line first others]
  | [] => []

/-- The call of `write` for a literal text. -/
def writes (depth rows : Nat) (t : Text) : Stmt :=
  let name := Literal.nameSpan (1 + rows) (4 * depth)
  let closing := Literal.closeSpan (1 + rows) (4 * depth) t
  .expr (name.through closing)
    (Parse.written name (Literal.stringSpan (1 + rows) (4 * depth) t) closing t)

/-- The line of a literal text. -/
def literalItem (depth rows : Nat) (t : Text) : Item :=
  .line ⟨.name, "write", Literal.nameSpan (1 + rows) (4 * depth), 0⟩
    (Literal.terminals (1 + rows) (4 * depth) t).tail

end Tree

/-! ## Well-formed trees -/

namespace Tree

/-- A literal text that holds no start delimiter. -/
structure Literal (t : Text) : Prop where
  whole : t.isWhole = true
  free : Text.cut? Delimiters.standard.start t = none

/-- A section of one row that is complete as a script. -/
structure Section (code : Text) : Prop where
  lineFeed : (10 : CodePoint) ∉ code
  carriageReturn : (13 : CodePoint) ∉ code
  free : Text.cut? Delimiters.standard.stop code = none
  encodable : ∀ c ∈ code, c ≠ 0 ∧ c.isSurrogate = false
  begins : Scan.BeginsRow (blanks code) (row code)
  complete : (ofText (row code)).ending = .complete

end Tree

mutual

/-- The texts and sections of a tree are what they stand for. -/
def Tree.Valid : Tree → Prop
  | .literal t => Tree.Literal t
  | .simple t code rest =>
    Tree.Literal t ∧ Tree.Section code ∧ ¬Block.IsEnd (Tree.row code) ∧ rest.Valid
  | .block t head body clauses rest =>
    Tree.Literal t ∧ Tree.Section head ∧ body.Valid ∧ clauses.Valid ∧ rest.Valid

/-- The texts and sections of clauses are what they stand for. -/
def Clauses.Valid : Clauses → Prop
  | .done => True
  | .clause head body rest => Tree.Section head ∧ body.Valid ∧ rest.Valid

end

mutual

/-- Blocks find all sections of a tree: no statement begins like a clause, and no head is
indented. -/
def Tree.Legible : Tree → Prop
  | .literal _ => True
  | .simple _ code rest =>
    Block.firstWord (Tree.row code) ∉ Block.clauseKeywords ∧ rest.Legible
  | .block _ head body clauses rest =>
    Tree.blanks head = [] ∧ body.Legible ∧ clauses.Legible ∧ rest.Legible

/-- Blocks find all sections of clauses. -/
def Clauses.Legible : Clauses → Prop
  | .done => True
  | .clause head body rest => Tree.blanks head = [] ∧ body.Legible ∧ rest.Legible

end

mutual

/-- No section of statements inside a block begins with blanks, which would take it out of the
block. -/
def Tree.Upright (depth : Nat) : Tree → Prop
  | .literal _ => True
  | .simple _ code rest => (Tree.blanks code = [] ∨ depth = 0) ∧ rest.Upright depth
  | .block _ _ body clauses rest =>
    body.Upright (depth + 1) ∧ clauses.Upright depth ∧ rest.Upright depth

/-- No section of statements inside clauses leaves them. -/
def Clauses.Upright (depth : Nat) : Clauses → Prop
  | .done => True
  | .clause _ body rest => body.Upright (depth + 1) ∧ rest.Upright depth

end

/-! ## Meaning -/

mutual

/-- The number of rows of a tree. -/
def Tree.height : Tree → Nat
  | .literal t => t.lineFeeds + 1
  | .simple t _ rest => t.lineFeeds + 2 + rest.height
  | .block t _ body clauses rest => t.lineFeeds + 2 + body.height + clauses.height + rest.height

/-- The number of rows of clauses. -/
def Clauses.height : Clauses → Nat
  | .done => 0
  | .clause _ body rest => 1 + body.height + rest.height

end

mutual

/-- The statements of a tree. -/
def Tree.statements? (depth rows : Nat) : Tree → Option (List Stmt)
  | .literal t => some [Tree.writes depth rows t]
  | .simple t code rest =>
    let next := rows + t.lineFeeds + 1
    match Tree.clause? depth next code, rest.statements? depth (next + 1) with
    | some (.simple stmts), some others => some (Tree.writes depth rows t :: (stmts ++ others))
    | _, _ => none
  | .block t head body clauses rest =>
    let next := rows + t.lineFeeds + 1
    let after := next + 1 + body.height
    match Tree.clause? depth next head, body.statements? (depth + 1) (next + 1),
      clauses.arms? depth after, rest.statements? depth (after + clauses.height) with
    | some (.opened start head []), some inside, some arms, some others =>
      (Arm.compound? ⟨start, head, inside⟩ arms).map fun s =>
        Tree.writes depth rows t :: s :: others
    | _, _, _, _ => none

/-- The heads of clauses with the statements of their bodies. -/
def Clauses.arms? (depth rows : Nat) : Clauses → Option (List Arm)
  | .done => some []
  | .clause head body rest =>
    match Tree.clause? depth rows head, body.statements? (depth + 1) (rows + 1),
      rest.arms? depth (rows + 1 + body.height) with
    | some (.opened start head []), some inside, some arms =>
      if head.isClause then some (⟨start, head, inside⟩ :: arms) else none
    | _, _, _ => none

end

mutual

/-- The lines and the changes of indentation of a tree. -/
def Tree.items (depth rows : Nat) : Tree → List Item
  | .literal t => [Tree.literalItem depth rows t]
  | .simple t code rest =>
    let next := rows + t.lineFeeds + 1
    Tree.literalItem depth rows t ::
      (Tree.lineItems depth next code ++ rest.items depth (next + 1))
  | .block t head body clauses rest =>
    let next := rows + t.lineFeeds + 1
    let after := next + 1 + body.height
    Tree.literalItem depth rows t ::
      (Tree.lineItems depth next head ++
        (Item.shift depth (depth + 1) (1 + (next + 1)) ++ (body.items (depth + 1) (next + 1) ++
          (Item.shift (depth + 1) depth (1 + after) ++ (clauses.items depth after ++
            rest.items depth (after + clauses.height))))))

/-- The lines and the changes of indentation of clauses. -/
def Clauses.items (depth rows : Nat) : Clauses → List Item
  | .done => []
  | .clause head body rest =>
    let after := rows + 1 + body.height
    Tree.lineItems depth rows head ++
      (Item.shift depth (depth + 1) (1 + (rows + 1)) ++ (body.items (depth + 1) (rows + 1) ++
        (Item.shift (depth + 1) depth (1 + after) ++ rest.items depth after)))

end

namespace Tree

variable {depth rows : Nat} {t code : Text}

theorem clause?_eq_some {line : Clause} (h : clause? depth rows code = some line) :
    ∃ first others, placed (row code) rows (4 * depth) = first :: others ∧
      lineItems depth rows code = [.line first others] ∧
      Parse.lineClause first others = .ok line := by
  unfold clause? at h
  unfold lineItems
  cases hp : placed (row code) rows (4 * depth) with
  | nil => simp [hp] at h
  | cons first others =>
    simp only [hp] at h
    cases hl : Parse.lineClause first others with
    | error e => simp [hl, Except.toOption] at h
    | ok found =>
      simp only [hl, Except.toOption, Option.some.injEq] at h
      exact ⟨first, others, rfl, rfl, by rw [hl, h]⟩

theorem lineClause_literal (h : t.isWhole = true) :
    Parse.lineClause ⟨.name, "write", Literal.nameSpan (1 + rows) (4 * depth), 0⟩
      (Literal.terminals (1 + rows) (4 * depth) t).tail =
      .ok (.simple [writes depth rows t]) :=
  Parse.lineClause_writing (Literal.denotes_token h)

/-- The line of a literal before the rest of a block. -/
theorem block_literal {items : List Item} {stmts : List Stmt} (h : t.isWhole = true)
    (hrest : Parse.Block items stmts) :
    Parse.Block (literalItem depth rows t :: items) (writes depth rows t :: stmts) := by
  intro fuel tail htail hfuel
  simp only [List.length_cons] at hfuel
  obtain ⟨fuel, rfl⟩ : ∃ m, fuel = m + 1 := ⟨fuel - 1, by omega⟩
  exact Parse.statements_simple rfl (lineClause_literal h) (hrest fuel tail htail (by omega))

theorem block_end : Parse.Block [] [] := by
  intro fuel tail htail hfuel
  obtain ⟨fuel, rfl⟩ : ∃ m, fuel = m + 1 := ⟨fuel - 1, by omega⟩
  exact Parse.statements_end htail

/-- The line of a section of simple statements before the rest of a block. -/
theorem block_simple {items : List Item} {stmts others : List Stmt}
    (h : clause? depth rows code = some (.simple stmts)) (hrest : Parse.Block items others) :
    Parse.Block (lineItems depth rows code ++ items) (stmts ++ others) := by
  obtain ⟨first, terminals, -, hitems, hline⟩ := clause?_eq_some h
  intro fuel tail htail hfuel
  rw [hitems] at hfuel ⊢
  simp only [List.cons_append, List.nil_append, List.length_cons] at hfuel ⊢
  obtain ⟨fuel, rfl⟩ : ∃ m, fuel = m + 1 := ⟨fuel - 1, by omega⟩
  exact Parse.statements_simple (Parse.lineClause_word hline) hline
    (hrest fuel tail htail (by omega))

theorem noClause_items (tree : Tree) (tail : List Item) :
    Parse.NoClause (tree.items depth rows ++ tail) := by
  cases tree <;> rfl

theorem shift_inner (depth row : Nat) :
    Item.shift depth (depth + 1) row =
      [.indent ⟨row, 4 * (depth + 1), row, 4 * (depth + 1)⟩] := by
  simp [Item.shift]

theorem shift_outer (depth row : Nat) :
    Item.shift (depth + 1) depth row = [.dedent ⟨row, 4 * depth, row, 4 * depth⟩] := by
  have hn : ¬depth + 1 < depth := by omega
  have hone : depth + 1 - depth = 1 := by omega
  rw [Item.shift, if_neg hn, hone, List.replicate_one]

/-- A whole block before the rest of the block around it. -/
theorem block_compound {head : Head} {start : Span} {s : Stmt} {inside : List Stmt} {arms : List Arm}
    {body items rest : List Item} {others : List Stmt} {row row' : Nat}
    (h : clause? depth rows code = some (.opened start head [])) (hbody : Parse.Block body inside)
    (harms : Parse.Arms items arms) (hs : Arm.compound? ⟨start, head, inside⟩ arms = some s)
    (hnext : ∀ tail, Parse.NoClause (rest ++ tail)) (hrest : Parse.Block rest others) :
    Parse.Block
      (lineItems depth rows code ++ (Item.shift depth (depth + 1) row ++ (body ++
        (Item.shift (depth + 1) depth row' ++ (items ++ rest)))))
      (s :: others) := by
  obtain ⟨first, terminals, -, hitems, hline⟩ := clause?_eq_some h
  intro fuel tail htail hfuel
  rw [hitems, shift_inner, shift_outer] at hfuel ⊢
  simp only [List.cons_append, List.nil_append, List.append_assoc, List.length_cons,
    List.length_append] at hfuel ⊢
  obtain ⟨fuel, rfl⟩ : ∃ m, fuel = m + 1 := ⟨fuel - 1, by omega⟩
  have word := (Parse.lineClause_word hline).trans (Arm.isClause_of_compound? hs)
  exact Parse.statements_compound word hline
    (Parse.compound_of_arms hbody harms (hnext tail) hs (by omega))
    (hrest fuel tail htail (by omega))

end Tree

mutual

/-- The items of a tree hold its statements. -/
theorem Tree.block_items {depth rows : Nat} {stmts : List Stmt} : (tree : Tree) → tree.Valid →
    tree.statements? depth rows = some stmts → Parse.Block (tree.items depth rows) stmts
  | .literal t, hv, h => by
    obtain rfl := Option.some.inj h
    exact Tree.block_literal hv.whole Tree.block_end
  | .simple t code rest, hv, h => by
    simp only [Tree.statements?] at h
    split at h
    · rename_i inside others hc hr
      obtain rfl := Option.some.inj h
      exact Tree.block_literal hv.1.whole
        (Tree.block_simple hc (Tree.block_items rest hv.2.2.2 hr))
    · simp at h
  | .block t head body clauses rest, hv, h => by
    simp only [Tree.statements?] at h
    split at h
    · rename_i start opened inside arms others hc hb ha hr
      obtain ⟨s, hs, rfl⟩ := Option.map_eq_some_iff.1 h
      exact Tree.block_literal hv.1.whole
        (Tree.block_compound hc (Tree.block_items body hv.2.2.1 hb)
          (Clauses.arms_items clauses hv.2.2.2.1 ha) hs (Tree.noClause_items rest)
          (Tree.block_items rest hv.2.2.2.2 hr))
    · simp at h

/-- The items of clauses are those of their arms. -/
theorem Clauses.arms_items {depth rows : Nat} {arms : List Arm} : (clauses : Clauses) →
    clauses.Valid → clauses.arms? depth rows = some arms →
    Parse.Arms (clauses.items depth rows) arms
  | .done, _, h => by
    obtain rfl := Option.some.inj h
    exact .nil
  | .clause head body rest, hv, h => by
    simp only [Clauses.arms?] at h
    split at h
    · rename_i start opened inside arms' hc hb ha
      split at h
      · rename_i hclause
        obtain rfl := Option.some.inj h
        obtain ⟨first, terminals, -, hitems, hline⟩ := Tree.clause?_eq_some hc
        simp only [Clauses.items]
        rw [hitems, Tree.shift_inner, Tree.shift_outer]
        exact .cons ((Parse.lineClause_word hline).trans hclause) hline
          (Tree.block_items body hv.2.1 hb) (Clauses.arms_items rest hv.2.2 ha)
      · simp at h
    · simp at h

end

/-! ## Rows -/

namespace Tree

/-- The rows of a literal text inside blocks. -/
def literalRows (depth : Nat) (t : Text) : Text :=
  Part.indent depth ++ (Literal.statement t ++ [10])

/-- The row of a section inside blocks. -/
def sectionRow (depth : Nat) (code : Text) : Text := Part.indent depth ++ (row code ++ [10])

end Tree

mutual

/-- The rows of a tree inside blocks. -/
def Tree.source (depth : Nat) : Tree → Text
  | .literal t => Tree.literalRows depth t
  | .simple t code rest =>
    Tree.literalRows depth t ++ (Tree.sectionRow depth code ++ rest.source depth)
  | .block t head body clauses rest =>
    Tree.literalRows depth t ++ (Tree.sectionRow depth head ++ (body.source (depth + 1) ++
      (clauses.source depth ++ rest.source depth)))

/-- The rows of clauses inside blocks. -/
def Clauses.source (depth : Nat) : Clauses → Text
  | .done => []
  | .clause head body rest =>
    Tree.sectionRow depth head ++ (body.source (depth + 1) ++ rest.source depth)

end

mutual

/-- How deep blocks stand inside each other. -/
def Tree.nesting : Tree → Nat
  | .literal _ => 0
  | .simple _ _ rest => rest.nesting
  | .block _ _ body clauses rest => max (body.nesting + 1) (max clauses.nesting rest.nesting)

/-- How deep blocks stand inside the bodies of clauses. -/
def Clauses.nesting : Clauses → Nat
  | .done => 0
  | .clause _ body rest => max (body.nesting + 1) rest.nesting

end

namespace Tree

variable {depth outer rows : Nat} {t code v : Text} {line : Clause}

theorem afterRow_of_ne {row : Nat} {indents : List (Nat × Nat)} (h : v ≠ []) :
    Scan.afterRow v row indents = Scan.atRow v (row + 1) indents := by
  simp [Scan.afterRow, h]

/-- The row of a literal text holds its line. -/
theorem reads_literal (rows : Nat) (t v : Text) (hd : depth ≤ outer + 1) (hmax : depth < maxIndents) :
    Scan.Reads (Scan.atRow (literalRows depth t ++ v) (1 + rows) (Scan.levels outer))
      (Item.shift outer depth (1 + rows) ++ [literalItem depth rows t])
      (Scan.afterRow v (1 + rows + t.lineFeeds) (Scan.levels depth)) := by
  have leads := Literal.leads_literal t v (1 + rows) hd hmax
  have text : literalRows depth t ++ v =
      List.replicate (4 * depth) 32 ++ (Literal.statement t ++ 10 :: v) := by
    simp [literalRows, Part.indent]
  have visible := Literal.isVisible_terminals (1 + rows) (4 * depth) t
  rw [text]
  refine ⟨_, leads, fun rest => ?_⟩
  rw [List.append_assoc, Item.ofTerminals_shift, List.append_assoc, List.append_assoc]
  exact congrArg (_ ++ ·) (Item.ofTerminals_line visible rfl rest)

theorem stripEnd_initial (t : Text) : Text.stripEnd t <+: t := by
  induction t with
  | nil => exact List.prefix_refl []
  | cons c t ih =>
    unfold Text.stripEnd
    split
    · split
      · exact List.nil_prefix
      · exact List.prefix_append [c] t
    · rename_i d kept hk
      rw [hk] at ih
      exact List.cons_prefix_cons.2 ⟨rfl, ih⟩

theorem mem_row {c : CodePoint} (h : c ∈ row code) : c ∈ code :=
  (List.dropWhile_suffix _).subset ((stripEnd_initial _).subset h)

/-- The row of a section holds its line. -/
theorem reads_section (rows : Nat) (v : Text) (hs : Section code)
    (hf : blanks code = [] ∨ depth = 0 ∧ outer = 0) (hline : clause? depth rows code = some line)
    (hd : depth ≤ outer + 1) (hmax : depth < maxIndents) :
    Scan.Reads (Scan.atRow (sectionRow depth code ++ v) (1 + rows) (Scan.levels outer))
      (Item.shift outer depth (1 + rows) ++ lineItems depth rows code)
      (Scan.afterRow v (1 + rows) (Scan.levels depth)) := by
  obtain ⟨first, others, hplaced, hitems, -⟩ := clause?_eq_some hline
  have hl : (10 : CodePoint) ∉ row code := fun h => hs.lineFeed (mem_row h)
  have hr : (13 : CodePoint) ∉ row code := fun h => hs.carriageReturn (mem_row h)
  rw [hitems]
  have reads := Scan.reads_line v hl hr hs.begins hs.complete hf hd hmax hplaced
  simpa [sectionRow, Part.indent] using reads

theorem shift_self (depth row : Nat) : Item.shift depth depth row = [] := by
  simp [Item.shift]

theorem literalRows_ne_nil (h : literalRows depth t ++ v = []) : False := by
  simp [literalRows] at h

theorem sectionRow_ne_nil (h : sectionRow depth code ++ v = []) : False := by
  simp [sectionRow] at h

theorem source_ne_nil (tree : Tree) (h : tree.source depth ++ v = []) : False := by
  cases tree with
  | literal t => exact literalRows_ne_nil h
  | simple t code rest =>
    rw [Tree.source, List.append_assoc] at h
    exact literalRows_ne_nil h
  | block t head body clauses rest =>
    rw [Tree.source, List.append_assoc] at h
    exact literalRows_ne_nil h

/-- A literal text with rows after it. -/
theorem reads_literal_then {items : List Item} {s : Scan} (t : Text) (hd : depth ≤ outer + 1)
    (hmax : depth < maxIndents) (hv : v ≠ [])
    (next : Scan.Reads (Scan.atRow v (1 + (rows + t.lineFeeds + 1)) (Scan.levels depth)) items s) :
    Scan.Reads (Scan.atRow (literalRows depth t ++ v) (1 + rows) (Scan.levels outer))
      (Item.shift outer depth (1 + rows) ++ literalItem depth rows t :: items) s := by
  have reads := reads_literal rows t v hd hmax
  have row : 1 + rows + t.lineFeeds + 1 = 1 + (rows + t.lineFeeds + 1) := by omega
  rw [afterRow_of_ne hv, row] at reads
  simpa using reads.trans next

/-- A section with rows after it. -/
theorem reads_section_then {items : List Item} {s : Scan} (hs : Section code)
    (hf : blanks code = [] ∨ depth = 0 ∧ outer = 0) (hline : clause? depth rows code = some line)
    (hd : depth ≤ outer + 1) (hmax : depth < maxIndents) (hv : v ≠ [])
    (next : Scan.Reads (Scan.atRow v (1 + (rows + 1)) (Scan.levels depth)) items s) :
    Scan.Reads (Scan.atRow (sectionRow depth code ++ v) (1 + rows) (Scan.levels outer))
      (Item.shift outer depth (1 + rows) ++ (lineItems depth rows code ++ items)) s := by
  have reads := reads_section rows v hs hf hline hd hmax
  rw [afterRow_of_ne hv] at reads
  rw [← List.append_assoc]
  exact reads.trans next

/-- A body with rows after it, which return to the blocks around the body. -/
theorem reads_body {body items : List Item} {u : Text} {s : Scan} {height : Nat}
    (hbody : Scan.Reads (Scan.atRow (u ++ v) (1 + (rows + 1)) (Scan.levels depth))
      (Item.shift depth (depth + 1) (1 + (rows + 1)) ++ body)
      (Scan.afterRow v (rows + 1 + height) (Scan.levels (depth + 1))))
    (hv : v ≠ [])
    (next : Scan.Reads
      (Scan.atRow v (1 + (rows + 1 + height)) (Scan.levels (depth + 1))) items s) :
    Scan.Reads (Scan.atRow (u ++ v) (1 + (rows + 1)) (Scan.levels depth))
      (Item.shift depth (depth + 1) (1 + (rows + 1)) ++ (body ++ items)) s := by
  have row : rows + 1 + height + 1 = 1 + (rows + 1 + height) := by omega
  rw [afterRow_of_ne hv, row] at hbody
  rw [← List.append_assoc]
  exact hbody.trans next

end Tree

mutual

/-- The rows of a tree hold its items. -/
theorem Tree.reads_source {depth outer rows : Nat} {stmts : List Stmt} (v : Text) :
    (tree : Tree) → tree.Valid → tree.Legible → tree.Upright depth →
    tree.statements? depth rows = some stmts → depth ≤ outer + 1 →
    depth + tree.nesting < maxIndents →
    Scan.Reads (Scan.atRow (tree.source depth ++ v) (1 + rows) (Scan.levels outer))
      (Item.shift outer depth (1 + rows) ++ tree.items depth rows)
      (Scan.afterRow v (rows + tree.height) (Scan.levels depth))
  | .literal t, _, _, _, _, hd, hn => by
    have reads := Tree.reads_literal rows t v hd hn
    have row : 1 + rows + t.lineFeeds = rows + (t.lineFeeds + 1) := by omega
    rwa [row] at reads
  | .simple t code rest, hv, hl, hu, h, hd, hn => by
    simp only [Tree.statements?] at h
    split at h
    · rename_i inside others hc hr
      have reads := Tree.reads_source v rest hv.2.2.2 hl.2 hu.2 hr (Nat.le_succ depth) hn
      have row : rows + t.lineFeeds + 1 + 1 + rest.height =
        rows + (t.lineFeeds + 2 + rest.height) := by omega
      rw [row, Tree.shift_self, List.nil_append] at reads
      simp only [Tree.source, Tree.items, Tree.height, List.append_assoc]
      refine Tree.reads_literal_then t hd (by omega) (Tree.sectionRow_ne_nil ·) ?_
      have step := Tree.reads_section_then hv.2.1 (hu.1.imp id fun h => ⟨h, h⟩) hc
        (Nat.le_succ depth) (by omega) (Tree.source_ne_nil rest ·) reads
      rwa [Tree.shift_self, List.nil_append] at step
    · simp at h
  | .block t head body clauses rest, hv, hl, hu, h, hd, hn => by
    simp only [Tree.statements?] at h
    split at h
    · rename_i start opened inside arms others hc hb ha hr
      simp only [Tree.nesting] at hn
      have hrest := Tree.reads_source v rest hv.2.2.2.2 hl.2.2.2 hu.2.2 hr
        (by omega : depth ≤ depth + 1 + 1) (by omega)
      have hclauses := Clauses.reads_source clauses hv.2.2.2.1 hl.2.2.1 hu.2.1 ha (by omega)
        (Tree.source_ne_nil rest ·) hrest
      have hbody := Tree.reads_body (Tree.reads_source _ body hv.2.2.1 hl.2.1 hu.1 hb
        (Nat.le_refl (depth + 1)) (by omega))
        (fun he => Tree.source_ne_nil rest (List.append_eq_nil_iff.1 he).2) hclauses
      have hhead := Tree.reads_section_then hv.2.1 (.inl hl.1) hc (Nat.le_succ depth) (by omega)
        (Tree.source_ne_nil body ·) hbody
      rw [Tree.shift_self, List.nil_append] at hhead
      have row : rows + t.lineFeeds + 1 + 1 + body.height + clauses.height + rest.height =
        rows + (t.lineFeeds + 2 + body.height + clauses.height + rest.height) := by omega
      rw [row] at hhead
      simp only [Tree.source, Tree.items, Tree.height, List.append_assoc]
      exact Tree.reads_literal_then t hd (by omega) (Tree.sectionRow_ne_nil ·) hhead
    · simp at h

/-- The rows of clauses, and what follows them, after a body. -/
theorem Clauses.reads_source {depth rows : Nat} {arms : List Arm} {v : Text} {items : List Item}
    {s : Scan} : (clauses : Clauses) → clauses.Valid → clauses.Legible → clauses.Upright depth →
    clauses.arms? depth rows = some arms →
    depth + clauses.nesting < maxIndents → v ≠ [] →
    Scan.Reads (Scan.atRow v (1 + (rows + clauses.height)) (Scan.levels (depth + 1)))
      (Item.shift (depth + 1) depth (1 + (rows + clauses.height)) ++ items) s →
    Scan.Reads (Scan.atRow (clauses.source depth ++ v) (1 + rows) (Scan.levels (depth + 1)))
      (Item.shift (depth + 1) depth (1 + rows) ++ (clauses.items depth rows ++ items)) s
  | .done, _, _, _, _, _, _, next => next
  | .clause head body rest, hv, hl, hu, h, hn, hne, next => by
    simp only [Clauses.arms?] at h
    split at h
    · rename_i start opened inside arms' hc hb ha
      simp only [Clauses.nesting] at hn
      have row : rows + (1 + body.height + rest.height) =
        rows + 1 + body.height + rest.height := by omega
      simp only [Clauses.height, row] at next
      have hrest := Clauses.reads_source rest hv.2.2 hl.2.2 hu.2 ha (by omega) hne next
      have hbody := Tree.reads_body (Tree.reads_source _ body hv.2.1 hl.2.1 hu.1 hb
        (Nat.le_refl (depth + 1)) (by omega)) (fun he => hne (List.append_eq_nil_iff.1 he).2) hrest
      have hhead := Tree.reads_section_then hv.1 (.inl hl.1) hc (by omega : depth ≤ depth + 1 + 1)
        (by omega) (Tree.source_ne_nil body ·) hbody
      simpa only [Clauses.source, Clauses.items, List.append_assoc] using hhead
    · simp at h

end

/-! ## The script -/

namespace Tree

variable {depth : Nat} {t code : Text} {c : CodePoint}

/-- A code point that a script may hold. -/
def IsPlain (c : CodePoint) : Prop :=
  c ≠ 0 ∧ c ≠ ('\r' : CodePoint) ∧ c.isSurrogate = false

theorem isPlain_indent (h : c ∈ Part.indent depth) : IsPlain c := by
  obtain ⟨-, rfl⟩ := List.mem_replicate.1 h
  exact ⟨by decide, by decide, by decide⟩

theorem isPlain_lineFeed : IsPlain 10 := ⟨by decide, by decide, by decide⟩

theorem isPlain_literalRows (h : c ∈ literalRows depth t) : IsPlain c := by
  simp only [literalRows, List.mem_append, List.mem_singleton] at h
  rcases h with h | h | rfl
  · exact isPlain_indent h
  · exact Literal.mem_statement h
  · exact isPlain_lineFeed

theorem isPlain_sectionRow (hs : Section code) (h : c ∈ sectionRow depth code) :
    IsPlain c := by
  simp only [sectionRow, List.mem_append, List.mem_singleton] at h
  rcases h with h | h | rfl
  · exact isPlain_indent h
  · have hm := mem_row h
    refine ⟨(hs.encodable c hm).1, ?_, (hs.encodable c hm).2⟩
    rintro rfl
    exact hs.carriageReturn hm
  · exact isPlain_lineFeed

theorem getLast?_source (tree : Tree) : (tree.source depth).getLast? = some 10 := by
  have literal (t : Text) : (literalRows depth t).getLast? = some 10 := by
    simp [literalRows]
  have after (u v : Text) (h : v.getLast? = some 10) : (u ++ v).getLast? = some 10 := by
    rw [List.getLast?_append, h, Option.some_or]
  match tree with
  | .literal t => exact literal t
  | .simple t code rest => exact after _ _ (after _ _ (getLast?_source rest))
  | .block t head body clauses rest =>
    exact after _ _ (after _ _ (after _ _ (after _ _ (getLast?_source rest))))

end Tree

mutual

theorem Tree.isPlain_source {depth : Nat} {c : CodePoint} : (tree : Tree) → tree.Valid →
    c ∈ tree.source depth → Tree.IsPlain c
  | .literal t, _, h => Tree.isPlain_literalRows h
  | .simple t code rest, hv, h => by
    simp only [Tree.source, List.mem_append] at h
    rcases h with h | h | h
    · exact Tree.isPlain_literalRows h
    · exact Tree.isPlain_sectionRow hv.2.1 h
    · exact Tree.isPlain_source rest hv.2.2.2 h
  | .block t head body clauses rest, hv, h => by
    simp only [Tree.source, List.mem_append] at h
    rcases h with h | h | h | h | h
    · exact Tree.isPlain_literalRows h
    · exact Tree.isPlain_sectionRow hv.2.1 h
    · exact Tree.isPlain_source body hv.2.2.1 h
    · exact Clauses.isPlain_source clauses hv.2.2.2.1 h
    · exact Tree.isPlain_source rest hv.2.2.2.2 h

theorem Clauses.isPlain_source {depth : Nat} {c : CodePoint} : (clauses : Clauses) →
    clauses.Valid → c ∈ clauses.source depth → Tree.IsPlain c
  | .done, _, h => by simp [Clauses.source] at h
  | .clause head body rest, hv, h => by
    simp only [Clauses.source, List.mem_append] at h
    rcases h with h | h | h
    · exact Tree.isPlain_sectionRow hv.1 h
    · exact Tree.isPlain_source body hv.2.1 h
    · exact Clauses.isPlain_source rest hv.2.2 h

end

namespace Tree

/-- The script of a tree is its statements. -/
theorem parse_source {tree : Tree} {stmts : List Stmt} (hv : tree.Valid)
    (hl : tree.Legible) (hu : tree.Upright 0) (h : tree.statements? 0 0 = some stmts)
    (hn : tree.nesting < maxIndents) :
    Script.parse (tree.source 0) = .ok stmts := by
  have hr : (13 : CodePoint) ∉ tree.source 0 := fun hm =>
    (isPlain_source tree hv hm).2.1 rfl
  have lines_ : lines (tree.source 0) = tree.source 0 := by
    unfold lines
    rw [unifyLineEnds_of_notMem hr]
    exact if_pos (getLast?_source tree)
  have reads := @Tree.reads_source 0 0 0 stmts [] tree hv hl hu h (Nat.zero_le _) (by omega)
  rw [List.append_nil, shift_self, List.nil_append] at reads
  have whole : (ofText (tree.source 0)).ending = .complete ∧
      Item.ofTerminals [] (ofText (tree.source 0)).list =
        tree.items 0 0 ++ (Item.shift 0 0 (0 + tree.height) ++
          [.stop ⟨0 + tree.height, 0, 0 + tree.height, 0⟩]) := by
    refine items_of_reads ?_
    rw [lines_]
    exact reads
  have parsed : parseStatements (tree.source 0) = .ok stmts := by
    let items := tree.items 0 0 ++ [.stop ⟨0 + tree.height, 0, 0 + tree.height, 0⟩]
    have block := Tree.block_items tree hv h (4 * items.length + 8)
      [.stop ⟨0 + tree.height, 0, 0 + tree.height, 0⟩] trivial (by simp [items]; omega)
    unfold parseStatements
    simp only [whole.1, whole.2, shift_self, List.nil_append]
    unfold parseItems
    rw [StateT.run, block]
  unfold Script.parse
  rw [parsed]

end Tree

end Stencil
