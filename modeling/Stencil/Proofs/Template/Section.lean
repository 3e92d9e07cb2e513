import Mathlib.Data.List.TakeWhile
import Stencil.Proofs.Script.Ends
import Stencil.Proofs.Template.Tree

/-!
# Sections of trees

A section of one row is laid out as the row without the blanks around it, and the compiler emits
this row. What blocks take it for follows from what the row holds as a script of its own: a row of
statements is taken for one unless it begins like a clause, and a head for a head.

## Main definitions

* `Tree.IsTaken` — what blocks take a section for.

## Main results

* `Tree.isTaken_simple`, `Tree.isTaken_opened` — what sections of statements and heads are taken for.
* `Tree.sectionPart_simple`, `Tree.sectionPart_head`, `Tree.sectionPart_clause`,
  `Tree.sectionPart_end` — what is emitted for them.
-/

namespace Stencil

open Script Script.Terminals

/-! ## Rows of a section -/

namespace Text

/-- Blanks at the end of a text are stripped. -/
theorem stripEnd_concat {c : CodePoint} (hc : CodePoint.isSpace c = true) (t : Text) :
    stripEnd (t ++ [c]) = stripEnd t := by
  induction t with
  | nil => simp [stripEnd, hc]
  | cons d t ih => rw [List.cons_append, stripEnd, stripEnd, ih]

/-- What is left of a text without the blanks at its end is not blank. -/
theorem isBlank_stripEnd {t : Text} (h : stripEnd t ≠ []) : isBlank (stripEnd t) = false := by
  induction t with
  | nil => exact absurd rfl h
  | cons c t ih =>
    cases ht : stripEnd t with
    | nil =>
      by_cases hc : c.isSpace
      · simp [stripEnd, ht, hc] at h
      · simp [stripEnd, ht, hc, isBlank]
    | cons d kept =>
      have hrest : isBlank (d :: kept) = false := by
        rw [← ht]
        exact ih (by simp [ht])
      simp only [isBlank] at hrest
      simp only [stripEnd, ht, isBlank, List.all_cons] at hrest ⊢
      rw [hrest, Bool.and_false]

theorem dropWhile_replicate_append (n : Nat) (t : Text) :
    (List.replicate n 32 ++ t).dropWhile isTabOrSpace = t.dropWhile isTabOrSpace := by
  induction n with
  | zero => rfl
  | succ n ih =>
    rw [List.replicate_succ, List.cons_append, List.dropWhile_cons, ih]
    rfl

theorem drop_margin (t : Text) : t.drop (margin t).length = t.dropWhile isTabOrSpace := by
  induction t with
  | nil => rfl
  | cons c t ih =>
    unfold margin at ih ⊢
    by_cases hc : isTabOrSpace c <;> simp [hc, ih]

/-- One row loses its whole margin. -/
theorem dedent_row {t : Text} (h : t.all isTabOrSpace = false) :
    dedent [t] = [t.dropWhile isTabOrSpace] := by
  simp only [dedent, commonMargin, List.map_cons, List.map_nil, h, Bool.false_eq_true, ↓reduceIte,
    Option.getD_some, drop_margin]

end Text

namespace Layout

/-- A section of one row is laid out as the row without the blanks around it. -/
theorem ofCode_inner (code : Text) (column : Nat) (hl : (10 : CodePoint) ∉ code)
    (hr : (13 : CodePoint) ∉ code) (hrow : Tree.row code ≠ []) :
    ofCode (Tree.inner code) column = ⟨[Tree.row code], 0⟩ := by
  have hcode : code.dropWhile Text.isTabOrSpace ≠ [] := by
    intro he
    rw [Tree.row, he] at hrow
    exact hrow rfl
  have hri : (13 : CodePoint) ∉ Tree.inner code := by simpa [Tree.inner] using hr
  have laid : List.replicate column (32 : CodePoint) ++ Text.unifyLineEnds (Tree.inner code) =
      List.replicate (column + 1) 32 ++ (code ++ [32]) := by
    rw [Terminals.unifyLineEnds_of_notMem hri, Tree.inner, List.replicate_succ']
    simp
  have hlaid : (10 : CodePoint) ∉ List.replicate (column + 1) 32 ++ (code ++ [32]) := by
    simpa using hl
  have kept : (List.replicate (column + 1) 32 ++ (code ++ [32])).dropWhile Text.isTabOrSpace =
      code.dropWhile Text.isTabOrSpace ++ [32] := by
    rw [Text.dropWhile_replicate_append, List.dropWhile_append]
    simp [hcode]
  have hall : (List.replicate (column + 1) 32 ++ (code ++ [32])).all Text.isTabOrSpace = false := by
    rw [Bool.eq_false_iff]
    intro h
    have hnil := List.dropWhile_eq_nil_iff.2 (List.all_eq_true.1 h)
    rw [kept] at hnil
    simp at hnil
  have row : Text.stripEnd (code.dropWhile Text.isTabOrSpace ++ [32]) = Tree.row code :=
    Text.stripEnd_concat (by decide) _
  have hblank : Text.isBlank (Tree.row code) = false := Text.isBlank_stripEnd hrow
  unfold ofCode
  simp only [laid, Terminals.Scan.rows_of_notMem hlaid, Text.dedent_row hall, kept, List.map_cons,
    List.map_nil, row]
  simp [trim, trimEnd, hblank]

end Layout

/-! ## What sections are taken for -/

namespace Tree

variable {depth rows : Nat} {code : Text} {line : Clause} {start : Span} {head : Head}
  {stmts : List Stmt}

/-- Blocks take a section for something. -/
def IsTaken (code : Text) (role : Block.Role) : Prop :=
  ∃ tokens, tokenize [row code] = .ok tokens ∧ Block.role tokens = role

/-- The line of a section as a script of its own. -/
theorem visible_of_clause? (h : clause? depth rows code = some line) :
    ∃ first others, (ofText (row code)).visible = first :: others ∧
      Parse.lineClause (first.moved rows (4 * depth)) (others.map (Terminal.moved rows (4 * depth))) =
        .ok line := by
  obtain ⟨first, others, hplaced, -, hline⟩ := clause?_eq_some h
  obtain ⟨t, ts, hvisible, rfl, rfl⟩ := List.map_eq_cons_iff.1 hplaced
  exact ⟨t, ts, hvisible, hline⟩

theorem lineFeed_row (hs : Section code) : (10 : CodePoint) ∉ row code := fun h =>
  hs.lineFeed (mem_row h)

theorem carriageReturn_row (hs : Section code) : (13 : CodePoint) ∉ row code := fun h =>
  hs.carriageReturn (mem_row h)

theorem isTaken_simple (hs : Section code) (he : ¬Block.IsEnd (row code))
    (h : clause? depth rows code = some (.simple stmts)) :
    IsTaken code (.statements (if Block.firstWord (row code) ∈ Block.clauseKeywords then
      some (Block.firstWord (row code)) else none) none) := by
  obtain ⟨first, others, hvisible, hline⟩ := visible_of_clause? h
  obtain ⟨tokens, htokens, hrole⟩ := Block.role_of_complete (lineFeed_row hs) (carriageReturn_row hs)
    hs.begins hs.complete he
  have last := Parse.last_of_simple hline
  rw [← List.map_cons, List.getLast?_map, Option.any_map] at last
  rw [hvisible] at hrole
  refine ⟨tokens, htokens, hrole.trans ?_⟩
  congr 1
  exact if_neg (by simpa [Terminal.moved, Terminal.isOp] using last)

/-- The words that begin heads are words of letters and none of them ends blocks. -/
theorem letters_headWords : ∀ w ∈ Parse.headWords,
    (∀ c ∈ w, c.isAsciiLetter = true) ∧ w.take 3 ≠ "end" := by
  decide

theorem isTaken_opened (hs : Section code)
    (h : clause? depth rows code = some (.opened start head [])) :
    IsTaken code (.statements (if head.isClause then some (Block.firstWord (row code)) else none)
      (some (blanks code).length)) := by
  obtain ⟨first, others, hvisible, hline⟩ := visible_of_clause? h
  obtain ⟨⟨w, hw, hword⟩, last⟩ := Parse.last_of_opened hline
  obtain ⟨letters, hend⟩ := letters_headWords w hw
  have word : Block.firstWord (row code) = w :=
    Block.firstWord_of_visible (lineFeed_row hs) (carriageReturn_row hs) hs.begins hs.complete
      hvisible letters hword
  have clause : Block.clauseKeywords.contains w = head.isClause :=
    (Parse.any_clauseWords hword).symm.trans (Parse.lineClause_word hline)
  have he : ¬Block.IsEnd (row code) := by
    rintro ⟨rest, hrow, -⟩
    rw [Block.firstWord, hrow, List.takeWhile_append_of_pos (by decide)] at word
    exact hend (by rw [← word]; rfl)
  obtain ⟨tokens, htokens, hrole⟩ := Block.role_of_complete (lineFeed_row hs) (carriageReturn_row hs)
    hs.begins hs.complete he
  rw [← List.map_cons, List.getLast?_map, Option.any_map] at last
  have colon : (first :: others).getLast?.any (·.isOp ":") = true := last
  rw [hvisible, if_pos colon] at hrole
  refine ⟨tokens, htokens, hrole.trans ?_⟩
  rw [← clause, word]
  simp

/-! ## Parts of sections -/

variable {place : Place}

theorem row_ne_nil (hs : Section code) : row code ≠ [] := by
  obtain ⟨c, u, hrow, -⟩ := hs.begins.terminal
  simp [hrow]

/-- The part of a section is decided by what it is taken for. -/
theorem sectionPart_section {clause : Option Text} {header : Option Nat} (hs : Section code)
    (ht : IsTaken code (.statements clause header)) (hh : header = none ∨ header = some 0) :
    Template.sectionPart .blocking (depth + (if clause.isSome then 1 else 0)) place (inner code) =
      .ok (some (.code depth place.line [row code]),
        if header.isSome then depth + 1 else depth) := by
  obtain ⟨tokens, htokens, hrole⟩ := ht
  have layout := Layout.ofCode_inner code place.column hs.lineFeed hs.carriageReturn (row_ne_nil hs)
  unfold Template.sectionPart
  simp only [layout, htokens, hrole, Nat.add_zero]
  cases clause <;> rcases hh with rfl | rfl <;> simp

theorem sectionPart_simple (hs : Section code) (he : ¬Block.IsEnd (row code))
    (hw : Block.firstWord (row code) ∉ Block.clauseKeywords)
    (h : clause? depth rows code = some (.simple stmts)) :
    Template.sectionPart .blocking depth place (inner code) =
      .ok (some (.code depth place.line [row code]), depth) := by
  have taken := isTaken_simple hs he h
  rw [if_neg hw] at taken
  exact sectionPart_section hs taken (.inl rfl)

theorem sectionPart_head (hs : Section code) (hb : blanks code = [])
    (h : clause? depth rows code = some (.opened start head [])) (hc : head.isClause = false) :
    Template.sectionPart .blocking depth place (inner code) =
      .ok (some (.code depth place.line [row code]), depth + 1) := by
  have taken := isTaken_opened hs h
  rw [hc, hb] at taken
  exact sectionPart_section hs taken (.inr rfl)

theorem sectionPart_clause (hs : Section code) (hb : blanks code = [])
    (h : clause? depth rows code = some (.opened start head [])) (hc : head.isClause = true) :
    Template.sectionPart .blocking (depth + 1) place (inner code) =
      .ok (some (.code depth place.line [row code]), depth + 1) := by
  have taken := isTaken_opened hs h
  rw [hc, hb] at taken
  exact sectionPart_section hs taken (.inr rfl)

/-- The section that ends a block. -/
theorem sectionPart_end : Template.sectionPart .blocking (depth + 1) place (inner "end") =
    .ok (none, depth) := by
  have hrow : row "end" = "end" := by decide
  have layout := Layout.ofCode_inner "end" place.column (by decide) (by decide)
    (by rw [hrow]; decide)
  have tokens : ∃ tokens, tokenize [("end" : Text)] = .ok tokens ∧ Block.role tokens = .close :=
    ⟨_, rfl, by decide⟩
  obtain ⟨tokens, htokens, hrole⟩ := tokens
  unfold Template.sectionPart
  simp only [layout, hrow, htokens, hrole]
  rfl

end Tree

end Stencil
