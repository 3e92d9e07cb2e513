import Mathlib.Data.List.Infix
import Stencil.Proofs.Template.Capture
import Stencil.Proofs.Template.Layout

/-!
# The course of parts

Parts follow one another down a template. Literal text and code take turns: code comes below the
literal text before it or on its last line, and the next literal text comes below the code or on its
last line. Code stands inside as many blocks as the literal text before it or inside one less, and a
head at its end is not indented and opens one block for the literal text behind it.

## Main definitions

* `Text.Paired` — a text in which no carriage return stands alone.
* `Part.IsLaid` — rows of code as they are laid out.
* `Course` — parts from literal text on a line inside blocks on.

## Main results

* `Layout.length_rows_le` — a section has no more rows than lines.
* `Template.course_of_partsFrom` — the parts of a template run such a course.
-/

namespace Stencil

open Script

namespace Text

variable {t u row : Text}

/-- Every carriage return is followed by a line feed. -/
def Paired (t : Text) : Prop :=
  ∀ before after, t = before ++ (13 : CodePoint) :: after → after.head? = some 10

instance (t : Text) : Decidable t.Paired :=
  decidable_of_iff (∀ u ∈ t.tails, u.head? = some 13 → u.tail.head? = some 10) <| by
    refine ⟨fun h before after he => ?_, fun h u hu hc => ?_⟩
    · exact h (13 :: after) ((List.mem_tails _ _).2 ⟨before, he.symm⟩) rfl
    · obtain ⟨before, he⟩ := (List.mem_tails _ _).1 hu
      cases u with
      | nil => cases hc
      | cons c after => exact h before after (by rw [← he, Option.some.inj hc])

theorem Paired.right (h : (t ++ u).Paired) : u.Paired := by
  rintro before after rfl
  exact h (t ++ before) after (List.append_assoc ..).symm

/-- A text may be cut off between the two. -/
theorem Paired.left (h : (t ++ u).Paired) {before after : Text}
    (ht : t = before ++ (13 : CodePoint) :: after) : after = [] ∨ after.head? = some 10 := by
  cases after with
  | nil => exact .inl rfl
  | cons c after =>
    exact .inr (h before (c :: (after ++ u)) (by rw [ht, List.append_assoc]; rfl))

theorem notMem_unifyLineEnds (t : Text) : (13 : CodePoint) ∉ t.unifyLineEnds := by
  fun_induction unifyLineEnds t with
  | case1 => exact List.not_mem_nil
  | case2 rest ih => simpa using ih
  | case3 rest _ ih => simpa using ih
  | case4 c rest _ other ih =>
    rw [List.mem_cons, not_or]
    exact ⟨fun he => other he.symm, ih⟩

/-- A carriage return alone at the end makes one more row, which is empty. -/
theorem lineFeeds_unifyLineEnds
    (h : ∀ before after : Text, t = before ++ (13 : CodePoint) :: after →
      after = [] ∨ after.head? = some 10) :
    t.unifyLineEnds.lineFeeds = t.lineFeeds ∨
      t.unifyLineEnds.lineFeeds = t.lineFeeds + 1 ∧ t.unifyLineEnds.getLast? = some 10 := by
  have more (x : Text) {v w : Text} {c : CodePoint} (hx : Text.lineFeeds x = Text.lineFeeds [c])
      (ih : v.lineFeeds = w.lineFeeds ∨ v.lineFeeds = w.lineFeeds + 1 ∧ v.getLast? = some 10) :
      Text.lineFeeds (c :: v) = Text.lineFeeds (x ++ w) ∨
        Text.lineFeeds (c :: v) = Text.lineFeeds (x ++ w) + 1 ∧ (c :: v).getLast? = some 10 := by
    have front : Text.lineFeeds (c :: v) = Text.lineFeeds x + v.lineFeeds := by
      rw [hx, ← lineFeeds_append]
      rfl
    rw [front, lineFeeds_append]
    rcases ih with ih | ⟨ih, last⟩
    · exact .inl (by rw [ih])
    · exact .inr ⟨by rw [ih, Nat.add_assoc], by simp [List.getLast?_cons, last]⟩
  fun_induction unifyLineEnds t with
  | case1 => exact .inl rfl
  | case2 rest ih =>
    exact more [13, 10] rfl
      (ih fun before after he => h (13 :: 10 :: before) after (by rw [he]; rfl))
  | case3 rest other ih =>
    rcases h [] rest rfl with rfl | he
    · exact .inr ⟨rfl, rfl⟩
    · cases rest with
      | nil => cases he
      | cons c rest => exact (other rest (congrArg (· :: rest) (Option.some.inj he))).elim
  | case4 c rest _ _ ih =>
    exact more [c] rfl
      (ih fun before after he => h (c :: before) after (by rw [he]; rfl))

theorem mem_of_mem_rows {c : CodePoint} (h : row ∈ rows t) (hc : c ∈ row) : c ∈ t := by
  obtain ⟨before, after, he⟩ := List.append_of_mem h
  rw [← joinRows_rows t, he, joinRows_split]
  exact List.mem_append_right _ ((prefix_joinRows row after).subset hc)

end Text

/-! ## Rows of a section -/

namespace Layout

variable {code row : Text} {column : Nat}

theorem notMem_return (h : row ∈ (ofCode code column).rows) : (13 : CodePoint) ∉ row := by
  obtain ⟨margin, before, kept, after, -, split, -, -, rows_eq⟩ := ofCode_block code column
  rw [rows_eq] at h
  obtain ⟨u, hu, rfl⟩ := List.mem_map.1 h
  have hu : u ∈ laid code column := by
    rw [split]
    exact List.mem_append_left _ (List.mem_append_right _ hu)
  intro hm
  have found := Text.mem_of_mem_rows hu (List.mem_of_mem_drop ((Text.stripEnd_prefix _).subset hm))
  rcases List.mem_append.1 found with hm | hm
  · exact absurd (List.mem_replicate.1 hm).2 (by decide)
  · exact Text.notMem_unifyLineEnds code hm

theorem isBlank_end (h : (ofCode code column).rows.head? = some row ∨
    (ofCode code column).rows.getLast? = some row) : row.isBlank = false := by
  rw [ofCode_eq] at h
  exact isBlank_end_trim h

/-- The rows of a section, with those dropped before them, are no more than its lines, also where a
delimiter parts a carriage return from its line feed. -/
theorem length_rows_le (h : ∀ before after : Text, code = before ++ (13 : CodePoint) :: after →
      after = [] ∨ after.head? = some 10) (hne : (ofCode code column).rows ≠ []) :
    (ofCode code column).skipped + (ofCode code column).rows.length ≤ code.lineFeeds + 1 := by
  obtain ⟨margin, before, kept, after, -, split, skipped, -, rows_eq⟩ := ofCode_block code column
  have whole : (laid code column).length = code.unifyLineEnds.lineFeeds + 1 := by
    rw [laid, Text.length_rows, Text.lineFeeds_append,
      Terminals.Scan.lineFeeds_of_notMem (by simp), Nat.zero_add]
  have parts := congrArg List.length split
  rw [whole, List.length_append, List.length_append, skipped] at parts
  have length : (ofCode code column).rows.length = kept.length := by rw [rows_eq, List.length_map]
  rcases Text.lineFeeds_unifyLineEnds h with same | ⟨more, last⟩
  · omega
  · -- the empty row at the end is dropped
    have dropped : after ≠ [] := by
      rintro rfl
      obtain ⟨v, hv⟩ := List.getLast?_eq_some_iff.1 last
      have ends : (laid code column).getLast? = some [] := by
        rw [laid, hv, ← List.append_assoc, Text.rows_append_lineFeed]
        exact List.getLast?_concat
      have some_ : kept ≠ [] := fun he => hne (by rw [rows_eq, he]; rfl)
      rw [split, List.append_nil, List.getLast?_append_of_ne_nil _ some_] at ends
      have blank : (ofCode code column).rows.getLast? = some [] := by
        rw [rows_eq, List.getLast?_map, ends]
        simp [Text.stripEnd]
      exact absurd (isBlank_end (.inr blank)) (by decide)
    have := List.length_pos_iff.2 dropped
    omega

end Layout

/-- Rows as they are laid out, of one line each: the first of them is not blank, and a blank one is
empty. -/
structure Part.IsLaid (rows : List Text) : Prop where
  ne : rows ≠ []
  feeds : ∀ row ∈ rows, (10 : CodePoint) ∉ row
  returns : ∀ row ∈ rows, (13 : CodePoint) ∉ row
  empties : ∀ row ∈ rows, row.isBlank = true → row = []
  begun : ∀ row ∈ rows.head?, row.isBlank = false

theorem Origin.isBlank_awaited {row u : Text} (h : row.isBlank = false) (hu : Awaited row u) :
    u.isBlank = false := by
  cases hu with
  | same => exact h
  | await =>
    rw [Text.isBlank, List.all_append, List.all_append]
    exact (congrArg (· && _) (Bool.and_false _)).trans (Bool.false_and _)

/-- The rows emitted for a section are laid out. -/
theorem Part.isLaid_emitted (mode : Mode) {code : Text} {column : Nat}
    (tokens : List Token) (hne : (Layout.ofCode code column).rows ≠ []) :
    IsLaid (Template.emitted mode (Layout.ofCode code column).rows tokens) := by
  have awaited := Origin.awaited_emitted mode (Layout.ofCode code column).rows tokens
  refine ⟨fun he => ?_, Origin.forall_notMem_awaited (by decide) awaited fun row =>
    Layout.notMem_of_mem_rows, Origin.forall_notMem_awaited (by decide) awaited fun row =>
    Layout.notMem_return, Origin.forall_eq_nil_of_awaited awaited fun row =>
    Layout.eq_nil_of_isBlank, fun u hu => ?_⟩
  · rw [he] at awaited
    exact hne (List.forall₂_nil_right_iff.1 awaited)
  · have begun (row : Text) (h : (Layout.ofCode code column).rows.head? = some row) :=
      Layout.isBlank_end (.inl h)
    generalize (Layout.ofCode code column).rows = rows at awaited begun hu
    generalize Template.emitted mode rows tokens = us at awaited hu
    cases awaited with
    | nil => cases hu
    | cons first _ =>
      obtain rfl := Option.some.inj hu
      exact Origin.isBlank_awaited (begun _ rfl) first

/-- Awaited inclusions leave the header of a section where it is. -/
theorem Template.tokenize_emitted (mode : Mode) {rows : List Text} {tokens : List Token}
    (h : tokenize rows = .ok tokens) :
    ∃ ts, tokenize (emitted mode rows tokens) = .ok ts ∧
      Block.headerColumn? ts = Block.headerColumn? tokens := by
  cases mode with
  | blocking => exact ⟨tokens, h, rfl⟩
  | suspending =>
    obtain ⟨cs, sublist, words, places⟩ :=
      includeCalls_eq none (tokens.filter Token.significant)
    obtain ⟨ts, tokenized, header, -⟩ := tokenize_awaitCalls h places sublist words
    exact ⟨ts, tokenized, header⟩

/-! ## Parts -/

/-- Parts that begin with literal text on a line inside `depth` blocks. -/
inductive Course : (depth line : Nat) → List Part → Prop where
  | last {depth line : Nat} {t : Text} : Course depth line [.literal depth line t]
  /-- Nothing is emitted for the section between two literals. -/
  | literal {depth line depth' line' : Nat} {t : Text} {parts : List Part}
      (below : line + t.lineFeeds ≤ line') (after : Course depth' line' parts) :
      Course depth line (.literal depth line t :: parts)
  | code {depth line depth' line' outer start : Nat} {t : Text} {rows : List Text}
      {tokens : List Token} {parts : List Part} (laid : Part.IsLaid rows)
      (tokenized : tokenize rows = .ok tokens) (below : line + t.lineFeeds ≤ start)
      (within : depth ≤ outer + 1) (ends : start + rows.length ≤ line' + 1)
      (header : ∀ n, Block.headerColumn? tokens = some n → n = 0 ∧ depth' = outer + 1)
      (after : Course depth' line' parts) :
      Course depth line (.literal depth line t :: .code outer start rows :: parts)

namespace Template

variable {d : Delimiters} {mode : Mode} {depth depth' : Nat} {place : Place} {code : Text}

/-- What is emitted for a section, and how the blocks around it change. -/
theorem exists_of_sectionPart {part : Part}
    (h : sectionPart mode depth place code = .ok (some part, depth')) :
    ∃ outer tokens, (Layout.ofCode code place.column).rows ≠ [] ∧
      tokenize (Layout.ofCode code place.column).rows = .ok tokens ∧
      part = .code outer (place.line + (Layout.ofCode code place.column).skipped)
        (emitted mode (Layout.ofCode code place.column).rows tokens) ∧
      depth ≤ outer + 1 ∧
      ∀ n, Block.headerColumn? tokens = some n → n = 0 ∧ depth' = outer + 1 := by
  rcases hr : (Layout.ofCode code place.column).rows with _ | ⟨firstRow, others⟩
  · obtain ⟨hn, -⟩ | ⟨tokens, -, -, hne, -⟩ := sectionPart_eq_ok rfl h
    · cases hn
    · exact absurd hr hne
  · rw [sectionPart_of_rows rfl hr, hr] at h
    cases ht : tokenize (firstRow :: others) with
    | error e => simp [ht] at h
    | ok tokens =>
      simp only [ht] at h
      by_cases he : Block.isEnd tokens
      · rw [if_pos he] at h
        by_cases hd : depth = 0 <;> simp [hd] at h
      · rw [if_neg he] at h
        refine ⟨if (Block.continuation? tokens).isSome then depth - 1 else depth, tokens,
          List.cons_ne_nil _ _, rfl, ?_⟩
        revert h
        rcases Block.continuation? tokens with _ | keyword <;> rcases depth with _ | depth <;>
          rcases Block.headerColumn? tokens with _ | _ | column <;> intro h <;>
          simp only [reduceCtorEq, Except.ok.injEq, Prod.mk.injEq, Option.some.injEq] at h <;>
          obtain ⟨rfl, rfl⟩ := h <;> simp [emitted]

/-- The parts of a template run such a course. -/
theorem course_of_partsFrom {segments : Segments} {parts : List Part}
    (h : partsFrom d mode depth place segments = .ok parts)
    (paired : (segments.text d).Paired) : Course depth place.line parts := by
  induction segments generalizing depth place parts with
  | last literal =>
    unfold partsFrom at h
    split at h
    · obtain rfl := Except.ok.inj h
      exact .last
    · simp at h
  | unclosed => simp [partsFrom] at h
  | next literal code rest ih =>
    simp only [partsFrom] at h
    split at h
    · simp at h
    · rename_i part depth' hsection
      split at h
      · simp at h
      · rename_i others hothers
        obtain rfl := Except.ok.inj h
        rw [Segments.text, List.append_assoc, List.append_assoc, List.append_assoc] at paired
        have after := ih hothers paired.right.right.right.right
        have opened : place.line + literal.lineFeeds ≤
            ((place.after literal).after d.start).line := by
          rw [Place.line_after, Place.line_after]
          exact Nat.le_add_right _ _
        generalize (place.after literal).after d.start = codePlace at hsection after opened
        have closed : codePlace.line + code.lineFeeds ≤
            ((codePlace.after code).after d.stop).line := by
          rw [Place.line_after _ d.stop, Place.line_after _ code]
          exact Nat.le_add_right _ _
        cases part with
        | none => exact .literal (by omega) after
        | some part =>
          obtain ⟨outer, tokens, hne, ht, rfl, within, header⟩ := exists_of_sectionPart hsection
          obtain ⟨ts, tokenized, same⟩ := tokenize_emitted mode ht
          have fits := Layout.length_rows_le (fun before after => paired.right.right.left) hne
          have awaited :=
            Origin.awaited_emitted mode (Layout.ofCode code codePlace.column).rows tokens
          have length := awaited.length_eq
          exact .code (Part.isLaid_emitted mode tokens hne) tokenized (by omega) within
            (by omega) (fun n hn => header n (same ▸ hn)) after

/-- The parts of a template begin with literal text on the first line. -/
theorem course_of_parts {text : Text} {ps : List Part} (h : parts d mode text = .ok ps)
    (paired : text.Paired) : Course 0 1 ps := by
  refine course_of_partsFrom h ?_
  rwa [Segments.ofText, Segments.text_scan]

end Template

end Stencil
