import Stencil.Proofs.Script.Extent
import Stencil.Proofs.Template.Capture
import Stencil.Proofs.Template.Layout

/-!
# Strings in code sections

The rows of a section are moved and stripped without regard to its tokens, so a string over several
rows changes with them: every row of it but the last loses the blanks at its end, and the rows after
the first have the indentation of the blocks instead of the margin of the section. A string on one
row stays what it is.

## Main definitions

* `BodyString` — a string of a body and where it comes from.
* `BodyString.written`, `BodyString.emitted` — the string in the template, and in the body.
* `BodyString.Kept` — no row of the string is touched.
* `Template.bodyStrings` — the strings of the body of a template.

## Main results

* `Template.strings_of_compile` — the strings of a body, and which of them are as they are written.
-/

namespace Stencil

open Script

/-! ## Rows with the blanks at their ends -/

namespace Text

theorem stripEnd_cons (c : CodePoint) (t : Text) :
    stripEnd (c :: t) =
      if stripEnd t = [] then if CodePoint.isSpace c then [] else [c] else c :: stripEnd t := by
  rw [stripEnd]
  cases stripEnd t <;> rfl

theorem stripEnd_append {u : Text} (h : stripEnd u ≠ []) (t : Text) :
    stripEnd (t ++ u) = t ++ stripEnd u := by
  induction t with
  | nil => rfl
  | cons c t ih =>
    have longer : t ++ stripEnd u ≠ [] := fun he => h (List.append_eq_nil_iff.1 he).2
    rw [List.cons_append, stripEnd_cons, ih, if_neg longer, List.cons_append]

theorem stripEnd_drop (t : Text) (n : Nat) : stripEnd (t.drop n) = (stripEnd t).drop n := by
  induction t generalizing n with
  | nil => rw [List.drop_nil]; exact List.drop_nil.symm
  | cons c t ih =>
    cases n with
    | zero => rfl
    | succ n =>
      rw [List.drop_succ_cons, ih, stripEnd_cons]
      by_cases ht : stripEnd t = []
      · rw [if_pos ht, ht, List.drop_nil]
        split
        · rfl
        · rw [List.drop_succ_cons, List.drop_nil]
      · rw [if_neg ht, List.drop_succ_cons]

theorem stripEnd_of_getLast? {t : Text} {c : CodePoint} (h : t.getLast? = some c)
    (hc : CodePoint.isSpace c = false) : stripEnd t = t := by
  obtain ⟨u, rfl⟩ := List.getLast?_eq_some_iff.1 h
  have last : stripEnd [c] = [c] := by simp [stripEnd, hc]
  rw [stripEnd_append (by simp [last]), last]

theorem stripEnd_stripEnd (t : Text) : stripEnd (stripEnd t) = stripEnd t := by
  induction t with
  | nil => rfl
  | cons c t ih =>
    rw [stripEnd_cons]
    split
    · by_cases hc : CodePoint.isSpace c = true <;> simp [hc, stripEnd]
    · rename_i ht
      rw [stripEnd_cons, ih, if_neg ht]

end Text

/-! ## Strings of the rows of a layout -/

namespace Layout

/-- The width of the margin that the rows of code share. -/
def width (code : Text) (column : Nat) : Nat :=
  ((Text.commonMargin (laid code column)).getD []).length

/-- The place before code is laid out that becomes a place of its layout. -/
def unlaid (code : Text) (column : Nat) (p : Pos) : Pos :=
  ⟨p.row + (ofCode code column).skipped, p.column + width code column⟩

/-- A row without a margin and without the blanks at its end. -/
def bare (width : Nat) (row : Text) : Text := Text.stripEnd (row.drop width)

/-- A text over several rows after they lose a margin and the blanks at their ends and are
indented. Its first row begins inside a row and so has no margin. -/
def relaid (depth width : Nat) (t : Text) : Text :=
  match Text.rows t with
  | [] => []
  | first :: others =>
    Text.joinRows (Text.stripEnd first ::
      others.map fun row => Part.indentRow depth (bare width row))

theorem rows_ofCode (code : Text) (column : Nat) :
    ∃ before after, before.length = (ofCode code column).skipped ∧
      (laid code column).map (bare (width code column)) =
        before ++ ((ofCode code column).rows ++ after) := by
  have whole : ofCode code column = trim ((laid code column).map (bare (width code column))) :=
    congrArg trim (map_dedent (laid code column))
  rw [whole]
  generalize (laid code column).map (bare (width code column)) = rs
  refine ⟨rs.take (trim rs).skipped, (rs.drop (trim rs).skipped).drop (trim rs).rows.length, ?_, ?_⟩
  · exact List.length_take_of_le (List.takeWhile_prefix _).length_le
  · calc rs
        = rs.take (trim rs).skipped ++ rs.drop (trim rs).skipped := (List.take_append_drop _ _).symm
      _ = rs.take (trim rs).skipped ++
            ((rs.drop (trim rs).skipped).take (trim rs).rows.length ++
              (rs.drop (trim rs).skipped).drop (trim rs).rows.length) := by
          rw [List.take_append_drop _ (rs.drop (trim rs).skipped)]
      _ = _ := by rw [← rows_trim rs]

theorem isSpace_mark {q : Quote} (h : q.IsMark) : CodePoint.isSpace q.mark = false := by
  rcases h with h | h <;> rw [h] <;> rfl

theorem stripEnd_of_endsInMark {t : Text} (h : EndsInMark t) : Text.stripEnd t = t := by
  obtain ⟨q, hq, hl⟩ := h
  exact Text.stripEnd_of_getLast? hl (isSpace_mark hq)

theorem not_isBlank_of_endsInMark {t : Text} (h : EndsInMark t) : t.isBlank ≠ true := by
  obtain ⟨q, hq, hl⟩ := h
  intro hb
  have blank := List.all_eq_true.1 hb _ (List.mem_of_getLast? hl)
  simp [isSpace_mark hq] at blank

/-- The last row of a text that ends in a quote ends in it. -/
theorem endsInMark_last {rs : List Text} {t : Text} (hne : rs ≠ [])
    (h : EndsInMark (Text.joinRows (rs ++ [t]))) : EndsInMark t := by
  obtain ⟨q, hq, hl⟩ := h
  refine ⟨q, hq, ?_⟩
  rw [Text.joinRows_concat hne] at hl
  cases t with
  | nil =>
    have feed : 10 = q.mark := by simpa using hl
    rcases hq with h | h <;> simp [h] at feed
  | cons c t => rwa [List.getLast?_append, List.getLast?_cons_cons, Option.or_of_isSome (by simp)] at hl

theorem relaid_of_notMem {depth width : Nat} {t : Text} (h : (10 : CodePoint) ∉ t)
    (hm : EndsInMark t) : relaid depth width t = t := by
  rw [relaid, Terminals.Scan.rows_of_notMem h]
  exact stripEnd_of_endsInMark hm

theorem reindent_joinRows {depth : Nat} {first : Text} {others : List Text}
    (h : ∀ row ∈ first :: others, (10 : CodePoint) ∉ row) :
    Part.reindent depth (Text.joinRows (first :: others)) = Text.joinRows (first ::
      others.map fun row => if row = [] then [] else Part.indent depth ++ row) := by
  rw [Part.reindent, Text.rows_joinRows (List.cons_ne_nil _ _) h]

theorem relaid_joinRows {depth width : Nat} {first : Text} {others : List Text}
    (h : ∀ row ∈ first :: others, (10 : CodePoint) ∉ row) :
    relaid depth width (Text.joinRows (first :: others)) = Text.joinRows (Text.stripEnd first ::
      others.map fun row => Part.indentRow depth (bare width row)) := by
  rw [relaid, Text.rows_joinRows (List.cons_ne_nil _ _) h]

theorem indentRow_bare {depth : Nat} {row : Text} (hb : row.isBlank = true → row = []) :
    Part.indentRow depth row = if row = [] then [] else Part.indent depth ++ row := by
  rw [Part.indentRow_eq hb]
  split
  · rename_i h
    rw [h, List.append_nil]
  · rfl

section

variable {width n k : Nat} {row : Text} {whole pre post : List Text} {t : Text}

theorem isPrefix_bare (width : Nat) (row : Text) : bare width row <+: row.drop width :=
  Text.stripEnd_prefix _

theorem notMem_bare (h : (10 : CodePoint) ∉ row) : (10 : CodePoint) ∉ bare width row :=
  fun hm => h (List.mem_of_mem_drop ((isPrefix_bare width row).subset hm))

/-- What is left of a row stands in it to the right of the margin. -/
theorem isPrefix_drop_bare (le : n ≤ (bare width row).length) :
    (bare width row).drop n <+: row.drop (n + width) := by
  obtain ⟨blanks, hb⟩ := isPrefix_bare width row
  rw [Nat.add_comm, ← List.drop_drop, ← hb, List.drop_append_of_le_length le]
  exact List.prefix_append _ _

theorem take_bare (le : n + k ≤ (bare width row).length) :
    (row.drop (n + width)).take k = ((bare width row).drop n).take k := by
  obtain ⟨rest, hrest⟩ := isPrefix_drop_bare (Nat.le_of_add_right_le le)
  have inner : k ≤ ((bare width row).drop n).length := by
    rw [List.length_drop]
    omega
  rw [← hrest, List.take_append_of_le_length inner]

theorem width_le (h : 0 < (bare width row).length) :
    (bare width row).length + width ≤ row.length := by
  have le := (isPrefix_bare width row).length_le
  rw [List.length_drop] at le
  omega

theorem exists_of_map_bare (h : whole.map (bare width) = pre ++ t :: post) :
    ∃ front row back, whole = front ++ row :: back ∧ front.map (bare width) = pre ∧
      bare width row = t ∧ back.map (bare width) = post := by
  obtain ⟨front, others, rfl, hfront, hothers⟩ := List.map_eq_append_iff.1 h
  obtain ⟨row, back, rfl, hrow, hback⟩ := List.map_eq_cons_iff.1 hothers
  exact ⟨front, row, back, rfl, hfront, hrow, hback⟩

/-- A string on one row is the same before the row is laid out. -/
theorem spans_within {before after : List Text} (hw : whole.map (bare width) = before ++ t :: after)
    (hk : n + k ≤ t.length) (pos : 0 < k) :
    Spans whole ⟨before.length + 1, n + width⟩ ⟨before.length + 1, n + k + width⟩
      ((t.drop n).take k) := by
  obtain ⟨front, row, back, rfl, rfl, rfl, -⟩ := exists_of_map_bare hw
  have le := width_le (show 0 < (bare width row).length by omega)
  rw [← take_bare hk, List.length_map, Nat.add_right_comm n k]
  exact .within rfl (by omega)

/-- A string over several rows, before the rows are laid out. -/
theorem spans_over {before middle after : List Text} {first last : Text}
    (hw : whole.map (bare width) = before ++ first :: (middle ++ last :: after))
    (hn : n < first.length) (hk : k ≤ last.length) (pos : 0 < k) :
    ∃ row rows end_, row ∈ whole ∧ (∀ r ∈ rows, r ∈ whole) ∧ end_ ∈ whole ∧
      bare width row = first ∧ rows.map (bare width) = middle ∧
      (end_.take (k + width)).drop width = last.take k ∧
      Spans whole ⟨before.length + 1, n + width⟩ ⟨before.length + middle.length + 2, k + width⟩
        (Text.joinRows (row.drop (n + width) :: (rows ++ [end_.take (k + width)]))) := by
  obtain ⟨front, row, back, rfl, rfl, rfl, hback⟩ := exists_of_map_bare hw
  obtain ⟨rows, end_, rest, rfl, rfl, rfl, -⟩ := exists_of_map_bare hback
  have le := width_le (show 0 < (bare width row).length by omega)
  have le' := width_le (show 0 < (bare width end_).length by omega)
  refine ⟨row, rows, end_, by simp, fun r hr => by simp [hr], by simp, rfl, rfl, ?_, ?_⟩
  · rw [List.drop_take, Nat.add_sub_cancel]
    have kept : (end_.drop (0 + width)).take k = ((bare width end_).drop 0).take k :=
      take_bare (by omega)
    rwa [Nat.zero_add] at kept
  · rw [List.length_map, List.length_map]
    exact .across rfl (by omega) (by omega)

/-- Rows of a string that are laid out and then indented. -/
theorem reindent_over {rows : List Text} {end_ last : Text} (hrow : (10 : CodePoint) ∉ row)
    (hrows : ∀ r ∈ rows, (10 : CodePoint) ∉ r) (hend : (10 : CodePoint) ∉ end_)
    (hlast : end_.drop width = last) (mark : EndsInMark last) (depth : Nat) :
    Part.reindent depth
        (Text.joinRows ((bare width row).drop n :: (rows.map (bare width) ++ [last]))) =
      relaid depth width (Text.joinRows (row.drop (n + width) :: (rows ++ [end_]))) := by
  have ending : bare width end_ = last := by
    rw [bare, hlast, stripEnd_of_endsInMark mark]
  have moved : row.drop (n + width) = (row.drop width).drop n := by
    rw [List.drop_drop, Nat.add_comm]
  rw [reindent_joinRows, relaid_joinRows, moved, Text.stripEnd_drop]
  · congr 2
    simp only [List.map_append, List.map_map, List.map_cons, List.map_nil]
    congr 1
    · exact List.map_congr_left fun r hr => (indentRow_bare stripEnd_eq_nil_of_isBlank).symm
    · rw [ending, indentRow_bare fun hb => absurd hb (not_isBlank_of_endsInMark mark)]
  · simp only [List.forall_mem_cons, List.forall_mem_append, List.not_mem_nil, false_imp_iff,
      implies_true, and_true]
    exact ⟨fun hm => hrow (List.mem_of_mem_drop hm), hrows, hend⟩
  · simp only [List.forall_mem_cons, List.forall_mem_append, List.not_mem_nil, false_imp_iff,
      implies_true, and_true, List.forall_mem_map]
    exact ⟨fun hm => notMem_bare hrow (List.mem_of_mem_drop hm),
      fun r hr => notMem_bare (hrows r hr), ending ▸ notMem_bare hend⟩

end

/-- A string of a layout comes from a text that stands where the code is not laid out yet. -/
theorem exists_unlaid {code : Text} {column : Nat} {token : Token}
    (h : Placed (ofCode code column).rows token) :
    ∃ w, Spans (laid code column) (unlaid code column token.start)
        (unlaid code column token.stop) w ∧ Starts w ∧
      ∀ depth, Part.reindent depth token.text = relaid depth (width code column) w := by
  obtain ⟨pre, post, hpre, hrows⟩ := rows_ofCode code column
  have feeds : ∀ row ∈ laid code column, (10 : CodePoint) ∉ row :=
    fun row => Text.notMem_of_mem_rows
  have flats : ∀ row ∈ (ofCode code column).rows, (10 : CodePoint) ∉ row :=
    fun row => notMem_of_mem_rows
  obtain ⟨spans, starts, mark⟩ := h
  unfold unlaid
  rw [← hpre]
  revert hrows feeds flats spans starts mark
  generalize (ofCode code column).rows = rows
  generalize laid code column = whole
  generalize width code column = width
  generalize token.start = start
  generalize token.stop = stop
  generalize token.text = text
  intro hrows feeds flats spans starts mark
  cases spans with
  | @within before after t n k hr hk =>
    subst hr
    have parted : whole.map (bare width) = (pre ++ before) ++ t :: (after ++ post) := by
      rw [hrows, List.append_assoc, List.append_assoc, List.cons_append]
    have pos : 0 < k := by
      rw [Nat.pos_iff_ne_zero]
      rintro rfl
      exact starts.ne_nil rfl
    have place := spans_within parted hk pos
    rw [List.length_append, Nat.add_comm pre.length, Nat.add_right_comm] at place
    have flat : (10 : CodePoint) ∉ (t.drop n).take k := fun hm =>
      flats t (by simp) (List.mem_of_mem_drop (List.mem_of_mem_take hm))
    refine ⟨_, place, starts, fun depth => ?_⟩
    rw [Part.reindent_of_notMem flat, relaid_of_notMem flat mark]
  | @across before middle after first last n k hr hn hk =>
    subst hr
    have parted : whole.map (bare width) =
        (pre ++ before) ++ first :: (middle ++ last :: (after ++ post)) := by
      rw [hrows]
      simp only [List.append_assoc, List.cons_append]
    rw [← List.cons_append] at mark
    have ended := endsInMark_last (List.cons_ne_nil _ _) mark
    have pos : 0 < k := by
      rw [Nat.pos_iff_ne_zero]
      rintro rfl
      obtain ⟨q, -, hq⟩ := ended
      simp at hq
    have begun : Starts (first.drop n) := by
      refine starts.of_prefix (Text.prefix_joinRows _ _) fun he => ?_
      have length := congrArg List.length he
      rw [List.length_drop, List.length_nil] at length
      omega
    obtain ⟨row, rows, end_, hrow, hmiddle, hend, rfl, rfl, hlast, place⟩ :=
      spans_over parted hn hk pos
    have first_ : (pre ++ before).length + 1 = before.length + 1 + pre.length := by
      rw [List.length_append]
      omega
    have last_ : (pre ++ before).length + (rows.map (bare width)).length + 2 =
        before.length + (rows.map (bare width)).length + 2 + pre.length := by
      rw [List.length_append]
      omega
    rw [first_, last_] at place
    refine ⟨_, place, ?_, fun depth => ?_⟩
    · exact begun.mono ((isPrefix_drop_bare (Nat.le_of_lt hn)).trans (Text.prefix_joinRows _ _))
    · exact reindent_over (feeds row hrow) (fun r hr => feeds r (hmiddle r hr))
        (fun hm => feeds end_ hend (List.mem_of_mem_take hm)) hlast ended depth

/-- A string of a layout, indented by the blocks around it, is made of what stands before the code
is laid out. -/
theorem reindent_placed {code : Text} {column : Nat} {token : Token} (depth : Nat)
    (h : Placed (ofCode code column).rows token) :
    Part.reindent depth token.text = relaid depth (width code column)
      (textBetween (laid code column) (unlaid code column token.start)
        (unlaid code column token.stop)) := by
  obtain ⟨w, spans, -, same⟩ := exists_unlaid h
  rw [spans.textBetween_eq, same]

theorem infix_of_blanks {n : Nat} {t u before after : Text} (h : Starts t)
    (he : List.replicate n (32 : CodePoint) ++ u = before ++ (t ++ after)) : t <:+: u := by
  induction n generalizing before with
  | zero => exact ⟨before, after, by rw [List.append_assoc]; exact he.symm⟩
  | succ n ih =>
    cases before with
    | nil =>
      obtain ⟨c, hc, hgap⟩ := h
      have head : (t ++ after).head? = some 32 := by
        rw [← List.nil_append (t ++ after), ← he]
        rfl
      rw [List.head?_append, hc] at head
      obtain rfl : c = 32 := Option.some.inj head
      simp [isGap] at hgap
    | cons b before => exact ih (List.cons.inj he).2

/-- Where a string of a layout comes from is part of the code. -/
theorem infix_of_placed {code : Text} {column : Nat} {token : Token}
    (h : Placed (ofCode code column).rows token) :
    textBetween (laid code column) (unlaid code column token.start) (unlaid code column token.stop) <:+:
      Text.unifyLineEnds code := by
  obtain ⟨w, spans, starts, -⟩ := exists_unlaid h
  rw [spans.textBetween_eq]
  have part := spans.isInfix
  rw [laid, Text.joinRows_rows] at part
  obtain ⟨before, after, he⟩ := part
  exact infix_of_blanks starts (by rw [← he, List.append_assoc])

/-! ## Strings that stay as they are -/

/-- No row of a text has blanks at its end, and a row after the first is empty or begins with the
indentation of the blocks, which is as wide as the margin of the section. -/
structure Untouched (depth width : Nat) (t : Text) : Prop where
  first : ∀ row ∈ (Text.rows t).head?, Text.stripEnd row = row
  others : ∀ row ∈ (Text.rows t).tail, row = [] ∨
    width = 4 * depth ∧ Part.indent depth <+: row ∧ Text.stripEnd row = row

theorem indentRow_bare_eq_self_iff {depth width : Nat} {row : Text} :
    Part.indentRow depth (bare width row) = row ↔ row = [] ∨
      width = 4 * depth ∧ Part.indent depth <+: row ∧ Text.stripEnd row = row := by
  have length : (Part.indent depth).length = 4 * depth := List.length_replicate
  constructor
  · intro h
    by_cases hb : (bare width row).isBlank = true
    · rw [Part.indentRow, if_pos hb] at h
      exact .inl h.symm
    · rw [Part.indentRow, if_neg hb] at h
      have ne : bare width row ≠ [] := fun he => hb (by rw [he]; rfl)
      have strip : Text.stripEnd row = row := by
        rw [← h, Text.stripEnd_append] <;> rw [bare, Text.stripEnd_stripEnd]
        exact ne
      have rest : bare width row = row.drop width := by rw [bare, Text.stripEnd_drop, strip]
      have pos := List.length_pos_of_ne_nil ne
      have whole := congrArg List.length h
      rw [List.length_append, length] at whole
      rw [rest, List.length_drop] at pos whole
      exact .inr ⟨by omega, ⟨_, h⟩, strip⟩
  · rintro (rfl | ⟨rfl, ⟨rest, rfl⟩, strip⟩)
    · simp [bare, Text.stripEnd, Part.indentRow, Text.isBlank]
    · have kept : bare (4 * depth) (Part.indent depth ++ rest) = rest := by
        rw [bare, Text.stripEnd_drop, strip, ← length, List.drop_left]
      rw [kept, Part.indentRow]
      split
      · rename_i hb
        rw [← strip]
        refine (stripEnd_eq_nil fun c hc => ?_).symm
        rcases List.mem_append.1 hc with hc | hc
        · rw [List.eq_of_mem_replicate hc]
          rfl
        · exact List.all_eq_true.1 hb c hc
      · rfl

/-- A text stays as it is if and only if it is untouched. -/
theorem relaid_eq_self_iff {depth width : Nat} {t : Text} :
    relaid depth width t = t ↔ Untouched depth width t := by
  have feeds := fun row => @Text.notMem_of_mem_rows t row
  have joined := Text.joinRows_rows t
  cases hr : Text.rows t with
  | nil => exact absurd hr (Text.splitOn_ne_nil _ t)
  | cons first others =>
    rw [hr] at feeds joined
    have feeds' : ∀ row ∈ Text.stripEnd first ::
        others.map (fun row => Part.indentRow depth (bare width row)), (10 : CodePoint) ∉ row := by
      refine List.forall_mem_cons.2 ⟨fun hm => feeds first List.mem_cons_self
        ((Text.stripEnd_prefix _).subset hm), List.forall_mem_map.2 fun row hrow hm => ?_⟩
      unfold Part.indentRow at hm
      split at hm
      · exact List.not_mem_nil hm
      · rcases List.mem_append.1 hm with hm | hm
        · exact absurd (List.eq_of_mem_replicate hm) (by decide)
        · exact notMem_bare (feeds row (List.mem_cons_of_mem _ hrow)) hm
    have rows_ : relaid depth width t = t ↔ Text.stripEnd first ::
        others.map (fun row => Part.indentRow depth (bare width row)) = first :: others := by
      constructor
      · intro h
        rw [← joined, relaid_joinRows feeds] at h
        have same := congrArg Text.rows h
        rwa [Text.rows_joinRows (List.cons_ne_nil _ _) feeds',
          Text.rows_joinRows (List.cons_ne_nil _ _) feeds] at same
      · intro h
        rw [← joined, relaid_joinRows feeds, h]
    have each : others.map (fun row => Part.indentRow depth (bare width row)) = others ↔
        ∀ row ∈ others, Part.indentRow depth (bare width row) = row := by
      conv_lhs => rhs; rw [← List.map_id others]
      exact List.map_inj_left
    rw [rows_, List.cons.injEq, each]
    constructor
    · rintro ⟨hfirst, hothers⟩
      refine ⟨fun row hrow => ?_, fun row hrow => ?_⟩
      · rw [hr] at hrow
        obtain rfl := Option.some.inj hrow
        exact hfirst
      · rw [hr] at hrow
        exact indentRow_bare_eq_self_iff.1 (hothers row hrow)
    · rintro ⟨hfirst, hothers⟩
      rw [hr] at hfirst hothers
      exact ⟨hfirst first rfl, fun row hrow => indentRow_bare_eq_self_iff.2 (hothers row hrow)⟩

/-- The tokens of the rows of a layout, if they are tokens. -/
def tokens (l : Layout) : List Token := (tokenize l.rows).toOption.getD []

end Layout

/-! ## Strings of a body -/

/-- A string of a body, and where it comes from. -/
inductive BodyString where
  /-- The string that writes a literal. -/
  | literal (text : Text)
  /-- A string of a section that begins at a column of its line and stands inside `depth` blocks.
  It is a token of the layout of the section. -/
  | code (code : Text) (column depth : Nat) (token : Token)

namespace BodyString

/-- The string as the template has it. -/
def written : BodyString → Text
  | literal t => Literal.token t
  | code c column _ token =>
    textBetween (Layout.laid c column) (Layout.unlaid c column token.start)
      (Layout.unlaid c column token.stop)

/-- The string as the body has it. -/
def emitted : BodyString → Text
  | literal t => Literal.token t
  | code c column depth token =>
    Layout.relaid depth (Layout.width c column) (code c column depth token).written

/-- No row of the string is touched. -/
def Kept : BodyString → Prop
  | literal _ => True
  | code c column depth token =>
    Layout.Untouched depth (Layout.width c column) (code c column depth token).written

/-- Exactly the strings that are not touched stay as they are written. -/
theorem emitted_eq_written_iff (q : BodyString) : q.emitted = q.written ↔ q.Kept := by
  cases q with
  | literal t => exact iff_of_true rfl trivial
  | code => exact Layout.relaid_eq_self_iff

end BodyString

namespace Template

variable {d : Delimiters} {mode : Mode}

/-- The strings of a section that stands at a place inside `depth` blocks. -/
def sectionStrings (depth : Nat) (place : Place) (code : Text) : List BodyString :=
  let l := Layout.ofCode code place.column
  match l.kind with
  | .statements continuation _ =>
    (l.tokens.filter (·.kind == .string)).map
      (.code code place.column (if continuation.isSome then depth - 1 else depth))
  | .blank | .untokenizable _ | .close => []

/-- The strings of the body for segments that begin at a place inside `depth` blocks. -/
def bodyStringsFrom (d : Delimiters) (depth : Nat) (place : Place) : Segments → List BodyString
  | .last literal => [.literal literal]
  | .unclosed _ _ => []
  | .next literal code rest =>
    let codePlace := (place.after literal).after d.start
    let depth' := (depth + (Layout.ofCode code codePlace.column).kind.change).toNat
    .literal literal :: (sectionStrings depth codePlace code ++
      bodyStringsFrom d depth' ((codePlace.after code).after d.stop) rest)

/-- The strings of the body of a template. -/
def bodyStrings (d : Delimiters) (text : Text) : List BodyString :=
  bodyStringsFrom d 0 Place.first (Segments.ofText d text)

theorem depth_of_sectionPart {depth depth' : Nat} {place : Place} {code : Text}
    {part : Option Part} (h : sectionPart mode depth place code = .ok (part, depth')) :
    depth' = (depth + (Layout.ofCode code place.column).kind.change).toNat := by
  have known := sectionPart_eq mode depth place code
  cases ho : (Layout.ofCode code place.column).offence? depth with
  | some fault =>
    simp only [ho] at known
    simp [known] at h
  | none =>
    simp only [ho] at known
    obtain ⟨part', depth'', hp, hd⟩ := known
    rw [hp] at h
    obtain ⟨-, rfl⟩ := Prod.mk.inj (Except.ok.inj h)
    rw [← hd, Int.toNat_natCast]

theorem strings_of_brings_literal {depth line : Nat} {t : Text} {us : List Token}
    (h : Brings (.literal depth line t) us) : strings us = [Literal.token t] := by
  obtain ⟨ts, owns, like⟩ := h
  obtain ⟨vs, owns', bare⟩ := Part.owns_literal depth line t
  obtain rfl := owns.unique owns'
  have same : strings ts = strings us := by
    rw [← strings_lasting ts, ← strings_lasting us]
    exact strings_of_like like
  have bares : strings ts = ((ts.map Token.bare).filter (·.1 == .string)).map (·.2) := by
    unfold strings
    rw [List.filter_map, List.map_map]
    rfl
  rw [← same, bares, bare]
  rfl

theorem strings_of_brings_code {depth line : Nat} {rows : List Text} {ts us : List Token}
    (h : Brings (.code depth line rows) us) (owns : (Part.code depth line rows).Owns ts) :
    strings us = (strings ts).map (Part.reindent depth) := by
  obtain ⟨vs, owns', like⟩ := h
  obtain rfl := owns.unique owns'
  rw [← strings_lasting ts, ← strings_lasting us]
  have related := forall₂_strings like
  generalize strings (lasting ts) = vs at related ⊢
  generalize strings (lasting us) = ws at related ⊢
  induction related with
  | nil => rfl
  | cons htu _ ih => rw [List.map_cons, ← ih, ← htu]

/-- The strings of a section in a body. -/
theorem strings_of_section {depth depth' : Nat} {place : Place} {code : Text} {part : Option Part}
    (h : sectionPart mode depth place code = .ok (part, depth'))
    (clear : ∀ ts, tokenize (Layout.ofCode code place.column).rows = .ok ts → Clear ts)
    {uss : List (List Token)} (hb : List.Forall₂ Brings part.toList uss) :
    strings uss.flatten = (sectionStrings depth place code).map BodyString.emitted := by
  obtain ⟨rfl, hk⟩ | ⟨tokens, continuation, opening, hne, ht, hk, rfl⟩ := sectionPart_eq_ok rfl h
  · cases hb
    unfold sectionStrings
    rcases hk with hk | hk <;> simp only [hk] <;> rfl
  · obtain ⟨us, rfl, hus⟩ : ∃ us, uss = [us] ∧ Brings _ us := by
      cases hb with
      | cons hus hnil =>
        cases hnil
        exact ⟨_, rfl, hus⟩
    have feeds : ∀ row ∈ (Layout.ofCode code place.column).rows, (10 : CodePoint) ∉ row :=
      fun row => Layout.notMem_of_mem_rows
    obtain ⟨ts, owns, same⟩ := owns_emitted mode feeds ht (clear tokens ht)
      (if continuation.isSome then depth - 1 else depth)
      (place.line + (Layout.ofCode code place.column).skipped)
    have read : (Layout.ofCode code place.column).tokens = tokens := by
      rw [Layout.tokens, ht]
      rfl
    unfold sectionStrings
    simp only [hk, read]
    rw [List.flatten_singleton, strings_of_brings_code hus owns, same, strings, List.map_map,
      List.map_map]
    refine List.map_congr_left fun token hm => ?_
    obtain ⟨hm, hkind⟩ := List.mem_filter.1 hm
    exact Layout.reindent_placed _ (placed_of_tokenize ht hm (by simpa using hkind))

/-- The strings of parts in a body. -/
theorem strings_of_parts {segments : Segments} {depth : Nat} {place : Place} {parts : List Part}
    (h : partsFrom d mode depth place segments = .ok parts)
    (clear : ∀ l ∈ layoutsFrom d place segments, ∀ ts, tokenize l.rows = .ok ts → Clear ts)
    {uss : List (List Token)} (hb : List.Forall₂ Brings parts uss) :
    strings uss.flatten = (bodyStringsFrom d depth place segments).map BodyString.emitted := by
  induction segments generalizing depth place parts uss with
  | last literal =>
    unfold partsFrom at h
    split at h
    · obtain rfl := Except.ok.inj h
      cases hb with
      | cons hus hnil =>
        cases hnil
        rw [List.flatten_singleton, strings_of_brings_literal hus]
        rfl
    · simp at h
  | unclosed => simp [partsFrom] at h
  | next literal code rest ih =>
    rw [layoutsFrom] at clear
    obtain ⟨hcode, hrest⟩ := List.forall_mem_cons.1 clear
    simp only [partsFrom] at h
    split at h
    · simp at h
    · rename_i part depth' hsection
      split at h
      · simp at h
      · rename_i others hothers
        obtain rfl := Except.ok.inj h
        cases hb with
        | @cons _ us _ uss hus hb =>
          obtain ⟨vss, wss, rfl, hv, hw⟩ : ∃ vss wss, uss = vss ++ wss ∧
              List.Forall₂ Brings part.toList vss ∧ List.Forall₂ Brings others wss :=
            ⟨_, _, (List.take_append_drop _ uss).symm,
              (List.forall₂_take_append _ _ _ hb.flip).flip,
              (List.forall₂_drop_append _ _ _ hb.flip).flip⟩
          have section_ := strings_of_section hsection hcode hv
          have others_ := ih hothers hrest hw
          rw [List.flatten_cons, List.flatten_append, strings_append, strings_append,
            strings_of_brings_literal hus, section_, others_, depth_of_sectionPart hsection]
          simp only [bodyStringsFrom, List.map_cons, List.map_append]
          rfl

theorem mem_sectionStrings {depth : Nat} {place : Place} {code : Text} {q : BodyString}
    (h : q ∈ sectionStrings depth place code) :
    ∃ depth' token, q = .code code place.column depth' token ∧
      Placed (Layout.ofCode code place.column).rows token := by
  unfold sectionStrings at h
  simp only at h
  split at h
  · obtain ⟨token, hm, rfl⟩ := List.mem_map.1 h
    obtain ⟨hm, hkind⟩ := List.mem_filter.1 hm
    refine ⟨_, token, rfl, ?_⟩
    unfold Layout.tokens at hm
    cases ht : tokenize (Layout.ofCode code place.column).rows with
    | error e => simp [ht, Except.toOption] at hm
    | ok ts =>
      rw [ht] at hm
      exact placed_of_tokenize ht hm (by simpa using hkind)
  all_goals exact absurd h List.not_mem_nil

/-- A string of a section is part of its code. -/
theorem written_isInfix {segments : Segments} {depth : Nat} {place : Place} {c : Text}
    {column depth' : Nat} {token : Token}
    (h : .code c column depth' token ∈ bodyStringsFrom d depth place segments) :
    (BodyString.code c column depth' token).written <:+: Text.unifyLineEnds c := by
  induction segments generalizing depth place with
  | last literal => simp [bodyStringsFrom] at h
  | unclosed => simp [bodyStringsFrom] at h
  | next literal code rest ih =>
    simp only [bodyStringsFrom, List.mem_cons, List.mem_append, reduceCtorEq, false_or] at h
    rcases h with h | h
    · obtain ⟨_, _, he, placed⟩ := mem_sectionStrings h
      obtain ⟨rfl, rfl, rfl, rfl⟩ := BodyString.code.inj he
      exact Layout.infix_of_placed placed
    · exact ih h

/-- The strings of the body of a template are those of its literals and sections, in their order,
with the rows of a string over several rows moved like all rows of the section. A string of a
section is part of its code, and it stays as it is written if and only if none of its rows is
touched. -/
theorem strings_of_compile {text : Text} {s : Source} {ts : List Token}
    (h : compile d mode text = .ok s)
    (clear : ∀ l ∈ layouts d text, ∀ us, tokenize l.rows = .ok us → Clear us)
    (ht : tokenize s.rows = .ok ts) :
    strings ts = (bodyStrings d text).map BodyString.emitted ∧
      (∀ c column depth token, .code c column depth token ∈ bodyStrings d text →
        (BodyString.code c column depth token).written <:+: Text.unifyLineEnds c) ∧
      ∀ q ∈ bodyStrings d text, q.emitted = q.written ↔ q.Kept := by
  obtain ⟨parts, uss, hp, -, brings, lasts⟩ := tokens_of_compile h clear ht
  refine ⟨?_, fun c column depth token => written_isInfix, fun q _ => q.emitted_eq_written_iff⟩
  rw [← strings_lasting, lasts, strings_lasting]
  exact strings_of_parts hp clear brings

/-- A string on one row, and a string over two rows whose margin is the indentation of its block. -/
theorem strings_of_compile_block :
    ∃ s ts, compile .standard .blocking
        "%\x7bif x:\x7d%%\x7b\n    'a'\n    '''b\n    c'''\x7d%%\x7bend\x7d%" = .ok s ∧
      tokenize s.rows = .ok ts ∧
      strings ts = ["''", "''", "'a'", "'''b\n    c'''", "''", "''"].map Text.ofString := by
  have known : ∀ l ∈ layouts .standard
      "%\x7bif x:\x7d%%\x7b\n    'a'\n    '''b\n    c'''\x7d%%\x7bend\x7d%",
      ∀ t ∈ l.tokens, t.kind ≠ .unknown := by decide +kernel
  have read : ((compile .standard .blocking
      "%\x7bif x:\x7d%%\x7b\n    'a'\n    '''b\n    c'''\x7d%%\x7bend\x7d%").toOption.bind
        fun s => (tokenize s.rows).toOption).isSome = true := by decide +kernel
  have emitted : (bodyStrings .standard
      "%\x7bif x:\x7d%%\x7b\n    'a'\n    '''b\n    c'''\x7d%%\x7bend\x7d%").map
        BodyString.emitted =
      ["''", "''", "'a'", "'''b\n    c'''", "''", "''"].map Text.ofString := by decide +kernel
  cases hs : compile .standard .blocking
      "%\x7bif x:\x7d%%\x7b\n    'a'\n    '''b\n    c'''\x7d%%\x7bend\x7d%" with
  | error e => simp [hs, Except.toOption] at read
  | ok s =>
    cases ht : tokenize s.rows with
    | error e => simp [hs, ht, Except.toOption] at read
    | ok ts =>
      have strings_ := (strings_of_compile hs (fun l hl us hus => by
        simpa [Layout.tokens, hus, Except.toOption, Clear] using known l hl) ht).1
      exact ⟨s, ts, rfl, ht, strings_.trans emitted⟩

end Template

end Stencil
