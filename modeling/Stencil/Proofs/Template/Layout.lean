import Stencil.Proofs.Text.Rows

/-!
# Layout and margin

The layout of a code section depends on how its rows are indented relative to each other and on
nothing else: it stays as it is when the section stands further to the right, with all of its rows.
The rows lose the margin that they share, the blanks at their ends, and the blank rows at both ends
of the section.

## Main definitions

* `Text.indentRest` — a text whose rows after the first are moved to the right.
* `Text.IsMargin` — what rows are indented by in common.

## Main results

* `Layout.ofCode_block` — which rows of a section are laid out, and what is left of each.
* `Layout.shift_invariant` — layout does not depend on where a section stands.
-/

namespace Stencil

namespace Text

variable {t u m row : Text} {rs : List Text} {c : CodePoint}

/-- The text with spaces at the beginning of every row after the first. -/
def indentRest (k : Nat) (t : Text) : Text :=
  t.flatMap fun c => if c = 10 then 10 :: List.replicate k 32 else [c]

/-- What rows are indented by in common: the longest text of spaces and tabs with which every row
begins that holds more than spaces and tabs. -/
structure IsMargin (m : Text) (rs : List Text) : Prop where
  spaces : ∀ c ∈ m, isTabOrSpace c
  leads : ∀ row ∈ rs, row.all isTabOrSpace = false → m <+: row
  longest : ∀ t : Text, (∀ c ∈ t, isTabOrSpace c) →
    (∀ row ∈ rs, row.all isTabOrSpace = false → t <+: row) →
    (∃ row ∈ rs, row.all isTabOrSpace = false) → t <+: m

/-! ## Rows that are moved -/

theorem rows_indentRest (k : Nat) (t : Text) :
    rows (indentRest k t) =
      (rows t).headD [] :: (rows t).tail.map (List.replicate k 32 ++ ·) := by
  induction t with
  | nil => rfl
  | cons c t ih =>
    have hs := splitOn_ne_nil '\n' t
    rw [indentRest, List.flatMap_cons, ← indentRest]
    by_cases hc : c = 10
    · have free : (10 : CodePoint) ∉ List.replicate k (32 : CodePoint) := by
        simp [List.mem_replicate]
      rw [if_pos hc, List.cons_append, rows_lineFeed, rows_append free, ih, hc, rows_lineFeed]
      cases hr : rows t with
      | nil => exact absurd hr hs
      | cons row others => rfl
    · rw [if_neg hc, List.singleton_append, rows_cons hc, ih, rows_cons hc]
      rfl

/-- Padding the first row as the others are moved moves all rows. -/
theorem rows_padded_indentRest (k column : Nat) (t : Text) :
    rows (List.replicate (column + k) 32 ++ indentRest k t) =
      (rows (List.replicate column 32 ++ t)).map (List.replicate k 32 ++ ·) := by
  have free (n : Nat) : (10 : CodePoint) ∉ List.replicate n (32 : CodePoint) := by
    simp [List.mem_replicate]
  rw [rows_append (free _), rows_append (free _), rows_indentRest, Nat.add_comm column k,
    ← List.replicate_append_replicate, List.append_assoc]
  rfl

theorem notMem_indentRest (h : (13 : CodePoint) ∉ t) (k : Nat) :
    (13 : CodePoint) ∉ indentRest k t := by
  intro hm
  obtain ⟨c, hc, hm⟩ := List.mem_flatMap.1 hm
  split at hm
  · simp [List.mem_replicate] at hm
  · exact h (List.mem_singleton.1 hm ▸ hc)

/-! ## Margins -/

theorem prefix_commonPrefix : m <+: commonPrefix t u ↔ m <+: t ∧ m <+: u := by
  induction t generalizing m u with
  | nil => cases m <;> simp [commonPrefix]
  | cons c t ih =>
    cases u with
    | nil => cases m <;> simp [commonPrefix]
    | cons d u =>
      rw [commonPrefix]
      cases m with
      | nil => simp
      | cons e m =>
        split
        · next hcd => rw [List.cons_prefix_cons, List.cons_prefix_cons, List.cons_prefix_cons, ih, hcd,
            and_and_left]
        · next hcd =>
          rw [List.prefix_nil]
          refine ⟨nofun, fun ⟨ht, hu⟩ => ?_⟩
          obtain ⟨rfl, -⟩ := List.cons_prefix_cons.1 ht
          exact absurd (List.cons_prefix_cons.1 hu).1 hcd

theorem prefix_margin : t <+: margin row ↔ (∀ c ∈ t, isTabOrSpace c) ∧ t <+: row := by
  induction row generalizing t with
  | nil => cases t <;> simp [margin]
  | cons d row ih =>
    cases t with
    | nil => simp
    | cons c t =>
      rw [margin, List.takeWhile_cons, ← margin]
      split
      · next hd =>
        simp only [List.cons_prefix_cons, ih, List.forall_mem_cons]
        constructor
        · rintro ⟨rfl, ht, hp⟩
          exact ⟨⟨hd, ht⟩, rfl, hp⟩
        · rintro ⟨⟨-, ht⟩, rfl, hp⟩
          exact ⟨rfl, ht, hp⟩
      · next hd =>
        simp only [List.prefix_nil, reduceCtorEq, false_iff]
        rintro ⟨hc, hp⟩
        obtain ⟨rfl, -⟩ := List.cons_prefix_cons.1 hp
        exact hd (hc c List.mem_cons_self)

theorem commonMargin_eq_none : commonMargin rs = none ↔ ∀ row ∈ rs, row.all isTabOrSpace := by
  induction rs with
  | nil => simp [commonMargin]
  | cons row rs ih =>
    rw [commonMargin, List.forall_mem_cons]
    split
    · next hrow => simp only [hrow, true_and, ih]
    · next hrow => cases commonMargin rs <;> simp [hrow]

/-- What begins the common margin of rows are the spaces and tabs that begin them all. -/
theorem prefix_commonMargin (h : commonMargin rs = some m) :
    t <+: m ↔ (∀ c ∈ t, isTabOrSpace c) ∧ ∀ row ∈ rs, row.all isTabOrSpace = false → t <+: row := by
  induction rs generalizing m with
  | nil => cases h
  | cons row rs ih =>
    rw [commonMargin] at h
    rw [List.forall_mem_cons]
    split at h
    · next hrow =>
      rw [ih h]
      simp [hrow]
    · next hrow =>
      have hrow : row.all isTabOrSpace = false := Bool.eq_false_iff.2 hrow
      cases hm : commonMargin rs with
      | none =>
        rw [hm] at h
        obtain rfl := Option.some.inj h
        have others := commonMargin_eq_none.1 hm
        rw [prefix_margin]
        refine and_congr_right fun _ => ⟨fun hp => ⟨fun _ => hp, fun row' hr hf => ?_⟩,
          fun hp => hp.1 hrow⟩
        rw [others row' hr] at hf
        cases hf
      | some m' =>
        rw [hm] at h
        obtain rfl := Option.some.inj h
        rw [prefix_commonPrefix, prefix_margin, ih hm]
        constructor
        · rintro ⟨⟨ht, hp⟩, -, hps⟩
          exact ⟨ht, fun _ => hp, hps⟩
        · rintro ⟨ht, hp, hps⟩
          exact ⟨⟨ht, hp hrow⟩, ht, hps⟩

theorem isMargin_commonMargin (rs : List Text) : IsMargin ((commonMargin rs).getD []) rs := by
  cases hm : commonMargin rs with
  | none =>
    have blank := commonMargin_eq_none.1 hm
    refine ⟨fun c hc => absurd hc List.not_mem_nil, fun row hr _ => List.nil_prefix, ?_⟩
    rintro t - - ⟨row, hr, hf⟩
    rw [blank row hr] at hf
    cases hf
  | some m =>
    obtain ⟨hspaces, hleads⟩ := (prefix_commonMargin hm).1 List.prefix_rfl
    exact ⟨hspaces, hleads, fun t ht hrs _ => (prefix_commonMargin hm).2 ⟨ht, hrs⟩⟩

/-! ### Margins of rows that are moved -/

theorem all_indented (k : Nat) (row : Text) :
    (List.replicate k 32 ++ row).all isTabOrSpace = row.all isTabOrSpace := by
  rw [List.all_append, List.all_replicate]
  simp [isTabOrSpace]

theorem margin_indented (k : Nat) (row : Text) :
    margin (List.replicate k 32 ++ row) = List.replicate k 32 ++ margin row := by
  refine List.takeWhile_append_of_pos fun c hc => ?_
  obtain rfl := List.eq_of_mem_replicate hc
  rfl

theorem commonPrefix_append (m t u : Text) :
    commonPrefix (m ++ t) (m ++ u) = m ++ commonPrefix t u := by
  induction m with
  | nil => rfl
  | cons c m ih =>
    rw [List.cons_append, List.cons_append, commonPrefix, if_pos rfl, ih]
    rfl

theorem commonMargin_indented (k : Nat) (rs : List Text) :
    commonMargin (rs.map (List.replicate k 32 ++ ·)) =
      (commonMargin rs).map (List.replicate k 32 ++ ·) := by
  induction rs with
  | nil => rfl
  | cons row rs ih =>
    rw [List.map_cons, commonMargin, commonMargin, all_indented, margin_indented, ih]
    split
    · rfl
    · cases commonMargin rs with
      | none => rfl
      | some m => exact congrArg some (commonPrefix_append _ _ _)

/-- Rows that are moved together have the same rows without their margin. -/
theorem dedent_indented (k : Nat) (rs : List Text) :
    dedent (rs.map (List.replicate k 32 ++ ·)) = dedent rs := by
  unfold dedent
  simp only [List.map_map, commonMargin_indented]
  refine List.map_congr_left fun row hr => ?_
  simp only [Function.comp, all_indented]
  cases hm : commonMargin rs with
  | none => rw [if_pos (commonMargin_eq_none.1 hm row hr), if_pos (commonMargin_eq_none.1 hm row hr)]
  | some m =>
    have further : (List.replicate k (32 : CodePoint) ++ row).drop
        (List.replicate k 32 ++ m).length = row.drop m.length := by
      rw [List.length_append, List.drop_append, List.drop_eq_nil_of_le (by simp),
        List.length_replicate, Nat.add_sub_cancel_left, List.nil_append]
    simp only [Option.map_some, Option.getD_some, further]

/-! ## Blank rows -/

theorem isBlank_of_all (h : row.all isTabOrSpace) : isBlank row := by
  refine List.all_eq_true.2 fun c hc => ?_
  have blank := List.all_eq_true.1 h c hc
  rw [isTabOrSpace, Bool.or_eq_true, beq_iff_eq, beq_iff_eq] at blank
  rcases blank with rfl | rfl <;> decide

theorem isBlank_of_stripEnd (h : isBlank (stripEnd t)) : isBlank t := by
  induction t with
  | nil => rfl
  | cons c t ih =>
    rw [stripEnd] at h
    rw [isBlank, List.all_cons, Bool.and_eq_true]
    split at h
    · next ht =>
      refine ⟨?_, ih (by rw [ht]; rfl)⟩
      split at h
      · assumption
      · exact (Bool.and_eq_true_iff.1 h).1
    · next ht =>
      obtain ⟨hc, ht'⟩ := Bool.and_eq_true_iff.1 h
      exact ⟨hc, ih (by rw [ht]; exact ht')⟩

/-- A row of which nothing is left without its margin has been blank. -/
theorem IsMargin.isBlank (h : IsMargin m rs) (hr : row ∈ rs)
    (hb : Text.isBlank (stripEnd (row.drop m.length))) : Text.isBlank row := by
  cases hall : row.all isTabOrSpace with
  | true => exact isBlank_of_all hall
  | false =>
    obtain ⟨rest, rfl⟩ := h.leads row hr hall
    rw [List.drop_left] at hb
    rw [Text.isBlank, List.all_append, Bool.and_eq_true]
    exact ⟨isBlank_of_all (List.all_eq_true.2 h.spaces), isBlank_of_stripEnd hb⟩

end Text

namespace Layout

variable {rs : List Text} {row : Text}

/-! ## Blank rows at the ends -/

theorem trimEnd_cons (h : row.isBlank = false) (rs : List Text) :
    trimEnd (row :: rs) = row :: trimEnd rs := by
  rw [trimEnd]
  split
  · next ht => rw [h, ht]; rfl
  · next ht => rw [ht]

/-- Only blank rows are dropped at the end. -/
theorem exists_trimEnd_append (rs : List Text) :
    ∃ after, rs = trimEnd rs ++ after ∧ ∀ row ∈ after, row.isBlank := by
  induction rs with
  | nil => exact ⟨[], rfl, fun _ h => absurd h List.not_mem_nil⟩
  | cons row rs ih =>
    obtain ⟨after, hrs, hb⟩ := ih
    cases hrow : row.isBlank with
    | false => exact ⟨after, by rw [trimEnd_cons hrow, List.cons_append, ← hrs], hb⟩
    | true =>
      rw [trimEnd]
      cases ht : trimEnd rs with
      | nil =>
        rw [ht, List.nil_append] at hrs
        exact ⟨row :: after, by simp [hrow, ← hrs], List.forall_mem_cons.2 ⟨hrow, hb⟩⟩
      | cons next kept =>
        rw [ht] at hrs
        exact ⟨after, congrArg (row :: ·) hrs, hb⟩

theorem isBlank_getLast?_trimEnd (h : (trimEnd rs).getLast? = some row) : row.isBlank = false := by
  induction rs with
  | nil => cases h
  | cons first rs ih =>
    rw [trimEnd] at h
    cases ht : trimEnd rs with
    | nil =>
      rw [ht] at h
      cases hf : first.isBlank with
      | false =>
        simp only [hf, Bool.false_eq_true, if_false, List.getLast?_singleton] at h
        rwa [← Option.some.inj h]
      | true =>
        simp only [hf, if_true] at h
        cases h
    | cons next kept =>
      rw [ht] at h ih
      exact ih (by rwa [List.getLast?_cons_cons] at h)

/-- Rows are laid out but for blank ones at their ends. -/
theorem trim_block (rs : List Text) :
    ∃ before after, rs = before ++ (trim rs).rows ++ after ∧
      before.length = (trim rs).skipped ∧ ∀ row ∈ before ++ after, row.isBlank := by
  obtain ⟨after, ha, hb⟩ := exists_trimEnd_append (rs.dropWhile Text.isBlank)
  refine ⟨rs.takeWhile Text.isBlank, after, ?_, rfl, fun row hr => ?_⟩
  · rw [List.append_assoc]
    exact (List.takeWhile_append_dropWhile (p := Text.isBlank)).symm.trans (congrArg _ ha)
  · rcases List.mem_append.1 hr with hr | hr
    · exact List.all_eq_true.1 List.all_takeWhile row hr
    · exact hb row hr

/-- The rows that are laid out begin and end with one that is not blank. -/
theorem isBlank_end_trim (h : (trim rs).rows.head? = some row ∨ (trim rs).rows.getLast? = some row) :
    row.isBlank = false := by
  rcases h with h | h
  · have first := List.head?_dropWhile_not Text.isBlank rs
    cases hd : rs.dropWhile Text.isBlank with
    | nil =>
      rw [trim, hd] at h
      cases h
    | cons next rest =>
      rw [hd] at first
      have hnext : next.isBlank = false := by simpa using first
      rw [trim, hd, trimEnd_cons hnext] at h
      rwa [← Option.some.inj h]
  · exact isBlank_getLast?_trimEnd h

/-! ## Sections -/

variable {code : Text}

/-- The rows of code that begins at a column of its line, before they lose their margin. -/
def laid (code : Text) (column : Nat) : List Text :=
  Text.rows (List.replicate column (32 : CodePoint) ++ Text.unifyLineEnds code)

theorem ofCode_eq (code : Text) (column : Nat) :
    ofCode code column = trim ((Text.dedent (laid code column)).map Text.stripEnd) := rfl

theorem laid_of_notMem (h : (13 : CodePoint) ∉ code) (column : Nat) :
    laid code column = Text.rows (List.replicate column 32 ++ code) := by
  rw [laid, Script.Terminals.unifyLineEnds_of_notMem h]

/-- The rows of a section are laid out but for blank ones at its ends, each without the margin of the
section and without the blanks at its own end. -/
theorem ofCode_block (code : Text) (column : Nat) :
    ∃ margin before kept after, Text.IsMargin margin (laid code column) ∧
      laid code column = before ++ kept ++ after ∧
      before.length = (ofCode code column).skipped ∧
      (∀ row ∈ before ++ after, row.isBlank) ∧
      (ofCode code column).rows = kept.map fun row => Text.stripEnd (row.drop margin.length) := by
  have margin := Text.isMargin_commonMargin (laid code column)
  obtain ⟨first, last, hsplit, hskipped, hblank⟩ :=
    trim_block ((Text.dedent (laid code column)).map Text.stripEnd)
  rw [← ofCode_eq] at hsplit hskipped
  rw [map_dedent, List.append_assoc, List.map_eq_append_iff] at hsplit
  obtain ⟨before, rest, hlaid, rfl, hrest⟩ := hsplit
  obtain ⟨kept, after, rfl, hkept, rfl⟩ := List.map_eq_append_iff.1 hrest
  refine ⟨_, before, kept, after, margin, by rw [hlaid, List.append_assoc], ?_, ?_, hkept.symm⟩
  · rw [← hskipped, List.length_map]
  · intro row hr
    rw [← List.map_append] at hblank
    refine margin.isBlank ?_ (hblank _ (List.mem_map_of_mem hr))
    rw [hlaid]
    rcases List.mem_append.1 hr with hr | hr
    · exact List.mem_append_left _ hr
    · exact List.mem_append_right _ (List.mem_append_right _ hr)

/-- The layout of a section does not depend on where the section stands, as long as its rows stay
where they are beside each other. The rows that are laid out begin and end with one that is not
blank; they are the rows of the section, in order, but for blank ones at its ends, of which those in
front are counted, and each is less the margin that the rows have in common and less the blanks at
its end. -/
theorem shift_invariant (h : (13 : CodePoint) ∉ code) (column k : Nat) :
    ofCode (Text.indentRest k code) (column + k) = ofCode code column ∧
    (∀ row, (ofCode code column).rows.head? = some row ∨
      (ofCode code column).rows.getLast? = some row → row.isBlank = false) ∧
    ∃ margin before kept after, Text.IsMargin margin (laid code column) ∧
      laid code column = before ++ kept ++ after ∧
      before.length = (ofCode code column).skipped ∧
      (∀ row ∈ before ++ after, row.isBlank) ∧
      (ofCode code column).rows = kept.map fun row => Text.stripEnd (row.drop margin.length) := by
  refine ⟨?_, fun row hr => ?_, ofCode_block code column⟩
  · rw [ofCode_eq, ofCode_eq, laid_of_notMem (Text.notMem_indentRest h k), laid_of_notMem h,
      Text.rows_padded_indentRest, Text.dedent_indented]
  · rw [ofCode_eq] at hr
    exact isBlank_end_trim hr

/-- A section with blank rows before, between and after its others, and where it stands two columns
further to the right. -/
theorem shift_invariant_nested :
    let code : Text := " \n   if a:\n \n\t b \n       c \n  "
    (13 : CodePoint) ∉ code ∧
    ofCode (Text.indentRest 2 code) 5 = ofCode code 3 ∧
    ofCode code 3 = ⟨["   if a:", "", "\t b", "       c"], 1⟩ ∧
    ∃ margin, Text.IsMargin margin (laid code 3) ∧ margin = [] := by
  intro code
  have h : (13 : CodePoint) ∉ code := by decide
  obtain ⟨same, -, margin, before, kept, after, hm, -⟩ := shift_invariant h 3 2
  refine ⟨h, same, by decide, margin, hm, ?_⟩
  -- one row begins with a space and another one with a tab
  have spaced := hm.leads "   if a:" (by decide) (by decide)
  have tabbed := hm.leads "\t b " (by decide) (by decide)
  cases margin with
  | nil => rfl
  | cons c margin =>
    have hs := (List.cons_prefix_cons.1 spaced).1
    have ht := (List.cons_prefix_cons.1 tabbed).1
    exact absurd (hs.symm.trans ht) (by decide)

end Layout

end Stencil
