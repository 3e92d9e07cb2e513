import Stencil.Proofs.Script.Row
import Stencil.Template.Layout

/-!
# Rows of a text

A text is cut into rows at its line feeds. For code, a carriage return ends a row as well, alone or
before a line feed.

## Main definitions

* `Text.withFeeds`, `Text.endedRows` — rows with what ends them.
* `Text.Ended` — all rows but the last end in one line feed or one carriage return.

## Main results

* `Text.rows_unifyLineEnds` — the rows of code are those of the code with unified line ends.
* `Layout.rows_trim`, `Layout.map_dedent` — which rows are laid out, and what is left of each.
-/

namespace Stencil

namespace Text

variable {t u : Text}

/-! ## Rows -/

theorem rows_lineFeed (t : Text) : rows (10 :: t) = [] :: rows t := rfl

theorem rows_cons {c : CodePoint} (h : c ≠ 10) (t : Text) :
    rows (c :: t) = (c :: (rows t).headD []) :: (rows t).tail := by
  have hs := splitOn_ne_nil '\n' t
  have hc : ¬c = ('\n' : CodePoint) := h
  unfold rows
  rw [splitOn, if_neg hc]
  cases hr : splitOn '\n' t with
  | nil => exact absurd hr hs
  | cons row others => rfl

theorem rows_append (h : (10 : CodePoint) ∉ t) (u : Text) :
    rows (t ++ u) = (t ++ (rows u).headD []) :: (rows u).tail := by
  induction t with
  | nil =>
    have hs := splitOn_ne_nil '\n' u
    cases hr : rows u with
    | nil => exact absurd hr hs
    | cons row others => simp [hr]
  | cons c t ih =>
    rw [List.mem_cons, not_or] at h
    rw [List.cons_append, rows_cons (Ne.symm h.1), ih h.2]
    rfl

/-- No row holds a line feed. -/
theorem notMem_of_mem_rows {row : Text} (h : row ∈ rows t) : (10 : CodePoint) ∉ row := by
  induction t generalizing row with
  | nil =>
    have hr : row = [] := by simpa [rows, splitOn] using h
    simp [hr]
  | cons c t ih =>
    have hs := splitOn_ne_nil '\n' t
    by_cases hc : c = 10
    · rw [hc, rows_lineFeed, List.mem_cons] at h
      rcases h with rfl | h
      · exact List.not_mem_nil
      · exact ih h
    · rw [rows_cons hc] at h
      cases hr : rows t with
      | nil => exact absurd hr hs
      | cons first others =>
        rw [hr, List.headD_cons, List.tail_cons, List.mem_cons] at h
        rcases h with rfl | h
        · have hf : (10 : CodePoint) ∉ first := ih (by rw [hr]; exact List.mem_cons_self)
          exact List.not_mem_cons_of_ne_of_not_mem (Ne.symm hc) hf
        · exact ih (by rw [hr]; exact List.mem_cons_of_mem _ h)

theorem lineFeeds_append (t u : Text) : (t ++ u).lineFeeds = t.lineFeeds + u.lineFeeds :=
  List.count_append

theorem length_rows (t : Text) : (rows t).length = t.lineFeeds + 1 := by
  induction t with
  | nil => rfl
  | cons c t ih =>
    by_cases hc : c = 10
    · rw [hc, rows_lineFeed, List.length_cons, ih, lineFeeds, lineFeeds, List.count_cons_self]
    · rw [rows_cons hc, List.length_cons, List.length_tail, ih, lineFeeds, lineFeeds,
        List.count_cons_of_ne (by simpa using hc)]
      rfl

/-! ## Rows with what ends them -/

/-- Rows with the line feeds between them. -/
def withFeeds : List Text → List (Text × Text)
  | [] => []
  | [row] => [(row, [])]
  | row :: next :: rows => (row, [10]) :: withFeeds (next :: rows)

theorem flatMap_withFeeds (rs : List Text) :
    (withFeeds rs).flatMap (fun r => r.1 ++ r.2) = joinRows rs := by
  induction rs with
  | nil => rfl
  | cons row rs ih =>
    cases rs with
    | nil => simp [withFeeds, joinRows, join]
    | cons next rs =>
      rw [withFeeds, List.flatMap_cons, ih]
      rfl

theorem withFeeds_ne_nil (row : Text) (rs : List Text) : withFeeds (row :: rs) ≠ [] := by
  cases rs <;> simp [withFeeds]

theorem map_withFeeds (rs : List Text) : (withFeeds rs).map Prod.fst = rs := by
  induction rs with
  | nil => rfl
  | cons row rs ih =>
    cases rs with
    | nil => rfl
    | cons next rs => rw [withFeeds, List.map_cons, ih]

theorem joinRows_rows (t : Text) : joinRows (rows t) = t := by
  induction t with
  | nil => rfl
  | cons c t ih =>
    have hs := splitOn_ne_nil '\n' t
    cases hr : rows t with
    | nil => exact absurd hr hs
    | cons row others =>
      rw [hr] at ih
      by_cases hc : c = 10
      · rw [hc, rows_lineFeed, hr]
        exact congrArg (10 :: ·) ih
      · rw [rows_cons hc, hr, List.headD_cons, List.tail_cons, ← ih]
        cases others <;> rfl

/-- Rows whose line ends, all but that of the last, are a line feed or a carriage return, and count
as one. -/
structure Ended (rs : List (Text × Text)) : Prop where
  rows : ∀ r ∈ rs, (10 : CodePoint) ∉ r.1
  ends : ∀ r ∈ rs.dropLast, r.2.lineFeeds + (if r.2 = [13] then 1 else 0) = 1

theorem ended_withFeeds {rs : List Text} (h : ∀ row ∈ rs, (10 : CodePoint) ∉ row) :
    Ended (withFeeds rs) := by
  refine ⟨fun r hr => h _ ?_, ?_⟩
  · rw [← map_withFeeds rs]
    exact List.mem_map_of_mem hr
  · induction rs with
    | nil => exact nofun
    | cons row rs ih =>
      cases rs with
      | nil => exact nofun
      | cons next rs =>
        have more := withFeeds_ne_nil next rs
        rw [withFeeds, List.dropLast_cons_of_ne_nil more]
        exact List.forall_mem_cons.2 ⟨rfl, ih fun row hr => h row (List.mem_cons_of_mem _ hr)⟩

/-- The rows of a text, each with the line end after it: a line feed, a carriage return, or both. -/
def endedRows : Text → List (Text × Text)
  | [] => [([], [])]
  | 13 :: 10 :: rest => ([], [13, 10]) :: endedRows rest
  | 13 :: rest => ([], [13]) :: endedRows rest
  | 10 :: rest => ([], [10]) :: endedRows rest
  | c :: rest =>
    match endedRows rest with
    | [] => [([c], [])]
    | (row, ending) :: others => (c :: row, ending) :: others

theorem endedRows_ne_nil (t : Text) : endedRows t ≠ [] := by
  fun_cases endedRows t <;> simp

/-- Nothing is lost. -/
theorem flatMap_endedRows (t : Text) : (endedRows t).flatMap (fun r => r.1 ++ r.2) = t := by
  fun_induction endedRows t <;> simp_all

/-- The rows are those of the text with unified line ends. -/
theorem rows_unifyLineEnds (t : Text) : rows t.unifyLineEnds = (endedRows t).map Prod.fst := by
  fun_induction endedRows t with
  | case1 => rfl
  | case2 rest ih =>
    rw [unifyLineEnds, rows_lineFeed, ih]
    rfl
  | case3 rest hne ih =>
    rw [unifyLineEnds, rows_lineFeed, ih]
    · rfl
    · exact hne
  | case4 rest ih =>
    rw [unifyLineEnds, rows_lineFeed, ih]
    · rfl
    · simp
    · simp
  | case5 c rest h1 h2 h3 he ih => exact absurd he (endedRows_ne_nil rest)
  | case6 c rest h1 h2 h3 row ending others he ih =>
    have hc : c ≠ 10 := h3
    rw [unifyLineEnds, rows_cons hc, ih, he]
    · rfl
    · exact h1
    · exact h2

theorem notMem_of_mem_endedRows {r : Text × Text} (h : r ∈ endedRows t) :
    (10 : CodePoint) ∉ r.1 := by
  have hr : r.1 ∈ rows t.unifyLineEnds := by
    rw [rows_unifyLineEnds]
    exact List.mem_map_of_mem h
  exact notMem_of_mem_rows hr

theorem ended_endedRows (t : Text) : Ended (endedRows t) := by
  refine ⟨fun r => notMem_of_mem_endedRows, ?_⟩
  fun_induction endedRows t with
  | case1 => exact nofun
  | case2 rest ih =>
    rw [List.dropLast_cons_of_ne_nil (endedRows_ne_nil rest)]
    exact List.forall_mem_cons.2 ⟨rfl, ih⟩
  | case3 rest hne ih =>
    rw [List.dropLast_cons_of_ne_nil (endedRows_ne_nil rest)]
    exact List.forall_mem_cons.2 ⟨rfl, ih⟩
  | case4 rest ih =>
    rw [List.dropLast_cons_of_ne_nil (endedRows_ne_nil rest)]
    exact List.forall_mem_cons.2 ⟨rfl, ih⟩
  | case5 => exact nofun
  | case6 c rest h1 h2 h3 row ending others he ih =>
    rw [he] at ih
    cases others with
    | nil => exact nofun
    | cons next others =>
      rw [List.dropLast_cons_of_ne_nil (List.cons_ne_nil _ _), List.forall_mem_cons] at ih ⊢
      exact ih

theorem rows_append_lineFeed (t u : Text) : rows (t ++ 10 :: u) = rows t ++ rows u := by
  induction t with
  | nil => rfl
  | cons c t ih =>
    by_cases hc : c = 10
    · rw [hc, List.cons_append, rows_lineFeed, rows_lineFeed, ih, List.cons_append]
    · have hs := splitOn_ne_nil '\n' t
      rw [List.cons_append, rows_cons hc, rows_cons hc, ih]
      cases hr : rows t with
      | nil => exact absurd hr hs
      | cons row others => rfl

/-- Rows that hold no line feed are those of what they are joined to. -/
theorem rows_joinRows {rs : List Text} (hne : rs ≠ []) (h : ∀ row ∈ rs, (10 : CodePoint) ∉ row) :
    rows (joinRows rs) = rs := by
  induction rs with
  | nil => exact absurd rfl hne
  | cons row rs ih =>
    obtain ⟨hrow, hrs⟩ := List.forall_mem_cons.1 h
    cases rs with
    | nil => exact Script.Terminals.Scan.rows_of_notMem hrow
    | cons next rs =>
      have joined : joinRows (row :: next :: rs) = row ++ 10 :: joinRows (next :: rs) :=
        List.append_assoc row [10] _
      rw [joined, rows_append_lineFeed, Script.Terminals.Scan.rows_of_notMem hrow,
        ih (List.cons_ne_nil _ _) hrs]
      rfl

theorem joinRows_concat {rs : List Text} (h : rs ≠ []) (t : Text) :
    joinRows (rs ++ [t]) = joinRows rs ++ 10 :: t := by
  induction rs with
  | nil => exact absurd rfl h
  | cons row rs ih =>
    cases rs with
    | nil => exact List.append_assoc row [10] t
    | cons next rs =>
      have joined (us : List Text) : joinRows (row :: next :: us) =
        row ++ [10] ++ joinRows (next :: us) := rfl
      rw [List.cons_append, List.cons_append, joined, joined, ← List.cons_append,
        ih (List.cons_ne_nil _ _), List.append_assoc]
      simp

theorem joinRows_split (before : List Text) (row : Text) (after : List Text) :
    joinRows (before ++ row :: after) =
      before.flatMap (· ++ [10]) ++ joinRows (row :: after) := by
  induction before with
  | nil => rfl
  | cons first before ih =>
    have joined : joinRows (first :: (before ++ row :: after)) =
        first ++ [10] ++ joinRows (before ++ row :: after) := by
      cases before <;> rfl
    rw [List.cons_append, joined, ih, List.flatMap_cons, List.append_assoc (first ++ [10])]

theorem prefix_joinRows (row : Text) (rs : List Text) : row <+: joinRows (row :: rs) := by
  cases rs with
  | nil => exact List.prefix_refl row
  | cons next rs => exact (List.prefix_append row [10]).trans (List.prefix_append _ _)

theorem stripEnd_prefix (t : Text) : stripEnd t <+: t := by
  induction t with
  | nil => exact List.prefix_refl _
  | cons c t ih =>
    rw [stripEnd]
    split
    · rename_i hs
      split
      · exact List.nil_prefix
      · exact List.prefix_cons_inj c |>.2 List.nil_prefix
    · rename_i d kept hs
      rw [hs] at ih
      exact (List.prefix_cons_inj c).2 ih

end Text

/-! ## Rows of a layout -/

namespace Layout

theorem trimEnd_eq_take (rs : List Text) : trimEnd rs = rs.take (trimEnd rs).length := by
  induction rs with
  | nil => rfl
  | cons row rs ih =>
    rw [trimEnd]
    cases ht : trimEnd rs with
    | nil => by_cases hb : Text.isBlank row <;> simp [hb]
    | cons next kept =>
      rw [ht] at ih
      simp only [List.length_cons, List.take_succ_cons]
      exact congrArg (row :: ·) ih

theorem rows_trim (rs : List Text) :
    (trim rs).rows = (rs.drop (trim rs).skipped).take (trim rs).rows.length := by
  have dropped : rs.dropWhile Text.isBlank = rs.drop (rs.takeWhile Text.isBlank).length := by
    have cut : (rs.takeWhile Text.isBlank ++ rs.dropWhile Text.isBlank).drop
        (rs.takeWhile Text.isBlank).length = rs.dropWhile Text.isBlank := List.drop_left
    rw [List.takeWhile_append_dropWhile] at cut
    exact cut.symm
  have kept := trimEnd_eq_take (rs.dropWhile Text.isBlank)
  rw [trim, ← dropped]
  exact kept

theorem stripEnd_eq_nil {t : Text} (h : ∀ c ∈ t, CodePoint.isSpace c = true) :
    Text.stripEnd t = [] := by
  induction t with
  | nil => rfl
  | cons c t ih =>
    obtain ⟨hc, ht⟩ := List.forall_mem_cons.1 h
    rw [Text.stripEnd, ih ht]
    simp [hc]

/-- A row of tabs and spaces loses all of them in any case. -/
theorem map_dedent (rs : List Text) :
    (Text.dedent rs).map Text.stripEnd =
      rs.map fun row => Text.stripEnd (row.drop ((Text.commonMargin rs).getD []).length) := by
  unfold Text.dedent
  simp only [List.map_map]
  refine List.map_congr_left fun row _ => ?_
  simp only [Function.comp]
  split
  · rename_i hall
    refine (stripEnd_eq_nil fun c hc => ?_).symm
    have blank := List.all_eq_true.1 hall c (List.mem_of_mem_drop hc)
    rw [Text.isTabOrSpace, Bool.or_eq_true, beq_iff_eq, beq_iff_eq] at blank
    rcases blank with rfl | rfl <;> decide
  · rfl

/-- Blanks before a row are kept unless nothing else is. -/
theorem stripEnd_blanks (n : Nat) (t : Text) :
    ∃ blanks, (Text.stripEnd t = [] → blanks = 0) ∧
      Text.stripEnd (List.replicate n 32 ++ t) = List.replicate blanks 32 ++ Text.stripEnd t := by
  cases ht : Text.stripEnd t with
  | nil =>
    refine ⟨0, fun _ => rfl, ?_⟩
    induction n with
    | zero => exact ht
    | succ n ih =>
      rw [List.replicate_succ, List.cons_append, Text.stripEnd, ih]
      rfl
  | cons c kept =>
    refine ⟨n, nofun, ?_⟩
    induction n with
    | zero => exact ht
    | succ n ih =>
      have longer : List.replicate n (32 : CodePoint) ++ c :: kept ≠ [] := by simp
      rw [List.replicate_succ, List.cons_append, Text.stripEnd, ih]
      cases hl : List.replicate n (32 : CodePoint) ++ c :: kept with
      | nil => exact absurd hl longer
      | cons d rest => rw [List.cons_append, hl]

end Layout

end Stencil
