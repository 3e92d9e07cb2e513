import Stencil.Proofs.Script.Reach
import Stencil.Script.Tokenizer

/-!
# A coarse reading of a row

The tokenizer and the scan of terminals cut the words and the numbers of a row in different ways.
What both of them keep whole are strings and comments. A survey of a row passes over its strings,
counts its brackets, and remembers where the row ends before a comment; this much of a row both of
them agree on. A row may also end inside a string, or in a backslash that joins the next row to it.

## Main definitions

* `Survey`, `survey` — the brackets of a row, its last code point that is no blank, and its ending.
* `IsInner` — a code point that may stand inside a word, a number or an operator.

## Main results

* `survey_inner`, `survey_string` — a survey passes over what is no bracket, and over strings.
-/

namespace Stencil.Script

/-- The code points that are more than a piece of a word, a number or an operator. -/
def specials : List CodePoint :=
  [' ', '\t', '\x0c', '#', '\\', '\'', '"', '(', ')', '[', ']', '\x7b', '\x7d'].map Char.toNat

/-- A code point that may stand inside a word, a number or an operator. -/
def IsInner (c : CodePoint) : Prop := c ∉ specials

/-- How a code point changes the number of open brackets. -/
def levelChange (c : CodePoint) : Int :=
  if c = '(' ∨ c = '[' ∨ c = '\x7b' then 1
  else if c = ')' ∨ c = ']' ∨ c = '\x7d' then -1
  else 0

/-- How a row ends: as a row, with a backslash that joins the next one, or inside a string. -/
inductive Survey.Ending where
  | plain
  | joined
  | within (quote : Quote)
  deriving DecidableEq, Repr

/-- What a row holds, its strings passed over and its comment left aside. -/
structure Survey where
  /-- The brackets that it opens, less those that it closes. -/
  depth : Int
  /-- The last code point that is no blank and stands before the string that the row ends in. -/
  last : Option CodePoint
  ending : Survey.Ending
  deriving DecidableEq, Repr

namespace Survey

/-- Nothing before an ending. -/
def only (ending : Ending) : Survey := ⟨0, none, ending⟩

/-- So many brackets and a last code point in front. -/
def after (level : Int) (last : Option CodePoint) (s : Survey) : Survey :=
  ⟨level + s.depth, s.last.or last, s.ending⟩

/-- A code point in front. -/
def cons (c : CodePoint) (s : Survey) : Survey :=
  s.after (levelChange c) (if isGap c then none else some c)

end Survey

/-- The survey of a row, of which the first `skip` code points are passed over already; nothing if a
string ends neither on the row nor later, or a backslash stands in the row outside of strings. -/
def survey : (skip : Nat) → Text → Option Survey
  | _, [] => some (.only .plain)
  | skip + 1, _ :: rest => survey skip rest
  | 0, c :: rest =>
    if c = '#' then some (.only .plain)
    else if c = '\\' then if rest = [] then some (.only .joined) else none
    else if c = '\'' ∨ c = '"' then
      let q : Quote := ⟨c, [c, c].isPrefixOf rest⟩
      let body := (c :: rest).drop q.marks.length
      match q.closing? body with
      | some n => (survey (q.marks.length + n - 1) rest).map (Survey.cons c)
      | none => if q.triple ∨ endsInBackslash body then some (.only (.within q)) else none
    else (survey 0 rest).map (Survey.cons c)

/-! ## Inner code points -/

variable {c : CodePoint} {t a rest : Text} {s : Survey} {n : Nat}

theorem isGap_eq : isGap = Terminals.isBlank := by
  funext c
  simp only [isGap, Terminals.isBlank, Bool.or_assoc, Bool.or_comm (c == '\x0c')]

theorem isInner_of {p : CodePoint → Bool} (hp : ∀ c ∈ specials, p c = false) (h : p c = true) :
    IsInner c := fun hm => by simp [hp c hm] at h

theorem isInner_of_isNumeric (h : isNumeric c = true) : IsInner c := isInner_of (by decide) h

theorem isInner_of_isWord (h : c.isWord = true) : IsInner c := isInner_of (by decide +kernel) h

theorem isInner_of_isWordPart (h : Terminals.isWordPart c = true) : IsInner c :=
  isInner_of (by decide) h

theorem isInner_of_isLetter (h : c.isAsciiLetter = true) : IsInner c :=
  isInner_of_isNumeric (isNumeric_of_isLetter h)

theorem isGap_of_isInner (h : IsInner c) : isGap c = false := by
  simp only [IsInner, specials, List.map_cons, List.map_nil, List.mem_cons, not_or] at h
  simp only [isGap, Bool.or_eq_false_iff, beq_eq_false_iff_ne]
  exact ⟨⟨h.1, h.2.2.1⟩, h.2.1⟩

theorem levelChange_of_isInner (h : IsInner c) : levelChange c = 0 := by
  simp only [IsInner, specials, List.map_cons, List.map_nil, List.mem_cons, not_or] at h
  obtain ⟨-, -, -, -, -, -, -, h₁, h₂, h₃, h₄, h₅, h₆, -⟩ := h
  simp only [levelChange, if_neg (not_or.2 ⟨h₁, not_or.2 ⟨h₃, h₅⟩⟩),
    if_neg (not_or.2 ⟨h₂, not_or.2 ⟨h₄, h₆⟩⟩)]

/-! ## Surveys -/

@[simp]
theorem Survey.after_zero (s : Survey) : s.after 0 none = s := by
  simp [Survey.after]

theorem Survey.after_after (s : Survey) (i j : Int) (l m : Option CodePoint) :
    (s.after j m).after i l = s.after (i + j) (m.or l) := by
  simp only [Survey.after, Option.or_assoc, Int.add_assoc]

theorem survey_skip (n : Nat) (t : Text) : survey n t = survey 0 (t.drop n) := by
  induction t generalizing n with
  | nil => cases n <;> rfl
  | cons c t ih =>
    cases n with
    | zero => rfl
    | succ n => exact ih n

theorem survey_flat (hh : c ≠ ('#' : CodePoint)) (hj : c ≠ ('\\' : CodePoint))
    (hq : ¬(c = '\'' ∨ c = '"')) (rest : Text) :
    survey 0 (c :: rest) = (survey 0 rest).map (Survey.cons c) := by
  simp only [survey, if_neg hh, if_neg hj, if_neg hq]

theorem survey_gap (hc : isGap c = true) (rest : Text) : survey 0 (c :: rest) = survey 0 rest := by
  have keep (s : Survey) : Survey.cons c s = s := by
    have level : levelChange c = 0 := by
      simp only [isGap, Bool.or_eq_true, beq_iff_eq] at hc
      rcases hc with (rfl | rfl) | rfl <;> rfl
    simp [Survey.cons, hc, level]
  have special : c ≠ ('#' : CodePoint) ∧ c ≠ ('\\' : CodePoint) ∧ ¬(c = '\'' ∨ c = '"') := by
    simp only [isGap, Bool.or_eq_true, beq_iff_eq] at hc
    rcases hc with (rfl | rfl) | rfl <;> decide
  rw [survey_flat special.1 special.2.1 special.2.2]
  cases survey 0 rest with
  | none => rfl
  | some s => rw [Option.map_some, keep]

theorem survey_dropWhile (t : Text) : survey 0 t = survey 0 (t.dropWhile isGap) := by
  induction t with
  | nil => rfl
  | cons c t ih =>
    by_cases hc : isGap c = true
    · rw [survey_gap hc, List.dropWhile_cons_of_pos hc, ih]
    · rw [List.dropWhile_cons_of_neg hc]

theorem foldr_cons_of_isInner (ha : ∀ c ∈ a, IsInner c) (s : Survey) :
    a.foldr Survey.cons s = s.after 0 a.getLast? := by
  induction a with
  | nil => simp
  | cons c a ih =>
    rw [List.forall_mem_cons] at ha
    rw [List.foldr_cons, ih ha.2, Survey.cons, levelChange_of_isInner ha.1,
      isGap_of_isInner ha.1, Survey.after_after, List.getLast?_cons]
    cases a.getLast? <;> simp

theorem survey_append_of_isInner (ha : ∀ c ∈ a, IsInner c) (t : Text) :
    survey 0 (a ++ t) = (survey 0 t).map (Survey.after 0 a.getLast?) := by
  have folded : survey 0 (a ++ t) = (survey 0 t).map (a.foldr Survey.cons) := by
    induction a with
    | nil => simp
    | cons c a ih =>
      rw [List.forall_mem_cons] at ha
      have hc := ha.1
      simp only [IsInner, specials, List.map_cons, List.map_nil, List.mem_cons, not_or] at hc
      rw [List.cons_append, survey_flat hc.2.2.2.1 hc.2.2.2.2.1
        (not_or.2 ⟨hc.2.2.2.2.2.1, hc.2.2.2.2.2.2.1⟩), ih ha.2, Option.map_map]
      rfl
  rw [folded, funext (foldr_cons_of_isInner ha)]

/-- A survey passes over inner code points. -/
theorem survey_inner (h : ∀ c ∈ t.take n, IsInner c) :
    survey 0 t = (survey 0 (t.drop n)).map (Survey.after 0 (t.take n).getLast?) := by
  rw [← survey_append_of_isInner h, List.take_append_drop]

/-- What is no blank and begins no comment is found in the survey of a row that ends as a row. -/
theorem survey_last (h : survey 0 (c :: rest) = some s) (hc : isGap c = false)
    (hh : c ≠ ('#' : CodePoint)) (hs : s.ending = .plain) : s.last.isSome = true := by
  have last (u : Survey) : (Survey.cons c u).last.isSome = true := by
    simp only [Survey.cons, Survey.after, hc, Bool.false_eq_true, ↓reduceIte]
    cases u.last <;> rfl
  simp only [survey, if_neg hh] at h
  split at h
  · split at h
    · obtain rfl := Option.some.inj h
      cases hs
    · simp at h
  · split at h
    · split at h
      · obtain ⟨u, -, rfl⟩ := Option.map_eq_some_iff.1 h
        exact last u
      · split at h
        · obtain rfl := Option.some.inj h
          cases hs
        · simp at h
    · obtain ⟨u, -, rfl⟩ := Option.map_eq_some_iff.1 h
      exact last u

/-! ## Strings -/

theorem quoteAt?_eq_some {k : Nat} {q : Quote} (h : Terminals.quoteAt? t n = some (k, q)) :
    k = n ∧ (t.take n).map lowerAscii ∈ stringMarks ∧ (q.mark = '\'' ∨ q.mark = '"') ∧
      ∃ rest, t.drop n = q.mark :: rest ∧ q = ⟨q.mark, [q.mark, q.mark].isPrefixOf rest⟩ := by
  unfold Terminals.quoteAt? at h
  split at h
  · rename_i hm
    split at h
    · rename_i c rest hd
      split at h
      · rename_i hc
        obtain ⟨rfl, rfl⟩ := Prod.mk.inj (Option.some.inj h)
        exact ⟨rfl, hm, hc, rest, hd, rfl⟩
      · simp at h
    · simp at h
  · simp at h

/-- A string begins with letters before its quotes. -/
theorem stringStart?_eq_some {k : Nat} {q : Quote} (h : stringStart? t = some (k, q)) :
    (t.take k).map lowerAscii ∈ stringMarks ∧ (q.mark = '\'' ∨ q.mark = '"') ∧
      ∃ rest, t.drop k = q.mark :: rest ∧ q = ⟨q.mark, [q.mark, q.mark].isPrefixOf rest⟩ := by
  have found : ∃ n, Terminals.quoteAt? t n = some (k, q) := by
    rw [Terminals.stringStart?_eq] at h
    rcases Option.or_eq_some_iff.1 h with h | ⟨-, h⟩
    · exact ⟨0, h⟩
    · rcases Option.or_eq_some_iff.1 h with h | ⟨-, h⟩
      · exact ⟨1, h⟩
      · exact ⟨2, h⟩
  obtain ⟨n, hn⟩ := found
  obtain ⟨rfl, rest⟩ := quoteAt?_eq_some hn
  exact rest

theorem isAsciiLetter_of_stringMarks (h : a.map lowerAscii ∈ stringMarks) :
    ∀ c ∈ a, c.isAsciiLetter = true := by
  have letters : ∀ m ∈ stringMarks, ∀ c ∈ m, 0x61 ≤ c ∧ c ≤ 0x7A := by decide
  intro c hc
  have hl := letters _ h _ (List.mem_map_of_mem hc)
  unfold lowerAscii at hl
  split at hl
  · exact isAsciiLetter_iff.2 (.inl (by assumption))
  · exact isAsciiLetter_iff.2 (.inr hl)

/-- A survey passes over a string, or ends in it. -/
theorem survey_string {k : Nat} {q : Quote} (h : stringStart? t = some (k, q)) :
    survey 0 t = match q.closing? (t.drop (k + q.marks.length)) with
      | some n =>
        (survey 0 (t.drop (k + q.marks.length + n))).map (Survey.after 0 (some q.mark))
      | none =>
        if q.triple ∨ endsInBackslash (t.drop (k + q.marks.length)) then
          some ((Survey.only (.within q)).after 0 (t.take k).getLast?)
        else none := by
  obtain ⟨hm, hq, rest, hd, he⟩ := stringStart?_eq_some h
  have letters : ∀ c ∈ t.take k, IsInner c := fun c hc =>
    isInner_of_isLetter (isAsciiLetter_of_stringMarks hm c hc)
  have hpos := Terminals.marks_pos q
  have special : q.mark ≠ ('#' : CodePoint) ∧ q.mark ≠ ('\\' : CodePoint) ∧
      levelChange q.mark = 0 ∧ isGap q.mark = false := by
    rcases hq with hq | hq <;> rw [hq] <;> decide
  have mark : Survey.cons q.mark = Survey.after 0 (some q.mark) := by
    funext s
    simp [Survey.cons, special.2.2.1, special.2.2.2]
  have quoted : survey 0 (t.drop k) = match q.closing? (t.drop (k + q.marks.length)) with
      | some n =>
        (survey 0 (t.drop (k + q.marks.length + n))).map (Survey.after 0 (some q.mark))
      | none =>
        if q.triple ∨ endsInBackslash (t.drop (k + q.marks.length)) then
          some (.only (.within q)) else none := by
    have body : (q.mark :: rest).drop q.marks.length = t.drop (k + q.marks.length) := by
      rw [← hd, List.drop_drop]
    rw [hd]
    simp only [survey, if_neg special.1, if_neg special.2.1, if_pos hq, ← he, body, mark]
    cases q.closing? (t.drop (k + q.marks.length)) with
    | none => simp only [congrArg Quote.triple he]
    | some n =>
      have skip : q.marks.length + n = q.marks.length + n - 1 + 1 := by omega
      have after : rest.drop (q.marks.length + n - 1) = t.drop (k + q.marks.length + n) := by
        rw [Nat.add_assoc, skip, ← List.drop_drop, hd, List.drop_succ_cons]
        rfl
      simp only
      rw [survey_skip, after]
  rw [survey_inner letters, quoted]
  cases q.closing? (t.drop (k + q.marks.length)) with
  | none =>
    simp only
    split <;> rfl
  | some n =>
    simp only [Option.map_map]
    refine congrArg (Option.map · _) (funext fun s => ?_)
    simp [Survey.after_after]

end Stencil.Script
