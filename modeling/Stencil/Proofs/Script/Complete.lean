import Stencil.Proofs.Script.Row
import Stencil.Proofs.Script.Tokens

/-!
# Rows that are complete

A row whose terminals are complete has a survey: its strings end, its brackets match, and it ends in
a colon where its last terminal is one. So the tokenizer cuts the row to its end as well, whatever
it makes of the words and the numbers in it.

## Main results

* `survey_of_complete` — the survey of a row that is complete as a script.
-/

namespace Stencil.Script.Terminals

variable {c : CodePoint} {u : Text} {s : Survey} {n row : Nat} {kind : Kind}
  {brackets beyond : List (CodePoint × Nat)}

/-! ## Strings -/

theorem isPrefixOf_concat {a : Text} (ha : (10 : CodePoint) ∉ a) :
    a.isPrefixOf (u ++ [10]) = a.isPrefixOf u := by
  induction a generalizing u with
  | nil => simp
  | cons c a ih =>
    simp only [List.mem_cons, not_or] at ha
    cases u with
    | nil =>
      have hc : (c == 10) = false := by simpa using Ne.symm ha.1
      simp [List.isPrefixOf, hc]
    | cons d u => simp [List.isPrefixOf, ih ha.2]

theorem quoteAt?_concat (n : Nat) : quoteAt? (u ++ [10]) n = quoteAt? u n := by
  by_cases hn : n ≤ u.length
  · simp only [quoteAt?, take_row hn, drop_row hn]
    cases u.drop n with
    | nil => rfl
    | cons q rest =>
      by_cases hq : q = '\'' ∨ q = '"'
      · have hm : (10 : CodePoint) ∉ [q, q] := by rcases hq with rfl | rfl <;> decide
        simp only [List.cons_append, isPrefixOf_concat hm]
      · simp only [List.cons_append, if_neg hq]
  · have none_ : quoteAt? (u ++ [10]) n = none := by
      unfold quoteAt?
      rw [if_neg fun h => hn (le_of_lineFeed_notMem_take (lineFeed_notMem_of_mark h))]
    rw [none_]
    simp only [quoteAt?, List.drop_eq_nil_of_le (Nat.le_of_not_le hn), ite_self]

theorem stringStart?_concat : stringStart? (u ++ [10]) = stringStart? u := by
  rw [stringStart?_eq, stringStart?_eq, quoteAt?_concat, quoteAt?_concat, quoteAt?_concat]

/-- What `closing?` does with a code point that does not end the text. -/
theorem closing?_cons {q : Quote} {t : Text} (ht : t ≠ []) :
    q.closing? (c :: t) =
      if c = '\\' then (q.closing? t.tail).map (· + 2)
      else if q.marks.isPrefixOf (c :: t) then some q.marks.length
      else (q.closing? t).map (· + 1) := by
  cases t with
  | nil => exact absurd rfl ht
  | cons d rest => rfl

/-- A string ends in the same place for the tokenizer. -/
theorem closing?_of_stringEnd? {q : Quote} {k : Nat} (hq : q.mark = '\'' ∨ q.mark = '"')
    (h : stringEnd? q k (u ++ [10]) = some n) : q.closing? u = some (n - k) := by
  have hm := lineFeed_notMem_marks hq
  have hpos := marks_pos q
  induction hu : u.length using Nat.strongRecOn generalizing u k with
  | ind l ih =>
    subst hu
    obtain ⟨-, hlt, hle⟩ := stringEnd?_row (v := []) hq h
    cases u with
    | nil =>
      rw [List.nil_append, stringEnd?_lineFeed hm] at h
      simp at h
    | cons c u =>
      rw [List.cons_append, stringEnd?_cons (by simp)] at h
      have prefixes := isPrefixOf_concat (u := c :: u) hm
      rw [List.cons_append] at prefixes
      rw [prefixes] at h
      by_cases hc : c = '\\'
      · rw [if_pos hc] at h
        cases u with
        | nil => simp [stringEnd?] at h
        | cons d u =>
          have shorter : u.length < (c :: d :: u).length := by
            rw [List.length_cons, List.length_cons]
            omega
          have hrest := ih u.length shorter h rfl
          have hlt' := stringEnd?_lt h
          rw [closing?_cons (by simp), if_pos hc, List.tail_cons, hrest, Option.map_some]
          congr 1
          omega
      rw [if_neg hc] at h
      by_cases hp : q.marks.isPrefixOf (c :: u) = true
      · rw [if_pos hp] at h
        obtain rfl := Option.some.inj h
        rw [Nat.add_sub_cancel_left]
        cases u with
        | nil =>
          have whole := (List.isPrefixOf_iff_prefix.1 hp).eq_of_length (by
            have := (List.isPrefixOf_iff_prefix.1 hp).length_le
            simp only [List.length_cons, List.length_nil] at this ⊢
            omega)
          rw [Quote.closing?, if_pos ⟨hc, whole⟩, whole]
          rfl
        | cons d u => rw [closing?_cons (by simp), if_neg hc, if_pos hp]
      · rw [if_neg hp] at h
        split at h
        · simp at h
        · have hrest := ih u.length (by simp) h rfl
          have hlt' := stringEnd?_lt h
          cases u with
          | nil =>
            rw [List.nil_append, stringEnd?_lineFeed hm] at h
            simp at h
          | cons d u =>
            rw [closing?_cons (by simp), if_neg hc, if_neg hp, hrest, Option.map_some]
            congr 1
            omega

/-- A string that is open at the beginning of a row ends on it, goes on in the next one, or is none. -/
theorem stringEnd?_over {q : Quote} {t v : Text} (hq : q.mark = '\'' ∨ q.mark = '"')
    (ht : (10 : CodePoint) ∉ t) :
    stringEnd? q n (t ++ 10 :: v) = match q.closing? t with
      | some m => some (n + m)
      | none =>
        if q.triple ∨ endsInBackslash t then stringEnd? q (n + t.length + 1) v else none := by
  have hm := lineFeed_notMem_marks hq
  have end_ (n : Nat) : stringEnd? q n (10 :: v) =
      if q.triple then stringEnd? q (n + 1) v else none := by
    cases v with
    | nil => rw [stringEnd?_lineFeed hm]; simp [stringEnd?]
    | cons d v =>
      have hp : q.marks.isPrefixOf (10 :: d :: v) = false := by
        rw [← List.nil_append (10 :: d :: v), isPrefixOf_row (w := []) hm, List.nil_append]
        have hpos := marks_pos q
        cases hk : q.marks with
        | nil => simp [hk] at hpos
        | cons a as =>
          have ha : a ≠ 10 := fun he => hm (by simp [hk, he])
          simp [List.isPrefixOf, ha]
      have hb : (10 : CodePoint) ≠ '\\' := by decide
      rw [stringEnd?_cons (by simp), if_neg hb, hp]
      cases q.triple <;> simp
  induction hl : t.length using Nat.strongRecOn generalizing t n with
  | ind l ih =>
    subst hl
    rcases t with _ | ⟨c, t⟩
    · rw [List.nil_append, end_]
      cases q.triple <;> simp [Quote.closing?, endsInBackslash]
    simp only [List.mem_cons, not_or] at ht
    rw [List.cons_append, stringEnd?_cons (by simp)]
    by_cases hc : c = '\\'
    · rw [if_pos hc]
      rcases t with _ | ⟨d, t⟩
      · simp [Quote.closing?, endsInBackslash, hc]
      · rw [List.cons_append, List.tail_cons, ih t.length (by simp only [List.length_cons]; omega)
          (fun h => ht.2 (List.mem_cons_of_mem _ h)) rfl]
        rw [Quote.closing?, if_pos hc, endsInBackslash, if_pos hc]
        cases q.closing? t with
        | none => simp only [Option.map_none, List.length_cons]; congr 2; omega
        | some m => simp only [Option.map_some]; congr 1; omega
    · have prefixes := isPrefixOf_row (u := c :: t) (v := v) (w := []) hm
      rw [isPrefixOf_concat hm, List.cons_append] at prefixes
      have hlf : ¬(c = '\n' ∧ (!q.triple) = true) := fun h => ht.1 h.1.symm
      rw [if_neg hc, prefixes, if_neg hlf, ih t.length (by simp) ht.2 rfl]
      rcases t with _ | ⟨d, t⟩
      · have hc' : c ≠ 92 := hc
        by_cases hp : q.marks = [c]
        · simp [Quote.closing?, hc', hp]
        · have hp' : q.marks.isPrefixOf [c] = false := by
            rw [Bool.eq_false_iff]
            intro h
            have hpre := List.isPrefixOf_iff_prefix.1 h
            have hpos := marks_pos q
            exact hp (hpre.eq_of_length (Nat.le_antisymm hpre.length_le hpos))
          simp [Quote.closing?, endsInBackslash, hc', hp, hp', Nat.add_assoc]
      · rw [closing?_cons (t := d :: t) (by simp), endsInBackslash, if_neg hc, if_neg hc]
        split
        · rfl
        · cases q.closing? (d :: t) with
          | none =>
            have count : n + 1 + (d :: t).length + 1 = n + (c :: d :: t).length + 1 := by
              simp only [List.length_cons]
              omega
            simp only [Option.map_none, count]
          | some m => simp only [Option.map_some, Nat.add_assoc, Nat.add_comm 1]

/-! ## Terminals -/

/-- A survey counts a terminal of this kind and length, which leaves these brackets open. -/
def Counts (kind : Kind) (n : Nat) (change : Int) (u : Text) : Prop :=
  ∀ s, survey 0 (u.drop n) = some s →
    ∃ l, survey 0 u = some (s.after change (some l)) ∧
      (kind == .op && u.take n == ":") = (l == (':' : CodePoint))

theorem counts_string {k : Nat} {q : Quote} (hs : stringStart? u = some (k, q))
    (hn : q.closing? (u.drop (k + q.marks.length)) = some n) :
    Counts .string (k + q.marks.length + n) 0 u := by
  intro s h
  refine ⟨q.mark, ?_, ?_⟩
  · rw [survey_string hs, hn]
    simp only [h, Option.map_some]
  · rcases (stringStart?_eq_some hs).2.1 with hq | hq <;> rw [hq] <;> rfl

theorem counts_inner (hn : 0 < n) (hu : u ≠ [])
    (hi : ∀ d ∈ u.take n, IsInner d ∧ d ≠ (':' : CodePoint)) : Counts kind n 0 u := by
  intro s h
  have hne : u.take n ≠ [] := by
    intro he
    rcases List.take_eq_nil_iff.1 he with he | he
    · omega
    · exact hu he
  have hlast := List.getLast?_eq_some_getLast hne
  refine ⟨(u.take n).getLast hne, ?_, ?_⟩
  · rw [survey_inner fun d hd => (hi d hd).1, h, Option.map_some, hlast]
  · have colon : (u.take n == (":" : Text)) = false := by
      refine beq_eq_false_iff_ne.2 fun he => ?_
      have hm := hi ':' (by rw [he]; exact List.mem_singleton_self _)
      exact hm.2 rfl
    rw [colon, Bool.and_false]
    exact (beq_eq_false_iff_ne.2 (hi _ (List.getLast_mem _)).2).symm

theorem counts_operator {o : Text} (ho : o ∈ operators) (hp : o <+: u) :
    Counts .op o.length (depthChange .op o) u := by
  intro s h
  have shape : ∀ o ∈ operators, o ≠ [] ∧
    (o == (":" : Text)) = (o.getLast? == some (':' : CodePoint)) := by decide
  obtain ⟨hne, hcolon⟩ := shape o ho
  have htake : u.take o.length = o := (List.prefix_iff_eq_take.1 hp).symm
  have hlast := List.getLast?_eq_some_getLast hne
  refine ⟨o.getLast hne, ?_, ?_⟩
  · rw [← List.take_append_drop o.length u, htake, survey_operator ho, h, Option.map_some, hlast]
  · rw [htake, hcolon, hlast]
    rfl

theorem bracketsAfter_operator {o : Text} (ho : o ∈ operators)
    (hb : Scan.bracketsAfter o row brackets = some beyond) :
    (beyond.length : Int) = brackets.length + depthChange .op o := by
  have kinds : ∀ o ∈ operators,
      (o.headD 0 = '(' ∨ o.headD 0 = '[' ∨ o.headD 0 = '\x7b') ∧ depthChange .op o = 1 ∨
      (¬(o.headD 0 = '(' ∨ o.headD 0 = '[' ∨ o.headD 0 = '\x7b') ∧
        (o.headD 0 = ')' ∨ o.headD 0 = ']' ∨ o.headD 0 = '\x7d') ∧ depthChange .op o = -1) ∨
      ¬(o.headD 0 = '(' ∨ o.headD 0 = '[' ∨ o.headD 0 = '\x7b') ∧
        ¬(o.headD 0 = ')' ∨ o.headD 0 = ']' ∨ o.headD 0 = '\x7d') ∧ depthChange .op o = 0 := by
    decide
  unfold Scan.bracketsAfter at hb
  rcases kinds o ho with ⟨opens, level⟩ | ⟨opens, closes, level⟩ | ⟨opens, closes, level⟩
  · simp only [if_pos opens] at hb
    split at hb
    · obtain rfl := Option.some.inj hb
      rw [level, List.length_cons]
      omega
    · simp at hb
  · simp only [if_neg opens, if_pos closes] at hb
    split at hb
    · split at hb
      · obtain rfl := Option.some.inj hb
        rw [level, List.length_cons]
        omega
      · simp at hb
    · simp at hb
  · simp only [if_neg opens, if_neg closes] at hb
    obtain rfl := Option.some.inj hb
    rw [level]
    omega

theorem bracketsAfter_inner (hc : IsInner c)
    (hb : Scan.bracketsAfter (c :: u) row brackets = some beyond) : beyond = brackets := by
  simp only [IsInner, specials, List.map_cons, List.map_nil, List.mem_cons, not_or] at hc
  obtain ⟨-, -, -, -, -, -, -, h₁, h₂, h₃, h₄, h₅, h₆, -⟩ := hc
  have opens : ¬((c :: u).headD 0 = '(' ∨ (c :: u).headD 0 = '[' ∨ (c :: u).headD 0 = '\x7b') :=
    not_or.2 ⟨h₁, not_or.2 ⟨h₃, h₅⟩⟩
  have closes : ¬((c :: u).headD 0 = ')' ∨ (c :: u).headD 0 = ']' ∨ (c :: u).headD 0 = '\x7d') :=
    not_or.2 ⟨h₂, not_or.2 ⟨h₄, h₆⟩⟩
  unfold Scan.bracketsAfter at hb
  simp only [if_neg opens, if_neg closes] at hb
  exact (Option.some.inj hb).symm

theorem inner_of_isNumeric (h : isNumeric c = true) : IsInner c ∧ c ≠ (':' : CodePoint) := by
  refine ⟨isInner_of_isNumeric h, ?_⟩
  rintro rfl
  exact absurd h (by decide)

theorem take_of_word? (h : word? u = some n) : u.takeWhile isWordPart = u.take n := by
  unfold word? at h
  simp only at h
  split at h
  · simp at h
  · split at h
    · obtain rfl := Option.some.inj h
      exact List.prefix_iff_eq_take.1 (List.takeWhile_prefix _)
    · simp at h

theorem word?_reaches (h : word? u = some n) : Reaches isWordPart u n := by
  intro d hd
  rw [← take_of_word? h] at hd
  exact mem_takeWhile hd

/-- The words of one class are those of a wider class that belong to the narrow one. -/
theorem takeWhile_of_subset {p q : CodePoint → Bool} {w : Text}
    (hpq : ∀ c, p c = true → q c = true) (hq : u.takeWhile q = w)
    (hp : ∀ c ∈ w, p c = true) : u.takeWhile p = w := by
  induction u generalizing w with
  | nil => exact hq
  | cons c u ih =>
    rw [List.takeWhile_cons] at hq ⊢
    split at hq
    · subst hq
      rw [List.forall_mem_cons] at hp
      rw [if_pos hp.1, ih rfl hp.2]
    · rename_i hc
      rw [if_neg fun h => hc (hpq c h)]
      exact hq

/-- A survey counts an operator; so it does with any other code point that stands for itself. -/
theorem counts_mark (hc : Scan.Begins c) (hquote : ¬(c = '\'' ∨ c = '"'))
    (hle : operator (c :: (u ++ [10])) ≤ (c :: u).length)
    (hb : Scan.bracketsBeyond .op ((c :: u).take (operator (c :: (u ++ [10])))) row brackets =
      some beyond) :
    Counts .op (operator (c :: (u ++ [10]))) (beyond.length - brackets.length) (c :: u) := by
  have hb' : Scan.bracketsAfter ((c :: u).take (operator (c :: (u ++ [10])))) row brackets =
      some beyond := hb
  have same (h : beyond = brackets) : ((beyond.length : Int) - brackets.length) = 0 := by
    rw [h]
    omega
  have prefix_ {o : Text} (ho : o <+: c :: (u ++ [10])) (hl : o.length ≤ (c :: u).length) :
      o <+: c :: u := by
    rw [← List.cons_append] at ho
    exact List.prefix_of_prefix_length_le ho (List.prefix_append _ _) hl
  unfold operator at hle hb' ⊢
  split at hle
  · rename_i hne
    rw [if_pos hne] at hb' ⊢
    have two := prefix_ (List.isPrefixOf_iff_prefix.1 hne) hle
    have taken : (c :: u).take 2 = "<>" := (List.prefix_iff_eq_take.1 two).symm
    have inner : ∀ d ∈ ("<>" : Text), d ∉ specials ∧ d ≠ (':' : CodePoint) := by decide
    rw [taken] at hb'
    rw [same (bracketsAfter_inner (inner _ List.mem_cons_self).1 hb')]
    exact counts_inner (by omega) (by simp) (by rw [taken]; exact inner)
  · rename_i hne
    rw [if_neg hne] at hb' ⊢
    by_cases ho : operatorLength (c :: (u ++ [10])) ≠ 0
    · obtain ⟨o, hm, hp, hl⟩ := exists_of_operatorLength ho
      have one : max 1 (operatorLength (c :: (u ++ [10]))) = o.length := by omega
      rw [one] at hle hb' ⊢
      have hp' := prefix_ hp hle
      rw [← List.prefix_iff_eq_take.1 hp'] at hb'
      have level := bracketsAfter_operator hm hb'
      have change : (beyond.length : Int) - brackets.length = depthChange .op o := by omega
      rw [change]
      exact counts_operator hm hp'
    · have one : max 1 (operatorLength (c :: (u ++ [10]))) = 1 := by omega
      rw [one] at hb' ⊢
      have hop : [c] ∉ operators := fun hm => ho (operatorLength_ne_zero hm)
      have inner : IsInner c ∧ c ≠ (':' : CodePoint) := by
        refine ⟨fun hm => ?_, ?_⟩
        · have kinds : ∀ c ∈ specials, isBlank c = true ∨ c = ('#' : CodePoint) ∨
            c = ('\\' : CodePoint) ∨ (c = '\'' ∨ c = '"') ∨ [c] ∈ operators := by decide
          rcases kinds c hm with h | h | h | h | h
          · simp [hc.1] at h
          · exact hc.2.1 h
          · exact hc.2.2.2 h
          · exact hquote h
          · exact hop h
        · rintro rfl
          exact hop (by decide)
      rw [same (bracketsAfter_inner inner.1 hb')]
      exact counts_inner (by omega) (by simp) (by simpa using inner)

/-- A survey counts a terminal that a row begins with. -/
theorem counts_terminal (hc : Scan.Begins c) (hv : visible? (c :: u ++ [10]) = some (kind, n))
    (hb : Scan.bracketsBeyond kind ((c :: u).take n) row brackets = some beyond) :
    Counts kind n (beyond.length - brackets.length) (c :: u) := by
  have hle := (visible?_row (u := c :: u) (v := []) hv).2
  have hpos := visible?_pos hv
  have same (h : beyond = brackets) : ((beyond.length : Int) - brackets.length) = 0 := by
    rw [h]
    omega
  have apart (hk : kind ≠ .op) : beyond = brackets := by
    simp only [Scan.bracketsBeyond, if_neg hk] at hb
    exact (Option.some.inj hb).symm
  have taken {d : CodePoint} (hd : d ∈ (c :: u).take n) : d ∈ (c :: (u ++ [10])).take n := by
    rwa [← List.cons_append, take_row hle]
  cases hs : stringStart? (c :: u ++ [10]) with
  | some found =>
    obtain ⟨k, q⟩ := found
    rw [visible?_of_string hs] at hv
    obtain ⟨m, hm, hv⟩ := Option.map_eq_some_iff.1 hv
    obtain ⟨rfl, rfl⟩ := Prod.mk.inj hv
    obtain ⟨hk, hq⟩ := stringStart?_le hs
    rw [stringStart?_concat] at hs
    rw [drop_row hk] at hm
    have closing := closing?_of_stringEnd? hq hm
    have hlt := stringEnd?_lt hm
    have counts := counts_string hs closing
    rw [same (apart (by decide))]
    rwa [Nat.add_sub_cancel' (by omega)] at counts
  | none =>
    have hquote := not_quote_of_stringStart? hs
    rw [List.cons_append] at hs hv
    rw [visible?_of_plain hs] at hv
    unfold plain? at hv
    split at hv
    · obtain ⟨m, hm, hv⟩ := Option.map_eq_some_iff.1 hv
      obtain ⟨rfl, rfl⟩ := Prod.mk.inj hv
      rw [same (apart (by decide))]
      exact counts_inner hpos (by simp) fun d hd =>
        inner_of_isNumeric (number?_reaches hm d (taken hd))
    split at hv
    · obtain ⟨m, hm, hv⟩ := Option.map_eq_some_iff.1 hv
      obtain ⟨rfl, rfl⟩ := Prod.mk.inj hv
      rw [same (apart (by decide))]
      refine counts_inner hpos (by simp) fun d hd => ?_
      have word := word?_reaches hm d (taken hd)
      refine ⟨isInner_of_isWordPart word, ?_⟩
      rintro rfl
      exact absurd word (by decide)
    split at hv
    · rename_i hdot
      obtain ⟨m, hm, hv⟩ := Option.map_eq_some_iff.1 hv
      obtain ⟨rfl, rfl⟩ := Prod.mk.inj hv
      rw [same (apart (by decide))]
      have numeric : Reaches isNumeric (c :: (u ++ [10])) (m + 1) :=
        .cons (by rw [hdot.1]; decide) (fractionEnd?_reaches hm)
      exact counts_inner hpos (by simp) fun d hd => inner_of_isNumeric (numeric d (taken hd))
    split at hv
    · obtain ⟨rfl, rfl⟩ := Prod.mk.inj (Option.some.inj hv)
      exact counts_mark hc hquote hle hb
    · simp at hv

/-! ## Rows -/

namespace Scan

variable {v : Text} {column : Nat} {s s' : Scan} {ts : List Terminal} {sv : Survey}

/-- The scan stands at a string that does not end within `n` code points, which reach to the end of
a row. -/
structure AtString (s : Scan) (q : Quote) (n : Nat) : Prop where
  mark : q.mark = '\'' ∨ q.mark = '"'
  begins : ∃ c u, s.rest = c :: u ∧ Begins c
  found : visible? s.rest = (stringEnd? q n (s.rest.drop n)).map fun m => (.string, m)

/-- A script that is complete holds a terminal where one may begin, which ends on its row or is a
string that goes on in the next one. -/
theorem begins_cases (hf : s.fresh = false) (hr : s.rest = c :: u ++ 10 :: v)
    (hu : (10 : CodePoint) ∉ c :: u) (hc : Begins c) (h : s.all.ending = .complete) :
    (∃ kind n beyond, visible? (c :: u ++ [10]) = some (kind, n) ∧
      bracketsBeyond kind ((c :: u).take n) s.row s.brackets = some beyond ∧
      s.step = .ok
        ([⟨kind, (c :: u).take n,
            ⟨s.row, s.column, s.row, s.column + Text.octetCount ((c :: u).take n)⟩, beyond.length⟩],
          ⟨(c :: u).drop n ++ 10 :: v, s.row, s.column + Text.octetCount ((c :: u).take n), false,
            beyond, s.indents⟩)) ∨
    ∃ k q, stringStart? (c :: u) = some (k, q) ∧
      survey 0 (c :: u) = some ((Survey.only (.within q)).after 0 ((c :: u).take k).getLast?) ∧
      s.AtString q (c :: u).length.succ := by
  have ended {kind : Kind} {n : Nat} (hv : visible? (c :: u ++ [10]) = some (kind, n)) :
      ∃ kind n beyond, visible? (c :: u ++ [10]) = some (kind, n) ∧
        bracketsBeyond kind ((c :: u).take n) s.row s.brackets = some beyond ∧
        s.step = .ok
          ([⟨kind, (c :: u).take n,
              ⟨s.row, s.column, s.row, s.column + Text.octetCount ((c :: u).take n)⟩,
              beyond.length⟩],
            ⟨(c :: u).drop n ++ 10 :: v, s.row, s.column + Text.octetCount ((c :: u).take n), false,
              beyond, s.indents⟩) := by
    obtain ⟨hv', hn⟩ := visible?_row (u := c :: u) (v := v) hv
    rw [← hr] at hv'
    cases hk : bracketsBeyond kind ((c :: u).take n) s.row s.brackets with
    | none =>
      have stop : s.step = .error ([], s.broken) := by
        rw [step_begins hf hr hc, hv']
        simp only [hr, take_row hn, hk]
      rw [all_of_error stop] at h
      exact absurd h stop_ne_complete.2.1
    | some beyond => exact ⟨kind, n, beyond, hv, hk, step_terminal hf hr hu hc hv' hn hk⟩
  cases hv : visible? s.rest with
  | none =>
    have stop : s.step = .error ([], s.broken) := by rw [step_begins hf hr hc, hv]
    rw [all_of_error stop] at h
    exact absurd h stop_ne_complete.2.1
  | some found =>
    obtain ⟨kind, n⟩ := found
    have start := stringStart?_row (u := c :: u) (v := v) (w := [])
    cases hs : stringStart? (c :: u ++ [10]) with
    | none =>
      rw [hs] at start
      rw [List.cons_append] at hs start
      rw [hr, List.cons_append, visible?_of_plain start, plain?_row (w := []),
        ← visible?_of_plain hs, ← List.cons_append] at hv
      exact .inl (ended hv)
    | some string =>
      obtain ⟨k, q⟩ := string
      obtain ⟨hle, hq⟩ := stringStart?_le hs
      have body : (10 : CodePoint) ∉ (c :: u).drop (k + q.marks.length) :=
        fun hm => hu (List.mem_of_mem_drop hm)
      have everywhere (v : Text) : visible? (c :: u ++ 10 :: v) =
          (stringEnd? q (k + q.marks.length)
            ((c :: u).drop (k + q.marks.length) ++ 10 :: v)).map fun m => (.string, m) := by
        rw [visible?_of_string ((stringStart?_row (w := [])).trans hs), drop_row hle]
      have own := everywhere []
      rw [stringEnd?_over hq body] at own
      have whole := everywhere v
      rw [stringEnd?_over hq body, ← hr] at whole
      cases hcl : q.closing? ((c :: u).drop (k + q.marks.length)) with
      | some m =>
        rw [hcl] at own
        exact .inl (ended own)
      | none =>
        simp only [hcl] at whole
        have opens : q.triple = true ∨
            endsInBackslash ((c :: u).drop (k + q.marks.length)) = true := by
          refine Decidable.byContradiction fun hn => ?_
          rw [if_neg hn, hv] at whole
          simp at whole
        have hs' : stringStart? (c :: u) = some (k, q) := stringStart?_concat.symm.trans hs
        have count : k + q.marks.length + ((c :: u).drop (k + q.marks.length)).length + 1 =
            (c :: u).length.succ := by
          rw [List.length_drop]
          omega
        have rest : s.rest.drop (c :: u).length.succ = v := by
          rw [hr]
          simp [List.drop_append]
        refine .inr ⟨k, q, hs', ?_, hq, ⟨c, u ++ 10 :: v, hr, hc⟩, ?_⟩
        · rw [survey_string hs', hcl]
          exact if_pos opens
        · rw [whole, if_pos opens, count, rest]

/-- Where a scan stands after it has found what a row with a survey holds, behind which `v` stands. -/
def Halts (v : Text) (s s' : Scan) : Survey.Ending → Prop
  | .plain => s'.rest = 10 :: v ∧ s'.row = s.row
  | .joined => s'.rest = v ∧ s'.row = s.row + 1 ∧ v ≠ []
  | .within q => ∃ u, s'.rest = u ++ 10 :: v ∧ s'.row = s.row ∧ (10 : CodePoint) ∉ u ∧
    s'.AtString q u.length.succ

/-- A scan finds the terminals of a row, which bear its survey out. -/
structure Crosses (v : Text) (s : Scan) (sv : Survey) (ts : List Terminal) (s' : Scan) : Prop where
  leads : Leads s ts s'
  visible : ∀ t ∈ ts, t.isVisible = true
  fresh : s'.fresh = false
  indents : s'.indents = s.indents
  depth : (s'.brackets.length : Int) = s.brackets.length + sv.depth
  last : (∀ q, sv.ending ≠ .within q) →
    ts.getLast?.map (·.isOp ":") = sv.last.map (· == (':' : CodePoint))
  halts : Halts v s s' sv.ending

theorem ending_of_leads (h : Leads s ts s') : s'.all.ending = s.all.ending := by
  rw [all_of_leads h]
  rfl

/-- A string has to end. -/
theorem AtString.rest_ne_nil {q : Quote} (h : s.AtString q n) (hf : s.fresh = false)
    (hall : s.all.ending = .complete) : s.rest.drop n ≠ [] := by
  intro he
  obtain ⟨c, u, hr, hc⟩ := h.begins
  have stop : s.step = .error ([], s.broken) := by
    rw [step_begins hf hr hc, h.found, he]
    rfl
  rw [all_of_error stop] at hall
  exact stop_ne_complete.2.1 hall

namespace Crosses

/-- What a row holds after a terminal that it begins with. -/
theorem cons {t : Terminal} {m : Scan} {l : CodePoint} {level : Int} (first : s.step = .ok ([t], m))
    (ht : t.isVisible = true) (hl : t.isOp ":" = (l == (':' : CodePoint)))
    (hd : (m.brackets.length : Int) = s.brackets.length + level) (hi : m.indents = s.indents)
    (hrow : m.row = s.row) (h : Crosses v m sv ts s') :
    Crosses v s (sv.after level (some l)) (t :: ts) s' := by
  refine ⟨(leads_of_ok first).trans h.leads, List.forall_mem_cons.2 ⟨ht, h.visible⟩, h.fresh,
    h.indents.trans hi, ?_, fun hs => ?_, ?_⟩
  · rw [h.depth, hd, Int.add_assoc]
    rfl
  · have last := h.last hs
    rw [List.getLast?_cons]
    cases hm : ts.getLast? with
    | none =>
      rw [hm, Option.map_none] at last
      have none_ : sv.last = none := Option.map_eq_none_iff.1 last.symm
      simpa [Survey.after, none_] using hl
    | some u =>
      rw [hm, Option.map_some] at last
      cases hsl : sv.last with
      | none => simp [hsl] at last
      | some d => simpa [Survey.after, hsl] using last
  · have halts := h.halts
    unfold Halts at halts ⊢
    rw [hrow] at halts
    exact halts

/-- Nothing is found before a place of the same row. -/
theorem skip {m : Scan} (first : s.step = .ok ([], m)) (hd : m.brackets = s.brackets)
    (hi : m.indents = s.indents) (hrow : m.row = s.row) (h : Crosses v m sv ts s') :
    Crosses v s sv ts s' := by
  refine ⟨(leads_of_ok first).trans h.leads, h.visible, h.fresh, h.indents.trans hi, ?_, h.last, ?_⟩
  · rw [h.depth, hd]
  · have halts := h.halts
    unfold Halts at halts ⊢
    rw [hrow] at halts
    exact halts

theorem rowEnd (hf : s.fresh = false) (hr : s.rest = 10 :: v) :
    Crosses v s (.only .plain) [] s :=
  ⟨.refl s, by simp, hf, rfl, (Int.add_zero _).symm, fun _ => rfl, hr, rfl⟩

end Crosses

/-- A backslash stands before the end of its row, and behind that there is another one. -/
theorem step_joint {rest : Text} (hf : s.fresh = false) (hr : s.rest = ('\\' : CodePoint) :: rest)
    (h : s.all.ending = .complete) :
    ∃ after, rest = 10 :: after ∧ after ≠ [] ∧ s.step = .ok ([], s.nextRow after) := by
  have plain : isBlank ('\\' : CodePoint) = false ∧ ('\\' : CodePoint) ≠ '#' ∧
      ('\\' : CodePoint) ≠ '\n' := by decide
  have fails {e : Ending} (stop : s.step = .error ([], e)) : e = .complete := by
    rw [all_of_error stop] at h
    exact h
  unfold step at fails ⊢
  simp only [hf, hr, plain, Bool.false_eq_true, ↓reduceIte] at fails ⊢
  cases rest with
  | nil => exact absurd (fails rfl) stop_ne_complete.1
  | cons d after =>
    simp only at fails ⊢
    by_cases hd : d = ('\n' : CodePoint)
    · subst hd
      cases after with
      | nil => exact absurd (fails rfl) stop_ne_complete.2.2
      | cons e after => exact ⟨_, rfl, by simp, rfl⟩
    · simp only [ne_eq, hd, not_false_eq_true, ↓reduceIte] at fails
      exact absurd (fails rfl) stop_ne_complete.1

/-- A row of a script that is complete has a survey. -/
theorem crosses_row (hf : s.fresh = false) (hr : s.rest = u ++ 10 :: v) (hu : (10 : CodePoint) ∉ u)
    (h : s.all.ending = .complete) :
    ∃ sv ts s', survey 0 u = some sv ∧ Crosses v s sv ts s' := by
  induction hl : u.length using Nat.strongRecOn generalizing u s with
  | ind l ih =>
    subst hl
    cases u with
    | nil => exact ⟨_, [], s, rfl, .rowEnd hf hr⟩
    | cons c u =>
      have hu' : (10 : CodePoint) ∉ u := fun hm => hu (List.mem_cons_of_mem _ hm)
      by_cases hh : c = ('#' : CodePoint)
      · -- a comment leaves nothing of its row
        subst hh
        have rest : fromRowEnd s.rest = 10 :: v := by rw [hr, fromRowEnd_row hu]
        have first := step_comment hf hr
        rw [rest] at first
        exact ⟨_, [], _, rfl, (Crosses.rowEnd (s := s.pass [] (10 :: v)) hf rfl).skip first rfl rfl rfl⟩
      by_cases hb : isBlank c = true
      · have first := step_blank hf hr hb
        obtain ⟨sv, ts, s', hsv, crosses⟩ := ih u.length (by simp) (s := s.pass [c] (u ++ 10 :: v))
          hf rfl hu' ((ending_of_leads (leads_of_ok first)).trans h) rfl
        refine ⟨sv, ts, s', ?_, crosses.skip first rfl rfl rfl⟩
        rw [survey_gap (isGap_eq ▸ hb), hsv]
      by_cases hj : c = ('\\' : CodePoint)
      · subst hj
        obtain ⟨after, hrest, hne, first⟩ := step_joint hf hr h
        have last : u = [] ∧ v = after := by
          cases u with
          | nil => exact ⟨rfl, List.tail_eq_of_cons_eq hrest⟩
          | cons d u =>
            exact absurd (List.cons.inj hrest).1.symm (fun he => hu' (he ▸ List.mem_cons_self))
        obtain ⟨rfl, rfl⟩ := last
        exact ⟨_, [], _, rfl, leads_of_ok first, by simp, hf, rfl, (Int.add_zero _).symm,
          fun _ => rfl, rfl, by simp [nextRow, hne], hne⟩
      have begins : Begins c := ⟨by simpa using hb, hh, fun he => hu (by simp [he]), hj⟩
      rcases begins_cases hf hr hu begins h with
        ⟨kind, n, beyond, hv, hk, first⟩ | ⟨k, q, -, hsv, at_⟩
      · have hpos := visible?_pos hv
        obtain ⟨sv, ts, s', hsv, crosses⟩ := ih ((c :: u).drop n).length
          (by rw [List.length_drop, List.length_cons]; omega)
          (s := ⟨_, _, _, false, beyond, s.indents⟩) rfl rfl
          (fun hm => hu (List.mem_of_mem_drop hm)) ((ending_of_leads (leads_of_ok first)).trans h) rfl
        obtain ⟨l, hl, hcolon⟩ := counts_terminal begins hv hk sv hsv
        exact ⟨_, _, s', hl, crosses.cons first (visible?_kind hv _ _ _) hcolon
          (by simp only; omega) rfl rfl⟩
      · refine ⟨_, [], s, hsv, .refl s, by simp, hf, rfl, ?_, fun hs => absurd rfl (hs q),
          c :: u, hr, rfl, hu, at_⟩
        exact (Int.add_zero _).symm

/-- The survey of a row that is complete as a script: all brackets are closed at its end, and it
ends in a colon where its last terminal is one. -/
theorem survey_of_complete (hu : (10 : CodePoint) ∉ u)
    (h : (inRow u column brackets).all = ⟨ts, .complete⟩) :
    ∃ sv us j, survey 0 u = some sv ∧ sv.ending = .plain ∧ sv.depth = -brackets.length ∧
      ts = us ++ rowEnd j ∧
      us.getLast?.map (·.isOp ":") = sv.last.map (· == (':' : CodePoint)) := by
  have complete : (inRow u column brackets).all.ending = .complete := by rw [h]
  obtain ⟨sv, us, s', hsv, crosses⟩ := crosses_row (s := inRow u column brackets) rfl rfl hu complete
  have ending := (ending_of_leads crosses.leads).trans complete
  have halts := crosses.halts
  cases he : sv.ending with
  | joined =>
    rw [he] at halts
    exact absurd rfl halts.2.2
  | within q =>
    rw [he] at halts
    obtain ⟨w, hr, -, -, at_⟩ := halts
    refine absurd ?_ (at_.rest_ne_nil crosses.fresh ending)
    rw [hr]
    exact List.drop_of_length_le (by simp)
  | plain =>
    rw [he] at halts
    have place : s' = inRow [] s'.column s'.brackets := by
      have indents := crosses.indents
      have fresh := crosses.fresh
      obtain ⟨hrest, hrow⟩ := halts
      cases s'
      simp_all [inRow]
    have all := all_of_leads crosses.leads
    rw [place] at all ending
    have whole : (inRow [] s'.column s'.brackets).all =
        ⟨(inRow [] s'.column s'.brackets).all.list, .complete⟩ := by rw [← ending]
    obtain ⟨hb, hts⟩ := all_rowEnd whole
    have list : ts = us ++ rowEnd s'.column := by
      rw [← hts]
      exact congrArg Terminals.list (h.symm.trans all)
    refine ⟨sv, us, s'.column, hsv, he, ?_, list, ?_⟩
    · have depth := crosses.depth
      rw [hb] at depth
      simp only [inRow, List.length_nil] at depth
      omega
    · exact crosses.last fun q hq => by rw [he] at hq; cases hq


/-- A row that is complete begins with the word that is its first terminal. -/
theorem takeWhile_of_isWord {w : Text} {first : Terminal} {others : List Terminal}
    (hu : (10 : CodePoint) ∉ c :: u) (hc : Begins c)
    (h : (inRow (c :: u) column brackets).all = ⟨first :: others, .complete⟩)
    (hw : ∀ c ∈ w, c.isAsciiLetter = true) (hf : first.isWord w = true) :
    (c :: u).takeWhile CodePoint.isWord = w := by
  have complete : (inRow (c :: u) column brackets).all.ending = .complete := by rw [h]
  obtain ⟨kind, n, hv, hts⟩ : ∃ kind n, visible? (c :: u ++ [10]) = some (kind, n) ∧
      first.kind = kind ∧ first.text = (c :: u).take n := by
    rcases begins_cases (s := inRow (c :: u) column brackets) rfl rfl hu hc complete with
      ⟨kind, n, beyond, hv, -, first'⟩ | ⟨k, q, -, -, at_⟩
    · rw [all_of_ok first'] at h
      obtain ⟨rfl, -⟩ := List.cons.inj (congrArg Terminals.list h)
      exact ⟨kind, n, hv, rfl, rfl⟩
    · exact absurd (List.drop_of_length_le (by simp [inRow])) (at_.rest_ne_nil rfl complete)
  simp only [Terminal.isWord, Bool.and_eq_true, beq_iff_eq] at hf
  obtain ⟨rfl, text⟩ := hts
  rw [hf.1] at hv
  rw [hf.2] at text
  subst text
  have word : word? (c :: u) = some n := by
    have hs : stringStart? (c :: u ++ [10]) = none := by
      cases hs : stringStart? (c :: u ++ [10]) with
      | none => rfl
      | some found =>
        rw [visible?_of_string hs] at hv
        obtain ⟨m, -, he⟩ := Option.map_eq_some_iff.1 hv
        exact absurd (Prod.mk.inj he).1 (by decide)
    rw [← word?_row (v := []), List.cons_append]
    rw [List.cons_append] at hs hv
    rw [visible?_of_plain hs] at hv
    unfold plain? at hv
    split at hv
    · obtain ⟨m, -, he⟩ := Option.map_eq_some_iff.1 hv
      exact absurd (Prod.mk.inj he).1 (by decide)
    split at hv
    · obtain ⟨m, hm, he⟩ := Option.map_eq_some_iff.1 hv
      rw [hm, (Prod.mk.inj he).2]
    split at hv
    · obtain ⟨m, -, he⟩ := Option.map_eq_some_iff.1 hv
      exact absurd (Prod.mk.inj he).1 (by decide)
    split at hv
    · exact absurd (Prod.mk.inj (Option.some.inj hv)).1 (by decide)
    · simp at hv
  refine takeWhile_of_subset (fun d hd => ?_) (take_of_word? word) fun d hd =>
    isWord_of_isAsciiLetter (hw d hd)
  by_cases hsmall : d < 0x80
  · simp only [CodePoint.isWord, hsmall, ↓reduceIte, Bool.or_eq_true] at hd
    simp only [isWordPart, Bool.or_eq_true]
    rcases hd with (hd | hd) | hd
    · exact .inl (.inr hd)
    · exact .inr hd
    · exact .inl (.inl (.inr hd))
  · simp [isWordPart, Nat.le_of_not_lt hsmall]

end Scan

end Stencil.Script.Terminals
