import Stencil.Script.Terminal

/-!
# What a row says about its terminals

The terminal at the beginning of a text is found from the rest of its row alone: what stands after
the next line feed does not matter. Strings over several rows are the exception, so for strings this
holds only where the string ends on its row.

Throughout, `u` is the rest of the row, and `v` and `w` are what may follow the line feed.

## Main results

* `visible?_row` — the terminal that a row begins with, whatever follows the row.
-/

namespace Stencil.Script.Terminals

variable {u v w : Text}

theorem isPrefixOf_row {a : Text} (ha : (10 : CodePoint) ∉ a) :
    a.isPrefixOf (u ++ 10 :: v) = a.isPrefixOf (u ++ 10 :: w) := by
  induction a generalizing u with
  | nil => simp
  | cons c a ih =>
    simp only [List.mem_cons, not_or] at ha
    cases u with
    | nil =>
      have hc : (c == 10) = false := by simpa using Ne.symm ha.1
      simp [List.isPrefixOf, hc]
    | cons d u => simp [List.isPrefixOf, ih ha.2]

theorem length_le_of_isPrefixOf {a : Text} (ha : (10 : CodePoint) ∉ a)
    (h : a.isPrefixOf (u ++ 10 :: v) = true) : a.length ≤ u.length := by
  induction a generalizing u with
  | nil => simp
  | cons c a ih =>
    simp only [List.mem_cons, not_or] at ha
    cases u with
    | nil =>
      have hc : (c == 10) = false := by simpa using Ne.symm ha.1
      simp [List.isPrefixOf, hc] at h
    | cons d u =>
      simp only [List.cons_append, List.isPrefixOf, Bool.and_eq_true] at h
      simpa using ih ha.2 h.2

theorem head?_row : (u ++ 10 :: v).head? = (u ++ 10 :: w).head? := by
  cases u <;> rfl

theorem drop_row {n : Nat} (h : n ≤ u.length) : (u ++ 10 :: v).drop n = u.drop n ++ 10 :: v := by
  rw [List.drop_append_of_le_length h]

theorem take_row {n : Nat} (h : n ≤ u.length) : (u ++ 10 :: v).take n = u.take n := by
  rw [List.take_append_of_le_length h]

/-! ## Numbers -/

section

variable {p : CodePoint → Bool} {n : Nat}

theorem digits?_row (hp : p 10 = false) :
    digits? p (u ++ 10 :: v) = digits? p (u ++ 10 :: w) := by
  induction u with
  | nil => simp [digits?, hp]
  | cons c u ih =>
    simp only [List.cons_append, digits?]
    rw [ih, head?_row (v := v) (w := w)]

theorem digits?_le (hp : p 10 = false) (h : digits? p (u ++ 10 :: v) = some n) : n ≤ u.length := by
  induction u generalizing n with
  | nil => simp_all [digits?]
  | cons c u ih =>
    simp only [List.cons_append, digits?] at h
    split at h
    · obtain ⟨m, hm, rfl⟩ := Option.map_eq_some_iff.1 h
      simpa using ih hm
    · split at h
      · split at h
        · obtain ⟨m, hm, rfl⟩ := Option.map_eq_some_iff.1 h
          simpa using ih hm
        · simp at h
      · obtain rfl : 0 = n := by simpa using h
        exact Nat.zero_le _

end

theorem keepsApart_row : keepsApart (u ++ 10 :: v) = keepsApart (u ++ 10 :: w) := by
  unfold keepsApart
  rw [head?_row (v := v) (w := w)]
  simp only [List.map_cons, List.map_nil, List.any_cons, List.any_nil]
  repeat rw [isPrefixOf_row (v := v) (w := w) (by decide)]

theorem markEnd?_row : markEnd? (u ++ 10 :: v) = markEnd? (u ++ 10 :: w) := by
  unfold markEnd?
  cases u with
  | nil =>
    have whole := keepsApart_row (u := []) (v := v) (w := w)
    simp only [List.nil_append] at whole
    simp [beginsImaginary, whole]
  | cons c u =>
    have whole := keepsApart_row (u := c :: u) (v := v) (w := w)
    simp only [List.cons_append] at whole
    simp only [List.cons_append, List.tail_cons, beginsImaginary, whole,
      keepsApart_row (v := v) (w := w)]
    rfl

theorem markEnd?_le {n : Nat} (h : markEnd? (u ++ 10 :: v) = some n) : n ≤ u.length := by
  unfold markEnd? at h
  cases u with
  | nil => simp [beginsImaginary] at h; omega
  | cons c u =>
    split at h <;> split at h <;> simp at h <;> simp <;> omega

/-- The length of the sign of an exponent that the row `u` goes on with. -/
def signLength : Text → Nat
  | s :: _ => if s = '+' ∨ s = '-' then 1 else 0
  | [] => 0

theorem signLength_row : signLength (u ++ 10 :: v) = signLength u := by
  cases u <;> rfl

theorem signLength_le : signLength u ≤ u.length := by
  cases u with
  | nil => simp [signLength]
  | cons s u => simp only [signLength]; split <;> simp

theorem exponentEnd?_cons (e : CodePoint) (rest : Text) :
    exponentEnd? (e :: rest) =
      if e = 'e' ∨ e = 'E' then
        if (rest.drop (signLength rest)).head?.any CodePoint.isDigit then
          (digits? CodePoint.isDigit (rest.drop (signLength rest))).bind fun n =>
            (markEnd? (rest.drop (signLength rest + n))).bind fun m =>
              some (1 + signLength rest + n + m)
        else if signLength rest = 0 ∧ keepsApart (e :: rest) then some 0
        else none
      else markEnd? (e :: rest) := by
  unfold exponentEnd? signLength
  by_cases he : e = 'e' ∨ e = 'E' <;> simp only [he, ↓reduceIte] <;> rfl

theorem exponentEnd?_row : exponentEnd? (u ++ 10 :: v) = exponentEnd? (u ++ 10 :: w) := by
  cases u with
  | nil => exact markEnd?_row (u := []) (v := v) (w := w)
  | cons e u =>
    have apart := keepsApart_row (u := e :: u) (v := v) (w := w)
    have mark := markEnd?_row (u := e :: u) (v := v) (w := w)
    simp only [List.cons_append] at apart mark
    simp only [List.cons_append, exponentEnd?_cons, signLength_row, apart, mark,
      drop_row (signLength_le (u := u)), head?_row (v := v) (w := w),
      digits?_row (v := v) (w := w) (p := CodePoint.isDigit) rfl]
    cases hd : digits? CodePoint.isDigit (u.drop (signLength u) ++ 10 :: w) with
    | none => rfl
    | some n =>
      have hn := digits?_le rfl hd
      have hs := signLength_le (u := u)
      rw [List.length_drop] at hn
      simp only [Option.bind_some, drop_row (u := u) (v := v) (n := signLength u + n) (by omega),
        drop_row (u := u) (v := w) (n := signLength u + n) (by omega),
        markEnd?_row (v := v) (w := w)]

theorem exponentEnd?_le {n : Nat} (h : exponentEnd? (u ++ 10 :: v) = some n) : n ≤ u.length := by
  cases u with
  | nil => exact markEnd?_le (u := []) (v := v) h
  | cons e u =>
    have hs := signLength_le (u := u)
    simp only [List.cons_append, exponentEnd?_cons, signLength_row, drop_row hs] at h
    split at h
    · split at h
      · obtain ⟨k, hk, h⟩ := Option.bind_eq_some_iff.1 h
        obtain ⟨m, hm, h⟩ := Option.bind_eq_some_iff.1 h
        have hk' := digits?_le rfl hk
        rw [List.length_drop] at hk'
        rw [drop_row (by omega)] at hm
        have hm' := markEnd?_le hm
        simp only [List.length_drop, Option.some.injEq] at hm' h
        simp only [List.length_cons]
        omega
      · split at h
        · simp only [Option.some.injEq] at h
          omega
        · simp at h
    · exact markEnd?_le (u := e :: u) (v := v) h

theorem fractionEnd?_eq (t : Text) :
    fractionEnd? t =
      (if t.head?.any CodePoint.isDigit then digits? CodePoint.isDigit t else some 0).bind fun n =>
        (exponentEnd? (t.drop n)).bind fun m => some (n + m) := by
  unfold fractionEnd?
  by_cases h : t.head?.any CodePoint.isDigit <;> simp only [h] <;> rfl

theorem fractionEnd?_row : fractionEnd? (u ++ 10 :: v) = fractionEnd? (u ++ 10 :: w) := by
  simp only [fractionEnd?_eq, head?_row (v := v) (w := w),
    digits?_row (v := v) (w := w) (p := CodePoint.isDigit) rfl]
  split
  · cases hd : digits? CodePoint.isDigit (u ++ 10 :: w) with
    | none => rfl
    | some n =>
      have hn := digits?_le rfl hd
      simp only [Option.bind_some, drop_row hn, exponentEnd?_row (v := v) (w := w)]
  · simp only [Option.bind_some, List.drop_zero, exponentEnd?_row (v := v) (w := w)]

theorem fractionEnd?_le {n : Nat} (h : fractionEnd? (u ++ 10 :: v) = some n) : n ≤ u.length := by
  rw [fractionEnd?_eq] at h
  obtain ⟨k, hk, h⟩ := Option.bind_eq_some_iff.1 h
  obtain ⟨m, hm, h⟩ := Option.bind_eq_some_iff.1 h
  have hk' : k ≤ u.length := by
    split at hk
    · exact digits?_le rfl hk
    · simp only [Option.some.injEq] at hk
      omega
  rw [drop_row hk'] at hm
  have hm' := exponentEnd?_le hm
  simp only [List.length_drop, Option.some.injEq] at hm' h
  omega

/-- How far a number reaches after the two code points that announce its base. -/
def basedEnd? (p : CodePoint → Bool) (t : Text) : Option Nat :=
  (digits? p (t.drop 2)).bind fun n =>
    if n = 0 ∨ (t.drop (2 + n)).head?.any CodePoint.isDigit ∨ !keepsApart (t.drop (2 + n)) then none
    else some (2 + n)

/-- How far a decimal number with `n` digits and `m` further code points reaches. -/
def paddedEnd? (t : Text) (n m : Nat) : Option Nat :=
  if (t.head? = some ('0' : CodePoint) ∧
    ((t.take n).any fun (c : CodePoint) => c ≠ '0' ∧ c ≠ '_') = true) ∧ m = 0 then none
  else some (n + m)

/-- How far a decimal number reaches. -/
def decimalEnd? (t : Text) : Option Nat :=
  (digits? CodePoint.isDigit t).bind fun n =>
    if (t.drop n).head? = some ('.' : CodePoint) then
      ((fractionEnd? (t.drop n).tail).map (· + 1)).bind (paddedEnd? t n)
    else (exponentEnd? (t.drop n)).bind (paddedEnd? t n)

theorem number?_eq (t : Text) :
    number? t =
      if (t.take 2).map lowerAscii = "0x" then
        basedEnd? (fun c => (CodePoint.digit? 16 c).isSome) t
      else if (t.take 2).map lowerAscii = "0o" then
        basedEnd? (fun c => (CodePoint.digit? 8 c).isSome) t
      else if (t.take 2).map lowerAscii = "0b" then
        basedEnd? (fun c => (CodePoint.digit? 2 c).isSome) t
      else decimalEnd? t := rfl

theorem basedEnd?_row {p : CodePoint → Bool} (hp : p 10 = false) (hu : 2 ≤ u.length) :
    basedEnd? p (u ++ 10 :: v) = basedEnd? p (u ++ 10 :: w) := by
  simp only [basedEnd?, drop_row hu, digits?_row (v := v) (w := w) hp]
  cases hd : digits? p (u.drop 2 ++ 10 :: w) with
  | none => rfl
  | some n =>
    have hn := digits?_le hp hd
    rw [List.length_drop] at hn
    have hn' : 2 + n ≤ u.length := by omega
    simp only [Option.bind_some, drop_row hn', head?_row (v := v) (w := w),
      keepsApart_row (v := v) (w := w)]

theorem basedEnd?_le {p : CodePoint → Bool} {n : Nat} (hp : p 10 = false) (hu : 2 ≤ u.length)
    (h : basedEnd? p (u ++ 10 :: v) = some n) : 0 < n ∧ n ≤ u.length := by
  obtain ⟨k, hk, h⟩ := Option.bind_eq_some_iff.1 h
  rw [drop_row hu] at hk
  have hk' := digits?_le hp hk
  rw [List.length_drop] at hk'
  split at h
  · simp at h
  · simp only [Option.some.injEq] at h
    omega

theorem paddedEnd?_row {n m : Nat} (hn : n ≤ u.length) :
    paddedEnd? (u ++ 10 :: v) n m = paddedEnd? (u ++ 10 :: w) n m := by
  simp only [paddedEnd?, take_row hn, head?_row (v := v) (w := w)]

theorem paddedEnd?_eq_some {t : Text} {n m k : Nat} (h : paddedEnd? t n m = some k) :
    k = n + m := by
  unfold paddedEnd? at h
  split at h <;> simp_all

theorem decimalEnd?_row : decimalEnd? (u ++ 10 :: v) = decimalEnd? (u ++ 10 :: w) := by
  simp only [decimalEnd?, digits?_row (v := v) (w := w) (p := CodePoint.isDigit) rfl]
  cases hd : digits? CodePoint.isDigit (u ++ 10 :: w) with
  | none => rfl
  | some n =>
    have hn := digits?_le rfl hd
    have padded : paddedEnd? (u ++ 10 :: v) n = paddedEnd? (u ++ 10 :: w) n :=
      funext fun m => paddedEnd?_row hn
    simp only [Option.bind_some, drop_row hn, padded, head?_row (v := v) (w := w),
      exponentEnd?_row (v := v) (w := w)]
    split
    · rename_i hc
      rcases hr : u.drop n with _ | ⟨c, rest⟩
      · simp [hr] at hc
      · simp only [List.cons_append, List.tail_cons, fractionEnd?_row (v := v) (w := w)]
    · rfl

theorem decimalEnd?_le {n : Nat} (h : decimalEnd? (u ++ 10 :: v) = some n) : n ≤ u.length := by
  obtain ⟨k, hk, h⟩ := Option.bind_eq_some_iff.1 h
  have hk' := digits?_le rfl hk
  rw [drop_row hk'] at h
  have hl : (u.drop k).length = u.length - k := List.length_drop
  split at h
  · rename_i hc
    obtain ⟨m, hm, h⟩ := Option.bind_eq_some_iff.1 h
    obtain ⟨j, hj, rfl⟩ := Option.map_eq_some_iff.1 hm
    have := paddedEnd?_eq_some h
    rcases hr : u.drop k with _ | ⟨c, rest⟩
    · simp [hr] at hc
    · rw [hr] at hl hj
      have := fractionEnd?_le (u := rest) hj
      rw [List.length_cons] at hl
      omega
  · obtain ⟨m, hm, h⟩ := Option.bind_eq_some_iff.1 h
    have := paddedEnd?_eq_some h
    have := exponentEnd?_le hm
    omega

theorem decimalEnd?_pos {c : CodePoint} {t : Text} {n : Nat} (hc : c.isDigit = true)
    (h : decimalEnd? (c :: t) = some n) : 0 < n := by
  obtain ⟨k, hk, h⟩ := Option.bind_eq_some_iff.1 h
  have hk' : 0 < k := by
    simp only [digits?, hc, ↓reduceIte, Option.map_eq_some_iff] at hk
    obtain ⟨j, -, rfl⟩ := hk
    omega
  split at h <;> obtain ⟨m, -, h⟩ := Option.bind_eq_some_iff.1 h <;>
    have := paddedEnd?_eq_some h <;> omega

/-- A text that is announced as a number in a base has its announcement on its row. -/
theorem two_le_of_start {c b : CodePoint} {start : Text} (hb : b ≠ 10)
    (h : ((c :: u ++ 10 :: v).take 2).map lowerAscii = start) (hs : start = [0x30, b]) :
    2 ≤ (c :: u).length := by
  cases u with
  | nil =>
    subst hs
    simp [lowerAscii] at h
    exact absurd h.2.symm hb
  | cons d u => simp

theorem take_two_row {c : CodePoint} :
    (c :: u ++ 10 :: v).take 2 = (c :: u ++ 10 :: w).take 2 := by
  cases u <;> rfl

theorem number?_row {c : CodePoint} :
    number? (c :: u ++ 10 :: v) = number? (c :: u ++ 10 :: w) := by
  simp only [number?_eq, take_two_row (v := v) (w := w), decimalEnd?_row (v := v) (w := w)]
  split
  · rename_i hs
    exact basedEnd?_row rfl (two_le_of_start (b := 'x') (by decide) hs rfl)
  · split
    · rename_i hs
      exact basedEnd?_row rfl (two_le_of_start (b := 'o') (by decide) hs rfl)
    · split
      · rename_i hs
        exact basedEnd?_row rfl (two_le_of_start (b := 'b') (by decide) hs rfl)
      · rfl

theorem number?_le {c : CodePoint} {n : Nat} (h : number? (c :: u ++ 10 :: v) = some n) :
    n ≤ (c :: u).length := by
  rw [number?_eq] at h
  split at h
  · rename_i hs
    exact (basedEnd?_le rfl (two_le_of_start (b := 'x') (by decide) hs rfl) h).2
  · split at h
    · rename_i hs
      exact (basedEnd?_le rfl (two_le_of_start (b := 'o') (by decide) hs rfl) h).2
    · split at h
      · rename_i hs
        exact (basedEnd?_le rfl (two_le_of_start (b := 'b') (by decide) hs rfl) h).2
      · exact decimalEnd?_le h

theorem number?_pos {c : CodePoint} {t : Text} {n : Nat} (hc : c.isDigit = true)
    (h : number? (c :: t) = some n) : 0 < n := by
  have based {p : CodePoint → Bool} (h : basedEnd? p (c :: t) = some n) : 0 < n := by
    obtain ⟨k, hk, h⟩ := Option.bind_eq_some_iff.1 h
    split at h
    · simp at h
    · simp only [Option.some.injEq] at h
      omega
  rw [number?_eq] at h
  split at h
  · exact based h
  · split at h
    · exact based h
    · split at h
      · exact based h
      · exact decimalEnd?_pos hc h

/-! ## Strings -/

/-- The quotes that begin a string after `n` letters. -/
def quoteAt? (t : Text) (n : Nat) : Option (Nat × Quote) :=
  if (t.take n).map lowerAscii ∈ stringMarks then
    match t.drop n with
    | q :: rest =>
      if q = '\'' ∨ q = '"' then some (n, ⟨q, [q, q].isPrefixOf rest⟩) else none
    | [] => none
  else none

theorem stringStart?_eq (t : Text) :
    stringStart? t = (quoteAt? t 0).or ((quoteAt? t 1).or (quoteAt? t 2)) := rfl

theorem lineFeed_notMem_of_mark {t : Text} (h : t.map lowerAscii ∈ stringMarks) :
    (10 : CodePoint) ∉ t := by
  intro ht
  have hm : (10 : CodePoint) ∈ t.map lowerAscii := List.mem_map.2 ⟨10, ht, rfl⟩
  have : ∀ mark ∈ stringMarks, (10 : CodePoint) ∉ mark := by decide
  exact this _ h hm

theorem le_of_lineFeed_notMem_take {n : Nat} (h : (10 : CodePoint) ∉ (u ++ 10 :: v).take n) :
    n ≤ u.length := by
  refine Nat.le_of_not_lt fun hn => h ?_
  rw [List.take_append, List.mem_append]
  right
  obtain ⟨k, hk⟩ : ∃ k, n - u.length = k + 1 := ⟨n - u.length - 1, by omega⟩
  simp [hk]

theorem quoteAt?_row {n : Nat} : quoteAt? (u ++ 10 :: v) n = quoteAt? (u ++ 10 :: w) n := by
  by_cases hn : n ≤ u.length
  · simp only [quoteAt?, take_row hn, drop_row hn]
    cases u.drop n with
    | nil => rfl
    | cons q rest =>
      by_cases hq : q = '\'' ∨ q = '"'
      · have hq10 : (10 : CodePoint) ∉ [q, q] := by rcases hq with rfl | rfl <;> decide
        simp only [List.cons_append, hq, ↓reduceIte, isPrefixOf_row (v := v) (w := w) hq10]
      · simp only [List.cons_append, hq, ↓reduceIte]
  · have none_ (v : Text) : quoteAt? (u ++ 10 :: v) n = none := by
      unfold quoteAt?
      rw [if_neg fun h => hn (le_of_lineFeed_notMem_take (lineFeed_notMem_of_mark h))]
    rw [none_, none_]

theorem stringStart?_row : stringStart? (u ++ 10 :: v) = stringStart? (u ++ 10 :: w) := by
  simp only [stringStart?_eq, quoteAt?_row (v := v) (w := w)]

theorem quoteAt?_le {n m : Nat} {q : Quote} (h : quoteAt? (u ++ 10 :: v) n = some (m, q)) :
    m + q.marks.length ≤ u.length ∧ (q.mark = '\'' ∨ q.mark = '"') := by
  unfold quoteAt? at h
  split at h
  · rename_i hm
    have hn := le_of_lineFeed_notMem_take (lineFeed_notMem_of_mark hm)
    rw [drop_row hn] at h
    have hl : (u.drop n).length = u.length - n := List.length_drop
    rcases hd : u.drop n with _ | ⟨c, rest⟩
    · rw [hd] at h
      simp at h
    · rw [hd] at h hl
      rw [List.length_cons] at hl
      simp only [List.cons_append] at h
      split at h
      · rename_i hq
        simp only [Option.some.injEq, Prod.mk.injEq] at h
        obtain ⟨rfl, rfl⟩ := h
        refine ⟨?_, hq⟩
        have hq10 : (10 : CodePoint) ∉ [c, c] := by rcases hq with rfl | rfl <;> decide
        cases ht : [c, c].isPrefixOf (rest ++ 10 :: v) with
        | false => simp [Quote.marks]; omega
        | true =>
          have := length_le_of_isPrefixOf hq10 ht
          simp only [List.length_cons, List.length_nil] at this
          simp [Quote.marks]
          omega
      · simp at h
  · simp at h

theorem stringStart?_le {n : Nat} {q : Quote} (h : stringStart? (u ++ 10 :: v) = some (n, q)) :
    n + q.marks.length ≤ u.length ∧ (q.mark = '\'' ∨ q.mark = '"') := by
  rw [stringStart?_eq, Option.or_eq_some_iff, Option.or_eq_some_iff] at h
  rcases h with h | ⟨-, h | ⟨-, h⟩⟩ <;> exact quoteAt?_le h

theorem lineFeed_notMem_marks {q : Quote} (hq : q.mark = '\'' ∨ q.mark = '"') :
    (10 : CodePoint) ∉ q.marks := by
  unfold Quote.marks
  rw [List.mem_replicate]
  rintro ⟨-, h⟩
  rcases hq with hq | hq <;> rw [hq] at h <;> exact absurd h (by decide)

theorem marks_pos (q : Quote) : 0 < q.marks.length := by
  unfold Quote.marks
  rw [List.length_replicate]
  split <;> omega

/-- What `stringEnd?` does with a code point that does not end the text. -/
theorem stringEnd?_cons {q : Quote} {n : Nat} {c : CodePoint} {t : Text} (ht : t ≠ []) :
    stringEnd? q n (c :: t) =
      if c = '\\' then stringEnd? q (n + 2) t.tail
      else if q.marks.isPrefixOf (c :: t) then some (n + q.marks.length)
      else if c = '\n' ∧ !q.triple then none
      else stringEnd? q (n + 1) t := by
  cases t with
  | nil => exact absurd rfl ht
  | cons d rest => rfl

theorem stringEnd?_lineFeed {q : Quote} {n : Nat} (hm : (10 : CodePoint) ∉ q.marks) :
    stringEnd? q n [10] = none := by
  have hone : q.marks ≠ [10] := fun he => hm (by simp [he])
  simp [stringEnd?, hone]

/-- A string that ends on its row ends there whatever follows. -/
theorem stringEnd?_row {q : Quote} {n k : Nat} (hq : q.mark = '\'' ∨ q.mark = '"')
    (h : stringEnd? q n (u ++ [10]) = some k) :
    stringEnd? q n (u ++ 10 :: v) = some k ∧ n < k ∧ k ≤ n + u.length := by
  have hm := lineFeed_notMem_marks hq
  have hpos := marks_pos q
  induction hu : u.length using Nat.strongRecOn generalizing u n with
  | ind l ih =>
    subst hu
    cases u with
    | nil => rw [List.nil_append, stringEnd?_lineFeed hm] at h; simp at h
    | cons c u =>
      rw [List.cons_append, stringEnd?_cons (by simp)] at h
      rw [List.cons_append, stringEnd?_cons (by simp)]
      split at h
      · rename_i hc
        rw [if_pos hc]
        cases u with
        | nil => simp [stringEnd?] at h
        | cons d u =>
          obtain ⟨he, hn, hk⟩ := ih u.length (by simp only [List.length_cons]; omega) h rfl
          exact ⟨he, by omega, by simp only [List.length_cons]; omega⟩
      · rename_i hc
        have hp := isPrefixOf_row (u := c :: u) (v := v) (w := []) hm
        simp only [List.cons_append] at hp
        rw [if_neg hc, hp]
        split at h
        · rename_i ht
          have hl := length_le_of_isPrefixOf (u := c :: u) (v := []) hm ht
          rw [if_pos ht]
          simp only [Option.some.injEq] at h
          exact ⟨by rw [h], by omega, by omega⟩
        · rename_i ht
          rw [if_neg ht]
          split at h
          · simp at h
          · rename_i hn
            obtain ⟨he, hn', hk⟩ := ih u.length (by simp) h rfl
            rw [if_neg hn]
            exact ⟨he, by omega, by simp only [List.length_cons]; omega⟩

/-! ## Words and operators -/

theorem takeWhile_row {p : CodePoint → Bool} (hp : p 10 = false) :
    (u ++ 10 :: v).takeWhile p = u.takeWhile p := by
  induction u with
  | nil => simp [hp]
  | cons c u ih => simp only [List.cons_append, List.takeWhile_cons, ih]

theorem word?_row : word? (u ++ 10 :: v) = word? u := by
  unfold word?
  rw [takeWhile_row rfl]

theorem word?_pos {t : Text} {n : Nat} (h : word? t = some n) : 0 < n ∧ n ≤ t.length := by
  have hl := (List.takeWhile_prefix (p := isWordPart) (l := t)).length_le
  simp only [word?] at h
  split at h
  · simp at h
  · rename_i c rest hw
    split at h
    · rw [hw] at h hl
      simp only [List.length_cons, Option.some.injEq] at h hl
      omega
    · simp at h

theorem lineFeed_notMem_operators : ∀ o ∈ operators, (10 : CodePoint) ∉ o := by
  decide

theorem operatorLength_row : operatorLength (u ++ 10 :: v) = operatorLength (u ++ 10 :: w) := by
  have find (l : List Text) (hl : ∀ o ∈ l, (10 : CodePoint) ∉ o) :
      l.find? (·.isPrefixOf (u ++ 10 :: v)) = l.find? (·.isPrefixOf (u ++ 10 :: w)) := by
    induction l with
    | nil => rfl
    | cons o l ih =>
      rw [List.forall_mem_cons] at hl
      simp only [List.find?_cons, isPrefixOf_row (v := v) (w := w) hl.1, ih hl.2]
  unfold operatorLength
  rw [find operators lineFeed_notMem_operators]

theorem operatorLength_le : operatorLength (u ++ 10 :: v) ≤ u.length := by
  unfold operatorLength
  split
  · rename_i o ho
    have hp := List.find?_some ho
    exact length_le_of_isPrefixOf (lineFeed_notMem_operators o (List.mem_of_find?_eq_some ho)) hp
  · exact Nat.zero_le _

theorem operator_row : operator (u ++ 10 :: v) = operator (u ++ 10 :: w) := by
  unfold operator
  rw [isPrefixOf_row (v := v) (w := w) (by decide), operatorLength_row (v := v) (w := w)]

theorem operator_pos {t : Text} : 0 < operator t := by
  unfold operator
  split <;> omega

theorem operator_le (hu : u ≠ []) : operator (u ++ 10 :: v) ≤ u.length := by
  have := operatorLength_le (u := u) (v := v)
  have := List.length_pos_iff.2 hu
  unfold operator
  split
  · rename_i hp
    exact length_le_of_isPrefixOf (a := Text.ofString "<>") (by decide) hp
  · omega

/-! ## Whole terminals -/

/-- A terminal that begins with a code point and is no string. -/
def plain? (c : CodePoint) (rest : Text) : Option (Kind × Nat) :=
  if c.isDigit then (number? (c :: rest)).map fun n => (.number, n)
  else if isWordPart c then (word? (c :: rest)).map fun n => (.name, n)
  else if c = '.' ∧ rest.head?.any CodePoint.isDigit then
    (fractionEnd? rest).map fun n => (.number, n + 1)
  else if c.isPrintable then some (.op, operator (c :: rest))
  else none

theorem visible?_of_string {t : Text} {letters : Nat} {q : Quote}
    (h : stringStart? t = some (letters, q)) :
    visible? t = (stringEnd? q (letters + q.marks.length) (t.drop (letters + q.marks.length))).map
      fun n => (.string, n) := by
  simp only [visible?, h]

theorem visible?_of_plain {c : CodePoint} {rest : Text} (h : stringStart? (c :: rest) = none) :
    visible? (c :: rest) = plain? c rest := by
  simp only [visible?, h, plain?]

theorem plain?_row {c : CodePoint} : plain? c (u ++ 10 :: v) = plain? c (u ++ 10 :: w) := by
  have number := number?_row (u := u) (v := v) (w := w) (c := c)
  have word : word? (c :: u ++ 10 :: v) = word? (c :: u ++ 10 :: w) := by
    rw [word?_row, word?_row]
  have op := operator_row (u := c :: u) (v := v) (w := w)
  simp only [List.cons_append] at number word op
  simp only [plain?, number, word, op, head?_row (v := v) (w := w),
    fractionEnd?_row (v := v) (w := w)]

theorem plain?_pos {c : CodePoint} {t : Text} {kind : Kind} {n : Nat}
    (h : plain? c t = some (kind, n)) : 0 < n := by
  unfold plain? at h
  split at h
  · rename_i hc
    obtain ⟨m, hm, h⟩ := Option.map_eq_some_iff.1 h
    obtain ⟨-, rfl⟩ := Prod.mk.inj h
    exact number?_pos hc hm
  · split at h
    · obtain ⟨m, hm, h⟩ := Option.map_eq_some_iff.1 h
      obtain ⟨-, rfl⟩ := Prod.mk.inj h
      exact (word?_pos hm).1
    · split at h
      · obtain ⟨m, -, h⟩ := Option.map_eq_some_iff.1 h
        obtain ⟨-, rfl⟩ := Prod.mk.inj h
        omega
      · split at h
        · obtain ⟨-, rfl⟩ := Prod.mk.inj (Option.some.inj h)
          exact operator_pos
        · simp at h

theorem plain?_le {c : CodePoint} {kind : Kind} {n : Nat}
    (h : plain? c (u ++ 10 :: v) = some (kind, n)) : n ≤ u.length + 1 := by
  unfold plain? at h
  split at h
  · obtain ⟨m, hm, h⟩ := Option.map_eq_some_iff.1 h
    obtain ⟨-, rfl⟩ := Prod.mk.inj h
    exact number?_le (u := u) (v := v) hm
  · split at h
    · obtain ⟨m, hm, h⟩ := Option.map_eq_some_iff.1 h
      obtain ⟨-, rfl⟩ := Prod.mk.inj h
      have hw := word?_row (u := c :: u) (v := v)
      simp only [List.cons_append] at hw
      exact (word?_pos (hw ▸ hm)).2
    · split at h
      · obtain ⟨m, hm, h⟩ := Option.map_eq_some_iff.1 h
        obtain ⟨-, rfl⟩ := Prod.mk.inj h
        have := fractionEnd?_le hm
        omega
      · split at h
        · obtain ⟨-, rfl⟩ := Prod.mk.inj (Option.some.inj h)
          exact operator_le (u := c :: u) (v := v) (by simp)
        · simp at h

theorem stringEnd?_lt {q : Quote} {n k : Nat} {t : Text} (h : stringEnd? q n t = some k) :
    n < k := by
  induction ht : t.length using Nat.strongRecOn generalizing t n with
  | ind l ih =>
    subst ht
    rcases t with _ | ⟨c, _ | ⟨d, t⟩⟩
    · simp [stringEnd?] at h
    · simp only [stringEnd?, Option.ite_none_right_eq_some, Option.some.injEq] at h
      omega
    · rw [stringEnd?_cons (by simp)] at h
      split at h
      · have := ih t.length (by simp only [List.length_cons]; omega) h rfl
        omega
      · split at h
        · have := marks_pos q
          simp only [Option.some.injEq] at h
          omega
        · split at h
          · simp at h
          · have := ih (d :: t).length (by simp) h rfl
            omega

theorem visible?_pos {t : Text} {kind : Kind} {n : Nat} (h : visible? t = some (kind, n)) :
    0 < n := by
  cases hs : stringStart? t with
  | some start =>
    obtain ⟨letters, q⟩ := start
    rw [visible?_of_string hs] at h
    obtain ⟨m, hm, h⟩ := Option.map_eq_some_iff.1 h
    obtain ⟨-, rfl⟩ := Prod.mk.inj h
    have := stringEnd?_lt hm
    omega
  | none =>
    cases t with
    | nil => simp [visible?, hs] at h
    | cons c t => exact plain?_pos (visible?_of_plain hs ▸ h)

/-- A terminal that ends on its row is found there whatever follows the row. -/
theorem visible?_row {kind : Kind} {n : Nat} (h : visible? (u ++ [10]) = some (kind, n)) :
    visible? (u ++ 10 :: v) = some (kind, n) ∧ n ≤ u.length := by
  have start := stringStart?_row (u := u) (v := v) (w := [])
  cases hs : stringStart? (u ++ [10]) with
  | some found =>
    obtain ⟨letters, q⟩ := found
    rw [hs] at start
    rw [visible?_of_string hs] at h
    rw [visible?_of_string start]
    obtain ⟨m, hm, h⟩ := Option.map_eq_some_iff.1 h
    obtain ⟨rfl, rfl⟩ := Prod.mk.inj h
    obtain ⟨hle, hq⟩ := stringStart?_le hs
    rw [drop_row hle] at hm
    obtain ⟨he, -, hk⟩ := stringEnd?_row (v := v) hq hm
    rw [drop_row hle, he, Option.map_some]
    rw [List.length_drop] at hk
    exact ⟨rfl, by omega⟩
  | none =>
    rw [hs] at start
    cases u with
    | nil =>
      have hn : visible? ([] ++ [10]) = none := by decide
      rw [hn] at h
      simp at h
    | cons c u =>
      rw [List.cons_append] at hs start h
      rw [visible?_of_plain hs] at h
      rw [List.cons_append, visible?_of_plain start]
      exact ⟨plain?_row.trans h, plain?_le h⟩

end Stencil.Script.Terminals
