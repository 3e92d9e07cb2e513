import Stencil.Proofs.Script.Complete
import Stencil.Proofs.Script.Shift

/-!
# What a lexeme looks ahead to

How far a lexeme reaches depends on what follows it, but it hardly matters which letter follows.
Before `a` stands the same lexeme as before `i`, unless a hexadecimal number takes the `a` as a
digit.

## Main definitions

* `Plain` — letters that go on with nothing but words and hexadecimal numbers.

## Main results

* `lexeme_plain` — the lexeme before a plain letter.
-/

namespace Stencil.Script

variable {p : CodePoint → Bool} {c x y : CodePoint} {t u v w : Text} {n : Nat}

/-- A letter that goes on with nothing but words and hexadecimal numbers. -/
def Plain (x : CodePoint) : Prop := x = 0x69 ∨ x = 0x61

/-- What a number or a string does not go on with. -/
theorem Plain.foreign (hx : Plain x) :
    x ≠ ('_' : CodePoint) ∧ x.isDigit = false ∧ x ≠ ('.' : CodePoint) ∧
      (x ≠ ('e' : CodePoint) ∧ x ≠ ('E' : CodePoint)) ∧
      (x ≠ ('j' : CodePoint) ∧ x ≠ ('J' : CodePoint)) ∧
      (x ≠ ('-' : CodePoint) ∧ x ≠ ('+' : CodePoint)) := by
  rcases hx with rfl | rfl <;> decide

/-! ## Numbers -/

theorem digitRun_cons (c : CodePoint) (t : Text) :
    digitRun p (c :: t) =
      if p c then 1 + digitRun p t
      else if c = '_' ∧ t.head?.any p = true then 2 + digitRun p t.tail
      else 0 := by
  cases t with
  | nil => simp [digitRun]
  | cons d t => rfl

theorem digitRun_stop (hx : p x = false) (h_ : x ≠ ('_' : CodePoint)) (v : Text) :
    digitRun p (x :: v) = 0 := by
  rw [digitRun_cons, hx, if_neg (by simp), if_neg fun h => h_ h.1]

/-- Digits end before a letter that is none. -/
theorem digitRun_plain (hx : Plain x) (hy : Plain y) (hpx : p x = false) (hpy : p y = false) :
    digitRun p (u ++ x :: v) = digitRun p (u ++ y :: w) ∧ digitRun p (u ++ x :: v) ≤ u.length := by
  have hx' := hx.foreign.1
  have hy' := hy.foreign.1
  induction hl : u.length using Nat.strongRecOn generalizing u with
  | ind l ih =>
    subst hl
    match u with
    | [] =>
      rw [List.nil_append, List.nil_append, digitRun_stop hpx hx', digitRun_stop hpy hy']
      exact ⟨rfl, Nat.le_refl 0⟩
    | [c] =>
      have stop := ih 0 (by simp) (u := []) rfl
      rw [List.nil_append, List.nil_append, digitRun_stop hpx hx', digitRun_stop hpy hy'] at stop
      simp only [List.cons_append, List.nil_append, digitRun_cons c, digitRun_stop hpx hx',
        digitRun_stop hpy hy', List.head?_cons, Option.any_some, hpx, hpy, Bool.false_eq_true,
        and_false, ↓reduceIte, true_and]
      split <;> simp
    | c :: d :: u =>
      have one := ih (u.length + 1) (by simp) (u := d :: u) rfl
      have two := ih u.length (by rw [List.length_cons, List.length_cons]; omega) (u := u) rfl
      simp only [List.cons_append, List.length_cons] at one two ⊢
      rw [digitRun_cons c, digitRun_cons c, one.1]
      simp only [List.head?_cons, List.tail_cons, two.1]
      refine ⟨rfl, ?_⟩
      have h₁ := one.1 ▸ one.2
      have h₂ := two.1 ▸ two.2
      split
      · omega
      · split <;> omega

theorem decimalRun_plain (hx : Plain x) (hy : Plain y) :
    decimalRun (u ++ x :: v) = decimalRun (u ++ y :: w) ∧ decimalRun (u ++ x :: v) ≤ u.length := by
  have hpx := hx.foreign.2.1
  have hpy := hy.foreign.2.1
  cases u with
  | nil => simp [decimalRun, hpx, hpy]
  | cons c u =>
    obtain ⟨same, le⟩ := digitRun_plain (u := u) (v := v) (w := w) hx hy hpx hpy
    simp only [List.cons_append, decimalRun, same, List.length_cons, true_and]
    split
    · omega
    · omega

theorem drop_plain (h : n ≤ u.length) : (u ++ x :: v).drop n = u.drop n ++ x :: v := by
  rw [List.drop_append_of_le_length h]

theorem exponentLength_plain (hx : Plain x) (hy : Plain y) :
    exponentLength (u ++ x :: v) = exponentLength (u ++ y :: w) ∧
      exponentLength (u ++ x :: v) ≤ u.length := by
  have none_ {z : CodePoint} (hz : Plain z) (t : Text) : exponentLength (z :: t) = 0 := by
    have he := hz.foreign.2.2.2.1
    rw [exponentLength_cons, if_neg fun h => h.1.elim he.1 he.2]
  cases u with
  | nil => simp [none_ hx, none_ hy]
  | cons e u =>
    have sign {z : CodePoint} (hz : Plain z) (t : Text) :
        Terminals.signLength (u ++ z :: t) = Terminals.signLength u := by
      cases u with
      | nil =>
        have hs := hz.foreign.2.2.2.2.2
        exact if_neg fun h => h.elim hs.2 hs.1
      | cons s u => rfl
    have le : Terminals.signLength u ≤ u.length := Terminals.signLength_le
    obtain ⟨same, digits⟩ := decimalRun_plain (u := u.drop (Terminals.signLength u)) (v := v) (w := w)
      hx hy
    rw [List.length_drop] at digits
    simp only [List.cons_append, exponentLength_cons, sign hx, sign hy, drop_plain le, same,
      List.length_cons, true_and]
    split
    · omega
    · omega

theorem beginsImaginary_plain (hx : Plain x) (hy : Plain y) :
    beginsImaginary (u ++ x :: v) = beginsImaginary (u ++ y :: w) ∧
      (beginsImaginary (u ++ x :: v) = true → 0 < u.length) := by
  have none_ {z : CodePoint} (hz : Plain z) (t : Text) : beginsImaginary (z :: t) = false := by
    rcases hz with rfl | rfl <;> rfl
  cases u with
  | nil => simp [none_ hx, none_ hy]
  | cons c u => simp [beginsImaginary]

theorem floatLength_plain (hx : Plain x) (hy : Plain y) :
    floatLength (u ++ x :: v) = floatLength (u ++ y :: w) ∧
      floatLength (u ++ x :: v) ≤ u.length := by
  obtain ⟨whole, le⟩ := decimalRun_plain (u := u) (v := v) (w := w) hx hy
  unfold floatLength
  simp only [whole] at le ⊢
  generalize decimalRun (u ++ y :: w) = k at le ⊢
  rw [drop_plain le, drop_plain le]
  have short : (u.drop k).length = u.length - k := List.length_drop
  cases hd : u.drop k with
  | nil =>
    have hp : ¬x = 46 := hx.foreign.2.2.1
    have hp' : ¬y = 46 := hy.foreign.2.2.1
    have stop {z : CodePoint} (hz : Plain z) (t : Text) : exponentLength (z :: t) = 0 := by
      have h := (exponentLength_plain (u := []) (v := t) (w := t) hz hz).2
      simpa using h
    simp [hp, hp', stop hx, stop hy]
  | cons c rest =>
    have fraction := decimalRun_plain (u := rest) (v := v) (w := w) hx hy
    have exponent := exponentLength_plain (u := c :: rest) (v := v) (w := w) hx hy
    have hle : k + 1 + decimalRun (rest ++ y :: w) ≤ u.length := by
      have := fraction.1 ▸ fraction.2
      simp only [hd, List.length_cons] at short
      omega
    have after := exponentLength_plain (u := u.drop (k + 1 + decimalRun (rest ++ y :: w))) (v := v)
      (w := w) hx hy
    rw [List.length_drop] at after
    simp only [List.cons_append] at exponent ⊢
    simp only [fraction.1, drop_plain hle, exponent.1, after.1, true_and]
    have hafter := after.1 ▸ after.2
    have hexponent := exponent.1 ▸ exponent.2
    simp only [hd, List.length_cons] at short hexponent
    split
    · split
      · omega
      · omega
    · split
      · omega
      · split
        · omega
        · rename_i n hn
          omega

/-! ### Hexadecimal digits -/

/-- A hexadecimal digit. -/
def isHex (c : CodePoint) : Bool := (CodePoint.digit? 16 c).isSome

/-- Digits up to the end go on with one more digit. -/
theorem digitRun_extended (hx : Plain x) (hpx : p x = false) (hpa : p 0x61 = true)
    (hw : digitRun p w = 0) :
    digitRun p (u ++ 0x61 :: w) = digitRun p (u ++ x :: v) ∨
      digitRun p (u ++ x :: v) = u.length ∧ digitRun p (u ++ 0x61 :: w) = u.length + 1 ∨
      u.drop (digitRun p (u ++ x :: v)) = [0x5F] := by
  have hx' := hx.foreign.1
  induction hl : u.length using Nat.strongRecOn generalizing u with
  | ind l ih =>
    subst hl
    match u with
    | [] =>
      rw [List.nil_append, List.nil_append, digitRun_stop hpx hx', digitRun_cons, hpa, if_pos rfl, hw]
      exact .inr (.inl ⟨rfl, rfl⟩)
    | [c] =>
      simp only [List.cons_append, List.nil_append, digitRun_cons c, digitRun_stop hpx hx',
        List.head?_cons, Option.any_some, hpx, hpa, List.tail_cons, hw, Bool.false_eq_true, and_false,
        ↓reduceIte, and_true]
      rw [digitRun_cons, hpa, if_pos rfl, hw]
      by_cases hc : p c = true
      · exact .inr (.inl (by simp [hc]))
      · by_cases h_ : c = ('_' : CodePoint)
        · exact .inr (.inr (by rw [if_neg hc]; exact congrArg (· :: []) h_))
        · exact .inl (by rw [if_neg hc, if_neg hc, if_neg h_])
    | c :: d :: u =>
      have one := ih (u.length + 1) (by simp) (u := d :: u) rfl
      have two := ih u.length (by rw [List.length_cons, List.length_cons]; omega) (u := u) rfl
      simp only [List.cons_append, List.length_cons] at one two ⊢
      rw [digitRun_cons c, digitRun_cons c]
      simp only [List.head?_cons, List.tail_cons]
      by_cases hc : p c = true
      · simp only [hc, ↓reduceIte, Nat.add_comm 1, List.drop_succ_cons]
        rcases one with h | ⟨h, h'⟩ | h
        · exact .inl (by rw [h])
        · exact .inr (.inl ⟨by rw [h], by rw [h']⟩)
        · exact .inr (.inr h)
      · simp only [hc, Bool.false_eq_true, ↓reduceIte, Nat.add_comm 2]
        split
        · simp only [List.drop_succ_cons]
          rcases two with h | ⟨h, h'⟩ | h
          · exact .inl (by rw [h])
          · exact .inr (.inl ⟨by rw [h], by rw [h']⟩)
          · exact .inr (.inr h)
        · exact .inl rfl

theorem basedLength_of_ne {lower upper : CodePoint} (hc : c ≠ ('0' : CodePoint)) (t : Text) :
    basedLength lower upper p (c :: t) = 0 := by
  cases t with
  | nil => rfl
  | cons b t => exact if_neg fun h => hc h.1

/-- A number whose base is announced by a letter ends before a letter that is no digit of it. -/
theorem basedLength_plain {lower upper : CodePoint} (hx : Plain x) (hy : Plain y)
    (hpx : p x = false) (hpy : p y = false) (hb : ∀ z, Plain z → ¬(z = lower ∨ z = upper)) :
    basedLength lower upper p (u ++ x :: v) = basedLength lower upper p (u ++ y :: w) := by
  have none_ {z : CodePoint} (hz : Plain z) (t : Text) : basedLength lower upper p (z :: t) = 0 :=
    basedLength_of_ne (by rcases hz with rfl | rfl <;> decide) t
  match u with
  | [] => rw [List.nil_append, List.nil_append, none_ hx, none_ hy]
  | [c] =>
    have single {z : CodePoint} (hz : Plain z) (t : Text) :
        basedLength lower upper p (c :: z :: t) = 0 := if_neg fun h => hb z hz h.2.1
    exact (single hx v).trans (single hy w).symm
  | c :: d :: u =>
    simp only [List.cons_append, basedLength,
      (digitRun_plain (u := u) (v := v) (w := w) hx hy hpx hpy).1]

/-- Only a hexadecimal number tells plain letters apart. -/
theorem numberLength_congr (hx : Plain x) (hy : Plain y)
    (h : basedLength 'x' 'X' isHex (u ++ x :: v) = basedLength 'x' 'X' isHex (u ++ y :: w)) :
    numberLength (u ++ x :: v) = numberLength (u ++ y :: w) := by
  have binary : basedLength 'b' 'B' (fun c => (CodePoint.digit? 2 c).isSome) (u ++ x :: v) =
      basedLength 'b' 'B' (fun c => (CodePoint.digit? 2 c).isSome) (u ++ y :: w) := by
    refine basedLength_plain hx hy ?_ ?_ ?_
    · rcases hx with rfl | rfl <;> decide
    · rcases hy with rfl | rfl <;> decide
    · rintro z (rfl | rfl) <;> decide
  have octal : basedLength 'o' 'O' (fun c => (CodePoint.digit? 8 c).isSome) (u ++ x :: v) =
      basedLength 'o' 'O' (fun c => (CodePoint.digit? 8 c).isSome) (u ++ y :: w) := by
    refine basedLength_plain hx hy ?_ ?_ ?_
    · rcases hx with rfl | rfl <;> decide
    · rcases hy with rfl | rfl <;> decide
    · rintro z (rfl | rfl) <;> decide
  have zeros : (if (u ++ x :: v).headD 1 = '0' then 1 + digitRun (fun d => d = '0') (u ++ x :: v).tail
        else decimalRun (u ++ x :: v)) =
      if (u ++ y :: w).headD 1 = '0' then 1 + digitRun (fun d => d = '0') (u ++ y :: w).tail
        else decimalRun (u ++ y :: w) := by
    have zero {z : CodePoint} (hz : Plain z) : ¬z = 48 := by rcases hz with rfl | rfl <;> decide
    cases u with
    | nil =>
      have none_ := (decimalRun_plain (u := []) (v := v) (w := w) hx hy).1
      simpa [zero hx, zero hy] using none_
    | cons c u =>
      have run := digitRun_plain (p := fun d => decide (d = ('0' : CodePoint))) (u := u) (v := v)
        (w := w) hx hy (decide_eq_false (zero hx)) (decide_eq_false (zero hy))
      simp only [List.cons_append, List.headD_cons, List.tail_cons, run.1]
      rw [← List.cons_append, ← List.cons_append,
        (decimalRun_plain (u := c :: u) (v := v) (w := w) hx hy).1]
      rfl
  have integer : integerLength (u ++ x :: v) = integerLength (u ++ y :: w) := by
    have h' : basedLength 'x' 'X' (fun c => (CodePoint.digit? 16 c).isSome) (u ++ x :: v) =
      basedLength 'x' 'X' (fun c => (CodePoint.digit? 16 c).isSome) (u ++ y :: w) := h
    rw [integerLength_eq, integerLength_eq]
    simp only [h', binary, octal, zeros]
  obtain ⟨whole, le⟩ := decimalRun_plain (u := u) (v := v) (w := w) hx hy
  obtain ⟨float, le'⟩ := floatLength_plain (u := u) (v := v) (w := w) hx hy
  rw [whole] at le
  rw [float] at le'
  have imaginary (u : Text) := (beginsImaginary_plain (u := u) (v := v) (w := w) hx hy).1
  unfold numberLength
  simp only [whole, float, integer, drop_plain le, drop_plain le', imaginary]

/-- The number after `0x`, or the zero alone. -/
theorem numberLength_hex {b : CodePoint} (hb : b = ('x' : CodePoint) ∨ b = ('X' : CodePoint))
    (t : Text) :
    numberLength (0x30 :: b :: t) =
      if digitRun isHex t ≠ 0 then 2 + digitRun isHex t else 1 := by
  have foreign : b.isDigit = false ∧ b ≠ ('_' : CodePoint) ∧ b ≠ ('.' : CodePoint) ∧
      ¬(b = ('e' : CodePoint) ∨ b = ('E' : CodePoint)) ∧
      ¬(b = ('b' : CodePoint) ∨ b = ('B' : CodePoint)) ∧
      ¬(b = ('o' : CodePoint) ∨ b = ('O' : CodePoint)) ∧ b ≠ ('0' : CodePoint) := by
    rcases hb with rfl | rfl <;> decide
  obtain ⟨digit, mark, point, exponent, binary, octal, zero⟩ := foreign
  have whole : decimalRun (0x30 :: b :: t) = 1 := by
    rw [decimalRun, if_pos (by decide), digitRun_stop digit mark]
  have imaginary : beginsImaginary (b :: t) = false := by rcases hb with rfl | rfl <;> rfl
  have float : floatLength (0x30 :: b :: t) = 0 := by
    unfold floatLength
    have none_ : exponentLength (b :: t) = 0 := by
      rw [exponentLength_cons, if_neg fun h => exponent h.1]
    simp only [whole, List.drop_succ_cons, List.drop_zero, none_]
    rw [if_neg point, if_neg (by decide)]
  have integer : integerLength (0x30 :: b :: t) =
      if digitRun isHex t ≠ 0 then 2 + digitRun isHex t else 1 := by
    rw [integerLength_eq]
    have run : digitRun (fun d => decide (d = ('0' : CodePoint))) (b :: t) = 0 :=
      digitRun_stop (decide_eq_false zero) mark t
    simp only [basedLength, binary, octal, false_and, and_false, hb, true_and, ↓reduceIte,
      List.headD_cons, List.tail_cons, run, ne_eq, not_true_eq_false, Nat.add_zero]
    change (if ¬(if (0x30 : CodePoint) = 0x30 ∧ ¬digitRun isHex t = 0 then 2 + digitRun isHex t
      else 0) = 0 then _ else 1) = _
    simp only [true_and]
    by_cases hn : digitRun isHex t = 0
    · simp [hn]
    · rw [if_pos hn, if_pos (by omega), if_pos hn]
      exact if_pos ⟨rfl, hn⟩
  unfold numberLength
  simp only [whole, float, integer, List.drop_succ_cons, List.drop_zero, imaginary,
    Bool.false_eq_true, and_false, ↓reduceIte, ne_eq, not_true_eq_false]

/-- Before `a` there is the same number, or one that takes the `a`; or else the number ended early
and a word goes on after it. -/
theorem numberLength_extended (hw : digitRun isHex w = 0) :
    numberLength (u ++ 0x61 :: w) = numberLength (u ++ 0x69 :: v) ∨
      numberLength (u ++ 0x69 :: v) ≠ 0 ∧
        (numberLength (u ++ 0x69 :: v) = u.length ∧
            numberLength (u ++ 0x61 :: w) = u.length + 1 ∨
          u.drop (numberLength (u ++ 0x69 :: v)) ∈
            ([['x'], ['X'], ['x', '_'], ['X', '_'], ['_']] : List (List Char)).map
              (List.map Char.toNat)) := by
  have hi : Plain 0x69 := .inl rfl
  have ha : Plain 0x61 := .inr rfl
  have stop : isHex 0x69 = false := by decide
  by_cases hb : basedLength 'x' 'X' isHex (u ++ 0x69 :: v) =
      basedLength 'x' 'X' isHex (u ++ 0x61 :: w)
  · exact .inl (numberLength_congr hi ha hb).symm
  -- only `0x` and hexadecimal digits tell the letters apart
  obtain ⟨b, rest, rfl, hx⟩ : ∃ b rest, u = 0x30 :: b :: rest ∧
      (b = ('x' : CodePoint) ∨ b = ('X' : CodePoint)) := by
    match u with
    | [] =>
      refine absurd ?_ hb
      rw [List.nil_append, List.nil_append, basedLength_of_ne (by decide),
        basedLength_of_ne (by decide)]
    | [c] => exact absurd (by simp [basedLength]) hb
    | c :: b :: rest =>
      by_cases hz : c = ('0' : CodePoint) ∧ (b = ('x' : CodePoint) ∨ b = ('X' : CodePoint))
      · exact ⟨b, rest, by rw [hz.1]; rfl, hz.2⟩
      · refine absurd ?_ hb
        have short (z : CodePoint) (t : Text) :
            basedLength 'x' 'X' isHex (c :: b :: rest ++ z :: t) = 0 :=
          if_neg fun h => hz ⟨h.1, h.2.1⟩
        rw [short, short]
  simp only [List.cons_append] at hb ⊢
  rw [numberLength_hex hx, numberLength_hex hx]
  rcases digitRun_extended (u := rest) (v := v) hi stop (by decide) hw with h | ⟨h, h'⟩ | h
  · exact .inl (by rw [h])
  · right
    rw [h, h', if_pos (Nat.succ_ne_zero _)]
    cases rest with
    | nil =>
      rw [if_neg (by simp)]
      rcases hx with rfl | rfl <;> exact ⟨by decide, .inr (by decide)⟩
    | cons d rest =>
      rw [if_pos (by simp)]
      refine ⟨by omega, .inl ⟨?_, ?_⟩⟩
      · simp only [List.length_cons]
        omega
      · simp only [List.length_cons]
        omega
  · right
    by_cases hn : digitRun isHex (rest ++ 0x69 :: v) = 0
    · rw [hn, List.drop_zero] at h
      rw [hn, if_neg (by simp), h]
      rcases hx with rfl | rfl <;> exact ⟨by decide, .inr (by decide)⟩
    · rw [if_pos hn]
      refine ⟨by omega, .inr ?_⟩
      rw [Nat.add_comm, List.drop_succ_cons, List.drop_succ_cons, h]
      decide

/-! ## Operators and strings -/

theorem isPrefixOf_plain {a : Text} (hx : x ∉ a) (hy : y ∉ a) :
    a.isPrefixOf (u ++ x :: v) = a.isPrefixOf (u ++ y :: w) ∧
      (a.isPrefixOf (u ++ x :: v) = true → a.length ≤ u.length) := by
  induction a generalizing u with
  | nil => simp
  | cons c a ih =>
    simp only [List.mem_cons, not_or] at hx hy
    cases u with
    | nil =>
      have hcx : (c == x) = false := by simpa using Ne.symm hx.1
      have hcy : (c == y) = false := by simpa using Ne.symm hy.1
      simp [List.isPrefixOf, hcx, hcy]
    | cons d u =>
      obtain ⟨same, le⟩ := ih (u := u) hx.2 hy.2
      simp only [List.cons_append, List.isPrefixOf, same, Bool.and_eq_true, List.length_cons,
        true_and]
      exact fun h => Nat.succ_le_succ (le (same ▸ h.2))

theorem Plain.notMem_operators (hx : Plain x) : ∀ o ∈ operators, x ∉ o := by
  rcases hx with rfl | rfl <;> decide

theorem operatorLength_plain (hx : Plain x) (hy : Plain y) :
    operatorLength (u ++ x :: v) = operatorLength (u ++ y :: w) := by
  have find (l : List Text) (hl : ∀ o ∈ l, x ∉ o ∧ y ∉ o) :
      l.find? (·.isPrefixOf (u ++ x :: v)) = l.find? (·.isPrefixOf (u ++ y :: w)) := by
    induction l with
    | nil => rfl
    | cons o l ih =>
      rw [List.forall_mem_cons] at hl
      simp only [List.find?_cons, (isPrefixOf_plain (u := u) (v := v) (w := w) hl.1.1 hl.1.2).1,
        ih hl.2]
  unfold operatorLength
  rw [find operators fun o ho => ⟨hx.notMem_operators o ho, hy.notMem_operators o ho⟩]

theorem Plain.ne_mark (hx : Plain x) {q : CodePoint} (hq : q = '\'' ∨ q = '"') : x ≠ q := by
  rcases hq with rfl | rfl <;> rcases hx with rfl | rfl <;> decide

/-- Marks of a string do not hold a plain letter, and none is a quote. -/
theorem quoteAt?_plain (hx : Plain x) (hy : Plain y) (n : Nat) :
    Terminals.quoteAt? (u ++ x :: v) n = Terminals.quoteAt? (u ++ y :: w) n := by
  by_cases hn : n ≤ u.length
  · simp only [Terminals.quoteAt?, List.take_append_of_le_length hn, drop_plain hn]
    cases u.drop n with
    | nil =>
      have hx' : ¬(x = ('\'' : CodePoint) ∨ x = ('"' : CodePoint)) :=
        fun h => hx.ne_mark h rfl
      have hy' : ¬(y = ('\'' : CodePoint) ∨ y = ('"' : CodePoint)) :=
        fun h => hy.ne_mark h rfl
      simp only [List.nil_append, hx', hy', ↓reduceIte]
    | cons q rest =>
      by_cases hq : q = '\'' ∨ q = '"'
      · have same := (isPrefixOf_plain (a := [q, q]) (u := rest) (v := v) (w := w)
          (by simpa using hx.ne_mark hq) (by simpa using hy.ne_mark hq)).1
        simp only [List.cons_append, hq, ↓reduceIte, same]
      · simp only [List.cons_append, hq, ↓reduceIte]
  · have none_ {z : CodePoint} (hz : Plain z) (t : Text) :
        Terminals.quoteAt? (u ++ z :: t) n = none := by
      refine if_neg fun hm => ?_
      obtain ⟨k, hk⟩ : ∃ k, n - u.length = k + 1 := ⟨n - u.length - 1, by omega⟩
      have inside : lowerAscii z ∈ ((u ++ z :: t).take n).map lowerAscii := by
        refine List.mem_map_of_mem ?_
        rw [List.take_append, hk]
        simp
      have foreign : ∀ mark ∈ stringMarks, lowerAscii z ∉ mark := by
        rcases hz with rfl | rfl <;> decide
      exact foreign _ hm inside
    rw [none_ hx, none_ hy]

theorem stringStart?_plain (hx : Plain x) (hy : Plain y) :
    stringStart? (u ++ x :: v) = stringStart? (u ++ y :: w) := by
  simp only [Terminals.stringStart?_eq, quoteAt?_plain (v := v) (w := w) hx hy]

/-- A string that ends before a plain letter ends there whatever follows. -/
theorem closing?_plain {q : Quote} (hq : q.mark = '\'' ∨ q.mark = '"') (hx : Plain x) (hy : Plain y)
    (hn : n ≤ u.length) (h : q.closing? (u ++ x :: v) = some n) :
    q.closing? (u ++ y :: w) = some n := by
  have notMem {z : CodePoint} (hz : Plain z) : z ∉ q.marks := fun hm =>
    hz.ne_mark hq (List.eq_of_mem_replicate hm)
  induction hl : u.length using Nat.strongRecOn generalizing u n with
  | ind l ih =>
    subst hl
    match u with
    | [] =>
      have pos := (closing?_le h).1
      simp only [List.length_nil] at hn
      omega
    | c :: u =>
      have prefixes := isPrefixOf_plain (u := c :: u) (v := v) (w := w) (notMem hx) (notMem hy)
      simp only [List.cons_append] at h prefixes ⊢
      rw [Terminals.closing?_cons (by simp)] at h ⊢
      by_cases hb : c = ('\\' : CodePoint)
      · rw [if_pos hb] at h ⊢
        match u with
        | [] =>
          -- the backslash takes the plain letter with it
          obtain ⟨k, -, rfl⟩ := Option.map_eq_some_iff.1 h
          simp only [List.length_cons, List.length_nil] at hn
          omega
        | d :: u =>
          obtain ⟨k, hk, rfl⟩ := Option.map_eq_some_iff.1 h
          simp only [List.cons_append, List.tail_cons, List.length_cons] at hk hn ⊢
          rw [ih u.length (by rw [List.length_cons, List.length_cons]; omega) (u := u) (by omega) hk rfl]
          rfl
      · rw [if_neg hb] at h ⊢
        rw [← prefixes.1]
        split at h
        · rename_i hm
          rwa [if_pos hm]
        · rename_i hm
          obtain ⟨k, hk, rfl⟩ := Option.map_eq_some_iff.1 h
          simp only [List.length_cons] at hn
          rw [if_neg hm, ih u.length (by simp) (u := u) (by omega) hk rfl]
          rfl

/-! ## Lexemes -/

section

variable {rest : Text} {kind : Kind} {k : Nat}

theorem kind_of_stringLexeme {q : Quote} (h : stringLexeme t k q = some (.token kind n)) :
    kind = .string := by
  simp only [stringLexeme] at h
  split at h
  · simp only [Option.some.injEq, Lexeme.token.injEq] at h
    exact h.1.symm
  · split at h <;> simp at h

/-- What a token can be, and how far it reaches. -/
theorem lexeme_cases (h : lexeme (c :: rest) = .token kind n) :
    kind = .comment ∧ n = rest.length + 1 ∨ (kind = .string ∨ kind = .number ∨ kind = .op) ∧ 0 < n ∨
      c.isWord = true ∧ n = 1 + (rest.takeWhile CodePoint.isWord).length ∧
        (kind = .name ∨ kind = .op) := by
  have string {k n : Nat} {q : Quote} (hl : stringLexeme (c :: rest) k q = some (.token kind n)) :
      kind = .string ∧ 0 < n := by
    refine ⟨kind_of_stringLexeme hl, ?_⟩
    have pos := Terminals.marks_pos q
    simp only [stringLexeme] at hl
    split at hl
    · simp only [Option.some.injEq, Lexeme.token.injEq] at hl
      omega
    · split at hl <;> simp at hl
  rw [lexeme] at h
  split at h
  · simp at h
  split at h
  · simp only [Lexeme.token.injEq, List.length_cons] at h
    exact .inl ⟨h.1.symm, h.2.symm⟩
  simp only at h
  split at h
  · rename_i k q _
    cases hl : stringLexeme (c :: rest) k q with
    | none => simp [hl] at h
    | some l =>
      obtain rfl : l = .token kind n := by simpa [hl] using h
      exact .inr (.inl ⟨.inl (string hl).1, (string hl).2⟩)
  split at h
  · rename_i hn
    simp only [Lexeme.token.injEq] at h
    exact .inr (.inl ⟨.inr (.inl h.1.symm), h.2 ▸ Nat.pos_of_ne_zero hn⟩)
  split at h
  · rename_i ho
    simp only [Lexeme.token.injEq] at h
    exact .inr (.inl ⟨.inr (.inr h.1.symm), h.2 ▸ Nat.pos_of_ne_zero ho⟩)
  split at h
  · rename_i l hl
    subst h
    obtain ⟨⟨k, q⟩, -, hl⟩ := Option.bind_eq_some_iff.1 hl
    exact .inr (.inl ⟨.inl (string hl).1, (string hl).2⟩)
  simp only [wordLexeme] at h
  split at h
  · rename_i hc
    simp only [Lexeme.token.injEq] at h
    refine .inr (.inr ⟨hc, h.2.symm, ?_⟩)
    rw [← h.1]
    split
    · exact .inl rfl
    · exact .inr rfl
  · simp at h

theorem lexeme_pos (h : lexeme (c :: rest) = .token kind n) : 0 < n := by
  rcases lexeme_cases h with ⟨-, rfl⟩ | ⟨-, pos⟩ | ⟨-, rfl, -⟩
  · omega
  · exact pos
  · omega

/-- A name is the word that stands there. -/
theorem takeWhile_of_name (h : lexeme (c :: rest) = .token .name n) :
    (c :: rest).takeWhile CodePoint.isWord = (c :: rest).take n := by
  rcases lexeme_cases h with ⟨hk, -⟩ | ⟨hk, -⟩ | ⟨hc, rfl, -⟩
  · simp at hk
  · simp at hk
  · rw [Nat.add_comm, List.take_succ_cons, List.takeWhile_cons_of_pos hc,
      ← List.prefix_iff_eq_take.1 (List.takeWhile_prefix _)]

end


/-- The scan of a row that begins with `u` comes to the place where `rest` begins: no token reaches
over it. -/
inductive Cuts (rest : Text) : Text → Prop where
  | nil : Cuts rest []
  | gap {c : CodePoint} {u : Text} (hc : isGap c = true)
      (hl : lexeme ((c :: u ++ rest).dropWhile isGap) ≠ .unknown) (others : Cuts rest u) :
      Cuts rest (c :: u)
  | unknown {c : CodePoint} {u : Text}
      (hl : lexeme ((c :: u ++ rest).dropWhile isGap) = .unknown) (others : Cuts rest u) :
      Cuts rest (c :: u)
  | token {c : CodePoint} {u : Text} {kind : Kind} {n : Nat} (hc : isGap c = false)
      (hl : lexeme (c :: u ++ rest) = .token kind (n + 1)) (hn : n ≤ u.length)
      (others : Cuts rest (u.drop n)) : Cuts rest (c :: u)

variable {rest : Text} {kind : Kind}

theorem stringStart?_eq_none (hq : ¬(c = '\'' ∨ c = '"'))
    (hm : ∀ mark ∈ stringMarks, mark.head? ≠ some (lowerAscii c)) : stringStart? (c :: t) = none := by
  cases hs : stringStart? (c :: t) with
  | none => rfl
  | some found =>
    obtain ⟨k, q⟩ := found
    obtain ⟨hmark, hquote, body, hd, -⟩ := stringStart?_eq_some hs
    cases k with
    | zero =>
      rw [List.drop_zero] at hd
      exact absurd ((List.cons.inj hd).1 ▸ hquote) hq
    | succ k => exact absurd rfl (hm _ hmark)

/-- The lexeme of a word that is no number, no operator and no mark of a string. -/
theorem lexeme_of_word (hc : c.isWord = true) (hd : c.isDigit = false) (ho : c ∉ operatorMarks)
    (hp : c ≠ ('.' : CodePoint)) (hh : c ≠ ('#' : CodePoint)) (hj : c ≠ ('\\' : CodePoint))
    (hs : stringStart? (c :: t) = none) :
    lexeme (c :: t) =
      .token (if c.isIdentifierStart then .name else .op)
        (1 + (t.takeWhile CodePoint.isWord).length) := by
  rw [lexeme_of_plain hh hj hs, if_neg (by simp [numberLength_eq_zero hd hp]),
    if_neg (by simp [operatorLength_eq_zero ho]), wordLexeme, if_pos hc]

/-- No scan cuts between the letters that a number has left over and a plain letter. -/
theorem not_cuts_leftover (hx : Plain x)
    (hu : u ∈ ([['x'], ['X'], ['x', '_'], ['X', '_'], ['_']] : List (List Char)).map
      (List.map Char.toNat)) : ¬Cuts (x :: v) u := by
  have shape : ∃ c t, u = c :: t ∧ (c = 'x' ∨ c = 'X' ∨ c = '_') ∧ ∀ d ∈ t, d = 0x5F := by
    simp only [List.map_cons, List.map_nil, List.mem_cons, List.not_mem_nil, or_false] at hu
    rcases hu with rfl | rfl | rfl | rfl | rfl <;> exact ⟨_, _, rfl, by decide, by decide⟩
  obtain ⟨c, t, rfl, hc, ht⟩ := shape
  have facts : isGap c = false ∧ c.isWord = true ∧ c.isDigit = false ∧ c ∉ operatorMarks ∧
      c ≠ ('.' : CodePoint) ∧ c ≠ ('#' : CodePoint) ∧ c ≠ ('\\' : CodePoint) ∧
      ¬(c = '\'' ∨ c = '"') ∧ ∀ mark ∈ stringMarks, mark.head? ≠ some (lowerAscii c) := by
    rcases hc with rfl | rfl | rfl <;> decide
  obtain ⟨gap, word, digit, operator, point, hash, joiner, quote, mark⟩ := facts
  have whole := lexeme_of_word (t := t ++ x :: v) word digit operator point hash joiner
    (stringStart?_eq_none quote mark)
  intro h
  cases h with
  | gap hg => simp [gap] at hg
  | unknown hl =>
    rw [List.cons_append, List.dropWhile_cons_of_neg (by simp [gap]), whole] at hl
    simp at hl
  | token _ hl hn =>
    rw [List.cons_append, whole] at hl
    have taken : (t ++ x :: v).takeWhile CodePoint.isWord =
        t ++ (x :: v).takeWhile CodePoint.isWord :=
      List.takeWhile_append_of_pos fun d hd => by rw [ht d hd]; decide
    have letter : x.isWord = true := by rcases hx with rfl | rfl <;> decide
    rw [taken, List.takeWhile_cons_of_pos letter, Lexeme.token.injEq] at hl
    simp only [List.length_append, List.length_cons] at hl
    omega

/-- The number before `i` stands before another plain letter too, or takes it. -/
theorem numberLength_plain (hy : Plain y) (hw : y = 0x61 → digitRun isHex w = 0)
    (hl : numberLength (c :: (u ++ 0x69 :: v)) = n + 1) (h : Cuts (0x69 :: v) (u.drop n)) :
    numberLength (c :: (u ++ y :: w)) = n + 1 ∨
      n = u.length ∧ y = 0x61 ∧ numberLength (c :: (u ++ y :: w)) = n + 2 := by
  have hi : Plain 0x69 := .inl rfl
  rcases hy with rfl | rfl
  · refine .inl (Eq.trans ?_ hl)
    exact numberLength_congr (u := c :: u) hi hi
      (basedLength_plain hi hi (by decide) (by decide) (by rintro z (rfl | rfl) <;> decide))
  · rcases numberLength_extended (u := c :: u) (v := v) (hw rfl) with
      same | ⟨-, ⟨whole, longer⟩ | left⟩
    · exact .inl (same.trans hl)
    · rw [List.cons_append, hl, List.length_cons] at whole
      refine .inr ⟨by omega, rfl, ?_⟩
      rw [List.cons_append] at longer
      rw [longer, List.length_cons]
      omega
    · rw [List.cons_append, hl, List.drop_succ_cons] at left
      exact absurd h (not_cuts_leftover hi left)

theorem numberLength_zero (hy : Plain y) (hw : y = 0x61 → digitRun isHex w = 0)
    (hl : numberLength (c :: (u ++ 0x69 :: v)) = 0) : numberLength (c :: (u ++ y :: w)) = 0 := by
  have hi : Plain 0x69 := .inl rfl
  rcases hy with rfl | rfl
  · refine Eq.trans ?_ hl
    exact numberLength_congr (u := c :: u) hi hi
      (basedLength_plain hi hi (by decide) (by decide) (by rintro z (rfl | rfl) <;> decide))
  · rcases numberLength_extended (u := c :: u) (v := v) (hw rfl) with same | ⟨ne, -⟩
    · exact same.trans hl
    · exact absurd hl ne

theorem wordLexeme_plain (hn : n ≤ u.length)
    (hl : wordLexeme (c :: (u ++ 0x69 :: v)) = .token kind (n + 1)) (t : Text) :
    wordLexeme (c :: (u ++ t)) = .token kind (n + 1) := by
  unfold wordLexeme at hl ⊢
  simp only at hl ⊢
  split at hl
  · rename_i hc
    by_cases hall : (u.takeWhile CodePoint.isWord).length = u.length
    · -- the word would take the letter
      rw [List.takeWhile_append, if_pos hall, List.takeWhile_cons_of_pos (by decide)] at hl
      simp only [Lexeme.token.injEq, List.length_append, List.length_cons] at hl
      omega
    · rw [if_pos hc, ← hl, List.takeWhile_append, if_neg hall, List.takeWhile_append, if_neg hall]
  · simp at hl

/-- A string that does not end in a row that begins with `t` does not end in one that begins with `u`
either. -/
def Unclosed (t u : Text) : Prop :=
  ∀ k q, stringStart? t = some (k, q) → q.triple = false → stringLexeme t k q = none →
    stringLexeme u k q = none

/-- A string that ends before `i` ends there before another plain letter too. -/
theorem stringLexeme_plain {k : Nat} {q : Quote} (hy : Plain y) (hn : n ≤ u.length)
    (hs : stringStart? (c :: u ++ 0x69 :: v) = some (k, q))
    (hl : stringLexeme (c :: u ++ 0x69 :: v) k q = some (.token kind (n + 1))) :
    stringLexeme (c :: u ++ y :: w) k q = some (.token kind (n + 1)) := by
  simp only [stringLexeme] at hl ⊢
  split at hl
  · rename_i m hm
    simp only [Option.some.injEq, Lexeme.token.injEq] at hl
    have le : k + q.marks.length ≤ (c :: u).length := by
      simp only [List.length_cons]
      omega
    rw [drop_plain le] at hm ⊢
    have short : m ≤ ((c :: u).drop (k + q.marks.length)).length := by
      rw [List.length_drop, List.length_cons]
      omega
    rw [closing?_plain (stringStart?_eq_some hs).2.1 (.inl rfl) hy short hm]
    simp [hl]
  · split at hl <;> simp at hl

/-- The lexeme before `i` stands before another plain letter too, unless it is a hexadecimal number
that takes the letter. -/
theorem lexeme_plain (hy : Plain y) (hw : y = 0x61 → digitRun isHex w = 0)
    (hs : Unclosed (c :: u ++ 0x69 :: v) (c :: u ++ y :: w))
    (hl : lexeme (c :: u ++ 0x69 :: v) = .token kind (n + 1)) (hn : n ≤ u.length)
    (h : Cuts (0x69 :: v) (u.drop n)) :
    lexeme (c :: u ++ y :: w) = .token kind (n + 1) ∨
      kind = .number ∧ n = u.length ∧ y = 0x61 ∧
        lexeme (c :: u ++ y :: w) = .token .number (n + 2) := by
  have hi : Plain 0x69 := .inl rfl
  have hh : c ≠ ('#' : CodePoint) := by
    rintro rfl
    rw [List.cons_append, lexeme_comment, Lexeme.token.injEq] at hl
    simp only [List.length_cons, List.length_append] at hl
    omega
  have opened (z : CodePoint) (t : Text) : ¬(c = ('\\' : CodePoint) ∧ u ++ z :: t = []) :=
    fun h => by simp at h
  have start := stringStart?_plain (u := c :: u) (v := v) (w := w) hi hy
  rw [List.cons_append, lexeme, if_neg (opened _ _), if_neg hh] at hl
  rw [List.cons_append, lexeme, if_neg (opened _ _), if_neg hh]
  simp only [List.cons_append] at start
  simp only [← start]
  simp only at hl
  cases hf : (stringStart? (c :: (u ++ 0x69 :: v))).filter (·.2.triple) with
  | some found =>
    obtain ⟨k, q⟩ := found
    obtain ⟨hs, -⟩ := Option.filter_eq_some_iff.1 hf
    simp only [hf] at hl ⊢
    cases hsl : stringLexeme (c :: (u ++ 0x69 :: v)) k q with
    | none => simp [hsl] at hl
    | some l =>
      obtain rfl : l = .token kind (n + 1) := by simpa [hsl] using hl
      exact .inl (by rw [← List.cons_append, stringLexeme_plain hy hn hs hsl]; rfl)
  | none =>
    simp only [hf] at hl ⊢
    by_cases hnumber : numberLength (c :: (u ++ 0x69 :: v)) ≠ 0
    · rw [if_pos hnumber, Lexeme.token.injEq] at hl
      obtain ⟨rfl, hlength⟩ := hl
      rcases numberLength_plain (c := c) hy hw hlength h with same | ⟨hn', rfl, longer⟩
      · rw [same, if_pos (Nat.succ_ne_zero n)]
        exact .inl rfl
      · rw [longer, if_pos (Nat.succ_ne_zero _)]
        exact .inr ⟨rfl, hn', rfl, rfl⟩
    · have operator := operatorLength_plain (u := c :: u) (v := v) (w := w) hi hy
      simp only [List.cons_append] at operator
      rw [if_neg hnumber] at hl
      rw [if_neg (not_not.2 (numberLength_zero hy hw (not_not.1 hnumber))), ← operator]
      left
      split at hl
      · rename_i ho
        rwa [if_pos ho]
      · rename_i ho
        rw [if_neg ho]
        cases hs' : stringStart? (c :: (u ++ 0x69 :: v)) with
        | none =>
          simp only [hs', Option.bind_none] at hl ⊢
          exact wordLexeme_plain hn hl _
        | some found =>
          obtain ⟨k, q⟩ := found
          simp only [hs', Option.bind_some] at hl ⊢
          cases hsl : stringLexeme (c :: (u ++ 0x69 :: v)) k q with
          | some l =>
            obtain rfl : l = .token kind (n + 1) := by simpa [hsl] using hl
            rw [← List.cons_append, stringLexeme_plain hy hn hs' hsl]
          | none =>
            -- a word of letters that would mark a string if it ended in the row
            have single : q.triple = false := by simpa [hs'] using hf
            simp only [hsl] at hl
            have shut : stringLexeme (c :: (u ++ y :: w)) k q = none := hs k q hs' single hsl
            rw [shut]
            exact wordLexeme_plain hn hl _

/-- A code point that begins no token before `i` begins none before another plain letter. -/
theorem lexeme_plain_unknown (hy : Plain y) (hw : y = 0x61 → digitRun isHex w = 0)
    (hs : Unclosed (c :: u ++ 0x69 :: v) (c :: u ++ y :: w))
    (hl : lexeme (c :: u ++ 0x69 :: v) = .unknown) : lexeme (c :: u ++ y :: w) = .unknown := by
  have hi : Plain 0x69 := .inl rfl
  have opened (z : CodePoint) (t : Text) : ¬(c = ('\\' : CodePoint) ∧ u ++ z :: t = []) :=
    fun h => by simp at h
  have hh : c ≠ ('#' : CodePoint) := by
    rintro rfl
    rw [List.cons_append, lexeme_comment] at hl
    simp at hl
  have start := stringStart?_plain (u := c :: u) (v := v) (w := w) hi hy
  rw [List.cons_append, lexeme, if_neg (opened _ _), if_neg hh] at hl
  rw [List.cons_append, lexeme, if_neg (opened _ _), if_neg hh]
  simp only [List.cons_append] at start
  simp only [← start]
  simp only at hl
  cases hf : (stringStart? (c :: (u ++ 0x69 :: v))).filter (·.2.triple) with
  | some found =>
    -- a string between three marks goes on in the next row
    obtain ⟨k, q⟩ := found
    obtain ⟨-, triple⟩ := Option.filter_eq_some_iff.1 hf
    simp only at triple
    simp only [hf, stringLexeme, triple, true_or, ↓reduceIte] at hl
    split at hl <;> simp at hl
  | none =>
    simp only [hf] at hl ⊢
    split at hl
    · simp at hl
    · rename_i hnumber
      rw [if_neg (not_not.2 (numberLength_zero hy hw (not_not.1 hnumber)))]
      have operator := operatorLength_plain (u := c :: u) (v := v) (w := w) hi hy
      simp only [List.cons_append] at operator
      rw [← operator]
      split at hl
      · simp at hl
      · rename_i ho
        rw [if_neg ho]
        have word (t : Text) (hc : wordLexeme (c :: (u ++ 0x69 :: v)) = .unknown) :
            wordLexeme (c :: t) = .unknown := by
          unfold wordLexeme at hc ⊢
          simp only at hc ⊢
          split at hc
          · simp at hc
          · rename_i hword
            rw [if_neg hword]
        cases hs' : stringStart? (c :: (u ++ 0x69 :: v)) with
        | none =>
          simp only [hs', Option.bind_none] at hl ⊢
          exact word _ hl
        | some found =>
          obtain ⟨k, q⟩ := found
          have single : q.triple = false := by simpa [hs'] using hf
          simp only [hs', Option.bind_some] at hl ⊢
          cases hsl : stringLexeme (c :: (u ++ 0x69 :: v)) k q with
          | some l =>
            simp only [hsl] at hl
            simp only [stringLexeme, single, Bool.false_eq_true, false_or] at hsl
            split at hsl
            · rw [hl] at hsl
              simp at hsl
            · split at hsl
              · rw [hl] at hsl
                simp at hsl
              · simp at hsl
          | none =>
            have shut : stringLexeme (c :: (u ++ y :: w)) k q = none := hs k q hs' single hsl
            simp only [hsl] at hl
            rw [shut]
            exact word _ hl

end Stencil.Script
