import Stencil.Proofs.Script.Locality

/-!
# What numbers are made of

The tokenizer and the scan of terminals cut numbers in different ways, but both of them make numbers
of digits, letters, points, underscores and signs.

## Main definitions

* `isNumeric` — a code point of a number.
* `Reaches` — the first code points of a text belong to a class.

## Main results

* `numberLength_reaches` — the numbers of the tokenizer.
* `Terminals.number?_reaches`, `Terminals.fractionEnd?_reaches` — the numbers among terminals.
-/

namespace Stencil.Script

/-- A code point of a number. -/
def isNumeric (c : CodePoint) : Bool :=
  c.isDigit || c.isAsciiLetter || c == '_' || c == '.' || c == '+' || c == '-'

/-- The first `n` code points belong to a class. -/
def Reaches (p : CodePoint → Bool) (t : Text) (n : Nat) : Prop := ∀ c ∈ t.take n, p c = true

namespace Reaches

variable {p q : CodePoint → Bool} {c : CodePoint} {t : Text} {n m : Nat}

theorem zero : Reaches p t 0 := by simp [Reaches]

theorem nil : Reaches p [] n := by simp [Reaches]

theorem cons (hc : p c = true) (h : Reaches p t n) : Reaches p (c :: t) (n + 1) := by
  simpa [Reaches, hc] using h

theorem one (hc : p c = true) : Reaches p (c :: t) 1 := cons hc zero

theorem add (h : Reaches p t n) (k : Reaches p (t.drop n) m) : Reaches p t (n + m) := by
  intro c hc
  rw [List.take_add] at hc
  rcases List.mem_append.1 hc with hc | hc
  · exact h c hc
  · exact k c hc

end Reaches

variable {p : CodePoint → Bool} {c : CodePoint} {t : Text} {n : Nat}

theorem isNumeric_of_isDigit (h : c.isDigit = true) : isNumeric c = true := by
  simp [isNumeric, h]

theorem isNumeric_of_isLetter (h : c.isAsciiLetter = true) : isNumeric c = true := by
  simp [isNumeric, h]

theorem isAsciiLetter_iff :
    c.isAsciiLetter = true ↔ 0x41 ≤ c ∧ c ≤ 0x5A ∨ 0x61 ≤ c ∧ c ≤ 0x7A := by
  simp [CodePoint.isAsciiLetter]

theorem isNumeric_of_digit? {base : Nat} (h : (CodePoint.digit? base c).isSome = true) :
    isNumeric c = true := by
  have range : (0x30 ≤ c ∧ c ≤ 0x39) ∨ (0x41 ≤ c ∧ c ≤ 0x46) ∨ (0x61 ≤ c ∧ c ≤ 0x66) := by
    unfold CodePoint.digit? at h
    by_cases hd : 0x30 ≤ c ∧ c ≤ 0x39
    · exact .inl hd
    · by_cases hu : 0x41 ≤ c ∧ c ≤ 0x46
      · exact .inr (.inl hu)
      · by_cases hl : 0x61 ≤ c ∧ c ≤ 0x66
        · exact .inr (.inr hl)
        · simp [hd, hu, hl] at h
  rcases range with hd | hu | hl
  · exact isNumeric_of_isDigit (by simpa [CodePoint.isDigit] using hd)
  · exact isNumeric_of_isLetter (isAsciiLetter_iff.2 (.inl ⟨hu.1, Nat.le_trans hu.2 (by decide)⟩))
  · exact isNumeric_of_isLetter (isAsciiLetter_iff.2 (.inr ⟨hl.1, Nat.le_trans hl.2 (by decide)⟩))

/-! ## Numbers of the tokenizer -/

theorem digitRun_reaches (hp : ∀ c, p c = true → isNumeric c = true) (t : Text) :
    Reaches isNumeric t (digitRun p t) := by
  fun_induction digitRun p t with
  | case1 => exact .zero
  | case2 c hc => exact .one (hp c hc)
  | case3 c hc => exact .zero
  | case4 c d rest hc ih =>
    rw [Nat.add_comm]
    exact .cons (hp c hc) ih
  | case5 c d rest hc h ih =>
    rw [Nat.add_comm]
    exact .cons (by rw [h.1]; decide) (.cons (hp d h.2) ih)
  | case6 => exact .zero

theorem decimalRun_reaches (t : Text) : Reaches isNumeric t (decimalRun t) := by
  cases t with
  | nil => exact .zero
  | cons c rest =>
    by_cases hc : c.isDigit = true
    · rw [decimalRun, if_pos hc, Nat.add_comm]
      exact .cons (isNumeric_of_isDigit hc) (digitRun_reaches (fun _ => isNumeric_of_isDigit) rest)
    · rw [decimalRun, if_neg hc]
      exact .zero

theorem signLength_reaches (t : Text) : Reaches isNumeric t (Terminals.signLength t) := by
  cases t with
  | nil => exact .nil
  | cons s t =>
    by_cases hs : s = '+' ∨ s = '-'
    · rw [Terminals.signLength, if_pos hs]
      exact .one (by rcases hs with rfl | rfl <;> decide)
    · rw [Terminals.signLength, if_neg hs]
      exact .zero

/-- Digits that have to come do, or nothing is taken. -/
theorem required_digits {p : Prop} [Decidable p] (k n : Nat) :
    (if p then
      match n with
      | 0 => 0
      | n => k + n
    else 0) = if p ∧ n ≠ 0 then k + n else 0 := by
  by_cases h : p
  · simp only [h, true_and, ↓reduceIte]
    cases n <;> rfl
  · rw [if_neg h, if_neg fun hn => h hn.1]

theorem exponentLength_cons (e : CodePoint) (rest : Text) :
    exponentLength (e :: rest) =
      if (e = 'e' ∨ e = 'E') ∧ decimalRun (rest.drop (Terminals.signLength rest)) ≠ 0 then
        1 + Terminals.signLength rest + decimalRun (rest.drop (Terminals.signLength rest))
      else 0 := by
  cases rest with
  | nil => exact required_digits 1 0
  | cons s rest =>
    have sign : (if s = '-' ∨ s = '+' then 1 else 0) = Terminals.signLength (s :: rest) := by
      simp only [Terminals.signLength, or_comm]
    rw [← sign]
    exact required_digits _ _

theorem exponentLength_reaches (t : Text) : Reaches isNumeric t (exponentLength t) := by
  cases t with
  | nil => exact .zero
  | cons e rest =>
    rw [exponentLength_cons]
    split
    · rename_i h
      rw [Nat.add_assoc, Nat.add_comm 1]
      exact .cons (by rcases h.1 with rfl | rfl <;> decide)
        ((signLength_reaches rest).add (decimalRun_reaches _))
    · exact .zero

theorem floatLength_reaches (t : Text) : Reaches isNumeric t (floatLength t) := by
  unfold floatLength
  have whole := decimalRun_reaches t
  simp only
  split
  · exact .zero
  · rename_i c rest hd
    split
    · rename_i hc
      split
      · exact .zero
      · have point : Reaches isNumeric (t.drop (decimalRun t)) (1 + decimalRun rest) := by
          rw [hd, Nat.add_comm]
          exact .cons (by rw [hc]; decide) (decimalRun_reaches rest)
        have float := whole.add point
        rw [← Nat.add_assoc] at float
        exact float.add (exponentLength_reaches _)
    · split
      · exact .zero
      · split
        · exact .zero
        · have exponent := exponentLength_reaches (t.drop (decimalRun t))
          rw [hd] at exponent
          exact whole.add (by rw [hd]; exact exponent)

/-- How far an integer reaches whose base is announced by a letter. -/
def basedLength (lower upper : CodePoint) (p : CodePoint → Bool) : Text → Nat
  | z :: b :: rest =>
    if z = '0' ∧ (b = lower ∨ b = upper) ∧ digitRun p rest ≠ 0 then 2 + digitRun p rest else 0
  | _ => 0

theorem basedLength_reaches {lower upper : CodePoint} (hl : isNumeric lower = true)
    (hu : isNumeric upper = true) (hp : ∀ c, p c = true → isNumeric c = true) (t : Text) :
    Reaches isNumeric t (basedLength lower upper p t) := by
  rcases t with _ | ⟨z, _ | ⟨b, rest⟩⟩
  · exact .zero
  · exact .zero
  · by_cases h : z = '0' ∧ (b = lower ∨ b = upper) ∧ digitRun p rest ≠ 0
    · rw [basedLength, if_pos h, Nat.add_comm]
      exact .cons (by rw [h.1]; decide)
        (.cons (by rcases h.2.1 with rfl | rfl <;> assumption) (digitRun_reaches hp rest))
    · rw [basedLength, if_neg h]
      exact .zero

theorem basedLength_cons (lower upper : CodePoint) (p : CodePoint → Bool) (z b : CodePoint)
    (rest : Text) :
    basedLength lower upper p (z :: b :: rest) =
      if z = '0' ∧ (b = lower ∨ b = upper) then
        match digitRun p rest with
        | 0 => 0
        | n => 2 + n
      else 0 := by
  simp only [required_digits, basedLength, and_assoc]

theorem integerLength_eq (t : Text) :
    integerLength t =
      let hexadecimal := basedLength 'x' 'X' (fun c => (CodePoint.digit? 16 c).isSome) t
      let binary := basedLength 'b' 'B' (fun c => (CodePoint.digit? 2 c).isSome) t
      let octal := basedLength 'o' 'O' (fun c => (CodePoint.digit? 8 c).isSome) t
      if hexadecimal ≠ 0 then hexadecimal
      else if binary ≠ 0 then binary
      else if octal ≠ 0 then octal
      else if t.headD 1 = '0' then 1 + digitRun (fun d => d = '0') t.tail
      else decimalRun t := by
  rcases t with _ | ⟨z, _ | ⟨b, rest⟩⟩
  · rfl
  · simp [integerLength, basedLength]
  · simp only [basedLength_cons]
    rfl

theorem integerLength_reaches (t : Text) : Reaches isNumeric t (integerLength t) := by
  rw [integerLength_eq]
  simp only
  split
  · exact basedLength_reaches (by decide) (by decide) (fun _ => isNumeric_of_digit?) t
  split
  · exact basedLength_reaches (by decide) (by decide) (fun _ => isNumeric_of_digit?) t
  split
  · exact basedLength_reaches (by decide) (by decide) (fun _ => isNumeric_of_digit?) t
  split
  · rename_i hc
    cases t with
    | nil => exact .nil
    | cons c rest =>
      rw [Nat.add_comm]
      exact .cons (by rw [show c = '0' from hc]; decide) (digitRun_reaches (by simp; decide) rest)
  · exact decimalRun_reaches t

theorem beginsImaginary_reaches (h : beginsImaginary t = true) : Reaches isNumeric t 1 := by
  cases t with
  | nil => exact .nil
  | cons c t =>
    simp only [beginsImaginary, Bool.or_eq_true, decide_eq_true_eq] at h
    exact .one (by rcases h with rfl | rfl <;> decide)

/-- The numbers of the tokenizer. -/
theorem numberLength_reaches (t : Text) : Reaches isNumeric t (numberLength t) := by
  unfold numberLength
  simp only
  split
  · rename_i h
    exact (decimalRun_reaches t).add (beginsImaginary_reaches h.2)
  · split
    · split
      · rename_i h
        exact (floatLength_reaches t).add (beginsImaginary_reaches h)
      · exact floatLength_reaches t
    · exact integerLength_reaches t

/-! ## Numbers among terminals -/

namespace Terminals

theorem digits?_reaches (hp : ∀ c, p c = true → isNumeric c = true) (h : digits? p t = some n) :
    Reaches isNumeric t n := by
  induction t generalizing n with
  | nil => exact .nil
  | cons c rest ih =>
    unfold digits? at h
    split at h
    · rename_i hc
      obtain ⟨m, hm, rfl⟩ := Option.map_eq_some_iff.1 h
      exact .cons (hp c hc) (ih hm)
    · split at h
      · rename_i hc
        split at h
        · obtain ⟨m, hm, rfl⟩ := Option.map_eq_some_iff.1 h
          exact .cons (by rw [hc]; decide) (ih hm)
        · simp at h
      · obtain rfl := Option.some.inj h
        exact .zero

theorem markEnd?_reaches (h : markEnd? t = some n) : Reaches isNumeric t n := by
  unfold markEnd? at h
  split at h
  · rename_i hi
    split at h
    · obtain rfl := Option.some.inj h
      exact beginsImaginary_reaches hi
    · simp at h
  · split at h
    · obtain rfl := Option.some.inj h
      exact .zero
    · simp at h

theorem exponentEnd?_reaches (h : exponentEnd? t = some n) : Reaches isNumeric t n := by
  cases t with
  | nil => exact .nil
  | cons e rest =>
    rw [exponentEnd?_cons] at h
    split at h
    · rename_i he
      split at h
      · obtain ⟨k, hk, h⟩ := Option.bind_eq_some_iff.1 h
        obtain ⟨m, hm, h⟩ := Option.bind_eq_some_iff.1 h
        obtain rfl := Option.some.inj h
        have digits := (signLength_reaches rest).add (digits?_reaches (fun _ => isNumeric_of_isDigit) hk)
        have all := digits.add (markEnd?_reaches hm)
        have sum : 1 + signLength rest + k + m = signLength rest + k + m + 1 := by omega
        rw [sum]
        exact .cons (by rcases he with rfl | rfl <;> decide) all
      · split at h
        · obtain rfl := Option.some.inj h
          exact .zero
        · simp at h
    · exact markEnd?_reaches h

/-- What follows the point of a number. -/
theorem fractionEnd?_reaches (h : fractionEnd? t = some n) : Reaches isNumeric t n := by
  rw [fractionEnd?_eq] at h
  obtain ⟨k, hk, h⟩ := Option.bind_eq_some_iff.1 h
  obtain ⟨m, hm, h⟩ := Option.bind_eq_some_iff.1 h
  obtain rfl := Option.some.inj h
  have digits : Reaches isNumeric t k := by
    split at hk
    · exact digits?_reaches (fun _ => isNumeric_of_isDigit) hk
    · obtain rfl := Option.some.inj hk
      exact .zero
  exact digits.add (exponentEnd?_reaches hm)

theorem basedEnd?_reaches (hp : ∀ c, p c = true → isNumeric c = true)
    (ht : Reaches isNumeric t 2) (h : basedEnd? p t = some n) : Reaches isNumeric t n := by
  obtain ⟨k, hk, h⟩ := Option.bind_eq_some_iff.1 h
  split at h
  · simp at h
  · obtain rfl := Option.some.inj h
    exact ht.add (digits?_reaches hp hk)

theorem decimalEnd?_reaches (h : decimalEnd? t = some n) : Reaches isNumeric t n := by
  obtain ⟨k, hk, h⟩ := Option.bind_eq_some_iff.1 h
  have digits := digits?_reaches (fun _ => isNumeric_of_isDigit) hk
  split at h
  · rename_i hc
    obtain ⟨m, hm, h⟩ := Option.bind_eq_some_iff.1 h
    obtain ⟨j, hj, rfl⟩ := Option.map_eq_some_iff.1 hm
    rw [paddedEnd?_eq_some h]
    refine digits.add ?_
    rcases hr : t.drop k with _ | ⟨c, rest⟩
    · simp [hr] at hc
    · rw [hr] at hc hj
      obtain rfl := Option.some.inj hc
      exact .cons (by decide) (fractionEnd?_reaches hj)
  · obtain ⟨m, hm, h⟩ := Option.bind_eq_some_iff.1 h
    rw [paddedEnd?_eq_some h]
    exact digits.add (exponentEnd?_reaches hm)

theorem announced_reaches {b : CodePoint} (h : (t.take 2).map lowerAscii = [0x30, b])
    (hb : CodePoint.isAsciiLetter b = true) : Reaches isNumeric t 2 := by
  intro c hc
  have hl : lowerAscii c ∈ (t.take 2).map lowerAscii := List.mem_map_of_mem hc
  rw [h] at hl
  have hn : isNumeric (lowerAscii c) = true := by
    simp only [List.mem_cons, List.not_mem_nil, or_false] at hl
    rcases hl with he | he <;> rw [he]
    · decide
    · exact isNumeric_of_isLetter hb
  unfold lowerAscii at hn
  split at hn
  · exact isNumeric_of_isLetter (isAsciiLetter_iff.2 (.inl (by assumption)))
  · exact hn

/-- The numbers among terminals. -/
theorem number?_reaches (h : number? t = some n) : Reaches isNumeric t n := by
  rw [number?_eq] at h
  split at h
  · rename_i hs
    exact basedEnd?_reaches (fun _ => isNumeric_of_digit?) (announced_reaches hs (by decide)) h
  · split at h
    · rename_i hs
      exact basedEnd?_reaches (fun _ => isNumeric_of_digit?) (announced_reaches hs (by decide)) h
    · split at h
      · rename_i hs
        exact basedEnd?_reaches (fun _ => isNumeric_of_digit?) (announced_reaches hs (by decide)) h
      · exact decimalEnd?_reaches h

end Terminals

end Stencil.Script
