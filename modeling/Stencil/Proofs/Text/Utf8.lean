import Stencil.Text.Utf8

/-!
# Octets of a text

A text of code points that have octets is encoded and decoded without loss. What octets are decoded
to is the only text of code points that has these octets, and there is none if they are not decoded.

## Main definitions

* `Text.IsScalar` — a code point that has octets.

## Main results

* `Text.decode?_eq_some_iff` — octets are decoded to the text whose octets they are.
-/

namespace Stencil

namespace Text

/-- The code points that have octets. -/
def IsScalar (c : Nat) : Prop := c < 0x110000 ∧ ¬ (0xD800 ≤ c ∧ c ≤ 0xDFFF)

theorem isTail_iff {b : Nat} : isTail b = true ↔ 0x80 ≤ b ∧ b ≤ 0xBF := by
  simp only [isTail, Bool.and_eq_true, decide_eq_true_eq]

theorem isSurrogate_eq_false_iff {c : Nat} :
    CodePoint.isSurrogate c = false ↔ ¬ (0xD800 ≤ c ∧ c ≤ 0xDFFF) := by
  rw [← Bool.not_eq_true, CodePoint.isSurrogate, Bool.and_eq_true, decide_eq_true_eq,
    decide_eq_true_eq]

/-- The octets of a code point, which is a number here. -/
theorem encode_eq (c : Nat) : CodePoint.encode c =
    if c < 0x80 then [c]
    else if c < 0x800 then [0xC0 + c / 0x40, 0x80 + c % 0x40]
    else if c < 0x10000 then [0xE0 + c / 0x1000, 0x80 + c / 0x40 % 0x40, 0x80 + c % 0x40]
    else [0xF0 + c / 0x40000, 0x80 + c / 0x1000 % 0x40, 0x80 + c / 0x40 % 0x40,
      0x80 + c % 0x40] := rfl

theorem encode_two {a b : Nat} (ha : 0xC2 ≤ a) (ha' : a < 0xE0) (hb : isTail b = true) :
    CodePoint.encode ((a - 0xC0) * 0x40 + (b - 0x80)) = [a, b] ∧
      IsScalar ((a - 0xC0) * 0x40 + (b - 0x80)) := by
  rw [isTail_iff] at hb
  refine ⟨?_, by unfold IsScalar; omega⟩
  rw [encode_eq, if_neg (by omega), if_pos (by omega)]
  simp only [List.cons.injEq, and_true]
  omega

theorem encode_three {a b c point : Nat}
    (hpoint : (a - 0xE0) * 0x1000 + (b - 0x80) * 0x40 + (c - 0x80) = point) (ha : 0xE0 ≤ a)
    (ha' : a < 0xF0) (hb : isTail b = true) (hc : isTail c = true) (hleast : 0x800 ≤ point)
    (hs : CodePoint.isSurrogate point = false) :
    CodePoint.encode point = [a, b, c] ∧ IsScalar point := by
  rw [isTail_iff] at hb hc
  refine ⟨?_, by omega, isSurrogate_eq_false_iff.1 hs⟩
  rw [encode_eq, if_neg (by omega), if_neg (by omega), if_pos (by omega)]
  simp only [List.cons.injEq, and_true]
  omega

theorem encode_four {a b c d point : Nat}
    (hpoint : (a - 0xF0) * 0x40000 + (b - 0x80) * 0x1000 + (c - 0x80) * 0x40 + (d - 0x80) = point)
    (ha : 0xF0 ≤ a) (hb : isTail b = true) (hc : isTail c = true)
    (hd : isTail d = true) (hleast : 0x10000 ≤ point) (hmost : point < 0x110000) :
    CodePoint.encode point = [a, b, c, d] ∧ IsScalar point := by
  rw [isTail_iff] at hb hc hd
  refine ⟨?_, hmost, by omega⟩
  rw [encode_eq, if_neg (by omega), if_neg (by omega), if_neg (by omega)]
  simp only [List.cons.injEq, and_true]
  omega

/-- What octets are decoded to are code points that have octets, and these are their octets. -/
theorem of_decode? {octets : Octets} {t : Text} (h : decode? octets = some t) :
    t.flatMap CodePoint.encode = octets ∧ ∀ c ∈ t, IsScalar c := by
  have cons {c : Nat} {front rest : Octets} {t : Text}
      (hc : CodePoint.encode c = front ∧ IsScalar c)
      (ih : ∀ {u}, decode? rest = some u → u.flatMap CodePoint.encode = rest ∧ ∀ c ∈ u, IsScalar c)
      (h : (decode? rest).map (c :: ·) = some t) :
      t.flatMap CodePoint.encode = front ++ rest ∧ ∀ c ∈ t, IsScalar c := by
    obtain ⟨u, hu, rfl⟩ := Option.map_eq_some_iff.1 h
    exact ⟨by rw [List.flatMap_cons, hc.1, (ih hu).1], List.forall_mem_cons.2 ⟨hc.2, (ih hu).2⟩⟩
  fun_induction decode? octets generalizing t with
  | case1 =>
    obtain rfl := Option.some.inj h
    exact ⟨rfl, nofun⟩
  | case2 a rest ha ih =>
    have one : CodePoint.encode a = [a] ∧ IsScalar a :=
      ⟨by rw [encode_eq, if_pos ha], by unfold IsScalar; omega⟩
    exact cons one ih h
  | case4 =>
    rename_i a _ ha he b rest point hb ih
    exact cons (encode_two (by omega) he hb) ih h
  | case7 =>
    rename_i a _ _ ha hf b c rest point hcond ih
    simp only [Bool.and_eq_true, decide_eq_true_eq, Bool.not_eq_eq_eq_not, Bool.not_true] at hcond
    exact cons (encode_three rfl (by omega) hf hcond.1.1.1 hcond.1.1.2 hcond.1.2 hcond.2) ih h
  | case10 =>
    rename_i a _ _ _ ha _ b c d rest point hcond ih
    simp only [Bool.and_eq_true, decide_eq_true_eq] at hcond
    exact cons (encode_four rfl (by omega) hcond.1.1.1.1 hcond.1.1.1.2 hcond.1.1.2 hcond.1.2
      hcond.2) ih h
  | _ => nomatch h

/-- Octets are decoded without loss. -/
theorem encode?_of_decode? {octets : Octets} {t : Text} (h : decode? octets = some t) :
    encode? t = some octets := by
  obtain ⟨whole, scalar⟩ := of_decode? h
  have none_ : t.any CodePoint.isSurrogate = false :=
    List.any_eq_false.2 fun c hc => by simp [isSurrogate_eq_false_iff.2 (scalar c hc).2]
  rw [encode?, none_, whole]
  rfl

theorem isWhole_of_decode? {octets : Octets} {t : Text} (h : decode? octets = some t) :
    t.isWhole = true :=
  List.all_eq_true.2 fun c hc => decide_eq_true ((of_decode? h).2 c hc).1

/-! ## From texts to octets -/

theorem isTail_tail (n : Nat) : isTail (0x80 + n % 0x40) = true := by
  rw [isTail_iff]
  omega

/-- The octets of a code point are decoded to it, whatever follows them. -/
theorem decode?_encode_append {c : Nat} (h : IsScalar c) (rest : Octets) :
    decode? (CodePoint.encode c ++ rest) = (decode? rest).map (c :: ·) := by
  obtain ⟨hc, hs⟩ := h
  rw [encode_eq]
  split
  · next h1 =>
    rw [List.singleton_append, decode?.eq_def]
    exact if_pos h1
  split
  · next h1 h2 =>
    have point : (0xC0 + c / 0x40 - 0xC0) * 0x40 + (0x80 + c % 0x40 - 0x80) = c := by omega
    rw [List.cons_append, List.singleton_append, decode?, if_neg (by omega), if_neg (by omega),
      if_pos (by omega)]
    simp only [point, isTail_tail, if_true]
  split
  · next h1 h2 h3 =>
    have point : (0xE0 + c / 0x1000 - 0xE0) * 0x1000 + (0x80 + c / 0x40 % 0x40 - 0x80) * 0x40 +
        (0x80 + c % 0x40 - 0x80) = c := by omega
    have long : 0x800 ≤ c := by omega
    rw [List.cons_append, List.cons_append, List.singleton_append, decode?, if_neg (by omega),
      if_neg (by omega), if_neg (by omega), if_pos (by omega)]
    simp only [point, isTail_tail, long, isSurrogate_eq_false_iff.2 hs, Bool.not_false, decide_true,
      Bool.and_true, if_true]
  · next h1 h2 h3 =>
    have point : (0xF0 + c / 0x40000 - 0xF0) * 0x40000 + (0x80 + c / 0x1000 % 0x40 - 0x80) * 0x1000 +
        (0x80 + c / 0x40 % 0x40 - 0x80) * 0x40 + (0x80 + c % 0x40 - 0x80) = c := by omega
    have long : 0x10000 ≤ c := by omega
    rw [List.cons_append, List.cons_append, List.cons_append, List.singleton_append, decode?,
      if_neg (by omega), if_neg (by omega), if_neg (by omega), if_neg (by omega), if_pos (by omega)]
    simp only [point, isTail_tail, long, hc, decide_true, Bool.and_true, if_true]

theorem decode?_flatMap_encode {t : Text} (h : ∀ c ∈ t, IsScalar c) :
    decode? (t.flatMap CodePoint.encode) = some t := by
  induction t with
  | nil => rfl
  | cons c t ih =>
    obtain ⟨hc, ht⟩ := List.forall_mem_cons.1 h
    rw [List.flatMap_cons, decode?_encode_append hc, ih ht]
    rfl

/-- Octets are decoded to the text of code points whose octets they are. -/
theorem decode?_eq_some_iff {octets : Octets} {t : Text} :
    decode? octets = some t ↔ t.isWhole ∧ encode? t = some octets := by
  refine ⟨fun h => ⟨isWhole_of_decode? h, encode?_of_decode? h⟩, fun ⟨hw, he⟩ => ?_⟩
  rw [encode?] at he
  split at he
  · cases he
  · next hs =>
    obtain rfl := Option.some.inj he
    refine decode?_flatMap_encode fun c hc => ⟨?_, isSurrogate_eq_false_iff.1 ?_⟩
    · exact of_decide_eq_true (List.all_eq_true.1 hw c hc)
    · exact Bool.eq_false_iff.2 (List.any_eq_false.1 (Bool.eq_false_iff.2 hs) c hc)

end Text

end Stencil
