import Stencil.Proofs.Script.Extent
import Stencil.Proofs.Script.Lookahead

/-!
# The order of tokens

Tokens stand one after another: each of them begins where the one before it ends or further on, and
after the end of a statement the next token begins on a later row.

## Main definitions

* `Pos.upto` — the order of positions.
* `Token.Follows` — one token stands after another.

## Main results

* `ordered_of_tokenize` — the tokens of rows stand one after another.
-/

namespace Stencil.Script

variable {p : CodePoint → Bool} {c : CodePoint} {t rest : Text} {row row' column skip n : Nat}
  {depth : Int} {kind : Kind} {ts us : List Token}

/-! ## Lengths of lexemes -/

theorem digitRun_le (t : Text) : digitRun p t ≤ t.length := by
  fun_induction digitRun p t <;> simp only [List.length_cons, List.length_nil] at * <;> omega

theorem decimalRun_le (t : Text) : decimalRun t ≤ t.length := by
  cases t with
  | nil => exact Nat.le_refl 0
  | cons c t =>
    have := digitRun_le (p := CodePoint.isDigit) t
    rw [decimalRun, List.length_cons]
    split
    · omega
    · omega

theorem exponentLength_le (t : Text) : exponentLength t ≤ t.length := by
  cases t with
  | nil => exact Nat.le_refl 0
  | cons e t =>
    have sign : Terminals.signLength t ≤ t.length := Terminals.signLength_le
    have digits := decimalRun_le (t.drop (Terminals.signLength t))
    rw [List.length_drop] at digits
    rw [exponentLength_cons, List.length_cons]
    split
    · omega
    · omega

theorem floatLength_le (t : Text) : floatLength t ≤ t.length := by
  have whole := decimalRun_le t
  unfold floatLength
  simp only
  generalize decimalRun t = k at whole ⊢
  cases hd : t.drop k with
  | nil => exact Nat.zero_le _
  | cons c rest =>
    have short : (t.drop k).length = t.length - k := List.length_drop
    have fraction := decimalRun_le rest
    have exponent := exponentLength_le (c :: rest)
    have after := exponentLength_le (t.drop (k + 1 + decimalRun rest))
    simp only [hd, List.length_cons, List.length_drop] at short exponent after
    simp only
    split
    · split
      · omega
      · omega
    · split
      · omega
      · split
        · omega
        · rename_i n hn
          omega

theorem basedLength_le (lower upper : CodePoint) (t : Text) :
    basedLength lower upper p t ≤ t.length := by
  match t with
  | [] => exact Nat.zero_le _
  | [_] => exact Nat.zero_le _
  | z :: b :: t =>
    have run := digitRun_le (p := p) t
    simp only [basedLength, List.length_cons]
    split
    · omega
    · omega

theorem integerLength_le (t : Text) : integerLength t ≤ t.length := by
  rw [integerLength_eq]
  have hexadecimal := basedLength_le (p := fun c => (CodePoint.digit? 16 c).isSome) 'x' 'X' t
  have binary := basedLength_le (p := fun c => (CodePoint.digit? 2 c).isSome) 'b' 'B' t
  have octal := basedLength_le (p := fun c => (CodePoint.digit? 8 c).isSome) 'o' 'O' t
  have decimal := decimalRun_le t
  have zeros := digitRun_le (p := fun d => decide (d = ('0' : CodePoint))) t.tail
  simp only
  split
  · exact hexadecimal
  split
  · exact binary
  split
  · exact octal
  split
  · rename_i hz
    have pos : 0 < t.length := List.length_pos_of_ne_nil (by rintro rfl; exact absurd hz (by decide))
    rw [List.length_tail] at zeros
    omega
  · exact decimal

theorem numberLength_le (t : Text) : numberLength t ≤ t.length := by
  have whole := decimalRun_le t
  have float := floatLength_le t
  have integer := integerLength_le t
  have imaginary {n : Nat} (h : beginsImaginary (t.drop n) = true) : n + 1 ≤ t.length := by
    refine Nat.lt_of_not_le fun hle => ?_
    rw [List.drop_eq_nil_of_le hle] at h
    exact Bool.noConfusion h
  unfold numberLength
  simp only
  split
  · rename_i h
    exact imaginary h.2
  · split
    · split
      · rename_i h
        exact imaginary h
      · exact float
    · exact integer

theorem operatorLength_le (t : Text) : operatorLength t ≤ t.length := by
  unfold operatorLength
  split
  · rename_i o ho
    have starts : o.isPrefixOf t = true := List.find?_some (p := fun o : Text => o.isPrefixOf t) ho
    exact (List.isPrefixOf_iff_prefix.1 starts).length_le
  · exact Nat.zero_le _

theorem stringLexeme_le {k : Nat} {q : Quote} (h : stringLexeme t k q = some (.token kind n)) :
    n ≤ t.length := by
  simp only [stringLexeme] at h
  split at h
  · rename_i m hm
    obtain ⟨-, rfl⟩ := Lexeme.token.inj (Option.some.inj h)
    have le := closing?_le hm
    rw [List.length_drop] at le
    omega
  · split at h <;> simp at h

/-- A lexeme does not reach over the end of its row. -/
theorem lexeme_le (h : lexeme t = .token kind n) : n ≤ t.length := by
  cases t with
  | nil => simp [lexeme] at h
  | cons c t =>
    have number := numberLength_le (c :: t)
    have operator := operatorLength_le (c :: t)
    have word := (List.takeWhile_prefix CodePoint.isWord (l := t)).length_le
    rw [lexeme] at h
    split at h
    · simp at h
    split at h
    · simp only [Lexeme.token.injEq] at h
      exact Nat.le_of_eq h.2.symm
    simp only at h
    split at h
    · rename_i k q _
      cases hl : stringLexeme (c :: t) k q with
      | none => simp [hl] at h
      | some l =>
        obtain rfl : l = .token kind n := by simpa [hl] using h
        exact stringLexeme_le hl
    split at h
    · exact (Lexeme.token.inj h).2 ▸ number
    split at h
    · exact (Lexeme.token.inj h).2 ▸ operator
    split at h
    · rename_i l hl
      subst h
      obtain ⟨⟨k, q⟩, -, hl⟩ := Option.bind_eq_some_iff.1 hl
      exact stringLexeme_le hl
    · simp only [wordLexeme] at h
      split at h
      · obtain ⟨-, rfl⟩ := Lexeme.token.inj h
        rw [List.length_cons]
        omega
      · simp at h

/-! ## Positions -/

/-- One position is before another. -/
def Pos.before (p q : Pos) : Prop := p.row < q.row ∨ p.row = q.row ∧ p.column < q.column

/-- One position is another or before it. -/
def Pos.upto (p q : Pos) : Prop := p.row < q.row ∨ p.row = q.row ∧ p.column ≤ q.column

theorem Pos.before.upto {p q : Pos} (h : p.before q) : p.upto q :=
  h.imp_right fun h => ⟨h.1, Nat.le_of_lt h.2⟩

theorem Pos.upto_refl (p : Pos) : p.upto p := .inr ⟨rfl, Nat.le_refl _⟩

theorem Pos.upto.trans {p q r : Pos} (h : p.upto q) (k : q.upto r) : p.upto r := by
  unfold Pos.upto at *
  omega

theorem Pos.upto.before {p : Pos} (h : p.upto ⟨row, 0⟩) (hn : 0 < n) : p.before ⟨row, n⟩ := by
  unfold Pos.upto at h
  unfold Pos.before
  simp only at *
  omega

/-- One token stands after another. -/
structure Token.Follows (a b : Token) : Prop where
  apart : a.stop.upto b.start
  later : a.kind = .newline → a.start.row < b.start.row

/-- A token stands between two positions. -/
structure Token.Between (p q : Pos) (t : Token) : Prop where
  start : p.upto t.start
  extent : t.start.upto t.stop
  proper : t.significant = true → t.start.before t.stop
  stop : t.stop.upto q
  later : t.kind = .newline → t.start.row < q.row

/-- Tokens stand one after another between two positions. -/
structure Ordered (p q : Pos) (ts : List Token) : Prop where
  bounds : p.upto q
  between : ∀ t ∈ ts, t.Between p q
  follows : ts.Pairwise Token.Follows

namespace Ordered

variable {p q r : Pos} {token : Token}

theorem nil (h : p.upto q) : Ordered p q [] := ⟨h, by simp, .nil⟩

theorem append (h : Ordered p q ts) (k : Ordered q r us) : Ordered p r (ts ++ us) where
  bounds := h.bounds.trans k.bounds
  between := by
    intro t ht
    rcases List.mem_append.1 ht with ht | ht
    · obtain ⟨start, extent, proper, stop, later⟩ := h.between t ht
      refine ⟨start, extent, proper, stop.trans k.bounds, fun hk => ?_⟩
      have := later hk
      have := k.bounds
      unfold Pos.upto at this
      omega
    · obtain ⟨start, extent, proper, stop, later⟩ := k.between t ht
      exact ⟨h.bounds.trans start, extent, proper, stop, later⟩
  follows := by
    refine List.pairwise_append.2 ⟨h.follows, k.follows, fun a ha b hb => ?_⟩
    have before := h.between a ha
    have after := (k.between b hb).start
    refine ⟨before.stop.trans after, fun hk => ?_⟩
    have := before.later hk
    unfold Pos.upto at after
    omega

theorem tail (h : Ordered p q (token :: ts)) : Ordered token.stop q ts := by
  obtain ⟨first, others⟩ := List.forall_mem_cons.1 h.between
  obtain ⟨follows, pairwise⟩ := List.pairwise_cons.1 h.follows
  exact ⟨first.stop, fun t ht => { others t ht with start := (follows t ht).apart }, pairwise⟩

theorem drop (us : List Token) (h : Ordered p q (us ++ ts)) : ∃ p', p.upto p' ∧ Ordered p' q ts := by
  induction us generalizing p with
  | nil => exact ⟨p, Pos.upto_refl p, h⟩
  | cons u us ih =>
    have first := h.between u List.mem_cons_self
    obtain ⟨p', hp, ordered⟩ := ih h.tail
    exact ⟨p', (first.start.trans first.extent).trans hp, ordered⟩

/-- What stands behind the end of a statement stands on later rows. -/
theorem tail_of_newline (h : Ordered p q (token :: ts)) (hk : token.kind = .newline) :
    Ordered ⟨token.start.row + 1, 0⟩ q ts := by
  obtain ⟨first, others⟩ := List.forall_mem_cons.1 h.between
  obtain ⟨follows, pairwise⟩ := List.pairwise_cons.1 h.follows
  have next {r : Pos} (hr : token.start.row < r.row) : Pos.upto ⟨token.start.row + 1, 0⟩ r := by
    unfold Pos.upto
    simp only
    omega
  exact ⟨next (first.later hk),
    fun t ht => { others t ht with start := next ((follows t ht).later hk) }, pairwise⟩

theorem single (h : token.Between p q) : Ordered p q [token] where
  bounds := (h.start.trans h.extent).trans h.stop
  between := List.forall_mem_singleton.2 h
  follows := List.pairwise_singleton _ _

/-- A token of layout, which may be empty. -/
theorem layout (hl : token.significant = false) (hs : p.upto token.start)
    (he : token.start.upto token.stop) (hq : token.stop.upto q)
    (hk : token.kind = .newline → token.start.row < q.row) : Ordered p q [token] :=
  .single ⟨hs, he, fun h => by simp [hl] at h, hq, hk⟩

/-- A token that is not empty. -/
theorem solid (hs : p.upto token.start) (he : token.start.before token.stop)
    (hq : token.stop.upto q) (hk : token.kind ≠ .newline) : Ordered p q [token] :=
  .single ⟨hs, he.upto, fun _ => he, hq, fun h => absurd h hk⟩

end Ordered

/-! ## The scan of a row -/

theorem kind_of_lexeme (h : lexeme (c :: rest) = .token kind n) : kind ≠ .newline := by
  rcases lexeme_cases h with ⟨rfl, -⟩ | ⟨rfl | rfl | rfl, -⟩ | ⟨-, -, rfl | rfl⟩ <;>
    exact Kind.noConfusion

/-- Where a row leaves off: behind the row, or at the string that it leaves open. -/
def RowEnding.place (row : Nat) : RowEnding → Pos
  | within s => s.start
  | _ => ⟨row + 1, 0⟩

/-- The tokens of a scan stand one after another in its row. -/
theorem scanRow_ordered (row skip column : Nat) (depth : Int) (t : Text) (h : skip ≤ t.length) :
    Ordered ⟨row, column + skip⟩ ((scanRow row skip column depth t).ending.place row)
      (scanRow row skip column depth t).tokens := by
  induction t generalizing skip column depth with
  | nil =>
    obtain rfl : skip = 0 := Nat.le_zero.1 h
    refine .layout ?_ (Pos.upto_refl _) (.inr ⟨rfl, Nat.le_succ _⟩) (.inl (Nat.lt_succ_self _))
      fun _ => Nat.lt_succ_self _
    by_cases hd : depth > 0 <;> simp [hd, Token.significant]
  | cons c t ih =>
    cases skip with
    | succ skip =>
      have inner := ih skip (column + 1) depth (Nat.le_of_succ_le_succ h)
      rwa [Nat.add_assoc, Nat.add_comm 1] at inner
    | zero =>
      have next : (⟨row, column⟩ : Pos).upto ⟨row, column + 1⟩ := .inr ⟨rfl, Nat.le_succ _⟩
      have later (depth : Int) := ih 0 (column + 1) depth (Nat.zero_le _)
      have found (kind : Kind) (text : Text) (n : Nat) (depth : Int) (hk : kind ≠ .newline)
          (hn : n ≤ t.length) : Ordered ⟨row, column⟩
            ((scanRow row n (column + 1) depth t).ending.place row)
            (⟨kind, text, ⟨row, column⟩, ⟨row, column + (n + 1)⟩⟩ ::
              (scanRow row n (column + 1) depth t).tokens) := by
        have behind : column + (n + 1) ≤ column + 1 + n := by omega
        have first : Ordered ⟨row, column⟩ ⟨row, column + 1 + n⟩
            [⟨kind, text, ⟨row, column⟩, ⟨row, column + (n + 1)⟩⟩] :=
          .solid (Pos.upto_refl _) (.inr ⟨rfl, Nat.lt_add_of_pos_right (Nat.succ_pos n)⟩)
            (.inr ⟨rfl, behind⟩) hk
        exact first.append (ih n (column + 1) depth hn)
      rw [scanRow]
      split
      · exact found .unknown [c] 0 depth Kind.noConfusion (Nat.zero_le _)
      · split
        · exact Ordered.append (.nil next) (later depth)
        · rename_i hgap
          rw [List.dropWhile_cons_of_neg hgap]
          split
          · rename_i kind n hl
            obtain ⟨n, rfl⟩ : ∃ m, n = m + 1 := ⟨n - 1, by have := lexeme_pos hl; omega⟩
            exact found kind _ n _ (kind_of_lexeme hl) (Nat.le_of_succ_le_succ (lexeme_le hl))
          · exact .nil (Pos.upto_refl _)
          · exact .nil (.inl (Nat.lt_succ_self row))
          · exact .nil (.inl (Nat.lt_succ_self row))
          · exact .nil (.inl (Nat.lt_succ_self row))

/-! ## Rows -/

namespace Tokenizer

variable {s m : Tokenizer} {rows : List Text}

/-- Where the tokens of the next row begin: in it, or with the string that is open. -/
def place (s : Tokenizer) (row : Nat) : Pos :=
  match s.within with
  | some a => a.start
  | none => ⟨row, 0⟩

theorem place_resume (s : Tokenizer) (row : Nat) (scan : RowScan) :
    (s.resume scan).place (row + 1) = scan.ending.place row := by
  obtain ⟨tokens, depth, ending⟩ := scan
  cases ending <;> rfl

theorem ordered_of_opens {blanks : Text} {opened : List Token × List Nat}
    (h : s.opens row blanks = .ok opened) :
    Ordered ⟨row, 0⟩ ⟨row, blanks.length⟩ opened.1 := by
  have inner : (⟨row, 0⟩ : Pos).upto ⟨row, blanks.length⟩ := .inr ⟨rfl, Nat.zero_le _⟩
  unfold opens at h
  split at h
  · obtain rfl := Except.ok.inj h
    exact .layout rfl (Pos.upto_refl _) inner (Pos.upto_refl _) Kind.noConfusion
  · split at h
    · simp at h
    · rename_i n indents _
      obtain rfl := Except.ok.inj h
      refine ⟨inner, fun t ht => ?_, ?_⟩
      · obtain rfl := List.eq_of_mem_replicate ht
        exact ⟨inner, Pos.upto_refl _, Bool.noConfusion, Pos.upto_refl _, Kind.noConfusion⟩
      · exact List.pairwise_replicate.2 (.inr ⟨Pos.upto_refl _, Kind.noConfusion⟩)

theorem ordered_of_statementRow (hw : s.within = none)
    (h : s.statementRow row t = .ok (ts, m)) :
    Ordered ⟨row, 0⟩ (m.place (row + 1)) ts := by
  have next (n : Nat) : (⟨row, n⟩ : Pos).upto ⟨row + 1, 0⟩ := .inl (Nat.lt_succ_self row)
  have still : s.place (row + 1) = ⟨row + 1, 0⟩ := by rw [place, hw]
  have ended (n : Nat) : Ordered ⟨row, n⟩ ⟨row + 1, 0⟩ [⟨.rowEnd, "\n", ⟨row, n⟩, ⟨row, n + 1⟩⟩] :=
    .layout rfl (Pos.upto_refl _) (.inr ⟨rfl, Nat.le_succ n⟩) (next _) Kind.noConfusion
  by_cases hs : ∃ c, (t.dropWhile isGap).head? = some c ∧ c ≠ 0x23
  · obtain ⟨c, hd, hc⟩ := hs
    rw [statementRow_eq hd hc] at h
    cases ho : s.opens row (t.takeWhile isGap) with
    | error e => simp [ho, Except.map] at h
    | ok opened =>
      simp only [ho, Except.map, Except.ok.injEq, Prod.mk.injEq] at h
      obtain ⟨rfl, rfl⟩ := h
      rw [place_resume]
      exact (ordered_of_opens ho).append (scanRow_ordered row 0 _ 0 _ (Nat.zero_le _))
  · have quiet (c : CodePoint) (hd : (t.dropWhile isGap).head? = some c) : c = 0x23 :=
      Decidable.byContradiction fun hc => hs ⟨c, hd, hc⟩
    have width := (List.takeWhile_prefix isGap (l := t)).length_le
    unfold statementRow at h
    simp only [drop_length_takeWhile] at h
    split at h
    · simp only [Except.ok.injEq, Prod.mk.injEq] at h
      obtain ⟨rfl, rfl⟩ := h
      rw [still]
      have margin : Ordered ⟨row, 0⟩ ⟨row, (t.takeWhile isGap).length⟩ [] :=
        .nil (.inr ⟨rfl, Nat.zero_le _⟩)
      exact margin.append (ended _)
    · rename_i c rest hd
      have hc : c = ('#' : CodePoint) := quiet c (by rw [hd]; rfl)
      simp only [hc, ↓reduceIte, Except.ok.injEq, Prod.mk.injEq] at h
      obtain ⟨rfl, rfl⟩ := h
      rw [still]
      have comment : Ordered ⟨row, 0⟩ ⟨row, t.length⟩
          [⟨.comment, t.dropWhile isGap, ⟨row, (t.takeWhile isGap).length⟩, ⟨row, t.length⟩⟩] :=
        .layout rfl (.inr ⟨rfl, Nat.zero_le _⟩) (.inr ⟨rfl, width⟩) (Pos.upto_refl _) Kind.noConfusion
      exact comment.append (ended _)

/-- The tokens of a row stand between the place where it begins and the one where the next does. -/
theorem ordered_of_row (hs : (s.place row).upto ⟨row, 0⟩) (h : s.row row t = .ok (ts, m)) :
    Ordered (s.place row) (m.place (row + 1)) ts ∧ (m.place (row + 1)).upto ⟨row + 1, 0⟩ := by
  have next (p : Pos) (hp : p.row ≤ row) : p.upto ⟨row + 1, 0⟩ := .inl (Nat.lt_succ_of_le hp)
  have before : (s.place row).row ≤ row := by
    unfold Pos.upto at hs
    simp only at hs
    omega
  have bound (s : Tokenizer) (skip : Nat) (column : Nat) (depth : Int) (t : Text) :
      ((s.resume (scanRow row skip column depth t)).place (row + 1)).upto ⟨row + 1, 0⟩ := by
    rw [place_resume]
    cases he : (scanRow row skip column depth t).ending with
    | within a =>
      obtain ⟨-, n, start, -⟩ := open_of_scanRow he
      exact next _ (Nat.le_of_eq (by rw [RowEnding.place, start]))
    | plain => exact Pos.upto_refl _
    | joined => exact Pos.upto_refl _
  unfold Tokenizer.row at h
  cases hw : s.within with
  | some a =>
    have start : s.place row = a.start := by rw [place, hw]
    simp only [hw] at h
    cases hn : a.quote.closing? t with
    | some n =>
      simp only [hn, Except.ok.injEq, Prod.mk.injEq] at h
      obtain ⟨rfl, rfl⟩ := h
      refine ⟨?_, bound _ _ _ _ _⟩
      have string : Ordered (s.place row) ⟨row, n⟩
          [⟨.string, a.text ++ t.take n, a.start, ⟨row, n⟩⟩] :=
        have extent : a.start.before ⟨row, n⟩ :=
          (start ▸ hs).before (closing?_le hn).1
        .solid (start ▸ Pos.upto_refl _) extent (Pos.upto_refl _) Kind.noConfusion
      have others := scanRow_ordered row n 0 s.depth t (closing?_le hn).2
      rw [Nat.zero_add] at others
      rw [place_resume]
      exact string.append others
    | none =>
      simp only [hn] at h
      split at h
      · simp only [Except.ok.injEq, Prod.mk.injEq] at h
        obtain ⟨rfl, rfl⟩ := h
        rw [start]
        exact ⟨.nil (Pos.upto_refl _), next _ (start ▸ before)⟩
      · simp only [Except.ok.injEq, Prod.mk.injEq] at h
        obtain ⟨rfl, rfl⟩ := h
        rw [start] at hs ⊢
        exact ⟨.solid (Pos.upto_refl _) (hs.before (Nat.succ_pos _)) (next _ (Nat.le_refl _))
          Kind.noConfusion, Pos.upto_refl _⟩
  | none =>
    have start : s.place row = ⟨row, 0⟩ := by rw [place, hw]
    simp only [hw] at h
    rw [start]
    split at h
    · refine ⟨ordered_of_statementRow hw h, ?_⟩
      cases begins_of_statementRow h with
      | empty =>
        rw [place, hw]
        exact Pos.upto_refl _
      | statement => exact bound _ _ _ _ _
    · simp only [Except.ok.injEq, Prod.mk.injEq] at h
      obtain ⟨rfl, rfl⟩ := h
      rw [place_resume]
      exact ⟨scanRow_ordered row 0 0 s.depth t (Nat.zero_le _), place_resume s row _ ▸ bound _ _ _ _ _⟩

theorem Runs.ordered (hs : (s.place row).upto ⟨row, 0⟩) (h : Runs s row rows ts m) :
    Ordered (s.place row) (m.place (row + rows.length)) ts ∧
      (m.place (row + rows.length)).upto ⟨row + rows.length, 0⟩ := by
  induction h with
  | nil => exact ⟨.nil (Pos.upto_refl _), hs⟩
  | @cons s m m' row t rows ts us first _ ih =>
    obtain ⟨here, bound⟩ := ordered_of_row hs first
    obtain ⟨others, last⟩ := ih bound
    rw [List.length_cons, Nat.add_comm rows.length, ← Nat.add_assoc]
    exact ⟨here.append others, last⟩

end Tokenizer

theorem ordered_of_finish {m : Tokenizer} (h : m.finish row = .ok ts) :
    Ordered ⟨row, 0⟩ ⟨row, 0⟩ ts := by
  have still : (⟨row, 0⟩ : Pos).upto ⟨row, 0⟩ := Pos.upto_refl _
  unfold Tokenizer.finish at h
  split at h
  · simp at h
  · split at h
    · obtain rfl := Except.ok.inj h
      refine Ordered.append (q := ⟨row, 0⟩) ?_ (.layout rfl still still still Kind.noConfusion)
      refine ⟨still, fun t ht => ?_, ?_⟩
      · obtain ⟨_, -, rfl⟩ := List.mem_map.1 ht
        exact ⟨still, still, Bool.noConfusion, still, Kind.noConfusion⟩
      · refine List.pairwise_map.2 (List.pairwise_of_forall fun _ _ => ⟨still, Kind.noConfusion⟩)
    · simp at h

/-- The tokens of rows stand one after another. -/
theorem ordered_of_tokenize {rows : List Text} (h : tokenize rows = .ok ts) :
    ∃ p, Ordered ⟨1, 0⟩ p ts := by
  obtain ⟨us, vs, m, hr, hf, rfl⟩ := Tokenizer.runs_of_ofRows h
  have none_ : m.within = none := by
    unfold Tokenizer.finish at hf
    split at hf
    · simp at hf
    · assumption
  obtain ⟨ordered, -⟩ := hr.ordered (Pos.upto_refl _)
  have last : m.place (1 + rows.length) = ⟨1 + rows.length, 0⟩ := by
    rw [Tokenizer.place, none_]
  rw [last] at ordered
  exact ⟨_, ordered.append (ordered_of_finish hf)⟩

end Stencil.Script
