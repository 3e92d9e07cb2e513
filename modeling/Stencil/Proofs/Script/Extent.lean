import Stencil.Proofs.Script.Shift
import Stencil.Proofs.Text.Rows

/-!
# Where strings stand

A string token stands in the rows between its two places: on one row, or from the inside of a row
over whole rows to the inside of a later one. Its text ends in a quote.

## Main definitions

* `textBetween` — the text of rows between two places.
* `Spans` — a text stands in rows between two places.

## Main results

* `Spans.textBetween_eq` — rows have one text between two places.
* `placed_of_tokenize` — every string token is the text between its places.
-/

namespace Stencil.Script

variable {t : Text} {rows : List Text} {row column n : Nat} {depth : Int} {ts : List Token}
  {token : Token}

/-! ## Texts between places -/

/-- The text of rows between two places. -/
def textBetween (rows : List Text) (start stop : Pos) : Text :=
  let upto := (rows.take stop.row).modify (stop.row - 1) (List.take stop.column)
  Text.joinRows ((upto.drop (start.row - 1)).modifyHead (List.drop start.column))

/-- A text stands in rows between two places. The rows are given by what stands before and after,
so that no row has to be looked up. -/
inductive Spans (rows : List Text) : Pos → Pos → Text → Prop where
  | within {before after : List Text} {t : Text} {n k : Nat} (hr : rows = before ++ t :: after)
      (hk : n + k ≤ t.length) :
      Spans rows ⟨before.length + 1, n⟩ ⟨before.length + 1, n + k⟩ ((t.drop n).take k)
  | across {before middle after : List Text} {first last : Text} {n k : Nat}
      (hr : rows = before ++ first :: (middle ++ last :: after)) (hn : n < first.length)
      (hk : k ≤ last.length) :
      Spans rows ⟨before.length + 1, n⟩ ⟨before.length + middle.length + 2, k⟩
        (Text.joinRows (first.drop n :: (middle ++ [last.take k])))

/-- Rows have one text between two places. -/
theorem Spans.textBetween_eq {start stop : Pos} (h : Spans rows start stop t) :
    textBetween rows start stop = t := by
  have cut (before others : List Text) (last : Text) (k : Nat) :
      ((before ++ (others ++ [last])).modify (before.length + others.length)
        (List.take k)).drop before.length = others ++ [last.take k] := by
    rw [← List.length_append, ← List.append_assoc, List.modify_eq_take_drop, List.take_left,
      List.drop_left, List.append_assoc, List.drop_left]
    rfl
  cases h with
  | @within before after t n k hr hk =>
    have upto : rows.take (before.length + 1) = before ++ ([] ++ [t]) := by
      rw [hr, List.take_length_add_append]
      rfl
    have whole : ((rows.take (before.length + 1)).modify before.length
        (List.take (n + k))).drop before.length = [t.take (n + k)] := upto ▸ cut before [] t (n + k)
    calc textBetween rows ⟨before.length + 1, n⟩ ⟨before.length + 1, n + k⟩
        = Text.joinRows ((((rows.take (before.length + 1)).modify before.length
            (List.take (n + k))).drop before.length).modifyHead (List.drop n)) := rfl
      _ = (t.take (n + k)).drop n := by rw [whole]; rfl
      _ = (t.drop n).take k := by rw [List.drop_take, Nat.add_sub_cancel_left]
  | @across before middle after first last n k hr hn hk =>
    have upto : rows.take (before.length + middle.length + 2) =
        before ++ (first :: middle ++ [last]) := by
      rw [hr, Nat.add_assoc, List.take_length_add_append, List.take_succ_cons,
        List.take_length_add_append]
      rfl
    have whole : ((rows.take (before.length + middle.length + 2)).modify
        (before.length + middle.length + 1) (List.take k)).drop before.length =
          first :: (middle ++ [last.take k]) := upto ▸ cut before (first :: middle) last k
    calc textBetween rows ⟨before.length + 1, n⟩ ⟨before.length + middle.length + 2, k⟩
        = Text.joinRows ((((rows.take (before.length + middle.length + 2)).modify
            (before.length + middle.length + 1) (List.take k)).drop
              before.length).modifyHead (List.drop n)) := rfl
      _ = Text.joinRows (first.drop n :: (middle ++ [last.take k])) := by rw [whole]; rfl

/-- A text that stands in rows is part of them. -/
theorem Spans.isInfix {start stop : Pos} (h : Spans rows start stop t) :
    t <:+: Text.joinRows rows := by
  cases h with
  | @within before after t n k hr hk =>
    have inner : (t.drop n).take k <:+: t :=
      (List.take_prefix k _).isInfix.trans (List.drop_suffix n t).isInfix
    rw [hr, Text.joinRows_split]
    exact inner.trans ((Text.prefix_joinRows t after).isInfix.trans (List.suffix_append _ _).isInfix)
  | @across before middle after first last n k hr hn hk =>
    have begun : Text.joinRows (first :: (middle ++ last :: after)) =
        first.take n ++ Text.joinRows (first.drop n :: (middle ++ last :: after)) := by
      obtain ⟨next, others, hnext⟩ : ∃ next others, middle ++ last :: after = next :: others := by
        cases middle <;> exact ⟨_, _, rfl⟩
      have joined (row : Text) : Text.joinRows (row :: next :: others) =
        row ++ [10] ++ Text.joinRows (next :: others) := rfl
      rw [hnext, joined, joined, ← List.append_assoc, ← List.append_assoc, List.take_append_drop]
    have ended : Text.joinRows (first.drop n :: (middle ++ [last.take k])) <+:
        Text.joinRows (first.drop n :: (middle ++ last :: after)) := by
      rw [← List.cons_append, ← List.cons_append, Text.joinRows_split, Text.joinRows_split]
      exact (List.prefix_append_right_inj _).2
        ((List.take_prefix k last).trans (Text.prefix_joinRows last after))
    rw [hr, Text.joinRows_split, begun]
    exact ended.isInfix.trans ((List.suffix_append _ _).isInfix.trans
      (List.suffix_append _ _).isInfix)

/-! ## Ends of strings -/

theorem getLast?_closing {q : Quote} (h : q.closing? t = some n) :
    (t.take n).getLast? = some q.mark := by
  fun_induction Quote.closing? q t generalizing n with
  | case1 => simp at h
  | case2 c hc =>
    obtain rfl : 1 = n := by simpa using h
    have mark : c ∈ q.marks := by simp [hc.2]
    simpa using List.eq_of_mem_replicate mark
  | case3 => simp at h
  | case4 d rest ih =>
    obtain ⟨k, hk, rfl⟩ := Option.map_eq_some_iff.1 h
    have last := ih hk
    rw [List.take_succ_cons, List.take_succ_cons, List.getLast?_cons, List.getLast?_cons, last]
    rfl
  | case5 c d rest _ hm =>
    obtain rfl : q.marks.length = n := by simpa using h
    rw [← List.prefix_iff_eq_take.1 (List.isPrefixOf_iff_prefix.1 hm)]
    unfold Quote.marks
    split <;> rfl
  | case6 c d rest _ _ ih =>
    obtain ⟨k, hk, rfl⟩ := Option.map_eq_some_iff.1 h
    rw [List.take_succ_cons, List.getLast?_cons, ih hk]
    rfl

/-- A text that ends in a quote. -/
def EndsInMark (t : Text) : Prop := ∃ q : Quote, q.IsMark ∧ t.getLast? = some q.mark

theorem endsInMark_append {u : Text} (h : EndsInMark u) (t : Text) : EndsInMark (t ++ u) := by
  obtain ⟨q, hq, hl⟩ := h
  exact ⟨q, hq, by rw [List.getLast?_append, hl]; rfl⟩

theorem endsInMark_of_lexeme (h : lexeme t = .token .string n) :
    n ≤ t.length ∧ EndsInMark (t.take n) := by
  obtain ⟨k, q, hs, hl⟩ := stringLexeme_of_lexeme h (.inr ⟨n, rfl⟩)
  simp only [stringLexeme] at hl
  split at hl
  · rename_i m hm
    obtain rfl : k + q.marks.length + m = n := by simpa using hl
    obtain ⟨pos, le⟩ := closing?_le hm
    rw [List.length_drop] at le
    refine ⟨by omega, ?_⟩
    rw [List.take_add]
    exact endsInMark_append ⟨q, isMark_of_stringStart? hs, getLast?_closing hm⟩ _
  · split at hl <;> simp at hl

/-- A text that begins with what is no blank. -/
def Starts (t : Text) : Prop := ∃ c, t.head? = some c ∧ isGap c = false

theorem Starts.mono {u : Text} (h : Starts t) (hp : t <+: u) : Starts u := by
  obtain ⟨c, hc, hgap⟩ := h
  obtain ⟨rest, rfl⟩ := hp
  exact ⟨c, by rw [List.head?_append, hc]; rfl, hgap⟩

theorem Starts.of_prefix {u : Text} (h : Starts u) (hp : t <+: u) (hne : t ≠ []) : Starts t := by
  obtain ⟨c, hc, hgap⟩ := h
  obtain ⟨rest, rfl⟩ := hp
  rw [List.head?_append_of_ne_nil _ hne] at hc
  exact ⟨c, hc, hgap⟩

theorem Starts.ne_nil (h : Starts t) : t ≠ [] := by
  rintro rfl
  obtain ⟨c, hc, -⟩ := h
  simp at hc

/-! ## Strings of a row -/

/-- Strings stand where the scan of a row finds them. -/
theorem string_of_scanRow {skip : Nat}
    (hm : token ∈ (scanRow row skip column depth t).tokens) (hk : token.kind = .string) :
    ∃ n k, token.start = ⟨row, column + n⟩ ∧ token.stop = ⟨row, column + n + k⟩ ∧
      n + k ≤ t.length ∧ token.text = (t.drop n).take k ∧ Starts token.text ∧
      EndsInMark token.text := by
  induction t generalizing skip column depth with
  | nil =>
    have kinds : token.kind = .rowEnd ∨ token.kind = .newline := by
      cases skip <;> obtain rfl := List.mem_singleton.1 hm <;> by_cases hd : depth > 0 <;> simp [hd]
    simp [hk] at kinds
  | cons c rest ih =>
    have later {skip : Nat} {depth : Int}
        (hm : token ∈ (scanRow row skip (column + 1) depth rest).tokens) :
        ∃ n k, token.start = ⟨row, column + n⟩ ∧ token.stop = ⟨row, column + n + k⟩ ∧
          n + k ≤ (c :: rest).length ∧ token.text = ((c :: rest).drop n).take k ∧
          Starts token.text ∧ EndsInMark token.text := by
      obtain ⟨n, k, start, stop, le, text, ends⟩ := ih hm
      refine ⟨n + 1, k, ?_, ?_, ?_, text, ends⟩
      · rw [start, Nat.add_assoc, Nat.add_comm 1]
      · rw [stop, Nat.add_assoc column, Nat.add_comm 1]
      · rw [List.length_cons]
        omega
    cases skip with
    | succ skip => exact later hm
    | zero =>
      rw [scanRow] at hm
      split at hm
      · rcases List.mem_cons.1 hm with rfl | hm
        · simp at hk
        · exact later hm
      · rename_i hl
        split at hm
        · exact later hm
        · rename_i hgap
          have reached : (c :: rest).dropWhile isGap = c :: rest :=
            List.dropWhile_cons_of_neg hgap
          rw [reached] at hm
          split at hm
          · rename_i kind length hlex
            rcases List.mem_cons.1 hm with rfl | hm
            · simp only at hk
              subst hk
              obtain ⟨le, mark⟩ := endsInMark_of_lexeme hlex
              have begins : Starts ((c :: rest).take length) := by
                cases length with
                | zero =>
                  obtain ⟨q, -, hq⟩ := mark
                  simp at hq
                | succ length => exact ⟨c, rfl, by simpa using hgap⟩
              exact ⟨0, length, rfl, rfl, by rwa [Nat.zero_add], rfl, begins, mark⟩
            · exact later hm
          all_goals exact absurd hm List.not_mem_nil

/-- A string that a row leaves open begins on it. -/
theorem open_of_scanRow {skip : Nat} {a : OpenString}
    (h : (scanRow row skip column depth t).ending = .within a) :
    a.quote.IsMark ∧ ∃ n, a.start = ⟨row, column + n⟩ ∧ a.text = t.drop n ++ [10] ∧
      Starts (t.drop n) := by
  refine ⟨isMark_of_within h, ?_⟩
  induction t generalizing skip column depth with
  | nil => cases skip <;> simp [scanRow] at h
  | cons c rest ih =>
    have later {skip : Nat} {depth : Int}
        (h : (scanRow row skip (column + 1) depth rest).ending = .within a) :
        ∃ n, a.start = ⟨row, column + n⟩ ∧ a.text = (c :: rest).drop n ++ [10] ∧
          Starts ((c :: rest).drop n) := by
      obtain ⟨n, start, text⟩ := ih h
      exact ⟨n + 1, by rw [start, Nat.add_assoc, Nat.add_comm 1], text⟩
    cases skip with
    | succ skip => exact later h
    | zero =>
      rw [scanRow] at h
      split at h
      · exact later h
      · split at h
        · exact later h
        · rename_i hgap
          split at h
          · exact later h
          · obtain rfl := RowEnding.within.inj h
            exact ⟨0, rfl, rfl, c, rfl, by simpa using hgap⟩
          all_goals simp at h

/-! ## Strings of rows -/

/-- A token that stands in rows and ends in a quote. -/
structure Placed (rows : List Text) (token : Token) : Prop where
  spans : Spans rows token.start token.stop token.text
  starts : Starts token.text
  mark : EndsInMark token.text

/-- A string that is open after rows. -/
inductive OpenAfter : List Text → OpenString → Prop where
  | mk {before middle : List Text} {first : Text} {n : Nat} {a : OpenString}
      (mark : a.quote.IsMark) (starts : Starts (first.drop n))
      (start : a.start = ⟨before.length + 1, n⟩)
      (text : a.text = Text.joinRows (first.drop n :: middle) ++ [10]) :
      OpenAfter (before ++ first :: middle) a

section

variable {before after : List Text} {skip : Nat}

/-- The strings that a scan finds from a column on. -/
theorem placed_of_scan (column : Nat) (le : column ≤ t.length)
    (hm : token ∈ (scanRow (before.length + 1) skip column depth (t.drop column)).tokens)
    (hk : token.kind = .string) : Placed (before ++ t :: after) token := by
  obtain ⟨n, k, start, stop, le', text, starts, mark⟩ := string_of_scanRow hm hk
  rw [List.length_drop] at le'
  refine ⟨?_, starts, mark⟩
  rw [start, stop, text, List.drop_drop]
  exact .within rfl (by omega)

theorem openAfter_of_scan (column : Nat) {s : Tokenizer} {a : OpenString}
    (h : (s.resume (scanRow (before.length + 1) skip column depth (t.drop column))).within =
      some a) : OpenAfter (before ++ [t]) a := by
  have ending : (scanRow (before.length + 1) skip column depth (t.drop column)).ending =
      .within a := by
    unfold Tokenizer.resume at h
    split at h
    · simp at h
    · simp at h
    · rename_i he
      rw [he, ← Option.some.inj h]
  obtain ⟨mark, n, start, text, starts⟩ := open_of_scanRow ending
  rw [List.drop_drop] at text starts
  exact .mk mark starts start text

end

namespace Tokenizer

variable {s m : Tokenizer} {before : List Text}

/-- The strings of a row stand in it, or in it and the rows before it. -/
theorem placed_of_row (after : List Text) (ho : ∀ a ∈ s.within, OpenAfter before a)
    (hrow : s.row (before.length + 1) t = .ok (ts, m)) :
    (∀ token ∈ ts, token.kind = .string → Placed (before ++ t :: after) token) ∧
      ∀ a ∈ m.within, OpenAfter (before ++ [t]) a := by
  unfold Tokenizer.row at hrow
  cases hw : s.within with
  | some a =>
    have opened := ho a hw
    simp only [hw] at hrow
    cases hn : a.quote.closing? t with
    | some n =>
      simp only [hn, Except.ok.injEq, Prod.mk.injEq] at hrow
      obtain ⟨rfl, rfl⟩ := hrow
      refine ⟨fun token hm hk => ?_, fun b hb => openAfter_of_scan 0 hb⟩
      rcases List.mem_cons.1 hm with rfl | hm
      · cases opened with
        | @mk before middle first k _ mark starts start text =>
          have opens : Starts (a.text ++ t.take n) := by
            rw [text, List.append_assoc]
            exact starts.mono ((Text.prefix_joinRows _ _).trans (List.prefix_append _ _))
          have inner : k < first.length := by
            have pos := List.length_pos_of_ne_nil starts.ne_nil
            rw [List.length_drop] at pos
            omega
          refine ⟨?_, opens, endsInMark_append ⟨a.quote, mark, getLast?_closing hn⟩ _⟩
          have whole : a.text ++ t.take n =
              Text.joinRows (first.drop k :: (middle ++ [t.take n])) := by
            rw [← List.cons_append, Text.joinRows_concat (List.cons_ne_nil _ _), text,
              List.append_assoc]
            rfl
          have row : (before ++ first :: middle).length + 1 =
              before.length + middle.length + 2 := by
            simp only [List.length_append, List.length_cons]
            omega
          simp only [start, whole, row, List.append_assoc, List.cons_append]
          exact .across rfl inner (closing?_le hn).2
      · exact placed_of_scan 0 (Nat.zero_le _) hm hk
    | none =>
      simp only [hn] at hrow
      split at hrow
      · simp only [Except.ok.injEq, Prod.mk.injEq] at hrow
        obtain ⟨rfl, rfl⟩ := hrow
        refine ⟨nofun, fun b hb => ?_⟩
        obtain rfl := Option.some.inj hb
        cases opened with
        | @mk before middle first k _ mark starts start text =>
          rw [List.append_assoc, List.cons_append]
          refine .mk mark starts start ?_
          rw [← List.cons_append, Text.joinRows_concat (List.cons_ne_nil _ _), text]
          simp
          rfl
      · simp only [Except.ok.injEq, Prod.mk.injEq] at hrow
        obtain ⟨rfl, rfl⟩ := hrow
        refine ⟨fun token hm hk => ?_, by simp⟩
        obtain rfl := List.mem_singleton.1 hm
        simp at hk
  | none =>
    simp only [hw] at hrow
    split at hrow
    · cases begins_of_statementRow hrow with
      | empty _ hts =>
        refine ⟨fun token hm hk => ?_, by simp [hw]⟩
        have lasts : token ∈ lasting ts := List.mem_filter.2 ⟨hm, by rw [hk]; rfl⟩
        rw [hts] at lasts
        exact absurd lasts List.not_mem_nil
      | @statement layout indents c hd hc hl =>
        rw [← drop_length_takeWhile]
        refine ⟨fun token hm hk => ?_, fun b hb => openAfter_of_scan _ hb⟩
        rcases List.mem_append.1 hm with hm | hm
        · have lasts : token ∈ lasting layout := List.mem_filter.2 ⟨hm, by rw [hk]; rfl⟩
          rw [hl] at lasts
          exact absurd lasts List.not_mem_nil
        · exact placed_of_scan _ (List.takeWhile_prefix _).length_le hm hk
    · simp only [Except.ok.injEq, Prod.mk.injEq] at hrow
      obtain ⟨rfl, rfl⟩ := hrow
      exact ⟨fun token hm hk => placed_of_scan 0 (Nat.zero_le _) hm hk,
        fun b hb => openAfter_of_scan 0 hb⟩

/-- The strings of rows stand in them, or in them and the rows before them. -/
theorem placed_of_runs {rows : List Text} (ho : ∀ a ∈ s.within, OpenAfter before a)
    (hr : Runs s (before.length + 1) rows ts m) :
    ∀ token ∈ ts, token.kind = .string → Placed (before ++ rows) token := by
  generalize hrow : before.length + 1 = row at hr
  induction hr generalizing before with
  | nil => exact nofun
  | @cons s m m' row t rows ts us first others ih =>
    subst hrow
    obtain ⟨placed, opened⟩ := placed_of_row rows ho first
    intro token hm hk
    rcases List.mem_append.1 hm with hm | hm
    · exact placed token hm hk
    · have later := ih opened (by rw [List.length_append, List.length_singleton]) token hm hk
      rwa [List.append_assoc] at later

end Tokenizer

/-- Every string token is the text between its places. -/
theorem placed_of_tokenize (h : tokenize rows = .ok ts) (hm : token ∈ ts)
    (hk : token.kind = .string) : Placed rows token := by
  obtain ⟨us, vs, m, hr, hf, rfl⟩ := Tokenizer.runs_of_ofRows h
  rcases List.mem_append.1 hm with hm | hm
  · have closed : ∀ a ∈ Tokenizer.initial.within, OpenAfter [] a := by simp [Tokenizer.initial]
    exact Tokenizer.placed_of_runs closed hr token hm hk
  · have lasts : token ∈ lasting vs := List.mem_filter.2 ⟨hm, by rw [hk]; rfl⟩
    rw [Tokenizer.lasting_of_finish hf] at lasts
    exact absurd lasts List.not_mem_nil

end Stencil.Script
