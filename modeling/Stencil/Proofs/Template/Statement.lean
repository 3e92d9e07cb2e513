import Stencil.Proofs.Script.Lookahead
import Stencil.Proofs.Template.Literal
import Stencil.Proofs.Text.Rows

/-!
# The rows of a literal

A literal with line feeds becomes a statement of several rows, all but the last of which end inside
its string. The rows are tokens by themselves, and they are the same five tokens for every literal.

## Main results

* `Literal.runs_statement` — the rows of a literal are a call of `write` with one string.
-/

namespace Stencil

namespace Literal

open Script Script.Terminals

variable {t u v w : Text} {row column : Nat}

theorem closing?_guarded (h : Guarded t) (rest : Text) :
    quote.closing? (t ++ 0x27 :: rest) = some (t.length + 1) := by
  have ended := stringEnd?_guarded (n := 0) h (rest ++ [10])
  have found := closing?_of_stringEnd? (q := quote) (u := t ++ 0x27 :: rest) (k := 0) (.inl rfl)
    (by rw [List.append_assoc, List.cons_append]; exact ended)
  simpa using found

/-- A guarded text before a backslash leaves its string open. -/
theorem closing?_open (h : Guarded t) : quote.closing? (t ++ [0x5C]) = none := by
  induction h with
  | nil => rfl
  | @plain c t hb hq _ _ ih =>
    have apart : quote.marks.isPrefixOf (c :: (t ++ [0x5C])) = false := by
      have hq' : (0x27 : CodePoint) ≠ c := Ne.symm hq
      simp [quote, Quote.marks, List.isPrefixOf, hq']
    rw [List.cons_append, closing?_cons (by simp), if_neg hb, apart, if_neg (by simp), ih]
    rfl
  | escaped _ ih =>
    rw [List.cons_append, closing?_cons (by simp), if_pos rfl, List.cons_append, List.tail_cons, ih]
    rfl

theorem endsInBackslash_open (h : Guarded t) : endsInBackslash (t ++ [0x5C]) = true := by
  induction h with
  | nil => rfl
  | @plain c t hb _ _ _ ih =>
    have hb' : ¬c = ('\\' : CodePoint) := hb
    cases t with
    | nil => rw [List.cons_append, List.nil_append, endsInBackslash, if_neg hb']; exact ih
    | cons d t => rw [List.cons_append, List.cons_append, endsInBackslash, if_neg hb']; exact ih
  | escaped _ ih => rw [List.cons_append, List.cons_append, endsInBackslash, if_pos rfl]; exact ih

/-- A guarded text has one row, or its first row ends in a backslash. -/
theorem Guarded.cut (h : Guarded t) :
    (10 : CodePoint) ∉ t ∨
      ∃ v w, t = v ++ 0x5C :: 10 :: w ∧ Guarded v ∧ (10 : CodePoint) ∉ v ∧ Guarded w := by
  induction h with
  | nil => exact .inl (by simp)
  | @plain c t hb hq hl _ ih =>
    rcases ih with ht | ⟨v, w, rfl, hv, hnot, hw⟩
    · exact .inl (List.not_mem_cons_of_ne_of_not_mem (Ne.symm hl) ht)
    · exact .inr ⟨c :: v, w, rfl, .plain hb hq hl hv,
        List.not_mem_cons_of_ne_of_not_mem (Ne.symm hl) hnot, hw⟩
  | @escaped c t others ih =>
    by_cases hc : c = 10
    · subst hc
      exact .inr ⟨[], t, rfl, .nil, by simp, others⟩
    · rcases ih with ht | ⟨v, w, rfl, hv, hnot, hw⟩
      · exact .inl (by simp [Ne.symm hc, ht])
      · exact .inr ⟨0x5C :: c :: v, w, rfl, .escaped hv, by simp [Ne.symm hc, hnot], hw⟩

/-- A closing parenthesis ends the statement. -/
theorem scanRow_closing (row column : Nat) :
    ∃ a b, scanRow row 0 column 1 [0x29] = ⟨[a, b], 0, .plain⟩ ∧ a.bare = (Kind.op, [0x29]) ∧
      b.bare = (Kind.newline, [10]) :=
  ⟨_, _, rfl, rfl, rfl⟩

/-- The rows from inside the string of a literal on end its statement. -/
theorem runs_rest {s : Tokenizer} {string : OpenString} (h : Guarded t)
    (hw : s.within = some string) (hq : string.quote = quote) (hd : s.depth = 1)
    (hs : s.strict = true) (row : Nat) :
    ∃ ts m, s.Runs row (Text.rows (t ++ [0x27, 0x29])) ts m ∧ m.Idle ∧
      ts.map Token.bare = [(Kind.string, string.text ++ t ++ [0x27]), (Kind.op, [0x29]),
        (Kind.newline, [10])] := by
  induction hl : t.length using Nat.strongRecOn generalizing t s string row with
  | ind l ih =>
    subst hl
    rcases h.cut with hnot | ⟨v, w, rfl, hv, hnot, hguard⟩
    · have last : Text.rows (t ++ [0x27, 0x29]) = [t ++ [0x27, 0x29]] := by
        rw [Text.rows_append hnot]
        rfl
      obtain ⟨a, b, hscan, ha, hb⟩ := scanRow_closing row (0 + min (t.length + 1)
        (t ++ [0x27, 0x29]).length)
      have after : (t ++ [0x27, 0x29]).drop (t.length + 1) = [0x29] := by
        rw [List.drop_length_add_append]
        rfl
      have upto : (t ++ [0x27, 0x29]).take (t.length + 1) = t ++ [0x27] := by
        rw [List.take_length_add_append]
        rfl
      have first : s.row row (t ++ [0x27, 0x29]) =
          .ok (⟨.string, string.text ++ (t ++ [0x27]), string.start, ⟨row, t.length + 1⟩⟩ :: [a, b],
            { s with depth := 0, joined := false, within := none, strict := false }) := by
        unfold Tokenizer.row
        rw [hw]
        simp only [hq, closing?_guarded h, hd]
        rw [scanRow_skip, after, hscan, upto]
        rfl
      rw [last]
      refine ⟨_, _, .cons first .nil, ⟨rfl, rfl, rfl, rfl⟩, ?_⟩
      rw [List.append_nil, List.map_cons, List.map_cons, List.map_cons, ha, hb, List.append_assoc]
      rfl
    · have cut : Text.rows (v ++ 0x5C :: 10 :: w ++ [0x27, 0x29]) =
          (v ++ [0x5C]) :: Text.rows (w ++ [0x27, 0x29]) := by
        have single : (10 : CodePoint) ∉ v ++ [0x5C] := by simp [hnot]
        have whole : v ++ 0x5C :: 10 :: w ++ [0x27, 0x29] =
          (v ++ [0x5C]) ++ 10 :: (w ++ [0x27, 0x29]) := by simp
        rw [whole, Text.rows_append single, Text.rows_lineFeed]
        simp
      have first : s.row row (v ++ [0x5C]) =
          .ok ([], { s with
            within := some { string with text := string.text ++ (v ++ [0x5C]) ++ Text.ofString "\n" } }) := by
        unfold Tokenizer.row
        rw [hw]
        simp only [hq, closing?_open hv]
        exact if_pos (Or.inr (by rw [List.getLast?_append]; rfl))
      have shorter : w.length < (v ++ 0x5C :: 10 :: w).length := by
        rw [List.length_append, List.length_cons, List.length_cons]
        omega
      obtain ⟨ts, m, runs, idle, hts⟩ := ih w.length shorter hguard (s := { s with
          within := some { string with text := string.text ++ (v ++ [0x5C]) ++ Text.ofString "\n" } })
        rfl hq hd hs (row + 1) rfl
      rw [cut]
      refine ⟨_, m, .cons first runs, idle, ?_⟩
      rw [List.nil_append, hts]
      simp only [List.append_assoc, List.cons_append, List.nil_append]
      rfl

theorem lexeme_bracket (rest : Text) : lexeme (0x28 :: rest) = .token .op 1 := by
  have hs : stringStart? (0x28 :: rest) = none := stringStart?_eq_none (by decide) (by decide)
  have only : ∀ o ∈ operators, o.head? = some 0x28 → o.length = 1 := by decide
  have found := @operatorLength_ne_zero 0x28 rest (by decide)
  obtain ⟨o, ho, ⟨tail, hp⟩, hl⟩ := exists_of_operatorLength found
  have length : operatorLength (0x28 :: rest) = 1 := by
    rw [hl]
    refine only o ho ?_
    cases o with
    | nil => exact absurd hl found
    | cons c o => rw [(List.cons.inj hp).1]; rfl
  have number : numberLength (0x28 :: rest) = 0 :=
    numberLength_eq_zero (by decide) (by decide)
  rw [lexeme_of_plain (by decide) (by decide) hs,
    number, if_neg (by decide),
    length, if_pos (by decide)]

/-- What stands before the string of a literal. -/
theorem scanRow_opening (row column : Nat) (rest : Text) :
    ∃ a b column', scanRow row 0 column 0 (Text.ofString "write(" ++ rest) =
        ((scanRow row 0 column' 1 rest).cons b).cons a ∧
      a.bare = (Kind.name, Text.ofString "write") ∧ b.bare = (Kind.op, [0x28]) := by
  have word : lexeme (0x77 :: (Text.ofString "rite(" ++ rest)) = .token .name 5 := by
    have hs : stringStart? (0x77 :: (Text.ofString "rite(" ++ rest)) = none :=
      stringStart?_of_word (w := Text.ofString "write") (by decide) rfl
    exact lexeme_of_letter (by decide) hs
  have first := scanRow_token (by decide) word row column 0
  have second := scanRow_token (by decide) (lexeme_bracket rest) row
    (column + 1 + min 4 (Text.ofString "rite(" ++ rest).length) 0
  rw [scanRow_skip] at first
  refine ⟨_, _, _, first.trans (congrArg (RowScan.cons _) second), rfl, rfl⟩

/-- The quote that opens a literal is not doubled. -/
theorem not_doubled (h : Guarded t) {rest : Text}
    (hr : ([0x27, 0x27] : Text).isPrefixOf rest = false) :
    ([0x27, 0x27] : Text).isPrefixOf (t ++ rest) = false := by
  cases h with
  | nil => exact hr
  | plain _ hq =>
    have hq' : ¬(0x27 : CodePoint) = _ := Ne.symm hq
    simp [List.isPrefixOf, hq']
  | escaped _ => rfl

theorem lexeme_quote {l : Lexeme} (hd : ([0x27, 0x27] : Text).isPrefixOf t = false)
    (hl : stringLexeme (0x27 :: t) 0 quote = some l) : lexeme (0x27 :: t) = l := by
  have start : stringStart? (0x27 :: t) = some (0, quote) :=
    (stringStart?_quote (c := 0x27) (.inl rfl) t).trans (by rw [hd]; rfl)
  have number : numberLength (0x27 :: t) = 0 := numberLength_eq_zero (by decide) (by decide)
  have operator : operatorLength (0x27 :: t) = 0 := operatorLength_eq_zero (by decide)
  rw [lexeme, if_neg fun h => absurd h.1 (by decide), if_neg (by decide)]
  have single : quote.triple = false := rfl
  simp only [start, Option.filter_some, single, Bool.false_eq_true, ↓reduceIte, number, operator,
    ne_eq, not_true_eq_false, Option.bind_some, hl]

/-- The first row of a literal, with what stands after the bracket. -/
theorem row_opening (row : Nat) (rest : Text) :
    ∃ a b column, Tokenizer.initial.row row (Text.ofString "write(" ++ rest) =
        .ok (a :: b :: (scanRow row 0 column 1 rest).tokens,
          Tokenizer.initial.resume (scanRow row 0 column 1 rest)) ∧
      a.bare = (Kind.name, Text.ofString "write") ∧ b.bare = (Kind.op, [0x28]) := by
  obtain ⟨a, b, column, hscan, ha, hb⟩ := scanRow_opening row 0 rest
  refine ⟨a, b, column, ?_, ha, hb⟩
  have begins : Tokenizer.initial.row row (Text.ofString "write(" ++ rest) =
      Tokenizer.initial.statementRow row (Text.ofString "write(" ++ rest) := rfl
  have blanks : (Text.ofString "write(" ++ rest).takeWhile isGap = [] := rfl
  have whole : (Text.ofString "write(" ++ rest).dropWhile isGap = Text.ofString "write(" ++ rest :=
    rfl
  rw [begins, Tokenizer.statementRow_eq (c := 0x77) (by rw [whole]; rfl) (by decide), whole, blanks,
    List.length_nil, hscan]
  rfl

/-- The rows of a literal are a call of `write` with one string. -/
theorem runs_statement (t : Text) (row : Nat) :
    ∃ ts m, Tokenizer.initial.Runs row (Text.rows (statement t)) ts m ∧ m.Idle ∧
      ts.map Token.bare = [(Kind.name, Text.ofString "write"), (Kind.op, [0x28]),
        (Kind.string, token t), (Kind.op, [0x29]), (Kind.newline, [10])] := by
  have whole : statement t = Text.ofString "write(" ++ 0x27 :: (escapeText t ++ [0x27, 0x29]) := by
    rw [statement_eq, token]
    simp only [List.cons_append, List.append_assoc, List.nil_append]
    rfl
  have guarded := guarded_escapeText t
  unfold token
  rw [whole]
  revert guarded
  generalize escapeText t = body
  intro guarded
  have name : (10 : CodePoint) ∉ Text.ofString "write(" ++ [0x27] := by decide
  have quoted (u : Text) : Text.ofString "write(" ++ 0x27 :: u =
      Text.ofString "write(" ++ [0x27] ++ u := by simp
  rcases guarded.cut with hnot | ⟨v, w, rfl, hv, hnot, hw⟩
  · have single : Text.rows (Text.ofString "write(" ++ 0x27 :: (body ++ [0x27, 0x29])) =
        [Text.ofString "write(" ++ 0x27 :: (body ++ [0x27, 0x29])] := by
      rw [quoted, Text.rows_append name, Text.rows_append hnot]
      rfl
    obtain ⟨a, b, column, hrow, ha, hb⟩ := row_opening row (0x27 :: (body ++ [0x27, 0x29]))
    have lex : lexeme (0x27 :: (body ++ [0x27, 0x29])) = .token .string (body.length + 1 + 1) := by
      refine lexeme_quote (not_doubled guarded rfl) ?_
      have closed := closing?_guarded guarded [0x29]
      have opened : (0x27 :: (body ++ [0x27, 0x29])).drop (0 + quote.marks.length) =
        body ++ 0x27 :: [0x29] := rfl
      simp only [stringLexeme, opened, closed]
      have one : 0 + quote.marks.length = 1 := rfl
      rw [one, Nat.add_comm 1]
    have after : (body ++ [0x27, 0x29]).drop (body.length + 1) = [0x29] := by
      rw [List.drop_length_add_append]
      rfl
    have upto : (0x27 :: (body ++ [0x27, 0x29])).take (body.length + 1 + 1) =
        0x27 :: (body ++ [0x27]) := by
      rw [List.take_succ_cons, List.take_length_add_append]
      rfl
    have plain (text : Text) : depthChange .string text = 0 := rfl
    obtain ⟨c, d, hscan, hc, hd⟩ := scanRow_closing row
      (column + 1 + min (body.length + 1) (body ++ [0x27, 0x29]).length)
    rw [scanRow_token (by decide) lex, upto, plain, Int.add_zero, scanRow_skip, after, hscan] at hrow
    rw [single]
    refine ⟨_, _, .cons hrow .nil, ⟨rfl, rfl, rfl, rfl⟩, ?_⟩
    simp only [RowScan.cons, List.append_nil, List.map_cons, List.map_nil, ha, hb, hc, hd]
    rfl
  · have cut : Text.rows (Text.ofString "write(" ++ 0x27 :: (v ++ 0x5C :: 10 :: w ++ [0x27, 0x29])) =
        (Text.ofString "write(" ++ 0x27 :: (v ++ [0x5C])) :: Text.rows (w ++ [0x27, 0x29]) := by
      have split : v ++ 0x5C :: 10 :: w ++ [0x27, 0x29] =
          (v ++ [0x5C]) ++ 10 :: (w ++ [0x27, 0x29]) := by simp
      have first : (10 : CodePoint) ∉ v ++ [0x5C] := by simp [hnot]
      rw [split, quoted (v ++ _ ++ _), quoted (v ++ _), Text.rows_append name,
        Text.rows_append first, Text.rows_lineFeed]
      simp
    obtain ⟨a, b, column, hrow, ha, hb⟩ := row_opening row (0x27 :: (v ++ [0x5C]))
    have lex : lexeme (0x27 :: (v ++ [0x5C])) = .opening quote := by
      refine lexeme_quote (not_doubled hv rfl) ?_
      have opened : (0x27 :: (v ++ [0x5C])).drop (0 + quote.marks.length) = v ++ [0x5C] := rfl
      simp only [stringLexeme, opened, closing?_open hv, endsInBackslash_open hv, or_true, ↓reduceIte]
    have scan : scanRow row 0 column 1 (0x27 :: (v ++ [0x5C])) =
        ⟨[], 1, .within ⟨0x27 :: (v ++ [0x5C]) ++ Text.ofString "\n", ⟨row, column⟩, quote⟩⟩ := by
      rw [scanRow, List.dropWhile_cons_of_neg (by decide), lex]
      exact if_neg (by decide)
    rw [scan] at hrow
    obtain ⟨ts, m, runs, idle, hts⟩ := runs_rest hw (s := Tokenizer.initial.resume
      ⟨[], 1, .within ⟨0x27 :: (v ++ [0x5C]) ++ Text.ofString "\n", ⟨row, column⟩, quote⟩⟩)
      rfl rfl rfl rfl (row + 1)
    rw [cut]
    refine ⟨_, m, .cons hrow runs, idle, ?_⟩
    rw [List.map_append, hts, List.map_cons, List.map_cons, ha, hb]
    simp only [List.append_assoc, List.cons_append, List.nil_append, List.map_nil]
    rfl

end Literal

end Stencil
