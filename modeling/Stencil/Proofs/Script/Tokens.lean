import Stencil.Proofs.Script.Survey

/-!
# The tokens of a row

A row that has a survey is cut into tokens to its end, and its tokens bear the survey out: they
leave as many brackets open, and they end in a colon if the row does.

## Main definitions

* `Token.bare` — what a token is, without its place.
* `RowScan.Bears` — the tokens of a row bear its survey out.

## Main results

* `scanRow_bears` — the tokens of a row with a survey.
-/

namespace Stencil.Script

variable {c : CodePoint} {t rest : Text} {s : Survey} {n : Nat}

/-- What a token is, without its place. -/
def Token.bare (t : Token) : Kind × Text := (t.kind, t.text)

theorem mem_takeWhile {p : CodePoint → Bool} (h : c ∈ t.takeWhile p) : p c = true := by
  have all := List.all_takeWhile (p := p) (l := t)
  exact List.all_eq_true.1 all c h

/-! ## What numbers and operators begin with -/

theorem numberLength_eq_zero (hd : c.isDigit = false) (hp : c ≠ ('.' : CodePoint)) :
    numberLength (c :: rest) = 0 := by
  have hz : c ≠ ('0' : CodePoint) := by
    rintro rfl
    simp [CodePoint.isDigit] at hd
  have run : decimalRun (c :: rest) = 0 := by simp [decimalRun, hd]
  have float : floatLength (c :: rest) = 0 := by
    simp only [floatLength, run, List.drop_zero, if_neg hp, ↓reduceIte]
  have based (lower upper : CodePoint) (p : CodePoint → Bool) :
      basedLength lower upper p (c :: rest) = 0 := by
    cases rest with
    | nil => rfl
    | cons b rest => rw [basedLength, if_neg fun h => hz h.1]
  have integer : integerLength (c :: rest) = 0 := by
    rw [integerLength_eq]
    simp only [based, run, List.headD_cons, if_neg hz, ne_eq, not_true_eq_false, ↓reduceIte]
  simp [numberLength, run, float, integer]

theorem isDigit_of_isAsciiLetter (h : c.isAsciiLetter = true) : c.isDigit = false := by
  simp only [CodePoint.isDigit, Bool.and_eq_false_iff, decide_eq_false_iff_not]
  rcases isAsciiLetter_iff.1 h with h | h
  · exact .inr fun hc => absurd (Nat.le_trans h.1 hc) (by decide)
  · exact .inr fun hc => absurd (Nat.le_trans h.1 hc) (by decide)

/-- The code points that operators begin with. -/
def operatorMarks : List CodePoint := operators.filterMap List.head?

theorem exists_of_operatorLength (h : operatorLength t ≠ 0) :
    ∃ o ∈ operators, o <+: t ∧ operatorLength t = o.length := by
  unfold operatorLength at h ⊢
  split at h
  · rename_i o ho
    have hp : List.isPrefixOf o t = true := List.find?_some (p := fun o => List.isPrefixOf o t) ho
    exact ⟨o, List.mem_of_find?_eq_some ho, List.isPrefixOf_iff_prefix.1 hp, rfl⟩
  · simp at h

theorem operatorLength_eq_zero (h : c ∉ operatorMarks) : operatorLength (c :: rest) = 0 := by
  refine Decidable.byContradiction fun hne => ?_
  obtain ⟨o, ho, hp, hl⟩ := exists_of_operatorLength hne
  cases o with
  | nil => exact hne hl
  | cons d o =>
    obtain rfl := (List.cons_prefix_cons.1 hp).1
    exact h (List.mem_filterMap.2 ⟨d :: o, ho, rfl⟩)

theorem operatorLength_ne_zero (h : [c] ∈ operators) : operatorLength (c :: rest) ≠ 0 := by
  have found : (operators.find? (·.isPrefixOf (c :: rest))).isSome = true :=
    List.find?_isSome.2 ⟨[c], h, by simp [List.isPrefixOf]⟩
  obtain ⟨o, ho⟩ := Option.isSome_iff_exists.1 found
  have pos : ∀ o ∈ operators, o.length ≠ 0 := by decide
  unfold operatorLength
  rw [ho]
  exact pos o (List.mem_of_find?_eq_some ho)

/-- A survey counts the operator that a row begins with. -/
theorem survey_operator {o : Text} (ho : o ∈ operators) (rest : Text) :
    survey 0 (o ++ rest) =
      (survey 0 rest).map (Survey.after (depthChange .op o) o.getLast?) := by
  have kinds : ∀ o ∈ operators, (∀ c ∈ o, c ∉ specials) ∧ depthChange .op o = 0 ∨
      o ∈ [['('], [')'], ['['], [']'], ['\x7b'], ['\x7d']].map (List.map Char.toNat) := by decide
  rcases kinds o ho with ⟨inner, level⟩ | bracket
  · rw [survey_append_of_isInner inner, level]
  · simp only [List.map_cons, List.map_nil, List.mem_cons, List.not_mem_nil, or_false] at bracket
    rcases bracket with rfl | rfl | rfl | rfl | rfl | rfl <;>
      exact survey_flat (by decide) (by decide) (by decide) rest

/-! ## Lexemes -/

/-- A row begins with a token that its survey counts. -/
def BeginsToken (t : Text) (s : Survey) : Prop :=
  ∃ kind n l s', lexeme t = .token kind (n + 1) ∧ (kind = .name ∨ kind = .number ∨
    kind = .string ∨ kind = .op) ∧ survey 0 (t.drop (n + 1)) = some s' ∧
    s = s'.after (depthChange kind (t.take (n + 1))) (some l) ∧
    (kind == .op && t.take (n + 1) == ":") = (l == (':' : CodePoint))

/-- Where a row begins with a string, it begins with neither a number nor an operator. -/
theorem lexeme_of_stringStart? {k : Nat} {q : Quote} {l : Lexeme} (hh : c ≠ ('#' : CodePoint))
    (hj : c ≠ ('\\' : CodePoint)) (hs : stringStart? (c :: rest) = some (k, q))
    (hl : stringLexeme (c :: rest) k q = some l) : lexeme (c :: rest) = l := by
  obtain ⟨hm, hq, body, hd, -⟩ := stringStart?_eq_some hs
  have hfirst : c.isAsciiLetter = true ∨ c = '\'' ∨ c = '"' := by
    cases k with
    | zero =>
      obtain ⟨rfl, -⟩ := List.cons.inj hd
      exact .inr hq
    | succ k =>
      rw [List.take_succ_cons] at hm
      exact .inl (isAsciiLetter_of_stringMarks hm c List.mem_cons_self)
  have hmark : ∀ d ∈ operatorMarks, d.isAsciiLetter = false ∧ d ≠ '\'' ∧ d ≠ '"' := by decide
  have number : numberLength (c :: rest) = 0 := by
    rcases hfirst with hl | rfl | rfl
    · refine numberLength_eq_zero (isDigit_of_isAsciiLetter hl) ?_
      rintro rfl
      exact absurd hl (by decide)
    · exact numberLength_eq_zero rfl (by decide)
    · exact numberLength_eq_zero rfl (by decide)
  have operator : operatorLength (c :: rest) = 0 := by
    refine operatorLength_eq_zero fun hd => ?_
    obtain ⟨hl, hs, hd⟩ := hmark c hd
    rcases hfirst with h | h | h
    · simp [hl] at h
    · exact hs h
    · exact hd h
  unfold lexeme
  simp only [hj, hh, hs, false_and, ↓reduceIte, number, operator, ne_eq, not_true_eq_false]
  cases ht : q.triple <;> simp [Option.filter, ht, hl]

/-- Where a row with a survey begins with a string, the string is a token, or the row ends in it. -/
theorem lexeme_of_string {k : Nat} {q : Quote} (h : survey 0 (c :: rest) = some s)
    (hh : c ≠ ('#' : CodePoint)) (hj : c ≠ ('\\' : CodePoint))
    (hs : stringStart? (c :: rest) = some (k, q)) :
    (∃ n s', lexeme (c :: rest) = .token .string (k + q.marks.length + n) ∧
      survey 0 ((c :: rest).drop (k + q.marks.length + n)) = some s' ∧
      s = s'.after 0 (some q.mark)) ∨
    lexeme (c :: rest) = .opening q ∧ s.depth = 0 ∧ s.ending = .within q := by
  rw [survey_string hs] at h
  cases hn : q.closing? ((c :: rest).drop (k + q.marks.length)) with
  | some n =>
    simp only [hn] at h
    obtain ⟨s', hs', rfl⟩ := Option.map_eq_some_iff.1 h
    exact .inl ⟨n, s', lexeme_of_stringStart? hh hj hs (by simp only [stringLexeme, hn]), hs', rfl⟩
  | none =>
    simp only [hn] at h
    split at h
    · rename_i hopen
      obtain rfl := Option.some.inj h
      refine .inr ⟨lexeme_of_stringStart? hh hj hs ?_, rfl, rfl⟩
      simp only [stringLexeme, hn, if_pos hopen]
    · simp at h

theorem beginsToken_string {k : Nat} {q : Quote} {s' : Survey}
    (hs : stringStart? (c :: rest) = some (k, q))
    (hl : lexeme (c :: rest) = .token .string (k + q.marks.length + n))
    (hs' : survey 0 ((c :: rest).drop (k + q.marks.length + n)) = some s') :
    BeginsToken (c :: rest) (s'.after 0 (some q.mark)) := by
  have hq := (stringStart?_eq_some hs).2.1
  have hpos := Terminals.marks_pos q
  obtain ⟨m, hm⟩ : ∃ m, k + q.marks.length + n = m + 1 := ⟨k + q.marks.length + n - 1, by omega⟩
  rw [hm] at hl hs'
  refine ⟨.string, m, q.mark, s', hl, by simp, hs', rfl, ?_⟩
  rcases hq with hq | hq <;> rw [hq] <;> rfl

theorem beginsToken_inner {kind : Kind} (h : survey 0 (c :: rest) = some s)
    (hl : lexeme (c :: rest) = .token kind (n + 1))
    (hk : kind = .name ∨ kind = .number ∨ kind = .string ∨ kind = .op)
    (hi : ∀ d ∈ (c :: rest).take (n + 1), IsInner d ∧ d ≠ (':' : CodePoint)) :
    BeginsToken (c :: rest) s := by
  rw [survey_inner fun d hd => (hi d hd).1] at h
  obtain ⟨s', hs', rfl⟩ := Option.map_eq_some_iff.1 h
  have taken (o : CodePoint) (ho : ¬IsInner o ∨ o = ':') : (c :: rest).take (n + 1) ≠ [o] := by
    intro he
    have hm := hi o (by rw [he]; exact List.mem_singleton_self o)
    rcases ho with ho | ho
    · exact ho hm.1
    · exact hm.2 ho
  have level : depthChange kind ((c :: rest).take (n + 1)) = 0 := by
    have bracket (o : CodePoint) (ho : o ∈ specials) : (c :: rest).take (n + 1) ≠ [o] :=
      taken o (.inl fun h => h ho)
    unfold depthChange
    split
    · rfl
    · rw [if_neg, if_neg]
      · exact not_or.2 ⟨bracket _ (by decide), not_or.2 ⟨bracket _ (by decide), bracket _ (by decide)⟩⟩
      · exact not_or.2 ⟨bracket _ (by decide), not_or.2 ⟨bracket _ (by decide), bracket _ (by decide)⟩⟩
  have hlast := List.getLast?_eq_some_getLast (l := (c :: rest).take (n + 1)) (by simp)
  refine ⟨kind, n, _, s', hl, hk, hs', by rw [level, hlast], ?_⟩
  have colon : ((c :: rest).take (n + 1) == (":" : Text)) = false :=
    beq_eq_false_iff_ne.2 (taken ':' (.inr rfl))
  rw [colon, Bool.and_false]
  exact (beq_eq_false_iff_ne.2 (hi _ (List.getLast_mem _)).2).symm

theorem beginsToken_operator {o : Text} (h : survey 0 (c :: rest) = some s) (ho : o ∈ operators)
    (hp : o <+: c :: rest) (hl : lexeme (c :: rest) = .token .op o.length) :
    BeginsToken (c :: rest) s := by
  have shape : ∀ o ∈ operators, 0 < o.length ∧
    ∀ l, o.getLast? = some l → (o == (":" : Text)) = (l == (':' : CodePoint)) := by
    have shape' : ∀ o ∈ operators, 0 < o.length ∧
      (o == (":" : Text)) = (o.getLast? == some (':' : CodePoint)) := by decide
    intro o ho
    obtain ⟨h₁, h₂⟩ := shape' o ho
    refine ⟨h₁, fun l hl => ?_⟩
    rw [h₂, hl]
    rfl
  obtain ⟨hpos, hcolon⟩ := shape o ho
  obtain ⟨n, hn⟩ : ∃ n, o.length = n + 1 := ⟨o.length - 1, by omega⟩
  have htake : (c :: rest).take (n + 1) = o := by rw [← hn]; exact (List.prefix_iff_eq_take.1 hp).symm
  rw [← List.take_append_drop (n + 1) (c :: rest), htake, survey_operator ho] at h
  obtain ⟨s', hs', rfl⟩ := Option.map_eq_some_iff.1 h
  have hlast := List.getLast?_eq_some_getLast (l := o) (List.length_pos_iff.1 hpos)
  rw [hn] at hl
  exact ⟨.op, n, _, s', hl, by simp, hs', by rw [htake, hlast], by rw [htake, ← hcolon _ hlast]; rfl⟩

theorem lexeme_of_plain (hh : c ≠ ('#' : CodePoint)) (hj : c ≠ ('\\' : CodePoint))
    (hs : stringStart? (c :: rest) = none) :
    lexeme (c :: rest) =
      if numberLength (c :: rest) ≠ 0 then .token .number (numberLength (c :: rest))
      else if operatorLength (c :: rest) ≠ 0 then .token .op (operatorLength (c :: rest))
      else wordLexeme (c :: rest) := by
  unfold lexeme
  simp only [hj, hh, hs, false_and, ↓reduceIte, Option.filter_none, Option.bind_none]

theorem stringStart?_quote (hq : c = '\'' ∨ c = '"') (t : Text) :
    stringStart? (c :: t) = some (0, ⟨c, [c, c].isPrefixOf t⟩) := by
  have found : Terminals.quoteAt? (c :: t) 0 = some (0, ⟨c, [c, c].isPrefixOf t⟩) := by
    have marked : ((c :: t).take 0).map lowerAscii ∈ stringMarks := by
      rw [List.take_zero, List.map_nil]
      decide
    unfold Terminals.quoteAt?
    rw [if_pos marked]
    exact if_pos hq
  rw [Terminals.stringStart?_eq, found]
  rfl

theorem not_quote_of_stringStart? (hs : stringStart? (c :: rest) = none) :
    ¬(c = '\'' ∨ c = '"') := by
  intro hq
  rw [stringStart?_quote hq] at hs
  simp at hs

/-- A row with a survey begins with a token, or with a code point that begins none, unless it ends
at once, in a string or with a backslash. -/
theorem lexeme_of_survey (h : survey 0 (c :: rest) = some s) (hg : isGap c = false)
    (hh : c ≠ ('#' : CodePoint)) :
    BeginsToken (c :: rest) s ∨
      (lexeme (c :: rest) = .unknown ∧ c ≠ (':' : CodePoint) ∧
        ∃ s', survey 0 rest = some s' ∧ s = s'.after 0 (some c)) ∨
      (c = ('\\' : CodePoint) ∧ rest = [] ∧ s = .only .joined) ∨
      ∃ k q, stringStart? (c :: rest) = some (k, q) ∧ lexeme (c :: rest) = .opening q ∧
        s.depth = 0 ∧ s.ending = .within q := by
  by_cases hj : c = ('\\' : CodePoint)
  · subst hj
    have special : ('\\' : CodePoint) ≠ ('#' : CodePoint) := by decide
    simp only [survey, if_neg special, ↓reduceIte] at h
    split at h
    · rename_i hrest
      subst hrest
      exact .inr (.inr (.inl ⟨rfl, rfl, (Option.some.inj h).symm⟩))
    · simp at h
  cases hs : stringStart? (c :: rest) with
  | some found =>
    obtain ⟨k, q⟩ := found
    rcases lexeme_of_string h hh hj hs with ⟨n, s', hl, hs', rfl⟩ | ⟨hl, hd, he⟩
    · exact .inl (beginsToken_string hs hl hs')
    · exact .inr (.inr (.inr ⟨k, q, rfl, hl, hd, he⟩))
  | none =>
    have hl := lexeme_of_plain hh hj hs
    by_cases hn : numberLength (c :: rest) ≠ 0
    · obtain ⟨n, he⟩ := Nat.exists_eq_succ_of_ne_zero hn
      rw [if_pos hn, he] at hl
      have numeric := numberLength_reaches (c :: rest)
      rw [he] at numeric
      refine .inl (beginsToken_inner h hl (by simp) fun d hd => ?_)
      refine ⟨isInner_of_isNumeric (numeric d hd), ?_⟩
      rintro rfl
      exact absurd (numeric _ hd) (by decide)
    rw [if_neg hn] at hl
    by_cases ho : operatorLength (c :: rest) ≠ 0
    · obtain ⟨o, hm, hp, he⟩ := exists_of_operatorLength ho
      rw [if_pos ho, he] at hl
      exact .inl (beginsToken_operator h hm hp hl)
    rw [if_neg ho] at hl
    unfold wordLexeme at hl
    by_cases hw : c.isWord = true
    · simp only [hw, ↓reduceIte, Nat.add_comm 1] at hl
      refine .inl (beginsToken_inner h hl (by split <;> simp) fun d hd => ?_)
      have word : d.isWord = true := by
        rw [List.take_succ_cons, ← List.prefix_iff_eq_take.1 (List.takeWhile_prefix _)] at hd
        rcases List.mem_cons.1 hd with rfl | hd
        · exact hw
        · exact mem_takeWhile hd
      refine ⟨isInner_of_isWord word, ?_⟩
      rintro rfl
      exact absurd word (by decide)
    · simp only [hw, Bool.false_eq_true, ↓reduceIte] at hl
      have hop : [c] ∉ operators := fun hm => ho (operatorLength_ne_zero hm)
      have hc : c ≠ ':' ∧ IsInner c := by
        refine ⟨?_, fun hm => ?_⟩
        · rintro rfl
          exact hop (by decide)
        · have kinds : ∀ c ∈ specials, isGap c = true ∨ c = ('#' : CodePoint) ∨
            c = ('\\' : CodePoint) ∨ (c = '\'' ∨ c = '"') ∨ [c] ∈ operators := by decide
          rcases kinds c hm with h | h | h | h | h
          · simp [hg] at h
          · exact hh h
          · exact hj h
          · exact not_quote_of_stringStart? hs h
          · exact hop h
      have step := survey_append_of_isInner (a := [c]) (by simpa using hc.2) rest
      rw [List.singleton_append, h] at step
      obtain ⟨s', hs', he⟩ := Option.map_eq_some_iff.1 step.symm
      exact .inr (.inl ⟨hl, hc.1, s', hs', he.symm⟩)

/-! ## Rows -/

/-- A row ends in the way that its survey says. -/
inductive Survey.Ending.Bears : Survey.Ending → RowEnding → Prop where
  | plain : Bears .plain .plain
  | joined : Bears .joined .joined
  | within (string : OpenString) : Bears (.within string.quote) (.within string)

/-- The tokens that stand for the end of a row, after which so many brackets are open. -/
def Survey.Ending.Closes (depth : Int) (ts : List Token) : Survey.Ending → Prop
  | .plain => ∃ t, ts = [t] ∧ t.kind = if depth > 0 then .rowEnd else .newline
  | .joined | .within _ => ts = []

/-- The tokens of a row that began with so many brackets open bear its survey out. -/
structure RowScan.Bears (scan : RowScan) (depth : Int) (s : Survey) : Prop where
  ending : s.ending.Bears scan.ending
  depth : scan.depth = depth + s.depth
  last : (∀ q, s.ending ≠ .within q) →
    (scan.tokens.filter Token.significant).getLast?.map (·.isOp ":") =
      s.last.map (· == (':' : CodePoint))
  /-- They are one line. -/
  line : ∃ ts es, scan.tokens = ts ++ es ∧ (∀ t ∈ ts, t.kind ≠ .newline) ∧
    s.ending.Closes scan.depth es

namespace RowScan.Bears

variable {scan : RowScan} {depth level : Int} {token : Token} {l : CodePoint}

theorem line_cons (h : scan.Bears depth s) (ht : token.kind ≠ .newline) :
    ∃ ts es, (scan.cons token).tokens = ts ++ es ∧ (∀ t ∈ ts, t.kind ≠ .newline) ∧
      s.ending.Closes scan.depth es := by
  obtain ⟨ts, es, he, hts, hes⟩ := h.line
  exact ⟨token :: ts, es, congrArg (token :: ·) he, List.forall_mem_cons.2 ⟨ht, hts⟩, hes⟩

theorem cons (h : scan.Bears (depth + level) s) (ht : token.significant = true)
    (hl : token.isOp ":" = (l == (':' : CodePoint))) :
    (scan.cons token).Bears depth (s.after level (some l)) := by
  refine ⟨h.ending, ?_, fun hs => ?_, h.line_cons ?_⟩
  · exact h.depth.trans (Int.add_assoc _ _ _)
  · have last := h.last hs
    simp only [RowScan.cons, Survey.after, List.filter_cons, ht, ↓reduceIte, List.getLast?_cons]
    cases hs : s.last with
    | none =>
      rw [hs, Option.map_none, Option.map_eq_none_iff] at last
      simp [last, hl]
    | some d =>
      rw [hs] at last
      cases hts : (scan.tokens.filter Token.significant).getLast? with
      | none => simp [hts] at last
      | some u => simpa [hts] using last
  · intro hk
    simp [Token.significant, hk] at ht

theorem ending_plain (h : scan.Bears depth s) (hs : s.ending = .plain) : scan.ending = .plain := by
  have ending := h.ending
  rw [hs] at ending
  generalize scan.ending = e at ending
  cases ending
  rfl

/-- The end of a row that ends as a row is no sign. -/
theorem quiet_line (h : scan.Bears depth s) (hs : s.ending = .plain) :
    ∃ ts e, scan.tokens = ts ++ [e] ∧ (∀ t ∈ ts, t.kind ≠ .newline) ∧ e.significant = false := by
  obtain ⟨ts, es, tokens, hts, hes⟩ := h.line
  rw [hs] at hes
  obtain ⟨e, rfl, he⟩ := hes
  refine ⟨ts, e, tokens, hts, ?_⟩
  by_cases hd : scan.depth > 0 <;> simp [hd] at he <;> simp [Token.significant, he]

end RowScan.Bears

theorem scanRow_skip (row n column : Nat) (depth : Int) (t : Text) :
    scanRow row n column depth t = scanRow row 0 (column + min n t.length) depth (t.drop n) := by
  induction t generalizing n column with
  | nil => cases n <;> rfl
  | cons c t ih =>
    cases n with
    | zero => simp
    | succ n =>
      have step : scanRow row (n + 1) column depth (c :: t) = scanRow row n (column + 1) depth t :=
        rfl
      rw [step, ih, List.length_cons, Nat.succ_min_succ, List.drop_succ_cons]
      congr 1
      omega

theorem scanRow_unknown (hl : lexeme ((c :: rest).dropWhile isGap) = .unknown) (row column : Nat)
    (depth : Int) :
    scanRow row 0 column depth (c :: rest) =
      (scanRow row 0 (column + 1) depth rest).cons
        ⟨.unknown, [c], ⟨row, column⟩, ⟨row, column + 1⟩⟩ := by
  rw [scanRow, hl]

theorem scanRow_gap (hc : isGap c = true) (hl : lexeme ((c :: rest).dropWhile isGap) ≠ .unknown)
    (row column : Nat) (depth : Int) :
    scanRow row 0 column depth (c :: rest) = scanRow row 0 (column + 1) depth rest := by
  rw [scanRow]
  cases he : lexeme ((c :: rest).dropWhile isGap) with
  | unknown => exact absurd he hl
  | token kind n => exact if_pos hc
  | opening q => exact if_pos hc
  | joiner => exact if_pos hc
  | rowEnd => exact if_pos hc

theorem scanRow_token {kind : Kind} (hc : isGap c = false)
    (hl : lexeme (c :: rest) = .token kind (n + 1)) (row column : Nat) (depth : Int) :
    scanRow row 0 column depth (c :: rest) =
      (scanRow row n (column + 1) (depth + depthChange kind ((c :: rest).take (n + 1))) rest).cons
        ⟨kind, (c :: rest).take (n + 1), ⟨row, column⟩, ⟨row, column + (n + 1)⟩⟩ := by
  rw [scanRow, List.dropWhile_cons_of_neg (by simp [hc]), hl]
  simp [hc]

theorem scanRow_nil (row column : Nat) (depth : Int) :
    (scanRow row 0 column depth []).Bears depth (.only .plain) := by
  have quiet : (⟨if depth > 0 then .rowEnd else .newline, "\n", ⟨row, column⟩,
      ⟨row, column + 1⟩⟩ : Token).significant = false := by
    by_cases hd : depth > 0 <;> simp [hd, Token.significant]
  refine ⟨.plain, (Int.add_zero depth).symm, fun _ => ?_, [], _, rfl, by simp, _, rfl, rfl⟩
  rw [scanRow, List.filter_cons_of_neg (by simp [quiet])]
  rfl

theorem scanRow_joiner (row column : Nat) (depth : Int) :
    (scanRow row 0 column depth ['\\']).Bears depth (.only .joined) :=
  ⟨.joined, (Int.add_zero depth).symm, fun _ => rfl, [], [], rfl, by simp, rfl⟩

theorem scanRow_opening {q : Quote} (hc : isGap c = false) (hl : lexeme (c :: rest) = .opening q)
    (row column : Nat) (depth : Int) :
    scanRow row 0 column depth (c :: rest) =
      ⟨[], depth, .within ⟨c :: rest ++ "\n", ⟨row, column⟩, q⟩⟩ := by
  rw [scanRow, List.dropWhile_cons_of_neg (by simp [hc]), hl]
  simp [hc]

theorem lexeme_comment (rest : Text) :
    lexeme (('#' : CodePoint) :: rest) = .token .comment (rest.length + 1) := by
  have hj : ¬(('#' : CodePoint) = '\\' ∧ rest = []) := fun h => absurd h.1 (by decide)
  rw [lexeme, if_neg hj, if_pos rfl]
  rfl

theorem scanRow_comment (row column : Nat) (depth : Int) :
    (scanRow row 0 column depth (('#' : CodePoint) :: rest)).Bears depth (.only .plain) := by
  rw [scanRow_token (by decide) (lexeme_comment rest), scanRow_skip, List.drop_length]
  have level : depth + depthChange .comment ((('#' : CodePoint) :: rest).take (rest.length + 1)) =
      depth := by simp [depthChange]
  rw [level]
  have ended := scanRow_nil row (column + 1 + min rest.length rest.length) depth
  refine ⟨ended.ending, ended.depth, fun hs => ?_, ended.line_cons (by simp)⟩
  rw [RowScan.cons, List.filter_cons_of_neg (by simp [Token.significant])]
  exact ended.last hs

theorem survey_last_of_unknown (h : survey 0 t = some s)
    (hl : lexeme (t.dropWhile isGap) = .unknown) : s.last.isSome = true := by
  rw [survey_dropWhile] at h
  cases hd : t.dropWhile isGap with
  | nil =>
    rw [hd] at hl
    simp [lexeme] at hl
  | cons d rest =>
    rw [hd] at h hl
    have hgap : isGap d = false := by
      have head := List.head_dropWhile_not isGap (l := t) (by simp [hd])
      simpa [hd] using head
    have hh : d ≠ ('#' : CodePoint) := by
      rintro rfl
      rw [lexeme_comment] at hl
      simp at hl
    rcases lexeme_of_survey h hgap hh with
      ⟨_, _, _, _, he, -⟩ | ⟨-, -, s', -, rfl⟩ | ⟨rfl, rfl, -⟩ | ⟨_, _, -, he, -⟩
    · exact absurd (hl.symm.trans he) (by simp)
    · cases hs : s'.last <;> simp [Survey.after, hs]
    · exact absurd hl (by decide)
    · exact absurd (hl.symm.trans he) (by simp)

/-- The tokens of a row with a survey. -/
theorem scanRow_bears (h : survey 0 t = some s) (row column : Nat) (depth : Int) :
    (scanRow row 0 column depth t).Bears depth s := by
  induction hn : t.length using Nat.strongRecOn generalizing t s column depth with
  | ind k ih =>
    subst hn
    cases t with
    | nil =>
      obtain rfl := Option.some.inj h
      exact scanRow_nil row column depth
    | cons c rest =>
      by_cases hc : isGap c = true
      · -- a blank is a token of unknown kind if such a one comes after it
        rw [survey_gap hc] at h
        have bears := ih rest.length (by simp) h (column + 1) depth rfl
        by_cases hl : lexeme ((c :: rest).dropWhile isGap) = .unknown
        · rw [scanRow_unknown hl]
          obtain ⟨d, hd⟩ := Option.isSome_iff_exists.1 (survey_last_of_unknown h
            (List.dropWhile_cons_of_pos hc ▸ hl))
          refine ⟨bears.ending, bears.depth, fun hs => ?_, bears.line_cons (by simp)⟩
          have last := bears.last hs
          rw [hd] at last ⊢
          rw [RowScan.cons, List.filter_cons_of_pos (by rfl), List.getLast?_cons]
          cases hts : ((scanRow row 0 (column + 1) depth rest).tokens.filter
              Token.significant).getLast? with
          | none => simp [hts] at last
          | some u => simpa [hts] using last
        · rw [scanRow_gap hc hl]
          exact bears
      simp only [Bool.not_eq_true] at hc
      by_cases hh : c = ('#' : CodePoint)
      · subst hh
        obtain rfl : Survey.only .plain = s := by simpa [survey] using h
        exact scanRow_comment row column depth
      rcases lexeme_of_survey h hc hh with ⟨kind, n, l, s', hl, hk, hs', rfl, hcolon⟩ |
        ⟨hl, hne, s', hs', rfl⟩ | ⟨rfl, rfl, rfl⟩ | ⟨k, q, -, hl, hd, he⟩
      · rw [scanRow_token hc hl, scanRow_skip]
        have shorter : (rest.drop n).length < (c :: rest).length := by
          rw [List.length_drop, List.length_cons]
          omega
        have bears := ih (rest.drop n).length shorter hs'
          (column + 1 + min n rest.length)
          (depth + depthChange kind ((c :: rest).take (n + 1))) rfl
        refine bears.cons ?_ hcolon
        rcases hk with rfl | rfl | rfl | rfl <;> rfl
      · rw [scanRow_unknown (by rwa [List.dropWhile_cons_of_neg (by simp [hc])])]
        have bears := ih rest.length (by simp) hs' (column + 1) depth rfl
        have same : (scanRow row 0 (column + 1) depth rest).Bears (depth + 0) s' := by
          rwa [Int.add_zero]
        exact same.cons rfl (beq_eq_false_iff_ne.2 hne).symm
      · exact scanRow_joiner row column depth
      · rw [scanRow_opening hc hl]
        refine ⟨?_, by rw [hd, Int.add_zero], fun hs => absurd he (hs q), [], [], rfl, by simp, ?_⟩
        · rw [he]
          exact .within ⟨_, _, _⟩
        · rw [he]
          rfl

/-! ## The first token -/

/-- A word of ASCII letters that are no mark of a string. -/
structure IsPlainWord (w : Text) : Prop where
  ne_nil : w ≠ []
  letters : ∀ c ∈ w, c.isAsciiLetter = true
  unmarked : w.map lowerAscii ∉ stringMarks

instance (w : Text) : Decidable (IsPlainWord w) :=
  decidable_of_iff (w ≠ [] ∧ (∀ c ∈ w, c.isAsciiLetter = true) ∧ w.map lowerAscii ∉ stringMarks)
    ⟨fun h => ⟨h.1, h.2.1, h.2.2⟩, fun h => ⟨h.1, h.2, h.3⟩⟩

theorem isWord_of_isAsciiLetter (h : c.isAsciiLetter = true) : c.isWord = true := by
  have small : c < 0x80 := by
    rcases isAsciiLetter_iff.1 h with h | h
    · exact Nat.lt_of_le_of_lt h.2 (by decide)
    · exact Nat.lt_of_le_of_lt h.2 (by decide)
  simp [CodePoint.isWord, small, h]

theorem isIdentifierStart_of_isAsciiLetter (h : c.isAsciiLetter = true) :
    c.isIdentifierStart = true := by
  have small : c < 0x80 := by
    rcases isAsciiLetter_iff.1 h with h | h
    · exact Nat.lt_of_le_of_lt h.2 (by decide)
    · exact Nat.lt_of_le_of_lt h.2 (by decide)
  simp [CodePoint.isIdentifierStart, small, h]

/-- Letters that begin no string begin a word. -/
theorem lexeme_of_letter (hl : c.isAsciiLetter = true) (hs : stringStart? (c :: rest) = none) :
    lexeme (c :: rest) = .token .name (((c :: rest).takeWhile CodePoint.isWord).length) := by
  have special : c ≠ ('#' : CodePoint) ∧ c ≠ ('\\' : CodePoint) ∧ c ≠ ('.' : CodePoint) := by
    refine ⟨?_, ?_, ?_⟩ <;> rintro rfl <;> exact absurd hl (by decide)
  have marks : ∀ d ∈ operatorMarks, d.isAsciiLetter = false := by decide
  have number : numberLength (c :: rest) = 0 :=
    numberLength_eq_zero (isDigit_of_isAsciiLetter hl) special.2.2
  have operator := @operatorLength_eq_zero c rest fun hm => by simp [marks c hm] at hl
  rw [lexeme_of_plain special.1 special.2.1 hs, if_neg (by simp [number]), if_neg (by simp [operator]),
    wordLexeme]
  simp only [isWord_of_isAsciiLetter hl, isIdentifierStart_of_isAsciiLetter hl, ↓reduceIte,
    List.takeWhile_cons_of_pos, List.length_cons, Nat.add_comm]

/-- The word at the beginning of a string is its marks. -/
theorem takeWhile_of_stringStart? {k : Nat} {q : Quote} (hs : stringStart? t = some (k, q)) :
    t.takeWhile CodePoint.isWord = t.take k := by
  obtain ⟨hm, hq, body, hd, -⟩ := stringStart?_eq_some hs
  have letters := isAsciiLetter_of_stringMarks hm
  have mark : q.mark.isWord = false := by rcases hq with hq | hq <;> rw [hq] <;> rfl
  have cut : t = t.take k ++ q.mark :: body := by rw [← hd, List.take_append_drop]
  have word : (t.take k ++ q.mark :: body).takeWhile CodePoint.isWord =
      t.take k ++ (q.mark :: body).takeWhile CodePoint.isWord :=
    List.takeWhile_append_of_pos fun c hc => isWord_of_isAsciiLetter (letters c hc)
  rw [← cut, List.takeWhile_cons_of_neg (by simp [mark]), List.append_nil] at word
  exact word

theorem stringStart?_of_word {w : Text} (hw : IsPlainWord w)
    (h : t.takeWhile CodePoint.isWord = w) : stringStart? t = none := by
  cases hs : stringStart? t with
  | none => rfl
  | some found =>
    have hm := (stringStart?_eq_some hs).1
    rw [← takeWhile_of_stringStart? hs, h] at hm
    exact absurd hm hw.unmarked

/-- A row with a survey that begins with letters begins with a token: a string, or the word. -/
theorem lexeme_of_letter_cases (h : survey 0 (c :: rest) = some s) (hl : c.isAsciiLetter = true) :
    (∃ k q, stringStart? (c :: rest) = some (k, q) ∧
      ((∃ n, lexeme (c :: rest) = .token .string (k + 1 + n)) ∨ lexeme (c :: rest) = .opening q)) ∨
    stringStart? (c :: rest) = none ∧
      lexeme (c :: rest) = .token .name (((c :: rest).takeWhile CodePoint.isWord).length) := by
  have special : c ≠ ('#' : CodePoint) ∧ c ≠ ('\\' : CodePoint) := by
    refine ⟨?_, ?_⟩ <;> rintro rfl <;> exact absurd hl (by decide)
  cases hs : stringStart? (c :: rest) with
  | none => exact .inr ⟨rfl, lexeme_of_letter hl hs⟩
  | some found =>
    obtain ⟨k, q⟩ := found
    rcases lexeme_of_string h special.1 special.2 hs with ⟨n, s', hlex, -⟩ | ⟨hlex, -⟩
    · have hpos := Terminals.marks_pos q
      refine .inl ⟨k, q, rfl, .inl ⟨q.marks.length - 1 + n, ?_⟩⟩
      rw [hlex]
      congr 1
      omega
    · exact .inl ⟨k, q, rfl, .inr hlex⟩

theorem isAsciiLetter_of_word {w : Text} (hw : IsPlainWord w)
    (h : (c :: rest).takeWhile CodePoint.isWord = w) : c.isAsciiLetter = true := by
  subst h
  refine hw.letters c ?_
  have hne := hw.ne_nil
  rw [List.takeWhile_cons] at hne ⊢
  split at hne
  · rename_i hc
    rw [if_pos hc]
    exact List.mem_cons_self
  · exact absurd rfl hne

/-- A token at the beginning of a row is a plain word where the row begins with this word. -/
theorem take_eq_iff {kind : Kind} {w : Text} (h : survey 0 (c :: rest) = some s)
    (hl : lexeme (c :: rest) = .token kind (n + 1)) (hw : IsPlainWord w) :
    ((c :: rest).take (n + 1) = w ↔ (c :: rest).takeWhile CodePoint.isWord = w) ∧
      ((c :: rest).take (n + 1) = w → kind = .name) := by
  have taken (he : (c :: rest).take (n + 1) = w) :
      (c :: rest).takeWhile CodePoint.isWord = w ∧ kind = .name := by
    have hc : c.isAsciiLetter = true := hw.letters c (by simp [← he])
    rcases lexeme_of_letter_cases h hc with ⟨k, q, hs, ⟨m, hlex⟩ | hlex⟩ | ⟨-, hlex⟩
    · obtain ⟨-, hq, body, hd, -⟩ := stringStart?_eq_some hs
      obtain ⟨-, hn⟩ := Lexeme.token.inj (hl.symm.trans hlex)
      have mark : q.mark ∈ w := by
        rw [← he, hn, Nat.add_assoc, List.take_add, hd, Nat.add_comm 1, List.take_succ_cons]
        simp
      have letter := hw.letters _ mark
      rcases hq with hq | hq <;> rw [hq] at letter <;> exact absurd letter (by decide)
    · exact absurd (hl.symm.trans hlex) (by simp)
    · obtain ⟨rfl, hn⟩ := Lexeme.token.inj (hl.symm.trans hlex)
      rw [hn, ← List.prefix_iff_eq_take.1 (List.takeWhile_prefix _)] at he
      exact ⟨he, rfl⟩
  refine ⟨⟨fun he => (taken he).1, fun he => ?_⟩, fun he => (taken he).2⟩
  have hlex := lexeme_of_letter (isAsciiLetter_of_word hw he) (stringStart?_of_word hw he)
  obtain ⟨-, hn⟩ := Lexeme.token.inj (hl.symm.trans hlex)
  rw [hn, ← List.prefix_iff_eq_take.1 (List.takeWhile_prefix _), he]

/-- The first token of a row with a survey is a plain word where the row begins with this word. -/
theorem scanRow_first (h : survey 0 (c :: rest) = some s) (hg : isGap c = false)
    (hh : c ≠ ('#' : CodePoint)) (hj : c ≠ ('\\' : CodePoint)) (row column : Nat) (depth : Int) :
    (∃ (token : Token) (scan : RowScan) (s' : Survey) (depth' : Int),
      scanRow row 0 column depth (c :: rest) = scan.cons token ∧
      token.significant = true ∧ token.start = ⟨row, column⟩ ∧
      survey 0 ((c :: rest).drop token.text.length) = some s' ∧ scan.Bears depth' s' ∧
      s'.ending = s.ending ∧
      ∀ w, IsPlainWord w → (token.text = w ↔ (c :: rest).takeWhile CodePoint.isWord = w) ∧
        (token.text = w → token.kind = .name)) ∨
    ∃ k q, stringStart? (c :: rest) = some (k, q) ∧ s.ending = .within q ∧
      scanRow row 0 column depth (c :: rest) =
        ⟨[], depth, .within ⟨c :: rest ++ "\n", ⟨row, column⟩, q⟩⟩ := by
  rcases lexeme_of_survey h hg hh with ⟨kind, n, l, s', hl, hk, hs', rfl, -⟩ |
    ⟨hl, -, s', hs', rfl⟩ | ⟨hc, -, -⟩ | ⟨k, q, hs, hl, -, he⟩
  · have length : ((c :: rest).drop ((c :: rest).take (n + 1)).length) = rest.drop n := by
      rw [List.length_take]
      by_cases hn : n + 1 ≤ (c :: rest).length
      · rw [Nat.min_eq_left hn, List.drop_succ_cons]
      · rw [Nat.min_eq_right (by omega), List.drop_length, List.drop_eq_nil_of_le]
        simp at hn
        omega
    refine .inl ⟨_, _, s', depth + depthChange kind ((c :: rest).take (n + 1)),
      scanRow_token hg hl row column depth, ?_, rfl, ?_, ?_, rfl, fun w hw => take_eq_iff h hl hw⟩
    · rcases hk with rfl | rfl | rfl | rfl <;> rfl
    · rw [length]
      exact hs'
    · rw [scanRow_skip]
      exact scanRow_bears hs' _ _ _
  · refine .inl ⟨_, _, s', depth, scanRow_unknown ?_ row column depth, rfl, rfl, hs',
      scanRow_bears hs' _ _ _, rfl, fun w hw => ?_⟩
    · rwa [List.dropWhile_cons_of_neg (by simp [hg])]
    have letter : c.isAsciiLetter = false := by
      rw [Bool.eq_false_iff]
      intro hc
      rcases lexeme_of_letter_cases h hc with ⟨k, q, -, ⟨m, hlex⟩ | hlex⟩ | ⟨-, hlex⟩ <;>
        exact absurd (hl.symm.trans hlex) (by simp)
    have neither : [c] ≠ w ∧ (c :: rest).takeWhile CodePoint.isWord ≠ w := by
      refine ⟨?_, fun he => by simp [isAsciiLetter_of_word hw he] at letter⟩
      rintro rfl
      simp [hw.letters c (List.mem_singleton_self c)] at letter
    exact ⟨⟨fun he => absurd he neither.1, fun he => absurd he neither.2⟩,
      fun he => absurd he neither.1⟩
  · exact absurd hc hj
  · exact .inr ⟨k, q, hs, he, scanRow_opening hg hl row column depth⟩

end Stencil.Script
