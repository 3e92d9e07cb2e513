import Stencil.Proofs.Script.Rows

/-!
# The tokenizer and the scan abreast

The tokenizer and the scan of terminals pass the rows of a complete script together: between rows
they stand inside the same brackets and the same string, and behind the same backslash. Where rows
are indented by spaces and no statement begins with a lone backslash, they have seen statements
begin at the same columns as well.

## Main definitions

* `Tokenizer.Agrees` — the tokenizer stands where the scan stands.
* `Abreast` — they have also seen the same of the rows before.

## Main results

* `Tokenizer.Agrees.step` — a row takes them from one such place to another.
* `Abreast.rows` — so do rows, which are tokens.
-/

namespace Stencil.Script

variable {c : CodePoint} {t u v blanks : Text} {row column x : Nat} {depth : Int}
  {ts us : List Token} {sv : Survey} {scan : RowScan} {o : Outlook}

/-! ## What tokens show -/

namespace Outlook

/-- A token comes. -/
def token (o : Outlook) (t : Token) : Outlook :=
  if t.kind = .newline then { o with fresh := true }
  else if t.significant then o.sign t.start.column (t.isOp ":")
  else o

theorem foldl_token (h : ∀ t ∈ ts, t.kind ≠ .newline) (o : Outlook) :
    ts.foldl token o =
      match (ts.filter Token.significant).head?, (ts.filter Token.significant).getLast? with
      | some first, some last => o.sign first.start.column (last.isOp ":")
      | _, _ => o := by
  induction ts generalizing o with
  | nil => rfl
  | cons t ts ih =>
    obtain ⟨ht, h⟩ := List.forall_mem_cons.1 h
    rw [List.foldl_cons, ih h, token, if_neg ht]
    by_cases hs : t.significant = true
    · rw [if_pos hs, List.filter_cons_of_pos hs]
      cases hf : ts.filter Token.significant with
      | nil => rfl
      | cons u us =>
        have last : (u :: us).getLast? = some ((u :: us).getLast (by simp)) :=
          List.getLast?_eq_some_getLast _
        simp only [List.head?_cons, List.getLast?_cons_cons, last, sign_sign]
    · rw [if_neg hs, List.filter_cons_of_neg hs]

theorem foldl_token_quiet (h : ∀ t ∈ ts, t.kind ≠ .newline ∧ t.significant = false) (o : Outlook) :
    ts.foldl token o = o := by
  have none_ : ts.filter Token.significant = [] :=
    List.filter_eq_nil_iff.2 fun t ht => by simp [(h t ht).2]
  rw [foldl_token fun t ht => (h t ht).1, none_]
  rfl

end Outlook

/-- The outlook behind the string that a row ends in. -/
def RowEnding.ahead (o : Outlook) : RowEnding → Outlook
  | .within string => o.sign string.start.column false
  | .plain | .joined => o

/-- What a row begins with stands at a column. -/
structure RowScan.At (scan : RowScan) (x : Nat) : Prop where
  token : ∀ t ∈ (scan.tokens.filter Token.significant).head?, t.start.column = x
  string : scan.tokens.filter Token.significant = [] →
    ∀ string, scan.ending = .within string → string.start.column = x

/-- The outlook after the tokens of a row. -/
theorem RowScan.Bears.looks (h : scan.Bears depth sv) (hx : o.fresh = true → scan.At x) :
    scan.ending.ahead (scan.tokens.foldl Outlook.token o) =
      (o.row x sv).ended (sv.ending = .plain ∧ scan.depth ≤ 0) := by
  obtain ⟨ts, es, tokens, hts, hes⟩ := h.line
  have ending := h.ending
  have last := h.last
  have column {first : Token} (hf : (scan.tokens.filter Token.significant).head? = some first)
      (ho : o.fresh = true) : first.start.column = x := (hx ho).token first hf
  have opening {string : OpenString} (hn : scan.tokens.filter Token.significant = [])
      (he : scan.ending = .within string) (ho : o.fresh = true) : string.start.column = x :=
    (hx ho).string hn string he
  cases he : sv.ending with
  | within q =>
    rw [he] at ending hes
    obtain rfl : es = [] := hes
    rw [List.append_nil] at tokens
    generalize hr : scan.ending = e at ending opening
    cases ending with
    | within string =>
      simp only [RowEnding.ahead, Outlook.row, he, Outlook.ended, reduceCtorEq, false_and, ↓reduceIte]
      rw [tokens, Outlook.foldl_token hts, ← tokens]
      cases hf : scan.tokens.filter Token.significant with
      | nil => exact Outlook.sign_congr (opening hf rfl) false
      | cons first others =>
        simp only [List.head?_cons, List.getLast?_eq_some_getLast (List.cons_ne_nil first others),
          Outlook.sign_sign]
        exact Outlook.sign_congr (column (by rw [hf]; rfl)) false
  | joined =>
    rw [he] at ending hes last
    obtain rfl : es = [] := hes
    rw [List.append_nil] at tokens
    have last := last (by simp)
    generalize scan.ending = e at ending
    cases ending
    simp only [RowEnding.ahead, Outlook.row, he, Outlook.ended, reduceCtorEq, false_and, ↓reduceIte]
    rw [tokens, Outlook.foldl_token hts, ← tokens]
    cases hf : scan.tokens.filter Token.significant with
    | nil =>
      rw [hf] at last
      have none_ : sv.last = none := by simpa using last.symm
      simp [none_]
    | cons first others =>
      have final := List.getLast?_eq_some_getLast (List.cons_ne_nil first others)
      rw [hf, final, Option.map_some] at last
      obtain ⟨d, hd, hcolon⟩ := Option.map_eq_some_iff.1 last.symm
      simp only [List.head?_cons, final, hd, hcolon]
      exact Outlook.sign_congr (column (by rw [hf]; rfl)) _
  | plain =>
    rw [he] at ending hes last
    obtain ⟨e, rfl, hk⟩ := hes
    have last := last (by simp)
    generalize scan.ending = r at ending
    cases ending
    have silent : e.significant = false := by
      by_cases hd : scan.depth > 0 <;> simp [hd] at hk <;> simp [Token.significant, hk]
    have same : scan.tokens.filter Token.significant = ts.filter Token.significant := by
      rw [tokens, List.filter_append, List.filter_cons_of_neg (by simp [silent]), List.filter_nil,
        List.append_nil]
    have line : ts.foldl Outlook.token o = o.row x sv := by
      rw [Outlook.foldl_token hts, ← same]
      cases hf : scan.tokens.filter Token.significant with
      | nil =>
        rw [hf] at last
        have none_ : sv.last = none := by simpa using last.symm
        simp [Outlook.row, he, none_]
      | cons first others =>
        have final := List.getLast?_eq_some_getLast (List.cons_ne_nil first others)
        rw [hf, final, Option.map_some] at last
        obtain ⟨d, hd, hcolon⟩ := Option.map_eq_some_iff.1 last.symm
        simp only [List.head?_cons, final, Outlook.row, he, hd, hcolon]
        exact Outlook.sign_congr (column (by rw [hf]; rfl)) _
    simp only [RowEnding.ahead]
    rw [tokens, List.foldl_append, line, List.foldl_cons, List.foldl_nil, Outlook.token]
    by_cases hd : scan.depth > 0
    · have hn : e.kind ≠ .newline := by simp [hk, hd]
      simp [hn, silent, Outlook.ended, Int.not_le.2 hd]
    · have hn : e.kind = .newline := by simp [hk, hd]
      simp [hn, Outlook.ended, Int.not_lt.1 hd]

/-- What a row begins with stands behind the blanks of the row. -/
theorem scanRow_at (h : survey 0 (c :: u) = some sv) (hg : isGap c = false)
    (hh : c ≠ ('#' : CodePoint)) : (scanRow row 0 column depth (c :: u)).At column := by
  by_cases hj : c = ('\\' : CodePoint)
  · subst hj
    have special : ('\\' : CodePoint) ≠ ('#' : CodePoint) := by decide
    obtain rfl : u = [] := by
      simp only [survey, if_neg special, ↓reduceIte] at h
      split at h
      · assumption
      · simp at h
    exact ⟨fun t ht => absurd ht.symm (Option.some_ne_none t),
      fun _ _ he => RowEnding.noConfusion he⟩
  · rcases scanRow_first h hg hh hj row column depth with
      ⟨token, scan, s', depth', hs, signs, start, -⟩ | ⟨k, q, -, -, hs⟩
    · have first : ((scan.cons token).tokens.filter Token.significant) =
          token :: scan.tokens.filter Token.significant := List.filter_cons_of_pos signs
      rw [hs]
      refine ⟨fun t ht => ?_, fun hn => ?_⟩
      · rw [first] at ht
        obtain rfl := Option.some.inj ht
        rw [start]
      · rw [first] at hn
        exact absurd hn (List.cons_ne_nil _ _)
    · rw [hs]
      refine ⟨fun t ht => absurd ht.symm (Option.some_ne_none t), fun _ string he => ?_⟩
      obtain rfl := RowEnding.within.inj he
      rfl

namespace Tokenizer

open Terminals (isBlank)
open Terminals.Scan (Quiet Joint Stands Passes)

variable {σ σ' : Tokenizer} {s s' : Terminals.Scan}

/-- The outlook behind the string that is open. -/
def ahead (σ : Tokenizer) (o : Outlook) : Outlook :=
  match σ.within with
  | some string => o.sign string.start.column false
  | none => o

theorem resume_ahead (σ : Tokenizer) (scan : RowScan) (o : Outlook) :
    (σ.resume scan).ahead o = scan.ending.ahead o := by
  unfold resume
  split <;> rename_i he <;> simp only [he] <;> rfl

theorem resume_depth (σ : Tokenizer) (scan : RowScan) : (σ.resume scan).depth = scan.depth := by
  unfold resume
  split <;> rfl

theorem resume_indents (σ : Tokenizer) (scan : RowScan) : (σ.resume scan).indents = σ.indents := by
  unfold resume
  split <;> rfl

/-- What a row brings that has this survey after the string which is open at its beginning. -/
inductive Takes (σ : Tokenizer) (t : Text) (sv : Survey) : List Token → Tokenizer → Prop where
  /-- The row holds a comment at most. -/
  | quiet {us : List Token} (outside : σ.within = none) (idle : σ.depth = 0 ∧ σ.joined = false)
      (nothing : sv = .only .plain)
      (silent : ∀ u ∈ us, u.kind ≠ .newline ∧ u.significant = false) : Takes σ t sv us σ
  /-- The row has tokens, after the end of the string or the layout before a statement. -/
  | scan {layout : List Token} {scan : RowScan} (indents : List Nat)
      (signs : ∀ o, layout.foldl Outlook.token o = σ.ahead o) (bears : scan.Bears σ.depth sv)
      (begins : (σ.depth = 0 ∧ σ.joined = false ∨ lexeme (t.dropWhile isGap) ≠ .unknown) →
        σ.within = none → scan.At (t.takeWhile isBlank).length) :
      Takes σ t sv (layout ++ scan.tokens)
        (({ σ with indents, strict := false } : Tokenizer).resume scan)

theorem quiet_of_opens {layout : List Token} {indents : List Nat}
    (h : σ.opens row blanks = .ok (layout, indents)) :
    ∀ u ∈ layout, u.kind ≠ .newline ∧ u.significant = false := by
  unfold opens at h
  split at h
  · obtain ⟨rfl, -⟩ := Prod.mk.inj (Except.ok.inj h)
    simp [Token.significant]
  · split at h
    · simp at h
    · obtain ⟨rfl, -⟩ := Prod.mk.inj (Except.ok.inj h)
      intro u hu
      rw [(List.mem_replicate.1 hu).2]
      simp [Token.significant]

/-- A row that holds a comment at most changes nothing. -/
theorem statementRow_quiet (σ : Tokenizer) (row : Nat) (h : Quiet t) :
    ∃ us, σ.statementRow row t = .ok (us, σ) ∧
      ∀ u ∈ us, u.kind ≠ .newline ∧ u.significant = false := by
  rw [Quiet, ← isGap_eq] at h
  unfold statementRow
  rcases h with he | ⟨w, he⟩
  · simp only [drop_length_takeWhile, he]
    exact ⟨_, rfl, by simp [Token.significant]⟩
  · simp only [drop_length_takeWhile, he, ↓reduceIte]
    exact ⟨_, rfl, by simp [Token.significant]⟩

/-- What a row begins with that holds more than a comment. -/
theorem exists_of_not_quiet (h : ¬Quiet t) :
    ∃ c w, t.dropWhile isGap = c :: w ∧ isGap c = false ∧ c ≠ ('#' : CodePoint) := by
  rw [Quiet, ← isGap_eq, not_or] at h
  obtain ⟨c, w, hd⟩ := List.exists_cons_of_ne_nil h.1
  have first := List.head?_dropWhile_not isGap t
  rw [hd] at first
  exact ⟨c, w, hd, by simpa using first, fun he => h.2 ⟨w, he ▸ hd⟩⟩

theorem survey_of_quiet (h : Quiet t) : survey 0 t = some (.only .plain) := by
  rw [survey_dropWhile, isGap_eq]
  rcases h with he | ⟨w, he⟩ <;> rw [he] <;> rfl

/-- What a row begins with stands behind the blanks of the row also where the blanks are scanned, unless
they are signs of their own. -/
theorem scanRow_known (h : survey 0 t = some sv) (hl : lexeme (t.dropWhile isGap) ≠ .unknown)
    (row : Nat) (depth : Int) : (scanRow row 0 0 depth t).At (t.takeWhile isBlank).length := by
  have blanks : ∀ b ∈ t.takeWhile isGap, isGap b = true := fun b hb => mem_takeWhile hb
  by_cases hq : Quiet t
  · have bears := scanRow_bears h row 0 depth
    have ending := bears.ending
    have last := bears.last
    rw [Option.some.inj (h.symm.trans (survey_of_quiet hq))] at ending last
    have none_ : (scanRow row 0 0 depth t).tokens.filter Token.significant = [] := by
      simpa [Survey.only] using last (by simp [Survey.only])
    refine ⟨fun token ht => ?_, fun _ string he => ?_⟩
    · rw [none_] at ht
      cases ht
    · rw [he] at ending
      cases ending
  · obtain ⟨c, w, hd, hg, hh⟩ := exists_of_not_quiet hq
    have whole : t = t.takeWhile isGap ++ c :: w := by rw [← hd, List.takeWhile_append_dropWhile]
    have moved : scanRow row 0 0 depth (t.takeWhile isGap ++ c :: w) =
        scanRow row 0 (0 + (t.takeWhile isGap).length) depth (c :: w) :=
      scanRow_blanks blanks (by simpa [hg, hd] using hl)
    rw [← whole, Nat.zero_add] at moved
    rw [survey_dropWhile, hd] at h
    rw [moved, ← isGap_eq]
    exact scanRow_at h hg hh

theorem takes_outside (hw : σ.within = none) (hstrict : σ.strict = false)
    (hsv : survey 0 t = some sv) (hrow : σ.row row t = .ok (us, σ')) : σ.Takes t sv us σ' := by
  have same (o : Outlook) : σ.ahead o = o := by rw [ahead, hw]
  have lax : { σ with strict := false } = σ := by rw [← hstrict]
  unfold Tokenizer.row at hrow
  rw [hw] at hrow
  simp only at hrow
  by_cases hin : σ.depth = 0 ∧ σ.joined = false
  · rw [if_pos hin] at hrow
    by_cases hq : Quiet t
    · obtain ⟨us', he, silent⟩ := statementRow_quiet σ row hq
      obtain ⟨rfl, rfl⟩ := Prod.mk.inj (Except.ok.inj (he.symm.trans hrow))
      exact .quiet hw hin (Option.some.inj (hsv.symm.trans (survey_of_quiet hq))) silent
    · obtain ⟨c, w, hd, hg, hh⟩ := exists_of_not_quiet hq
      rw [statementRow_eq (by rw [hd]; rfl) hh] at hrow
      cases ho : σ.opens row (t.takeWhile isGap) with
      | error e => simp [ho, Except.map] at hrow
      | ok opened =>
        obtain ⟨layout, indents⟩ := opened
        simp only [ho, Except.map, Except.ok.injEq, Prod.mk.injEq] at hrow
        obtain ⟨rfl, rfl⟩ := hrow
        rw [survey_dropWhile, hd] at hsv
        have strict : ({ σ with indents } : Tokenizer) = { σ with indents, strict := false } := by
          rw [← hstrict]
        rw [hd, strict, isGap_eq]
        refine .scan indents (fun o => ?_) ?_ fun _ _ => scanRow_at hsv hg hh
        · rw [same, Outlook.foldl_token_quiet (quiet_of_opens ho)]
        · rw [hin.1]
          exact scanRow_bears hsv _ _ _
  · rw [if_neg hin] at hrow
    obtain ⟨rfl, rfl⟩ := Prod.mk.inj (Except.ok.inj hrow)
    have signs (o : Outlook) : ([] : List Token).foldl Outlook.token o = σ.ahead o := (same o).symm
    have taken : σ.Takes t sv _ _ := .scan σ.indents signs (scanRow_bears hsv row 0 σ.depth)
      fun known _ => scanRow_known hsv (known.resolve_left hin) row σ.depth
    rw [List.nil_append] at taken
    rwa [lax] at taken

theorem takes_closing {string : OpenString} {m : Nat} (hw : σ.within = some string)
    (hc : string.quote.closing? t = some m) (hsv : survey 0 (t.drop m) = some sv)
    (hrow : σ.row row t = .ok (us, σ')) : σ.Takes t sv us σ' := by
  unfold Tokenizer.row at hrow
  rw [hw] at hrow
  simp only [hc, Except.ok.injEq, Prod.mk.injEq] at hrow
  obtain ⟨rfl, rfl⟩ := hrow
  rw [scanRow_skip]
  have signs (o : Outlook) :
      [(⟨.string, string.text ++ t.take m, string.start, ⟨row, m⟩⟩ : Token)].foldl Outlook.token o =
        σ.ahead o := by
    rw [ahead, hw]
    rfl
  refine .scan σ.indents signs (scanRow_bears hsv _ _ _) fun _ hn => ?_
  simp [hw] at hn

/-- The outlook after the tokens of a row. -/
theorem Takes.looks (h : σ.Takes t sv us σ') (hx : (σ.ahead o).fresh = true → σ.within = none ∧
      (σ.depth = 0 ∧ σ.joined = false ∨ lexeme (t.dropWhile isGap) ≠ .unknown))
    (hidle : σ.within = none → σ.depth = 0 ∧ σ.joined = false → o.fresh = true) :
    σ'.ahead (us.foldl Outlook.token o) =
      ((σ.ahead o).row (t.takeWhile isBlank).length sv).ended (sv.ending = .plain ∧ σ'.depth ≤ 0) := by
  cases h with
  | quiet outside idle nothing silent =>
    have fresh := hidle outside idle
    rw [Outlook.foldl_token_quiet silent, nothing, ahead, outside]
    cases o
    simp_all [Outlook.row, Survey.only, Outlook.ended]
  | scan indents signs bears begins =>
    rw [resume_ahead, resume_depth, List.foldl_append, signs]
    exact bears.looks fun ho => begins (hx ho).2 (hx ho).1

/-- How a row ends is remembered. -/
theorem Takes.ending (h : σ.Takes t sv us σ') :
    σ'.joined = sv.ending.joins ∧ σ'.within.map (·.quote) = sv.ending.quote? := by
  cases h with
  | quiet outside idle nothing =>
    subst nothing
    exact ⟨idle.2, by rw [outside]; rfl⟩
  | @scan layout scan indents signs bears =>
    have ending := bears.ending
    generalize sv.ending = e at ending
    generalize hr : scan.ending = r at ending
    cases ending <;> simp [resume, hr, Survey.Ending.joins, Survey.Ending.quote?]

/-- The tokenizer stands where the scan of terminals stands. -/
structure Agrees (σ : Tokenizer) (s : Terminals.Scan) (v : Text) : Prop where
  depth : σ.depth = s.brackets.length
  stands : s.Stands v σ.joined (σ.within.map (·.quote))
  strict : σ.strict = σ.within.any fun string => !string.quote.triple

theorem agrees_initial (v : Text) : initial.Agrees (Terminals.Scan.start v) v :=
  ⟨rfl, .fresh [] (by simp) rfl rfl rfl (by simp) rfl, rfl⟩

theorem getLast?_of_endsInBackslash (h : endsInBackslash t = true) :
    t.getLast? = some ('\\' : CodePoint) := by
  fun_induction endsInBackslash t with
  | case1 => simp at h
  | case2 c => simpa using h
  | case3 d rest ih =>
    have tail := ih h
    rw [List.getLast?_cons, List.getLast?_cons, tail]
    rfl
  | case4 c d rest _ ih => rw [List.getLast?_cons_cons, ih h]

theorem survey_blanks (hb : ∀ b ∈ blanks, isBlank b = true) (t : Text) :
    survey 0 (blanks ++ t) = survey 0 t := by
  have same : (blanks ++ t).dropWhile isGap = t.dropWhile isGap :=
    List.dropWhile_append_of_pos fun b hm => (congrFun isGap_eq b).trans (hb b hm)
  rw [survey_dropWhile, same, ← survey_dropWhile]

theorem closing?_cons {q : Quote} (hm : c ≠ q.mark) (hj : c ≠ ('\\' : CodePoint)) (t : Text) :
    q.closing? (c :: t) = (q.closing? t).map (· + 1) := by
  obtain ⟨n, marks⟩ : ∃ n, q.marks = q.mark :: List.replicate n q.mark := by
    unfold Quote.marks
    split
    · exact ⟨2, rfl⟩
    · exact ⟨0, rfl⟩
  cases t with
  | nil => simp [Quote.closing?, marks, Ne.symm hm]
  | cons d t =>
    rw [Quote.closing?, if_neg hj, marks]
    simp [Ne.symm hm]

/-- The end of a string that is open at the beginning of a row is found behind blanks as well. -/
theorem closing?_blanks {q : Quote} (hq : q.mark = '\'' ∨ q.mark = '"')
    (hb : ∀ b ∈ blanks, isBlank b = true) (t : Text) :
    q.closing? (blanks ++ t) = (q.closing? t).map (· + blanks.length) := by
  induction blanks with
  | nil => simp
  | cons b blanks ih =>
    obtain ⟨first, hb⟩ := List.forall_mem_cons.1 hb
    have apart : b ≠ q.mark ∧ b ≠ ('\\' : CodePoint) := by
      have marks : q.mark ∉ [(32 : CodePoint), 9, 12] ∧
          ('\\' : CodePoint) ∉ [(32 : CodePoint), 9, 12] := by
        rcases hq with hq | hq <;> rw [hq] <;> decide
      have mem : b ∈ [(32 : CodePoint), 9, 12] := by
        simpa [isBlank, or_assoc] using first
      exact ⟨fun he => marks.1 (he ▸ mem), fun he => marks.2 (he ▸ mem)⟩
    rw [List.cons_append, closing?_cons apart.1 apart.2, ih hb, Option.map_map, List.length_cons]
    rfl

theorem endsInBackslash_blanks (hb : ∀ b ∈ blanks, isBlank b = true) (t : Text) :
    endsInBackslash (blanks ++ t) = endsInBackslash t := by
  induction blanks with
  | nil => rfl
  | cons b blanks ih =>
    obtain ⟨first, hb⟩ := List.forall_mem_cons.1 hb
    have apart : b ≠ ('\\' : CodePoint) := by
      rintro rfl
      exact absurd first (by decide)
    rw [← ih hb, List.cons_append]
    cases blanks ++ t with
    | nil => exact decide_eq_false apart
    | cons d u => rw [endsInBackslash, if_neg apart]

/-- The tokenizer agrees with the scan after a row that both of them have passed. -/
theorem Agrees.of_takes {joined : Bool} {within : Option Quote} {m : Nat}
    {ls : List Terminal} {w : Text} (h : σ.Agrees s u) (takes : σ.Takes t sv us σ')
    (passes : Passes w v s joined within m sv ls s') : σ'.Agrees s' v := by
  have stands := passes.stands
  rw [← takes.ending.1, ← takes.ending.2] at stands
  refine ⟨?_, stands, ?_⟩
  · rw [passes.depth, ← h.depth]
    cases takes with
    | quiet _ _ nothing =>
      subst nothing
      exact (Int.add_zero _).symm
    | scan _ _ bears => rw [resume_depth, bears.depth]
  · cases takes with
    | quiet => exact h.strict
    | scan => unfold resume; split <;> simp

/-- A string that is open goes on over a row, or the row is passed. The scan may find blanks before the
row. -/
theorem Agrees.passes_behind (h : σ.Agrees s (blanks ++ t ++ 10 :: v))
    (hb : ∀ b ∈ blanks, isBlank b = true) (ht : (10 : CodePoint) ∉ t) (hall : s.all.ending = .complete) :
    (∃ string text, σ.within = some string ∧
      (∀ row, σ.row row t = .ok ([], { σ with within := some { string with text } })) ∧
      ({ σ with within := some { string with text } } : Tokenizer).Agrees s v) ∨
    ∃ m sv ts s', Passes (blanks ++ t) v s σ.joined (σ.within.map (·.quote)) m sv ts s' ∧
      ∀ row us σ', σ.row row t = .ok (us, σ') → σ.Takes t sv us σ' ∧ σ'.Agrees s' v := by
  have stands := h.stands
  have row : (10 : CodePoint) ∉ blanks ++ t := by
    simp only [List.mem_append, not_or]
    exact ⟨fun hm => absurd (hb _ hm) (by decide), ht⟩
  cases hw : σ.within with
  | none =>
    rw [hw] at stands
    have lax : σ.strict = false := by rw [h.strict, hw]; rfl
    obtain ⟨sv, ts, s', passes⟩ := stands.passes_outside row hall
    refine .inr ⟨0, sv, ts, s', passes, fun row us σ' hrow => ?_⟩
    have takes := takes_outside hw lax ((survey_blanks hb t).symm.trans passes.survey) hrow
    exact ⟨takes, h.of_takes takes passes⟩
  | some string =>
    rw [hw, Option.map_some] at stands
    have apart : σ.joined = false := by
      generalize σ.joined = joined at stands
      cases stands
      rfl
    rw [apart] at stands
    have closes := closing?_blanks stands.mark hb t
    rcases stands.passes_inside row hall with ⟨hc, opens, stands'⟩ | ⟨m, sv, ts, s', passes⟩
    · rw [closes, Option.map_eq_none_iff] at hc
      rw [endsInBackslash_blanks hb] at opens
      have on : σ.strict = false ∨ t.getLast? = some ('\\' : CodePoint) := by
        rcases opens with triple | hb
        · exact .inl (by rw [h.strict, hw]; simp [triple])
        · exact .inr (getLast?_of_endsInBackslash hb)
      refine .inl ⟨string, string.text ++ t ++ "\n", rfl, fun row => ?_, h.depth, ?_, ?_⟩
      · unfold Tokenizer.row
        rw [hw]
        simp only [hc, if_pos on]
      · simpa [apart] using stands'
      · simp [h.strict, hw]
    · rw [apart]
      refine .inr ⟨m, sv, ts, s', passes, fun row us σ' hrow => ?_⟩
      have closed := passes.string _ rfl
      rw [closes] at closed
      obtain ⟨n, hn, rfl⟩ := Option.map_eq_some_iff.1 closed
      have survey := passes.survey
      rw [Nat.add_comm, List.drop_length_add_append] at survey
      have takes := takes_closing hw hn survey hrow
      exact ⟨takes, h.of_takes takes passes⟩

/-- A string that is open goes on over a row, or the row is passed. -/
theorem Agrees.passes (h : σ.Agrees s (t ++ 10 :: v)) (ht : (10 : CodePoint) ∉ t)
    (hall : s.all.ending = .complete) :
    (∃ string text, σ.within = some string ∧
      (∀ row, σ.row row t = .ok ([], { σ with within := some { string with text } })) ∧
      ({ σ with within := some { string with text } } : Tokenizer).Agrees s v) ∨
    ∃ m sv ts s', Passes t v s σ.joined (σ.within.map (·.quote)) m sv ts s' ∧
      ∀ row us σ', σ.row row t = .ok (us, σ') → σ.Takes t sv us σ' ∧ σ'.Agrees s' v :=
  h.passes_behind (show ∀ b ∈ ([] : Text), isBlank b = true from nofun) ht hall

/-- A row takes the tokenizer and the scan from one place to another. -/
theorem Agrees.step (h : σ.Agrees s (t ++ 10 :: v)) (ht : (10 : CodePoint) ∉ t)
    (hall : s.all.ending = .complete) (hrow : σ.row row t = .ok (us, σ')) :
    ∃ ts s', Terminals.Scan.Leads s ts s' ∧ σ'.Agrees s' v := by
  rcases h.passes ht hall with ⟨string, text, -, on, agrees⟩ | ⟨m, sv, ts, s', passes, takes⟩
  · obtain ⟨rfl, rfl⟩ := Prod.mk.inj (Except.ok.inj ((on row).symm.trans hrow))
    exact ⟨[], s, .refl s, agrees⟩
  · exact ⟨ts, s', passes.leads, (takes row us σ' hrow).2⟩

/-! ## Indentations of spaces -/

/-- A column in both measures. -/
def bothMeasures (w : Nat) : Nat × Nat := (w, w)

theorem headD_bothMeasures (ws : List Nat) :
    (ws.map bothMeasures).headD (0, 0) = (ws.headD 0, ws.headD 0) := by
  cases ws <;> rfl

theorem dedent?_bothMeasures (k : Nat) (ws : List Nat) :
    Terminals.Scan.dedent? k k (ws.map bothMeasures) =
      (dedent? k ws).map fun (n, kept) => (n, kept.map bothMeasures) := by
  induction ws with
  | nil => by_cases hk : k = 0 <;> simp [Terminals.Scan.dedent?, dedent?, hk]
  | cons w ws ih =>
    have step : (w :: ws).map bothMeasures = (w, w) :: ws.map bothMeasures := rfl
    rw [step, Terminals.Scan.dedent?, dedent?, ih]
    by_cases hlt : k < w
    · cases hd : dedent? k ws <;> simp [hlt]
    · by_cases he : k = w <;> simp [hlt, he, bothMeasures]

/-- The block that a row returns to has its column. -/
theorem dedent?_eq_some {k n : Nat} {ws kept : List Nat} (h : dedent? k ws = some (n, kept)) :
    kept.headD 0 = k ∧ ∀ w ∈ kept, w ∈ ws := by
  induction ws generalizing n with
  | nil =>
    rw [dedent?] at h
    split at h
    · rename_i hk
      obtain ⟨-, rfl⟩ := Prod.mk.inj (Option.some.inj h)
      exact ⟨hk.symm, nofun⟩
    · simp at h
  | cons w ws ih =>
    rw [dedent?] at h
    split at h
    · obtain ⟨⟨m, kept'⟩, hd, he⟩ := Option.map_eq_some_iff.1 h
      obtain ⟨-, rfl⟩ := Prod.mk.inj he
      exact ⟨(ih hd).1, fun w' hw => List.mem_cons_of_mem _ ((ih hd).2 w' hw)⟩
    · split at h
      · rename_i hk
        obtain ⟨-, rfl⟩ := Prod.mk.inj (Option.some.inj h)
        exact ⟨hk.symm, fun w' hw => hw⟩
      · simp at h

theorem indentation_spaces (n : Nat) : indentation (List.replicate n 32) = n := by
  have from_ (m : Nat) : (List.replicate n (32 : CodePoint)).foldl (fun column (c : CodePoint) =>
      if c = ' ' then column + 1 else if c = '\t' then (column / 8 + 1) * 8 else 0) m = m + n := by
    induction n generalizing m with
    | zero => rfl
    | succ n ih =>
      rw [List.replicate_succ, List.foldl_cons, ih]
      simp only [show (32 : CodePoint) = ' ' from rfl, ↓reduceIte]
      omega
  rw [indentation, from_, Nat.zero_add]

/-- The tokenizer accepts the indentation of a row that the scan accepts. -/
theorem opens_of_indent {ls : List Terminal} (row : Nat) (hb : ∀ b ∈ blanks, b = 32)
    (hs : s.indents = σ.indents.map bothMeasures) (hpos : ∀ w ∈ σ.indents, 0 < w)
    (hi : s.indent (blanks.foldl Terminals.Margin.blank ⟨0, 0, 0⟩) = .ok (ls, s')) :
    ∃ layout ws, σ.opens row blanks = .ok (layout, ws) ∧ s'.indents = ws.map bothMeasures ∧
      ws.headD 0 = blanks.length ∧ ∀ w ∈ ws, 0 < w := by
  obtain ⟨n, rfl⟩ : ∃ n, blanks = List.replicate n 32 :=
    ⟨_, List.eq_replicate_of_mem hb⟩
  rw [Terminals.Scan.foldl_spaces, Nat.zero_add] at hi
  simp only [Terminals.Scan.indent, Terminals.Margin.measures, ↓reduceIte, hs,
    headD_bothMeasures, dedent?_bothMeasures] at hi
  unfold opens
  rw [indentation_spaces, List.length_replicate]
  by_cases hd : σ.indents.headD 0 < n
  · rw [if_pos hd] at hi ⊢
    split at hi
    · simp at hi
    · obtain ⟨-, rfl⟩ := Prod.mk.inj (Except.ok.inj hi)
      exact ⟨_, _, rfl, rfl, rfl,
        List.forall_mem_cons.2 ⟨Nat.lt_of_le_of_lt (Nat.zero_le _) hd, hpos⟩⟩
  · rw [if_neg hd] at hi ⊢
    cases hc : dedent? n σ.indents with
    | none => simp [hc] at hi
    | some found =>
      obtain ⟨ended, kept⟩ := found
      simp only [hc, Option.map_some, Except.ok.injEq, Prod.mk.injEq] at hi
      obtain ⟨head, mem⟩ := dedent?_eq_some hc
      refine ⟨_, _, rfl, by rw [← hi.2], head, fun w hw => hpos w (mem w hw)⟩

/-! ## Rows that are indented by spaces -/

theorem Agrees.idle (h : σ.Agrees s v) (hi : s.Idle) : σ.within = none ∧ σ.depth = 0 := by
  refine ⟨?_, by rw [h.depth, hi.2]; rfl⟩
  cases hw : σ.within with
  | none => rfl
  | some string =>
    have stands := h.stands
    rw [hw, Option.map_some] at stands
    generalize σ.joined = joined at stands
    cases stands with
    | within _ fresh => simp [hi.1] at fresh

theorem Agrees.idle_of (h : σ.Agrees s v) (hw : σ.within = none)
    (hin : σ.depth = 0 ∧ σ.joined = false) : s.Idle := by
  have brackets : s.brackets = [] :=
    List.length_eq_zero_iff.1 (Int.ofNat.inj (h.depth.symm.trans hin.1))
  have stands : s.Stands v false none := by
    have stands := h.stands
    rwa [hw, hin.2] at stands
  cases stands with
  | fresh _ _ fresh => exact ⟨fresh, brackets⟩

/-- Inside brackets, inside strings and behind backslashes every row has tokens, and no block begins
or ends. -/
theorem row_of_busy (row : Nat) (t : Text)
    (h : ¬(σ.within = none ∧ σ.depth = 0 ∧ σ.joined = false)) :
    ∃ us σ', σ.row row t = .ok (us, σ') ∧ σ'.indents = σ.indents := by
  unfold Tokenizer.row
  cases hw : σ.within with
  | none =>
    simp only
    rw [if_neg fun hin => h ⟨hw, hin⟩]
    exact ⟨_, _, rfl, resume_indents _ _⟩
  | some string =>
    simp only
    split
    · exact ⟨_, _, rfl, resume_indents _ _⟩
    · split <;> exact ⟨_, _, rfl, rfl⟩

theorem row_of_idle (hw : σ.within = none) (hin : σ.depth = 0 ∧ σ.joined = false) (row : Nat)
    (t : Text) : σ.row row t = σ.statementRow row t := by
  unfold Tokenizer.row
  rw [hw]
  exact if_pos hin

/-- A row that begins a statement opens and closes blocks as its blanks say. -/
theorem statementRow_of_opens {layout : List Token} {ws : List Nat} (hq : ¬Quiet t)
    (h : σ.opens row (t.takeWhile isBlank) = .ok (layout, ws)) :
    ∃ us σ', σ.statementRow row t = .ok (us, σ') ∧ σ'.indents = ws := by
  obtain ⟨c, w, hd, -, hh⟩ := exists_of_not_quiet hq
  rw [statementRow_eq (by rw [hd]; rfl) hh, isGap_eq, h]
  exact ⟨_, _, rfl, resume_indents _ _⟩

end Tokenizer

/-- The tokenizer and the scan of terminals stand at one place and have seen the same of the rows
before, which are indented by spaces. -/
structure Abreast (σ : Tokenizer) (s : Terminals.Scan) (v : Text) (a b : Outlook) : Prop where
  agrees : σ.Agrees s v
  looks : σ.ahead b = s.ahead (σ.within.map (·.quote)) a
  idle : s.Idle → a.fresh = true ∧ σ.joined = false
  busy : ¬s.Idle → σ.within = none → a.fresh = false
  indents : s.indents = σ.indents.map Tokenizer.bothMeasures
  positive : ∀ w ∈ σ.indents, 0 < w
  /-- The last statement stands in the innermost block. -/
  top : (σ.ahead b).column.getD 0 = σ.indents.headD 0

/-- A row that is neither quiet nor a lone backslash shows a sign. -/
theorem signs_of_survey (h : survey 0 t = some sv) (hq : ¬Terminals.Scan.Quiet t)
    (hj : ¬Terminals.Scan.Joint t) : sv.last.isSome = true ∨ ∃ q, sv.ending = .within q := by
  obtain ⟨c, w, hd, hg, hh⟩ := Tokenizer.exists_of_not_quiet hq
  rw [survey_dropWhile, hd] at h
  rcases lexeme_of_survey h hg hh with ⟨_, _, l, s', -, -, -, rfl, -⟩ | ⟨-, -, s', -, rfl⟩ |
    ⟨rfl, rfl, -⟩ | ⟨_, q, -, -, -, he⟩
  · exact .inl (by cases hs : s'.last <;> simp [Survey.after, hs])
  · exact .inl (by cases hs : s'.last <;> simp [Survey.after, hs])
  · rw [isGap_eq] at hd
    exact absurd hd hj
  · exact .inr ⟨q, he⟩

namespace Outlook

/-- A row with a sign begins a statement at its column if one is to begin. -/
theorem row_of_signs (h : sv.last.isSome = true ∨ ∃ q, sv.ending = .within q) (o : Outlook) :
    ∃ colon, o.row x sv = o.sign x colon := by
  unfold row
  split
  · exact ⟨false, rfl⟩
  · rename_i he hs
    rcases h with h | ⟨q, hq⟩
    · simp [he] at h
    · exact absurd hq (hs q)
  · exact ⟨_, rfl⟩

/-- A row shows signs or nothing. -/
theorem row_cases (o : Outlook) (sv : Survey) :
    (∃ colon, o.row x sv = o.sign x colon) ∨ o.row x sv = o := by
  by_cases h : sv.last.isSome = true ∨ ∃ q, sv.ending = .within q
  · exact .inl (row_of_signs h o)
  · rw [not_or, not_exists] at h
    have none_ : sv.last = none := by simpa using h.1
    refine .inr ?_
    unfold row
    split
    · rename_i q hs
      exact absurd hs (h.2 q)
    · rfl
    · rename_i he _
      simp [none_] at he

theorem row_column (h : o.fresh = false) : (o.row x sv).column = o.column := by
  rcases row_cases (x := x) o sv with ⟨colon, he⟩ | he <;> rw [he]
  simp [sign, h]

theorem row_fresh (h : o.fresh = false) : (o.row x sv).fresh = false := by
  rcases row_cases (x := x) o sv with ⟨colon, he⟩ | he <;> rw [he]
  · rfl
  · exact h

theorem ended_of {p : Prop} [Decidable p] (h : p) (o : Outlook) : (o.ended p).fresh = true := by
  simp [ended, h]

theorem ended_of_not {p : Prop} [Decidable p] (h : ¬p) (o : Outlook) : o.ended p = o := if_neg h

theorem ended_congr {p q : Prop} [Decidable p] [Decidable q] (h : p ↔ q) (o : Outlook) :
    o.ended p = o.ended q := by
  simp [ended, h]

@[simp]
theorem ended_column {p : Prop} [Decidable p] (o : Outlook) : (o.ended p).column = o.column := by
  unfold ended
  split <;> rfl

end Outlook

namespace Abreast

open Terminals (isBlank)
open Terminals.Scan (Quiet Joint Leads)

variable {σ σ' : Tokenizer} {s s' : Terminals.Scan} {a b : Outlook}

theorem initial (v : Text) :
    Abreast .initial (.start v) v .initial .initial where
  agrees := Tokenizer.agrees_initial v
  looks := rfl
  idle _ := ⟨rfl, rfl⟩
  busy h := absurd ⟨rfl, rfl⟩ h
  indents := rfl
  positive := nofun
  top := rfl

theorem outside (h : Abreast σ s v a b) (hw : σ.within = none) : b = a := by
  have looks := h.looks
  rw [Tokenizer.ahead, hw] at looks
  exact looks

theorem fresh_of_idle (h : Abreast σ s v a b) (hi : s.Idle) : (σ.ahead b).fresh = true := by
  have hw := (h.agrees.idle hi).1
  rw [Tokenizer.ahead, hw, h.outside hw]
  exact (h.idle hi).1

theorem fresh_of_busy (h : Abreast σ s v a b) (hb : ¬s.Idle) : (σ.ahead b).fresh = false := by
  unfold Tokenizer.ahead
  split
  · rfl
  · rename_i hw
    rw [h.outside hw]
    exact h.busy hb hw

/-- The tokenizer has tokens for a row that the scan passes, and both of them enter and leave the
same blocks. -/
theorem row_ok (h : Abreast σ s (t ++ 10 :: v) a b) (spaces : ∀ c ∈ t.takeWhile isBlank, c = 32)
    (unpadded : s.Idle → ¬Joint t) {m : Nat} {ls : List Terminal} (row : Nat)
    (passes : Terminals.Scan.Passes t v s σ.joined (σ.within.map (·.quote)) m sv ls s') :
    ∃ us σ', σ.row row t = .ok (us, σ') ∧ s'.indents = σ'.indents.map Tokenizer.bothMeasures ∧
      (∀ w ∈ σ'.indents, 0 < w) ∧
      (¬s.Idle ∨ Quiet t → σ'.indents = σ.indents) ∧
      (s.Idle → ¬Quiet t → σ'.indents.headD 0 = (t.takeWhile isBlank).length) := by
  by_cases hi : s.Idle
  · obtain ⟨hw, hdepth⟩ := h.agrees.idle hi
    have joined := (h.idle hi).2
    have rows := Tokenizer.row_of_idle hw ⟨hdepth, joined⟩ row t
    by_cases hq : Quiet t
    · obtain ⟨us, he, -⟩ := Tokenizer.statementRow_quiet σ row hq
      refine ⟨us, σ, rows.trans he, ?_, h.positive, fun _ => rfl, fun _ hn => absurd hq hn⟩
      rw [passes.kept (.inr (.inl hq)), h.indents]
    · obtain ⟨ls, s₁, s₂, same, moved, indents⟩ := passes.moved hi joined hq (unpadded hi)
      obtain ⟨layout, ws, opens, both, head, positive⟩ :=
        Tokenizer.opens_of_indent row spaces (same.trans h.indents) h.positive moved
      obtain ⟨us, σ', he, hws⟩ := Tokenizer.statementRow_of_opens hq opens
      subst hws
      refine ⟨us, σ', rows.trans he, indents.trans both, positive, ?_, fun _ _ => head⟩
      rintro (hn | hn)
      · exact absurd hi hn
      · exact absurd hn hq
  · obtain ⟨us, σ', he, hws⟩ := Tokenizer.row_of_busy row t fun hb =>
      hi (h.agrees.idle_of hb.1 hb.2)
    refine ⟨us, σ', he, ?_, ?_, fun _ => hws, fun hn => absurd hn hi⟩
    · rw [hws, passes.kept (.inl hi), h.indents]
    · rw [hws]
      exact h.positive

/-- A row takes the tokenizer and the scan on. -/
theorem step (h : Abreast σ s (t ++ 10 :: v) a b) (ht : (10 : CodePoint) ∉ t)
    (hall : s.all.ending = .complete) (spaces : ∀ c ∈ t.takeWhile isBlank, c = 32)
    (unpadded : s.Idle → ¬Joint t) (row : Nat) :
    ∃ us σ' ts s', σ.row row t = .ok (us, σ') ∧ Leads s ts s' ∧
      Abreast σ' s' v (ts.foldl Outlook.terminal a) (us.foldl Outlook.token b) := by
  rcases h.agrees.passes ht hall with ⟨string, text, hw, on, agrees⟩ | ⟨m, sv, ts, s', passes, takes⟩
  · refine ⟨_, _, [], s, on row, .refl s, agrees, ?_, h.idle, fun hb hn => by simp at hn, h.indents,
      h.positive, ?_⟩
    · have looks := h.looks
      rw [Tokenizer.ahead, hw] at looks
      exact looks
    · have top := h.top
      rw [Tokenizer.ahead, hw] at top
      exact top
  · obtain ⟨us, σ', he, indents, positive, kept, moved⟩ := h.row_ok spaces unpadded row passes
    obtain ⟨takes, agrees⟩ := takes row us σ' he
    have ending := takes.ending
    have terminals := passes.looks a (fun hi => (h.idle hi).1) fun hb hn =>
      h.busy hb (Option.map_eq_none_iff.1 hn)
    have tokens := takes.looks (o := b)
      (fun hf => by
        have hi : s.Idle := by
          by_cases hi : s.Idle
          · exact hi
          · simp [h.fresh_of_busy hi] at hf
        exact ⟨(h.agrees.idle hi).1, .inl ⟨(h.agrees.idle hi).2, (h.idle hi).2⟩⟩)
      (fun hw hin => by
        rw [h.outside hw]
        exact (h.idle (h.agrees.idle_of hw hin)).1)
    have ends : sv.ending = .plain ∧ σ'.depth ≤ 0 ↔ sv.ending = .plain ∧ s'.brackets = [] := by
      rw [agrees.depth]
      refine and_congr_right fun _ => ?_
      rw [← List.length_eq_zero_iff]
      omega
    rw [Outlook.ended_congr ends] at tokens
    have whole (hi : s.Idle) : survey 0 t = some sv := by
      have survey := passes.survey
      rwa [passes.outside (by rw [(h.agrees.idle hi).1]; rfl), List.drop_zero] at survey
    have nothing (hi : s.Idle) (hq : Quiet t) : sv = .only .plain :=
      Option.some.inj ((whole hi).symm.trans (Tokenizer.survey_of_quiet hq))
    have signs (hi : s.Idle) (hq : ¬Quiet t) := Outlook.row_of_signs
      (x := (t.takeWhile isBlank).length) (signs_of_survey (whole hi) hq (unpadded hi)) (σ.ahead b)
    rw [← h.looks] at terminals
    refine ⟨us, σ', ts, s', he, passes.leads, agrees, ?_, fun hi => ?_, fun hb hw => ?_, indents,
      positive, ?_⟩
    · rw [ending.2, tokens, terminals]
    · rcases passes.idle hi with plain | ⟨idle, joint⟩
      · rw [plain] at terminals ending
        refine ⟨?_, ending.1⟩
        have same : s'.ahead (Survey.Ending.quote? .plain) (ts.foldl Outlook.terminal a) =
            ts.foldl Outlook.terminal a := rfl
        rw [← same, terminals]
        exact Outlook.ended_of ⟨rfl, hi.2⟩ _
      · exact absurd joint (unpadded idle)
    · have none_ : sv.ending.quote? = none := by rw [← ending.2, hw]; rfl
      have same : s'.ahead sv.ending.quote? (ts.foldl Outlook.terminal a) =
          ts.foldl Outlook.terminal a := by rw [none_]; rfl
      have open_ : ¬(sv.ending = .plain ∧ s'.brackets = []) := fun hp => by
        have stands := passes.stands
        rw [hp.1] at stands
        cases stands with
        | fresh _ _ fresh => exact hb ⟨fresh, hp.2⟩
      rw [← same, terminals, Outlook.ended_of_not open_]
      by_cases hi : s.Idle
      · by_cases hq : Quiet t
        · refine absurd ⟨by rw [nothing hi hq]; rfl, ?_⟩ open_
          have depth := passes.depth
          rw [nothing hi hq, hi.2] at depth
          exact List.length_eq_zero_iff.1 (Int.ofNat.inj depth)
        · obtain ⟨colon, he⟩ := signs hi hq
          rw [he]
          rfl
      · exact Outlook.row_fresh (h.fresh_of_busy hi)
    · rw [tokens, Outlook.ended_column]
      by_cases hi : s.Idle
      · by_cases hq : Quiet t
        · rw [nothing hi hq, kept (.inr hq)]
          exact h.top
        · obtain ⟨colon, he⟩ := signs hi hq
          rw [he, moved hi hq]
          simp [Outlook.sign, h.fresh_of_idle hi]
      · rw [Outlook.row_column (h.fresh_of_busy hi), kept (.inl hi)]
        exact h.top

/-- The tokenizer has tokens for all rows of a complete script in which no statement begins with a
lone backslash. -/
theorem rows {rows : List Text} (h : Abreast σ s (rows.flatMap (· ++ [10])) a b)
    (hrows : ∀ t ∈ rows, (10 : CodePoint) ∉ t) (hall : s.all.ending = .complete)
    (spaces : ∀ t ∈ rows, ∀ c ∈ t.takeWhile isBlank, c = 32)
    (unpadded : ∀ before t after us m, rows = before ++ t :: after → Joint t →
      σ.Runs row before us m → ¬(m.within = none ∧ m.depth = 0 ∧ m.joined = false)) :
    ∃ us σ' ts s', σ.Runs row rows us σ' ∧ Leads s ts s' ∧
      Abreast σ' s' [] (ts.foldl Outlook.terminal a) (us.foldl Outlook.token b) := by
  induction rows generalizing σ s a b row with
  | nil => exact ⟨[], σ, [], s, .nil, .refl s, h⟩
  | cons t rows ih =>
    obtain ⟨ht, hrows⟩ := List.forall_mem_cons.1 hrows
    obtain ⟨hspaces, spaces⟩ := List.forall_mem_cons.1 spaces
    rw [List.flatMap_cons, List.append_assoc] at h
    have idle (hi : s.Idle) : ¬Joint t := fun hj =>
      unpadded [] t rows [] σ rfl hj .nil
        ⟨(h.agrees.idle hi).1, (h.agrees.idle hi).2, (h.idle hi).2⟩
    obtain ⟨us, σ', ts, s', first, leads, abreast⟩ := h.step ht hall hspaces idle row
    obtain ⟨us', σ'', ts', s'', runs, leads', abreast'⟩ :=
      ih abreast hrows ((Terminals.Scan.ending_of_leads leads).trans hall) spaces
        fun before u after vs m he hj hr => unpadded (t :: before) u after (us ++ vs) m
          (by rw [he]; rfl) hj (.cons first hr)
    refine ⟨us ++ us', σ'', ts ++ ts', s'', .cons first runs, leads.trans leads', ?_⟩
    rwa [List.foldl_append, List.foldl_append]

end Abreast

end Stencil.Script
