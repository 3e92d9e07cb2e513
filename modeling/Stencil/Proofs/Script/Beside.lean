import Stencil.Proofs.Script.Climb

/-!
# Rows beside the same rows indented anew

The tokenizer takes rows as they are written while the scan of terminals takes them with spaces in
front, as they stand in a longer script. Both of them know the same of where statements begin, so
what the tokens show of a head at the end of the rows holds for the terminals as well.

## Main definitions

* `Shifted` — a row with spaces in front of it.
* `Aligned` — the tokenizer and the scan stand at one place of such rows.

## Main results

* `Aligned.step`, `Aligned.runs` — a row and several rows take them from one such place to another.
* `Terminals.Scan.passes_code` — the head that rows end in.
-/

namespace Stencil.Script

open Terminals (isBlank)
open Terminals.Scan (Leads Passes Quiet Joint Strip Whole)

variable {σ σ' : Tokenizer} {s s' : Terminals.Scan} {a b o : Outlook} {t u v body : Text}
  {ts xs : List Terminal} {us toks : List Token} {sv : Survey} {row m k : Nat}
  {first : Terminal} {others : List Terminal} {rows bodies : List Text}

/-- A row with `k` spaces in front of it; an empty row stays empty. -/
def Shifted (k : Nat) (t body : Text) : Prop :=
  t = [] ∧ body = [] ∨ body = List.replicate k 32 ++ t

theorem Shifted.exists_blanks (h : Shifted k t body) :
    ∃ blanks, body = blanks ++ t ∧ (∀ b ∈ blanks, isBlank b = true) ∧
      (t ≠ [] → blanks.length = k) := by
  rcases h with ⟨rfl, rfl⟩ | rfl
  · exact ⟨[], rfl, nofun, fun hn => absurd rfl hn⟩
  · exact ⟨_, rfl, fun b hb => by rw [(List.mem_replicate.1 hb).2]; rfl,
      fun _ => List.length_replicate⟩

/-! ## A row -/

/-- A statement is to begin behind a row that ends one. -/
theorem Tokenizer.Takes.fresh (h : σ.Takes t sv us σ') (he : sv.ending = .plain) (hd : σ'.depth ≤ 0)
    (hidle : σ.within = none → σ.depth = 0 ∧ σ.joined = false → o.fresh = true) :
    (us.foldl Outlook.token o).fresh = true := by
  cases h with
  | quiet outside idle _ silent =>
    rw [Outlook.foldl_token_quiet silent]
    exact hidle outside idle
  | @scan layout scan indents signs bears begins =>
    obtain ⟨ts, es, tokens, -, closes⟩ := bears.line
    rw [he] at closes
    obtain ⟨e, rfl, hk⟩ := closes
    have shut : ¬scan.depth > 0 := by
      rw [Tokenizer.resume_depth] at hd
      exact Int.not_lt.2 hd
    rw [if_neg shut] at hk
    rw [tokens, ← List.append_assoc, List.foldl_concat, Outlook.token, if_pos hk]

/-- A row that holds nothing but a backslash shows nothing. -/
theorem survey_joint (h : Joint t) : survey 0 t = some (.only .joined) := by
  rw [survey_dropWhile, isGap_eq, h]
  rfl

namespace Outlook

/-- A header is shown at the column of the row by whoever a statement is to begin for. -/
theorem header?_row {x n : Nat} (h : (initial.row x sv).header? = some n) :
    x = n ∧ ∀ (o : Outlook) (y : Nat), o.fresh = true → (o.row y sv).header? = some y := by
  unfold row at h ⊢
  split at h
  · cases h
  · cases h
  · simp only [header?, sign, initial, ↓reduceIte, Option.ite_none_right_eq_some,
      Option.some.injEq] at h
    exact ⟨h.2, fun o y ho => by simp only [header?, sign, ho, h.1, ↓reduceIte]⟩

@[simp]
theorem header?_ended {p : Prop} [Decidable p] (o : Outlook) : (o.ended p).header? = o.header? := by
  unfold ended
  split <;> rfl

end Outlook

/-- Where a statement is to begin behind terminals of a row, these are layout, and a line behind them
has the first sign of the row. -/
theorem Terminals.Scan.Strip.line {idle : Prop} {within : Option Quote} {t : Terminal}
    (h : Strip idle within body ts) (he : ts = xs ++ (first :: others ++ [t]))
    (visible : ∀ u ∈ first :: others, u.isVisible = true) (newline : t.kind = .newline)
    (fresh : (xs.foldl Outlook.terminal o).fresh = true) :
    (∀ x ∈ xs, x.kind = .indent ∨ x.kind = .dedent) ∧ (¬idle → xs = []) ∧
      (idle → first.text.head? = (body.dropWhile isBlank).head?) ∧
      (within.isSome = true → first.kind = .string) := by
  obtain ⟨ls, vs, es, layout, signs, ended, busy, begins, string⟩ := h
  have hfirst := visible first List.mem_cons_self
  have split : ls ++ vs = xs ++ (first :: others) := by
    rcases ended with rfl | ⟨t', rfl, -⟩
    · -- the end of the line is none of the signs
      rw [List.append_nil, ← List.append_assoc] at he
      have mem : t ∈ ls ++ vs := he ▸ List.mem_append_right _ (List.mem_singleton_self t)
      rcases List.mem_append.1 mem with hm | hm
      · rcases layout t hm with hk | hk <;> simp [newline] at hk
      · exact absurd newline (Terminal.isVisible_kind (signs t hm)).2.2
    · rw [← List.append_assoc, ← List.append_assoc] at he
      exact (List.append_inj' he rfl).1
  have parts : xs = ls ∧ vs = first :: others := by
    rcases List.append_eq_append_iff.1 split with ⟨c, rfl, rfl⟩ | ⟨c, rfl, hc⟩
    · cases hc : c with
      | nil => simp
      | cons y ys =>
        subst hc
        have signs : ∀ u ∈ y :: ys, u.isVisible = true := fun u hu =>
          signs u (List.mem_append_left _ hu)
        have final := List.getLast?_eq_some_getLast (List.cons_ne_nil y ys)
        rw [List.foldl_append, Terminals.Scan.foldl_layout layout, Terminals.Scan.foldl_terminal signs,
          List.head?_cons, final] at fresh
        cases fresh
    · cases hc' : c with
      | nil =>
        subst hc'
        exact ⟨(List.append_nil _).symm, hc.symm⟩
      | cons y ys =>
        subst hc'
        obtain ⟨rfl, -⟩ := List.cons.inj hc
        have kind := Terminal.isVisible_kind hfirst
        rcases layout first (by simp) with hk | hk
        · exact absurd hk kind.1
        · exact absurd hk kind.2.1
  obtain ⟨rfl, rfl⟩ := parts
  exact ⟨layout, busy, fun hi => begins hi first rfl, fun hw => string hw first rfl⟩

/-- The words that heads begin with are letters. -/
theorem letter_of_headWord :
    ∀ w ∈ Parse.headWords, ∃ c, w.head? = some c ∧ CodePoint.isAsciiLetter c = true := by
  have letters : ∀ w ∈ Parse.headWords, w.head?.any CodePoint.isAsciiLetter = true := by decide
  exact fun w hw => (Option.any_eq_true _ _).1 (letters w hw)

/-- The tokenizer stands at a place in rows where the scan of terminals stands, which takes them with
spaces in front, and both know whether a statement is to begin. -/
structure Aligned (σ : Tokenizer) (s : Terminals.Scan) (v : Text) (a b : Outlook) : Prop where
  agrees : σ.Agrees s v
  idle : s.Idle → a.fresh = true ∧ b.fresh = true
  busy : ¬s.Idle → σ.within = none → a.fresh = false

namespace Aligned

theorem initial (hi : s.Idle) (hc : s.column = 0) : Aligned .initial s s.rest .initial .initial where
  agrees := ⟨by rw [hi.2]; rfl, .fresh [] nofun hi.1 hc rfl (by simp) rfl, rfl⟩
  idle _ := ⟨rfl, rfl⟩
  busy hn := absurd hi hn

/-- A row that both of them have passed. -/
theorem passed (h : Aligned σ s u a b)
    (passes : Passes body v s σ.joined (σ.within.map (·.quote)) m sv ts s')
    (hb : body.dropWhile isBlank = t.dropWhile isBlank) (takes : σ.Takes t sv us σ')
    (agrees : σ'.Agrees s' v) :
    Aligned σ' s' v (ts.foldl Outlook.terminal a) (us.foldl Outlook.token b) := by
  have terminals := passes.looks a (fun hi => (h.idle hi).1) fun hb hn =>
    h.busy hb (Option.map_eq_none_iff.1 hn)
  have ending := takes.ending
  have whole (hi : s.Idle) : survey 0 body = some sv := by
    have survey := passes.survey
    rwa [passes.outside (by rw [(h.agrees.idle hi).1]; rfl), List.drop_zero] at survey
  have joint (hi : s.Idle) (hj : Joint body) : sv = .only .joined :=
    Option.some.inj ((whole hi).symm.trans (survey_joint hj))
  refine ⟨agrees, fun hi => ?_, fun busy hw => ?_⟩
  · rcases passes.idle hi with plain | ⟨idle, hj⟩
    · rw [plain] at terminals
      have same : s'.ahead (Survey.Ending.quote? .plain) (ts.foldl Outlook.terminal a) =
          ts.foldl Outlook.terminal a := rfl
      refine ⟨?_, takes.fresh plain (by rw [agrees.depth, hi.2]; exact Int.le_refl 0) fun hw hin =>
        (h.idle (h.agrees.idle_of hw hin)).2⟩
      rw [← same, terminals]
      exact Outlook.ended_of ⟨rfl, hi.2⟩ _
    · obtain rfl := joint idle hj
      obtain ⟨fresh, fresh'⟩ := h.idle idle
      have hw := (h.agrees.idle idle).1
      have before : σ.ahead b = b := by rw [Tokenizer.ahead, hw]
      have behind (o : Outlook) : σ'.ahead o = o := by
        rw [Tokenizer.ahead, Option.map_eq_none_iff.1 ending.2]
      rw [hw] at terminals
      have tokens := takes.looks (o := b) (fun _ => ⟨hw, .inr ?_⟩) fun _ _ => fresh'
      · rw [before, behind] at tokens
        have unsaid (o : Outlook) (n : Nat) (p : Prop) [Decidable p] :
            (o.row n (.only .joined)).ended (Survey.Ending.joined = .plain ∧ p) = o :=
          if_neg fun hn => Survey.Ending.noConfusion hn.1
        exact ⟨(congrArg Outlook.fresh (terminals.trans (unsaid a _ _))).trans fresh,
          (congrArg Outlook.fresh (tokens.trans (unsaid b _ _))).trans fresh'⟩
      · rw [isGap_eq, ← hb, hj]
        decide
  · have none_ : sv.ending.quote? = none := by rw [← ending.2, hw]; rfl
    have same : s'.ahead sv.ending.quote? (ts.foldl Outlook.terminal a) =
        ts.foldl Outlook.terminal a := by rw [none_]; rfl
    have open_ : ¬(sv.ending = .plain ∧ s'.brackets = []) := fun hp => by
      have stands := passes.stands
      rw [hp.1] at stands
      cases stands with
      | fresh _ _ fresh => exact busy ⟨fresh, hp.2⟩
    rw [← same, terminals, Outlook.ended_of_not open_]
    by_cases hi : s.Idle
    · have begun : ¬Joint body := fun hj => busy (passes.padded hi hj)
      by_cases hq : Quiet body
      · have nothing : sv = .only .plain :=
          Option.some.inj ((whole hi).symm.trans (Tokenizer.survey_of_quiet hq))
        refine absurd ⟨by rw [nothing]; rfl, ?_⟩ open_
        have depth := passes.depth
        rw [nothing, hi.2] at depth
        exact List.length_eq_zero_iff.1 (Int.ofNat.inj depth)
      · obtain ⟨colon, he⟩ := Outlook.row_of_signs (x := (body.takeWhile isBlank).length)
          (signs_of_survey (whole hi) hq begun) (s.ahead (σ.within.map (·.quote)) a)
        rw [he]
        rfl
    · refine Outlook.row_fresh ?_
      cases hw : σ.within with
      | none => exact h.busy hi hw
      | some string => rfl

/-- A row takes the tokenizer and the scan on. -/
theorem step (h : Aligned σ s (body ++ 10 :: v) a b) (hs : Shifted k t body) (ht : (10 : CodePoint) ∉ t)
    (hall : s.all.ending = .complete) (hrow : σ.row row t = .ok (us, σ')) :
    ∃ ts s', Leads s ts s' ∧
      Aligned σ' s' v (ts.foldl Outlook.terminal a) (us.foldl Outlook.token b) := by
  obtain ⟨blanks, rfl, hb, -⟩ := hs.exists_blanks
  rcases h.agrees.passes_behind hb ht hall with ⟨string, text, hw, on, agrees⟩ |
    ⟨m, sv, ts, s', passes, takes⟩
  · obtain ⟨rfl, rfl⟩ := Prod.mk.inj (Except.ok.inj ((on row).symm.trans hrow))
    exact ⟨[], s, .refl s, agrees, h.idle, fun _ hn => absurd hn (Option.some_ne_none _)⟩
  · obtain ⟨takes, agrees⟩ := takes row us σ' hrow
    exact ⟨ts, s', passes.leads, h.passed passes (List.dropWhile_append_of_pos hb) takes agrees⟩

/-- Rows take the tokenizer and the scan on. -/
theorem runs (h : Aligned σ s (bodies.flatMap (· ++ [10]) ++ v) a b)
    (hs : List.Forall₂ (Shifted k) rows bodies) (hrows : ∀ t ∈ rows, (10 : CodePoint) ∉ t)
    (hall : s.all.ending = .complete) (hr : σ.Runs row rows us σ') :
    ∃ ts s', Leads s ts s' ∧
      Aligned σ' s' v (ts.foldl Outlook.terminal a) (us.foldl Outlook.token b) := by
  induction hr generalizing s a b bodies with
  | nil =>
    cases hs
    exact ⟨[], s, .refl s, h⟩
  | @cons _ _ _ row _ _ us vs first _ ih =>
    cases hs with
    | @cons _ body _ bodies shifted hs =>
      obtain ⟨ht, hrows⟩ := List.forall_mem_cons.1 hrows
      rw [List.flatMap_cons, List.append_assoc, List.append_assoc] at h
      obtain ⟨ts, s', leads, aligned⟩ := h.step shifted ht hall first
      obtain ⟨ts', s'', leads', aligned'⟩ :=
        ih aligned hs hrows ((Terminals.Scan.ending_of_leads leads).trans hall)
      refine ⟨ts ++ ts', s'', leads.trans leads', ?_⟩
      rwa [List.foldl_append, List.foldl_append]

/-- The last row. A head in it stands where the tokens show a header. -/
theorem last (h : Aligned σ s (body ++ 10 :: v) a b) (hs : Shifted k t body)
    (ht : (10 : CodePoint) ∉ t) (hall : s.all.ending = .complete)
    (hrow : σ.row row t = .ok (us, σ')) (hw' : σ'.within = none) :
    ∃ ts s', Leads s ts s' ∧
      Aligned σ' s' v (ts.foldl Outlook.terminal a) (us.foldl Outlook.token b) ∧
      ∀ xs first others u, ts = xs ++ (first :: others ++ [u]) →
        (∀ x ∈ first :: others, x.isVisible = true) → u.kind = .newline →
        (xs.foldl Outlook.terminal a).fresh = true → OpensBlock first others →
        ∃ n, first.span.column = k + n ∧ (us.foldl Outlook.token b).header? = some n := by
  obtain ⟨blanks, rfl, hb, hlength⟩ := hs.exists_blanks
  rcases h.agrees.passes_behind hb ht hall with ⟨string, text, -, on, -⟩ |
    ⟨m, sv, ts, s', passes, takes⟩
  · obtain ⟨-, rfl⟩ := Prod.mk.inj (Except.ok.inj ((on row).symm.trans hrow))
    cases hw'
  obtain ⟨takes, agrees⟩ := takes row us σ' hrow
  have blank : (blanks ++ t).dropWhile isBlank = t.dropWhile isBlank := List.dropWhile_append_of_pos hb
  refine ⟨ts, s', passes.leads, h.passed passes blank takes agrees,
    fun xs first others u he visible newline fresh ⟨start, head, line⟩ => ?_⟩
  obtain ⟨layout, busy, begins, string⟩ := passes.strip.line he visible newline fresh
  obtain ⟨⟨w, hw, word⟩, colon⟩ := Parse.last_of_opened line
  simp only [Terminal.isWord, Bool.and_eq_true, beq_iff_eq] at word
  -- the line begins on this row
  have idle : s.Idle := by
    refine Classical.byContradiction fun hi => ?_
    rw [busy hi] at fresh
    cases hq : σ.within with
    | none => exact Bool.noConfusion ((h.busy hi hq).symm.trans fresh)
    | some q =>
      rw [hq] at string
      exact Kind.noConfusion (word.1.symm.trans (string rfl))
  have outside := (h.agrees.idle idle).1
  have survey : survey 0 t = some sv := by
    have survey := passes.survey
    rwa [passes.outside (by rw [outside]; rfl), List.drop_zero, survey_dropWhile, isGap_eq, blank,
      ← isGap_eq, ← survey_dropWhile] at survey
  obtain ⟨c, rest, hc, letter⟩ : ∃ c rest, t.dropWhile isGap = c :: rest ∧ c.isAsciiLetter = true := by
    obtain ⟨c, text, letter⟩ := letter_of_headWord w hw
    have begun := begins idle
    rw [word.2, text, blank, ← isGap_eq] at begun
    obtain ⟨rest, hc⟩ := List.head?_eq_some_iff.1 begun.symm
    exact ⟨c, rest, hc, letter⟩
  have known : lexeme (t.dropWhile isGap) ≠ .unknown := by
    rw [survey_dropWhile, hc] at survey
    rw [hc]
    rcases lexeme_of_letter_cases survey letter with ⟨_, _, -, ⟨_, hl⟩ | hl⟩ | ⟨-, hl⟩ <;> rw [hl] <;>
      exact Lexeme.noConfusion
  -- what the terminals of the row show
  have looks := passes.looks .initial (fun _ => rfl) fun hn => absurd idle hn
  have ending : sv.ending.quote? = none := by rw [← takes.ending.2, hw']; rfl
  have shown : (ts.foldl Outlook.terminal .initial).header? = some first.span.column := by
    rw [he, List.foldl_append, Terminals.Scan.foldl_layout layout,
      Outlook.foldl_line visible newline rfl, Outlook.item, Outlook.header?, if_pos colon]
  have header : (Outlook.initial.row ((blanks ++ t).takeWhile isBlank).length sv).header? =
      some first.span.column := by
    have header := congrArg Outlook.header? looks
    rw [ending, outside, Outlook.header?_ended] at header
    exact header.symm.trans shown
  have column := Outlook.header?_row header
  have before : σ.ahead b = b := by rw [Tokenizer.ahead, outside]
  have behind (o : Outlook) : σ'.ahead o = o := by rw [Tokenizer.ahead, hw']
  have tokens := congrArg Outlook.header? (takes.looks (o := b) (fun _ => ⟨outside, .inr known⟩)
    fun _ _ => (h.idle idle).2)
  rw [Outlook.header?_ended, before, behind, column.2 b _ (h.idle idle).2] at tokens
  refine ⟨_, ?_, tokens⟩
  rw [← column.1, List.takeWhile_append_of_pos hb, List.length_append, hlength fun hn => ?_]
  rw [hn] at hc
  cases hc

end Aligned

/-! ## Rows -/

theorem Shifted.notMem (h : Shifted k t body) (ht : (10 : CodePoint) ∉ t) : (10 : CodePoint) ∉ body := by
  rcases h with ⟨rfl, rfl⟩ | rfl
  · exact List.not_mem_nil
  · simp only [List.mem_append, not_or]
    exact ⟨fun hm => absurd (List.mem_replicate.1 hm).2 (by decide), ht⟩

theorem notMem_of_shifted (h : List.Forall₂ (Shifted k) rows bodies)
    (hrows : ∀ t ∈ rows, (10 : CodePoint) ∉ t) : ∀ t ∈ bodies, (10 : CodePoint) ∉ t := by
  induction h with
  | nil => nofun
  | cons shifted _ ih =>
    obtain ⟨ht, hrows⟩ := List.forall_mem_cons.1 hrows
    exact List.forall_mem_cons.2 ⟨shifted.notMem ht, ih hrows⟩

theorem lineFeeds_rows (h : ∀ t ∈ rows, (10 : CodePoint) ∉ t) :
    Text.lineFeeds (rows.flatMap (· ++ [10])) = rows.length := by
  induction rows with
  | nil => rfl
  | cons t rows ih =>
    obtain ⟨ht, h⟩ := List.forall_mem_cons.1 h
    rw [List.flatMap_cons, Text.lineFeeds_append, Text.lineFeeds_append,
      Terminals.Scan.lineFeeds_of_notMem ht, ih h, List.length_cons, Nat.zero_add, Nat.add_comm]
    rfl

theorem getLast?_rows (h : rows ≠ []) : (rows.flatMap (· ++ [10])).getLast? = some (10 : CodePoint) := by
  obtain ⟨before, t, rfl⟩ := (List.eq_nil_or_concat rows).resolve_left h
  rw [List.concat_eq_append, List.flatMap_append, List.flatMap_singleton, ← List.append_assoc,
    List.getLast?_concat]

theorem Outlook.fresh_items {items : List Item} (h : o.fresh = true) :
    (items.foldl Outlook.item o).fresh = true := by
  induction items generalizing o with
  | nil => exact h
  | cons item items ih => exact ih (by cases item <;> first | rfl | exact h)

/-- What a scan stands before is left to it. -/
theorem Terminals.Scan.Stands.suffix {joined : Bool} {within : Option Quote}
    (h : Terminals.Scan.Stands v s joined within) : v <:+ s.rest := by
  cases h with
  | fresh bs _ _ _ rest => exact ⟨_, rest.symm⟩
  | joined _ rest => exact rest ▸ List.suffix_refl _
  | within n _ _ rest => exact rest ▸ List.drop_suffix _ _

/-- Rows that are tokens on their own are passed with spaces in front of them, up to a place before a
statement. A head that stands in the last row is where the tokens show a header. -/
theorem Terminals.Scan.leads_rows (hs : List.Forall₂ (Shifted k) rows bodies)
    (hrows : ∀ t ∈ rows, (10 : CodePoint) ∉ t) (hne : rows ≠ []) (ht : tokenize rows = .ok toks)
    (hi : s.Idle) (hc : s.column = 0) (hr : s.rest = bodies.flatMap (· ++ [10]) ++ v)
    (hw : Whole s.rest) (hall : s.all.ending = .complete) :
    ∃ ts s', Leads s ts s' ∧ s'.Idle ∧ s'.column = 0 ∧ s'.rest = v ∧
      ∀ before first others, Item.ofTerminals [] ts = before ++ [.line first others] →
        OpensBlock first others → s.row + bodies.length ≤ first.span.row + 1 →
        ∃ n, first.span.column = k + n ∧
          (toks.foldl Outlook.token .initial).header? = some n := by
  obtain ⟨us, vs, m, hruns, hf, rfl⟩ := Tokenizer.runs_of_ofRows ht
  have silent : ∀ t ∈ vs, t.kind ≠ .newline ∧ t.significant = false := fun t ht => by
    rcases Tokenizer.kind_of_finish hf t ht with hk | hk <;> simp [hk, Token.significant]
  obtain ⟨outside, still⟩ : m.within = none ∧ m.depth = 0 ∧ m.joined = false := by
    unfold Tokenizer.finish at hf
    split at hf
    · cases hf
    · rename_i hn
      split at hf
      · rename_i hj
        exact ⟨hn, hj⟩
      · cases hf
  obtain ⟨rows, t, rfl⟩ := (List.eq_nil_or_concat rows).resolve_left hne
  rw [List.concat_eq_append] at hs hrows hruns
  obtain ⟨bodies, body, init, shifted, rfl⟩ : ∃ xs x, List.Forall₂ (Shifted k) rows xs ∧
      Shifted k t x ∧ bodies = xs ++ [x] := by
    have reversed := List.forall₂_reverse_iff.2 hs
    rw [List.reverse_append] at reversed
    generalize hb : bodies.reverse = bs at reversed
    cases reversed with
    | @cons _ body _ bs shifted init =>
      exact ⟨bs.reverse, body, List.forall₂_reverse_iff.1 (by rwa [List.reverse_reverse]), shifted,
        by rw [← List.reverse_reverse bodies, hb, List.reverse_cons]⟩
  obtain ⟨us₁, us₂, m₁, runs₁, runs₂, rfl⟩ := Tokenizer.runs_append_iff.1 hruns
  rw [List.flatMap_append, List.flatMap_singleton, List.append_assoc, List.append_assoc] at hr
  have hrows' : ∀ t ∈ rows, (10 : CodePoint) ∉ t := fun x hx => hrows x (List.mem_append_left _ hx)
  have aligned := Aligned.initial hi hc
  rw [hr] at aligned
  obtain ⟨ts₁, s₁, leads₁, aligned₁⟩ := aligned.runs init hrows' hall runs₁
  have hall₁ := (ending_of_leads leads₁).trans hall
  cases runs₂ with
  | cons last none_ =>
  cases none_
  obtain ⟨ts₂, s₂, leads₂, aligned₂, found⟩ :=
    aligned₁.last shifted (hrows t (by simp)) hall₁ last outside
  have idle := aligned₂.agrees.idle_of outside still
  have leads := leads₁.trans leads₂
  have stands := aligned₂.agrees.stands
  rw [outside, still.2] at stands
  obtain ⟨column, rest⟩ : s₂.column = 0 ∧ s₂.rest = v := by
    generalize hj : false = joined at stands
    cases stands with
    | fresh bs blank fresh column rest ne padded =>
      obtain rfl : bs = [] := by simpa [← hj] using padded
      exact ⟨column, rest⟩
    | joined fresh => exact absurd idle.1 (by simp [fresh])
  refine ⟨_, s₂, leads, idle, column, rest, fun before first others he opens hrow => ?_⟩
  obtain ⟨xs, u, r, split, newline, visible, cut⟩ := (leads.cut hi idle hw).of_last he
  have above (hm : first ∈ ts₁) : False := by
    have below := leads₁.row_lt hr aligned₁.agrees.stands.suffix
      (fun hn => getLast?_rows fun he => hn (by rw [he]; rfl)) hm (visible first List.mem_cons_self)
    rw [lineFeeds_rows (notMem_of_shifted init hrows')] at below
    rw [List.length_append, List.length_singleton] at hrow
    omega
  obtain ⟨ys, rfl, hys⟩ : ∃ ys, xs = ts₁ ++ ys ∧ ts₂ = ys ++ (first :: others ++ [u]) := by
    rcases List.append_eq_append_iff.1 split with ⟨c, hx, hc⟩ | ⟨c, hx, hc⟩
    · exact ⟨c, hx, hc⟩
    · cases c with
      | nil => exact ⟨[], by simpa using hx.symm, hc.symm⟩
      | cons y ys =>
        obtain ⟨rfl, -⟩ := List.cons.inj hc
        exact (above (by simp [hx])).elim
  have fresh : (ys.foldl Outlook.terminal (ts₁.foldl Outlook.terminal .initial)).fresh = true := by
    rw [← List.foldl_append, cut.looks rfl]
    exact Outlook.fresh_items rfl
  obtain ⟨n, column, header⟩ := found ys first others u hys visible newline fresh opens
  refine ⟨n, column, ?_⟩
  rw [List.foldl_append, List.foldl_append, Outlook.foldl_token_quiet silent, List.append_nil]
  exact header

end Stencil.Script
