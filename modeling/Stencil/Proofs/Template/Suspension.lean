import Mathlib.Data.List.Nodup
import Stencil.Proofs.Template.Await

/-!
# Direct inclusions

The inclusions of a section that are awaited are its direct ones: the word `include` before an
opening parenthesis, and after no dot and neither of the words `await` and `def`. The rows in which
they are awaited are tokens again, with the word `await` before each of them, and none of their
inclusions is direct any more.

## Main definitions

* `DirectInclusion` — a token begins a direct inclusion of a section.
* `Inserted` — tokens with the word `await` before some of them.

## Main results

* `awaitCalls_stable` — the tokens of a section in which the direct inclusions are awaited.
-/

namespace Stencil.Block

open Script

variable {rows : List Text} {ts ts' us us' cs : List Token} {t : Token}

/-- A significant token begins a direct inclusion, after the one before it and before the rest. -/
structure Direct (previous : Option Token) (t : Token) (rest : List Token) : Prop where
  word : t.isWord "include" = true
  called : ∃ next ∈ rest.head?, next.isOp "(" = true
  free : ∀ p ∈ previous, p.isOp "." = false ∧ p.text ≠ "await" ∧ p.text ≠ "def"

/-- A token of a section begins a direct inclusion. -/
def DirectInclusion (ts : List Token) (t : Token) : Prop :=
  ∃ before rest, ts.filter Token.significant = before ++ t :: rest ∧ Direct before.getLast? t rest

namespace DirectInclusion

theorem mem_filter (h : DirectInclusion ts t) : t ∈ ts.filter Token.significant := by
  obtain ⟨before, rest, split, -⟩ := h
  simp [split]

theorem mem (h : DirectInclusion ts t) : t ∈ ts := List.mem_of_mem_filter h.mem_filter

theorem significant (h : DirectInclusion ts t) : t.significant = true :=
  (List.mem_filter.1 h.mem_filter).2

theorem word (h : DirectInclusion ts t) : t.isWord "include" = true := by
  obtain ⟨_, _, -, direct⟩ := h
  exact direct.word

end DirectInclusion

theorem direct_iff {previous : Option Token} {rest : List Token} :
    Direct previous t rest ↔ (t.isWord "include" &&
      (match rest with
        | next :: _ => next.isOp "("
        | [] => false) &&
      match previous with
      | none => true
      | some p => !(p.isOp "." || p.text == "await" || p.text == "def")) = true := by
  simp only [Bool.and_eq_true]
  constructor
  · rintro ⟨word, ⟨next, hn, called⟩, free⟩
    refine ⟨⟨word, ?_⟩, ?_⟩
    · cases rest with
      | nil => simp at hn
      | cons n rest =>
        obtain rfl : n = next := by simpa using hn
        exact called
    · cases previous with
      | none => rfl
      | some p => simp [free p rfl]
  · rintro ⟨⟨word, called⟩, free⟩
    refine ⟨word, ?_, ?_⟩
    · cases rest with
      | nil => simp at called
      | cons n rest => exact ⟨n, rfl, called⟩
    · rintro p ⟨⟩
      simpa [and_assoc] using free

theorem includeCalls_of_direct {previous : Option Token} {rest : List Token}
    (h : Direct previous t rest) :
    includeCalls previous (t :: rest) = t.start :: includeCalls (some t) rest :=
  if_pos (direct_iff.1 h)

theorem includeCalls_of_not {previous : Option Token} {rest : List Token}
    (h : ¬Direct previous t rest) :
    includeCalls previous (t :: rest) = includeCalls (some t) rest :=
  if_neg (mt direct_iff.2 h)

/-- The significant tokens of rows stand at places of their own. -/
theorem significant_pairwise (h : tokenize rows = .ok ts) :
    (ts.filter Token.significant).Pairwise fun a b => a.start.before b.start := by
  obtain ⟨_, ordered⟩ := ordered_of_tokenize h
  rw [List.pairwise_filter]
  refine ordered.follows.imp_of_mem fun {a b} ha _ follows hs _ => ?_
  have proper := (ordered.between a ha).proper hs
  have apart := follows.apart
  unfold Pos.before Pos.upto at *
  omega

theorem significant_nodup (h : tokenize rows = .ok ts) : (ts.filter Token.significant).Nodup :=
  (significant_pairwise h).imp fun {a b} hab he => by
    subst he
    unfold Pos.before at hab
    omega

/-- Inclusions are awaited where they are direct. -/
theorem mem_includeCalls (us' : List Token) (hd : (us' ++ us).Nodup) :
    ∃ cs : List Token, includeCalls us'.getLast? us = cs.map (·.start) ∧ cs.Sublist us ∧
      ∀ t ∈ us, t ∈ cs ↔ ∃ before rest, us' ++ us = before ++ t :: rest ∧
        Direct before.getLast? t rest := by
  induction us generalizing us' with
  | nil => exact ⟨[], rfl, .slnil, by simp⟩
  | cons t us ih =>
    have assoc : us' ++ t :: us = (us' ++ [t]) ++ us := by simp
    rw [assoc] at hd ⊢
    obtain ⟨cs, hcs, sub, mem⟩ := ih (us' ++ [t]) hd
    rw [List.getLast?_concat] at hcs
    have notMem : t ∉ us' ∧ t ∉ us := by
      rw [← assoc] at hd
      have := List.nodup_middle.1 hd
      simpa using (List.nodup_cons.1 this).1
    have here : (∃ before rest, us' ++ [t] ++ us = before ++ t :: rest ∧
        Direct before.getLast? t rest) ↔ Direct us'.getLast? t us := by
      rw [← assoc]
      constructor
      · rintro ⟨before, rest, split, direct⟩
        obtain ⟨rfl, -, rfl⟩ := (List.append_cons_inj_of_notMem notMem.1 notMem.2).1 split
        exact direct
      · exact fun direct => ⟨us', us, rfl, direct⟩
    by_cases direct : Direct us'.getLast? t us
    · refine ⟨t :: cs, ?_, sub.cons_cons t, ?_⟩
      · rw [includeCalls_of_direct direct, hcs, List.map_cons]
      · rw [List.forall_mem_cons]
        refine ⟨iff_of_true List.mem_cons_self (here.2 direct), fun u hu => ?_⟩
        rw [← mem u hu, List.mem_cons]
        exact or_iff_right fun h => notMem.2 (h ▸ hu)
    · refine ⟨cs, ?_, sub.cons t, ?_⟩
      · rw [includeCalls_of_not direct, hcs]
      · rw [List.forall_mem_cons]
        exact ⟨iff_of_false (fun h => notMem.2 (sub.subset h)) (mt here.1 direct), mem⟩

/-! ## The word `await` among tokens -/

/-- Tokens with the word `await` before each of those that `p` picks. -/
inductive Inserted (p : Token → Prop) : List Token → List Token → Prop where
  | nil : Inserted p [] []
  | keep {t t' : Token} {ts ts' : List Token} (h : ¬p t) (ht : t'.bare = t.bare)
      (others : Inserted p ts ts') : Inserted p (t :: ts) (t' :: ts')
  | put {t w t' : Token} {ts ts' : List Token} (h : p t)
      (hw : w.bare = (Kind.name, Text.ofString "await")) (ht : t'.bare = t.bare) (others : Inserted p ts ts') : Inserted p (t :: ts) (w :: t' :: ts')

theorem isWord_of_bare {t t' : Token} (h : t'.bare = t.bare) (w : Text) :
    t'.isWord w = t.isWord w := by
  obtain ⟨hk, ht⟩ := Prod.mk.inj h
  rw [Token.isWord, Token.isWord, hk, ht]

theorem significant_of_bare {t t' : Token} (h : t'.bare = t.bare) : t'.significant = t.significant := by
  rw [Token.significant, Token.significant, kind_of_bare h]

namespace Inserted

variable {p q : Token → Prop}

theorem congr (h : Inserted p ts ts') (hpq : ∀ t ∈ ts, p t ↔ q t) : Inserted q ts ts' := by
  induction h with
  | nil => exact .nil
  | keep hp ht _ ih =>
    obtain ⟨here, others⟩ := List.forall_mem_cons.1 hpq
    exact .keep (mt here.2 hp) ht (ih others)
  | put hp hw ht _ ih =>
    obtain ⟨here, others⟩ := List.forall_mem_cons.1 hpq
    exact .put (here.1 hp) hw ht (ih others)

/-- Comments and layout do not matter if none of them is picked. -/
theorem significant (h : Inserted p ts ts') (hp : ∀ t, p t → t.significant = true) :
    Inserted p (ts.filter Token.significant) (ts'.filter Token.significant) := by
  induction h with
  | nil => exact .nil
  | @keep t t' ts ts' hpt ht _ ih =>
    have same := significant_of_bare ht
    cases hs : t.significant with
    | true =>
      rw [List.filter_cons_of_pos hs, List.filter_cons_of_pos (same.trans hs)]
      exact .keep hpt ht ih
    | false =>
      rw [List.filter_cons_of_neg (by simp [hs]), List.filter_cons_of_neg (by simp [same, hs])]
      exact ih
  | @put t w t' ts ts' hpt hw ht _ ih =>
    have hs := hp t hpt
    have name : w.significant = true := by
      rw [Token.significant, show w.kind = .name from congrArg Prod.fst hw]
    rw [List.filter_cons_of_pos hs, List.filter_cons_of_pos name,
      List.filter_cons_of_pos ((significant_of_bare ht).trans hs)]
    exact .put hpt hw ht ih

end Inserted

/-- Awaited inclusions with no numbers before them. -/
theorem inserted_of_rewrites (h : Rewrites cs ts ts')
    (hd : ts.Pairwise fun a b => a.significant = true → a ≠ b)
    (hw : ∀ c ∈ cs, c.significant = true)
    (hn : ∀ a ∈ ts, ∀ b ∈ cs, a.kind = .number → a.stop ≠ b.start) : Inserted (· ∈ cs) ts ts' := by
  induction h with
  | nil => exact .nil
  | @keep cs ts ts' t t' ht others ih =>
    obtain ⟨first, hd⟩ := List.pairwise_cons.1 hd
    obtain ⟨-, hn⟩ := List.forall_mem_cons.1 hn
    refine .keep (fun hm => ?_) ht (ih hd hw hn)
    exact first t (others.sublist.subset hm) (hw t hm) rfl
  | @put cs ts ts' t w t' hawait ht others ih =>
    obtain ⟨first, hd⟩ := List.pairwise_cons.1 hd
    obtain ⟨ht', hw⟩ := List.forall_mem_cons.1 hw
    obtain ⟨-, hn⟩ := List.forall_mem_cons.1 hn
    have rest := ih hd hw fun a ha b hb => hn a ha b (List.mem_cons_of_mem t hb)
    refine .put List.mem_cons_self hawait ht (rest.congr fun u hu => ?_)
    rw [List.mem_cons]
    exact (or_iff_right fun h => first u hu ht' h.symm).symm
  | @digit cs ts ts' n t n' w t' hk hstop =>
    exact absurd hstop (hn n List.mem_cons_self t List.mem_cons_self hk)

/-- No inclusion is direct any more once the direct ones are awaited. -/
theorem includeCalls_eq_nil {all : List Token} {previous : Option Token} (before : List Token)
    (h : Inserted (fun t => ∃ before rest, all = before ++ t :: rest ∧
      Direct before.getLast? t rest) us us') (hall : all = before ++ us)
    (hp : SameBare previous before.getLast?) : includeCalls previous us' = [] := by
  induction h generalizing before previous with
  | nil => rfl
  | @keep t t' us us' hnot ht others ih =>
    have not_direct : ¬Direct previous t' us' := by
      rintro ⟨word, ⟨next, hnext, called⟩, free⟩
      refine hnot ⟨before, us, hall, isWord_of_bare ht _ ▸ word, ?_, fun p hp' => ?_⟩
      · cases others with
        | nil => simp at hnext
        | @keep n n' _ _ _ hn _ =>
          obtain rfl : n' = next := by simpa using hnext
          exact ⟨n, rfl, isOp_of_bare hn _ ▸ called⟩
        | @put n w n' _ _ _ hw _ _ =>
          obtain rfl : w = next := by simpa using hnext
          rw [Token.isOp, show w.kind = .name from congrArg Prod.fst hw] at called
          exact Bool.noConfusion called
      · obtain ⟨p', rfl, hbare⟩ : ∃ p', previous = some p' ∧ p'.bare = p.bare := by
          rw [SameBare, hp'] at hp
          simpa using hp
        obtain ⟨dot, words⟩ := free p' rfl
        rw [isOp_of_bare hbare] at dot
        rw [show p'.text = p.text from congrArg Prod.snd hbare] at words
        exact ⟨dot, words⟩
    rw [includeCalls_of_not not_direct]
    exact ih (before ++ [t]) (by simp [hall]) (by simp [SameBare, ht])
  | @put t w t' us us' hdirect hw ht others ih =>
    have await : ¬Direct previous w (t' :: us') := by
      rintro ⟨word, -, -⟩
      rw [Token.isWord, show w.text = _ from congrArg Prod.snd hw, Bool.and_eq_true] at word
      exact absurd word.2 (by decide)
    have awaited : ¬Direct (some w) t' us' := by
      rintro ⟨-, -, free⟩
      exact (free w rfl).2.1 (congrArg Prod.snd hw)
    rw [includeCalls_of_not await, includeCalls_of_not awaited]
    exact ih (before ++ [t]) (by simp [hall]) (by simp [SameBare, ht])

/-- The rows of a section with every direct inclusion awaited are tokens again: the tokens of the
section with the word `await` before each direct inclusion. The section opens the same block, and
none of its inclusions is direct any more. -/
theorem awaitCalls_stable (h : tokenize rows = .ok ts)
    (apart : ∀ a ∈ ts, ∀ b ∈ ts, a.kind = .number → b.isWord "include" = true → a.stop ≠ b.start) :
    ∃ ts', tokenize (awaitCalls rows ts) = .ok ts' ∧ Inserted (DirectInclusion ts) ts ts' ∧
      headerColumn? ts' = headerColumn? ts ∧
      awaitCalls (awaitCalls rows ts) ts' = awaitCalls rows ts := by
  obtain ⟨_, ordered⟩ := ordered_of_tokenize h
  have distinct := significant_nodup h
  obtain ⟨cs, hcs, hs, mem⟩ := mem_includeCalls [] distinct
  have direct (t : Token) (ht : t ∈ ts.filter Token.significant) : t ∈ cs ↔ DirectInclusion ts t :=
    mem t ht
  have word (c : Token) (hc : c ∈ cs) : c.isWord "include" = true :=
    ((direct c (hs.subset hc)).1 hc).word
  obtain ⟨ts', tokens, header, rewrites⟩ := tokenize_awaitCalls h hcs hs word
  have significant (c : Token) (hc : c ∈ cs) : c.significant = true :=
    (List.mem_filter.1 (hs.subset hc)).2
  have chosen : Inserted (· ∈ cs) ts ts' := by
    refine inserted_of_rewrites rewrites ?_ significant fun a ha b hb hk => ?_
    · refine (List.pairwise_filter.1 distinct).imp_of_mem fun {a b} _ _ hab hs he => ?_
      exact hab hs (he ▸ hs) he
    · exact apart a ha b (List.mem_of_mem_filter (hs.subset hb)) hk (word b hb)
  have inserted : Inserted (DirectInclusion ts) ts ts' := by
    exact chosen.congr fun t _ =>
      ⟨fun hc => (direct t (hs.subset hc)).1 hc, fun h => (direct t h.mem_filter).2 h⟩
  refine ⟨ts', tokens, inserted, header, ?_⟩
  have none_ : includeCalls none (ts'.filter Token.significant) = [] := by
    exact includeCalls_eq_nil []
      (inserted.significant fun _ => DirectInclusion.significant) rfl rfl
  rw [awaitCalls, none_, List.foldr_nil]

theorem awaitCalls_stable_header :
    ∃ ts ts', tokenize ["if include('a') + 1:"] = .ok ts ∧
      tokenize (awaitCalls ["if include('a') + 1:"] ts) = .ok ts' ∧
      Inserted (DirectInclusion ts) ts ts' ∧ headerColumn? ts' = some 0 := by
  obtain ⟨ts, h, apart, header⟩ : ∃ ts, tokenize ["if include('a') + 1:"] = .ok ts ∧
      (∀ a ∈ ts, ∀ b ∈ ts, a.kind = .number → b.isWord "include" = true → a.stop ≠ b.start) ∧
      headerColumn? ts = some 0 :=
    ⟨(tokenize ["if include('a') + 1:"]).toOption.getD [], by decide +kernel⟩
  obtain ⟨ts', tokens, inserted, same, -⟩ := awaitCalls_stable h apart
  exact ⟨ts, ts', h, tokens, inserted, same.trans header⟩

end Stencil.Block
