import Stencil.Proofs.Script.Await
import Stencil.Proofs.Script.Order
import Stencil.Template.Block

/-!
# Sections with awaited inclusions

In a suspended procedure every direct inclusion of a section is awaited. The inclusions are awaited
one after another, the last of them first. Each time the rows are tokens again: the tokens before
the inclusion stay where they are, the word `await` stands before it, and the tokens from the
inclusion on stay as they are, further to the right if they stand on its row. Only a hexadecimal
number that ends where the inclusion begins takes the letter `a`.

## Main definitions

* `inclusions` — the words among tokens that begin an inclusion.
* `Rewrites` — tokens of rows in which some inclusions are awaited.

## Main results

* `tokenize_awaitAt` — rows in which one inclusion is awaited are tokens.
* `tokenize_awaits` — so are rows in which several inclusions are awaited.
* `runs_awaitCalls` — the rows of a section with every direct inclusion awaited.
-/

namespace Stencil.Script

variable {t : Text} {rows : List Text} {row n : Nat} {ts us front front' back cs : List Token}
  {token : Token}

/-! ## One inclusion -/

/-- What stands on later rows is not pushed. -/
theorem Token.push_of_lt {r : Nat} {p q : Pos} (h : token.Between p q) (hr : r < p.row) :
    token.push r = token := by
  have start := h.start
  have extent := h.extent
  unfold Pos.upto at start extent
  unfold Token.push
  rw [Pos.push_of_ne (by omega), Pos.push_of_ne (by omega)]

theorem Ordered.push {r : Nat} {p q : Pos} (h : Ordered p q ts) (hr : r < p.row) :
    ts.map (·.push r) = ts :=
  (List.map_congr_left fun t ht => Token.push_of_lt (h.between t ht) hr).trans (List.map_id ts)

namespace Tokenizer

variable {s m : Tokenizer} {r : Nat}

theorem push_of_place {s : Tokenizer} (h : r < (s.place row).row) : s.push r = s := by
  cases hw : s.within with
  | none => exact push_of_none hw r
  | some a =>
    rw [place, hw] at h
    have still : a.push r = a := by
      rw [OpenString.push, Pos.push_of_ne (Nat.ne_of_gt h)]
    unfold push
    rw [hw, Option.map_some, still, ← hw]

theorem resume_congr {s s' : Tokenizer} {scan : RowScan} (hi : s.indents = s'.indents)
    (hs : s.strict = s'.strict) : s.resume scan = s'.resume scan := by
  obtain ⟨tokens, depth, ending⟩ := scan
  cases ending <;> simp [resume, hi, hs]

/-- The scan of a row does not see where a string began that is open at its beginning. -/
theorem row_push (hr : r < row) (h : s.row row t = .ok (ts, m)) :
    (s.push r).row row t = .ok (ts.map (·.push r), m.push r) := by
  cases hw : s.within with
  | none =>
    have start : s.place row = ⟨row, 0⟩ := by rw [place, hw]
    obtain ⟨ordered, -⟩ := ordered_of_row (start ▸ Pos.upto_refl _) h
    have after := ordered.bounds
    rw [start] at ordered after
    have later : r < (m.place (row + 1)).row := by
      unfold Pos.upto at after
      simp only at after
      omega
    rw [push_of_none hw, ordered.push hr, push_of_place later, h]
  | some a =>
    have hw' : (s.push r).within = some (a.push r) := by rw [push, hw]; rfl
    have quote : (a.push r).quote = a.quote := rfl
    have here (n : Nat) : (⟨row, n⟩ : Pos).push r = ⟨row, n⟩ := Pos.push_of_ne (Nat.ne_of_gt hr)
    have moved (kind : Kind) (text : Text) (n : Nat) :
        (⟨kind, text, a.start, ⟨row, n⟩⟩ : Token).push r =
          ⟨kind, text, (a.push r).start, ⟨row, n⟩⟩ := by
      rw [Token.push, here]
      rfl
    unfold Tokenizer.row at h ⊢
    simp only [hw] at h
    simp only [hw', quote]
    cases hn : a.quote.closing? t with
    | some n =>
      simp only [hn, Except.ok.injEq, Prod.mk.injEq] at h ⊢
      obtain ⟨rfl, rfl⟩ := h
      have scan := scanRow_push_of_ne (Nat.ne_of_gt hr) n 0 s.depth t
      refine ⟨?_, ?_⟩
      · rw [List.map_cons, moved]
        exact congrArg (_ :: ·) (congrArg RowScan.tokens scan).symm
      · rw [← resume_push, scan]
        exact resume_congr rfl rfl
    | none =>
      simp only [hn] at h ⊢
      split at h
      · rename_i hgo
        simp only [Except.ok.injEq, Prod.mk.injEq] at h
        obtain ⟨rfl, rfl⟩ := h
        exact if_pos hgo
      · rename_i hgo
        simp only [Except.ok.injEq, Prod.mk.injEq] at h
        obtain ⟨rfl, rfl⟩ := h
        refine (if_neg hgo).trans ?_
        rw [List.map_singleton, moved]
        rfl

theorem Runs.push {m : Tokenizer} (hr : r < row) (h : Runs s row rows ts m) :
    Runs (s.push r) row rows (ts.map (·.push r)) (m.push r) := by
  induction h with
  | nil => exact .nil
  | cons first _ ih =>
    rw [List.map_append]
    exact .cons (row_push hr first) (ih (Nat.lt_succ_of_lt hr))

/-- Rows in which an inclusion is awaited. -/
theorem runs_await (hs : s.Marked) (hw : token.isWord inclusion = true)
    (h : Runs s row rows (front ++ token :: back) m) :
    ∃ k t front', token.start.row = row + k ∧ rows[k]? = some t ∧ Reads t token.start.column ∧
      Prefaced token.start front front' ∧ Runs s row (rows.modify k (awaitIn token.start.column))
        (front' ++ (token :: back).map (·.push token.start.row)) (m.push token.start.row) := by
  generalize hts : front ++ token :: back = ts at h
  induction h generalizing front back with
  | nil => simp at hts
  | @cons s m m' row t rows ts us first others ih =>
    -- the inclusion is on a later row, or on this one
    have later (front₁ : List Token) (hus : front₁ ++ token :: back = us) :
        ∃ k t' front', token.start.row = row + k ∧ (t :: rows)[k]? = some t' ∧
          Reads t' token.start.column ∧ Prefaced token.start (ts ++ front₁) front' ∧
          Runs s row ((t :: rows).modify k (awaitIn token.start.column))
            (front' ++ (token :: back).map (·.push token.start.row)) (m'.push token.start.row) := by
      obtain ⟨k, t', front', hk, ht', reads, prefaced, runs⟩ := ih (hs.next first) hus
      refine ⟨k + 1, t', ts ++ front', by omega, ht', reads, prefaced.append ts, ?_⟩
      rw [List.append_assoc]
      exact .cons first runs
    rcases List.append_eq_append_iff.1 hts with ⟨front₁, rfl, hus⟩ | ⟨back₁, rfl, hback⟩
    · cases front₁ with
      | nil => 
        simpa using later [] (by simpa using hus)
      | cons b back₁ =>
        obtain ⟨rfl, rfl⟩ := List.cons.inj hus
        obtain ⟨hrow, reads, front', prefaced, awaits⟩ := row_await hs hw first
        refine ⟨0, t, front', hrow, rfl, reads, prefaced, ?_⟩
        have whole := Runs.cons awaits (others.push (Nat.lt_succ_self row))
        rw [List.append_assoc, ← List.map_append] at whole
        exact hrow ▸ whole
    · exact later _ hback.symm

end Tokenizer

/-! ## The header of a section -/

/-- Tokens, if any, in the same column. -/
def SameColumn (a b : Option Token) : Prop := a.map (·.start.column) = b.map (·.start.column)

/-- The same tokens, if any, in whatever places. -/
def SameBare (a b : Option Token) : Prop := a.map Token.bare = b.map Token.bare

/-- Heads and last tokens of sections whose last statements open the same block. -/
def SameEnds (a b : Option Token × Option Token) : Prop := SameColumn a.1 b.1 ∧ SameBare a.2 b.2

theorem isOp_of_bare {t t' : Token} (h : t'.bare = t.bare) (w : Text) : t'.isOp w = t.isOp w := by
  obtain ⟨hk, ht⟩ := Prod.mk.inj h
  rw [Token.isOp, Token.isOp, hk, ht]

theorem headerColumn?_eq (h : SameEnds (Block.ends none none true ts)
    (Block.ends none none true us)) : Block.headerColumn? ts = Block.headerColumn? us := by
  unfold Block.headerColumn?
  generalize Block.ends none none true ts = a at h
  generalize Block.ends none none true us = b at h
  obtain ⟨hhead, hlast⟩ := h
  match a, b with
  | (some head, some last), (some head', some last') =>
    have column : head.start.column = head'.start.column := Option.some.inj hhead
    have bare : last.bare = last'.bare := Option.some.inj hlast
    simp only [column, isOp_of_bare bare]
  | (none, _), (none, _) => rfl
  | (some _, none), (some _, none) => rfl
  | (none, _), (some _, _) => simp [SameColumn] at hhead
  | (some _, _), (none, _) => simp [SameColumn] at hhead
  | (_, none), (_, some _) => simp [SameBare] at hlast
  | (_, some _), (_, none) => simp [SameBare] at hlast

section

variable {t : Token} {head last : Option Token} {fresh : Bool}

theorem ends_newline (hk : t.kind = .newline) :
    Block.ends head last fresh (t :: ts) = Block.ends head last true ts :=
  if_pos hk

theorem ends_significant (hs : t.significant = true) :
    Block.ends head last fresh (t :: ts) =
      Block.ends (if fresh then some t else head) (some t) false ts := by
  have hk : t.kind ≠ .newline := fun hk => by simp [Token.significant, hk] at hs
  rw [Block.ends, if_neg hk, if_pos hs]

theorem ends_layout (hk : t.kind ≠ .newline) (hs : t.significant = false) :
    Block.ends head last fresh (t :: ts) = Block.ends head last fresh ts := by
  rw [Block.ends, if_neg hk, if_neg (by simp [hs])]

end

theorem sameEnds_ends {head head' last last' : Option Token} (fresh : Bool) (ts : List Token)
    (hh : SameColumn head head') (hl : SameBare last last') :
    SameEnds (Block.ends head last fresh ts) (Block.ends head' last' fresh ts) := by
  induction ts generalizing head head' last last' fresh with
  | nil => exact ⟨hh, hl⟩
  | cons t ts ih =>
    simp only [Block.ends]
    split
    · exact ih true hh hl
    · split
      · refine ih false ?_ rfl
        split
        · rfl
        · exact hh
      · exact ih fresh hh hl

/-- Tokens behind one that is pushed: those of later statements are not. -/
theorem sameEnds_push {r : Nat} {p q : Pos} {head head' last last' : Option Token}
    (ho : Ordered p q ts) (hr : r ≤ p.row) (hh : SameColumn head head') (hl : SameBare last last') :
    SameEnds (Block.ends head last false ts)
      (Block.ends head' last' false (ts.map (·.push r))) := by
  induction ts generalizing p head head' last last' with
  | nil => exact ⟨hh, hl⟩
  | cons t ts ih =>
    have first := ho.between t List.mem_cons_self
    have start := first.start
    have extent := first.extent
    have rows : r ≤ t.start.row ∧ t.start.row ≤ t.stop.row := by
      unfold Pos.upto at start extent
      omega
    by_cases hk : t.kind = .newline
    · rw [List.map_cons, ends_newline hk, ends_newline (t := t.push r) hk,
        (ho.tail_of_newline hk).push (Nat.lt_succ_of_le rows.1)]
      exact sameEnds_ends true ts hh hl
    · have inner := Nat.le_trans rows.1 rows.2
      cases hs : t.significant with
      | true =>
        rw [List.map_cons, ends_significant hs, ends_significant (t := t.push r) hs]
        exact ih ho.tail inner hh rfl
      | false =>
        rw [List.map_cons, ends_layout hk hs, ends_layout (t := t.push r) hk hs]
        exact ih ho.tail inner hh hl

theorem sameEnds_append {us us' : List Token} (ts : List Token)
    (h : ∀ fresh head head' last last', SameColumn head head' → SameBare last last' →
      SameEnds (Block.ends head last fresh us) (Block.ends head' last' fresh us'))
    (fresh : Bool) {head head' last last' : Option Token} (hh : SameColumn head head')
    (hl : SameBare last last') :
    SameEnds (Block.ends head last fresh (ts ++ us)) (Block.ends head' last' fresh (ts ++ us')) := by
  induction ts generalizing head head' last last' fresh with
  | nil => exact h fresh _ _ _ _ hh hl
  | cons t ts ih =>
    by_cases hk : t.kind = .newline
    · rw [List.cons_append, List.cons_append, ends_newline hk, ends_newline hk]
      exact ih true hh hl
    · cases hs : t.significant with
      | true =>
        rw [List.cons_append, List.cons_append, ends_significant hs, ends_significant hs]
        refine ih false ?_ rfl
        cases fresh
        · exact hh
        · rfl
      | false =>
        rw [List.cons_append, List.cons_append, ends_layout hk hs, ends_layout hk hs]
        exact ih fresh hh hl

/-- The statement that a section leaves open stays in its column when an inclusion is awaited. -/
theorem headerColumn?_put {p q : Pos} (hw : token.isWord inclusion = true)
    (ho : Ordered p q (front ++ token :: back)) (hp : Prefaced token.start front front') :
    Block.headerColumn? (front' ++ (token :: back).map (·.push token.start.row)) =
      Block.headerColumn? (front ++ token :: back) := by
  have sig : token.significant = true := by
    have : token.kind = .name ∧ token.text = inclusion := by simpa [Token.isWord] using hw
    rw [Token.significant, this.1]
  obtain ⟨_, -, others⟩ := ho.drop front
  have behind := others.tail
  have extent := (others.between token List.mem_cons_self).extent
  have row : token.start.row ≤ token.stop.row := by
    unfold Pos.upto at extent
    omega
  refine (headerColumn?_eq ?_).symm
  cases hp with
  | word =>
    rw [List.append_assoc]
    refine sameEnds_append front (fun fresh head head' last last' hh hl => ?_) true rfl rfl
    rw [List.singleton_append, List.map_cons, ends_significant sig, ends_significant rfl,
      ends_significant (t := token.push _) sig]
    refine sameEnds_push behind row ?_ rfl
    cases fresh
    · exact hh
    · rfl
  | digit ts t hk hs =>
    have number : t.significant = true := by rw [Token.significant, hk]
    rw [List.append_assoc, List.append_assoc]
    refine sameEnds_append ts (fun fresh head head' last last' hh hl => ?_) true rfl rfl
    rw [List.singleton_append, List.cons_append, List.singleton_append, List.map_cons,
      ends_significant number, ends_significant sig, ends_significant rfl, ends_significant rfl,
      ends_significant (t := token.push _) sig]
    refine sameEnds_push behind row ?_ rfl
    cases fresh
    · exact hh
    · rfl

theorem awaitAt_eq (p : Pos) (rows : List Text) :
    Block.awaitAt p rows = rows.modify (p.row - 1) (awaitIn p.column) := rfl

/-- Rows in which an inclusion is awaited are tokens. -/
theorem tokenize_awaitAt (hw : token.isWord inclusion = true)
    (h : tokenize rows = .ok (front ++ token :: back)) :
    (∃ k t, token.start.row = k + 1 ∧ rows[k]? = some t ∧ Reads t token.start.column) ∧
      ∃ front', Prefaced token.start front front' ∧ tokenize (Block.awaitAt token.start rows) =
        .ok (front' ++ (token :: back).map (·.push token.start.row)) := by
  obtain ⟨hk, -⟩ : token.kind = .name ∧ token.text = inclusion := by simpa [Token.isWord] using hw
  obtain ⟨us, vs, m, hr, hf, hts⟩ := Tokenizer.runs_of_ofRows h
  have foreign : token ∉ vs := by
    intro hm
    rcases Tokenizer.kind_of_finish hf token hm with hk' | hk' <;> rw [hk] at hk' <;>
      exact Kind.noConfusion hk'
  obtain ⟨back₁, rfl, rfl⟩ : ∃ back₁, us = front ++ token :: back₁ ∧ back = back₁ ++ vs := by
    rcases List.append_eq_append_iff.1 hts with ⟨es, rfl, hvs⟩ | ⟨es, rfl, hvs⟩
    · cases es with
      | nil => exact absurd (hvs ▸ List.mem_cons_self : token ∈ [] ++ vs) foreign
      | cons e es =>
        obtain ⟨rfl, rfl⟩ := List.cons.inj hvs
        exact ⟨es, rfl, rfl⟩
    · exact absurd (by simp [hvs]) foreign
  obtain ⟨k, t, front', hrow, ht, reads, prefaced, runs⟩ :=
    Tokenizer.runs_await Tokenizer.marked_initial hw hr
  have hlt : k < rows.length := (List.getElem?_eq_some_iff.1 ht).1
  have none_ : m.within = none := by
    unfold Tokenizer.finish at hf
    split at hf
    · simp at hf
    · assumption
  have still : vs.map (·.push token.start.row) = vs :=
    (ordered_of_finish hf).push (by simp only; omega)
  have place : Block.awaitAt token.start rows = rows.modify k (awaitIn token.start.column) := by
    rw [awaitAt_eq, hrow, Nat.add_sub_cancel_left]
  refine ⟨⟨k, t, by omega, ht, reads⟩, front', prefaced, ?_⟩
  rw [Tokenizer.push_of_none none_] at runs
  have all := Tokenizer.ofRows_of_runs runs (by rwa [List.length_modify])
  rw [place, ← List.cons_append, List.map_append, still, ← List.append_assoc]
  exact all

/-! ## Several inclusions -/

theorem kind_of_bare {t t' : Token} (h : t'.bare = t.bare) : t'.kind = t.kind :=
  congrArg Prod.fst h

/-- Tokens of rows in which the inclusions `cs` are awaited. -/
inductive Rewrites : List Token → List Token → List Token → Prop where
  | nil : Rewrites [] [] []
  | keep {cs ts ts' : List Token} {t t' : Token} (ht : t'.bare = t.bare)
      (others : Rewrites cs ts ts') : Rewrites cs (t :: ts) (t' :: ts')
  | put {cs ts ts' : List Token} {t w t' : Token} (hw : w.bare = (Kind.name, Text.ofString "await"))
      (ht : t'.bare = t.bare) (others : Rewrites cs ts ts') :
      Rewrites (t :: cs) (t :: ts) (w :: t' :: ts')
  /-- A hexadecimal number takes the letter `a`. -/
  | digit {cs ts ts' : List Token} {n t n' w t' : Token} (hn : n.kind = .number)
      (hs : n.stop = t.start) (hn' : n'.kind = .number) (hw : w.bare = (Kind.name, Text.ofString "wait"))
      (ht : t'.bare = t.bare) (others : Rewrites cs ts ts') :
      Rewrites (t :: cs) (n :: t :: ts) (n' :: w :: t' :: ts')

namespace Rewrites

variable {ts' : List Token}

theorem sublist (h : Rewrites cs ts ts') : cs.Sublist ts := by
  induction h with
  | nil => exact .slnil
  | keep _ _ ih => exact ih.cons _
  | put _ _ _ ih => exact ih.cons_cons _
  | digit _ _ _ _ _ _ ih => exact (ih.cons_cons _).cons _

theorem push (r : Nat) (h : Rewrites cs ts ts') : Rewrites cs ts (ts'.map (·.push r)) := by
  induction h with
  | nil => exact .nil
  | keep ht _ ih => exact .keep ht ih
  | put hw ht _ ih => exact .put hw ht ih
  | digit hn hs hn' hw ht _ ih => exact .digit hn hs hn' hw ht ih

end Rewrites

/-- Rows in which several inclusions are awaited, the last of them first, are tokens. -/
theorem tokenize_awaits (front : List Token) (hs : cs.Sublist back)
    (hw : ∀ c ∈ cs, c.isWord inclusion = true) (h : tokenize rows = .ok (front ++ back)) :
    ∃ ts', tokenize ((cs.map (·.start)).foldr Block.awaitAt rows) = .ok ts' ∧
      Block.headerColumn? ts' = Block.headerColumn? (front ++ back) ∧
      ((∃ back', ts' = front ++ back' ∧ Rewrites cs back back') ∨
        ∃ before n back', front = before ++ [n] ∧ n.kind = .number ∧ ts' = before ++ back' ∧
          Rewrites cs (n :: back) back') := by
  induction hs generalizing front with
  | slnil => exact ⟨_, h, rfl, .inl ⟨[], rfl, .nil⟩⟩
  | @cons cs back t _ ih =>
    have assoc (us : List Token) : front ++ t :: us = front ++ [t] ++ us := by simp
    rw [assoc] at h ⊢
    obtain ⟨ts', tokens, header, ⟨back', rfl, rewrites⟩ | ⟨before, n, back', hfront, -, rfl, rewrites⟩⟩ :=
      ih _ hw h
    · exact ⟨_, tokens, header, .inl ⟨t :: back', (assoc back').symm, .keep rfl rewrites⟩⟩
    · obtain ⟨rfl, ht⟩ := List.append_inj' hfront rfl
      obtain rfl : t = n := by simpa using ht
      exact ⟨_, tokens, header, .inl ⟨back', rfl, rewrites⟩⟩
  | @cons_cons cs back t _ ih =>
    obtain ⟨ht, hcs⟩ := List.forall_mem_cons.1 hw
    have assoc (us : List Token) : front ++ t :: us = front ++ [t] ++ us := by simp
    rw [assoc] at h ⊢
    obtain ⟨ts', tokens, header, ⟨back', rfl, rewrites⟩ | ⟨before, n, back', hfront, hn, -⟩⟩ := ih _ hcs h
    · rw [← assoc back'] at tokens header
      obtain ⟨-, front', prefaced, put⟩ := tokenize_awaitAt ht tokens
      obtain ⟨_, ordered⟩ := ordered_of_tokenize tokens
      have pushed := rewrites.push t.start.row
      refine ⟨_, put, (headerColumn?_put ht ordered prefaced).trans header, ?_⟩
      cases prefaced with
      | word =>
        have last : Rewrites (t :: cs) (t :: back)
            (⟨.name, Text.ofString "await", t.start, ⟨t.start.row, t.start.column + 5⟩⟩ ::
              t.push t.start.row :: back'.map (·.push t.start.row)) :=
          .put rfl rfl pushed
        exact .inl ⟨_, by simp, last⟩
      | digit before n hn hstop =>
        have last : Rewrites (t :: cs) (n :: t :: back)
            (⟨.number, n.text ++ "a", n.start, ⟨t.start.row, t.start.column + 1⟩⟩ ::
              ⟨.name, Text.ofString "wait", ⟨t.start.row, t.start.column + 1⟩,
                ⟨t.start.row, t.start.column + 5⟩⟩ ::
              t.push t.start.row :: back'.map (·.push t.start.row)) :=
          .digit hn hstop rfl rfl rfl pushed
        exact .inr ⟨before, n, _, rfl, hn, by simp, last⟩
    · obtain ⟨-, htn⟩ := List.append_inj' hfront rfl
      obtain rfl : t = n := by simpa using htn
      simp [Token.isWord, hn] at ht

namespace Rewrites

variable {ts' : List Token}

theorem strings_eq (h : Rewrites cs ts ts') (hw : ∀ c ∈ cs, c.isWord inclusion = true) :
    strings ts' = strings ts := by
  have other {t : Token} (h : t.kind ≠ .string) (ts : List Token) : strings (t :: ts) = strings ts :=
    strings_cons_of_ne h ts
  have word {t : Token} {w : Text} (h : t.bare = (Kind.name, w)) : t.kind ≠ .string := by
    rw [show t.kind = .name from congrArg Prod.fst h]
    exact Kind.noConfusion
  have name {t : Token} (h : t.isWord inclusion = true) : t.kind ≠ .string := by
    have : t.kind = .name ∧ t.text = inclusion := by simpa [Token.isWord] using h
    rw [this.1]
    exact Kind.noConfusion
  induction h with
  | nil => rfl
  | @keep cs ts ts' t t' ht _ ih =>
    have kind := kind_of_bare ht
    have text : t'.text = t.text := congrArg Prod.snd ht
    have others := ih hw
    unfold strings at others ⊢
    rw [List.filter_cons, List.filter_cons, kind]
    split
    · rw [List.map_cons, List.map_cons, text, others]
    · exact others
  | put hawait ht _ ih =>
    obtain ⟨hc, hcs⟩ := List.forall_mem_cons.1 hw
    have hc' := name hc
    rw [other (word hawait), other (kind_of_bare ht ▸ hc'), other hc', ih hcs]
  | digit hn _ hn' hwait ht _ ih =>
    obtain ⟨hc, hcs⟩ := List.forall_mem_cons.1 hw
    have hc' := name hc
    rw [other (hn' ▸ Kind.noConfusion), other (word hwait), other (kind_of_bare ht ▸ hc'),
      other (hn ▸ Kind.noConfusion), other hc', ih hcs]

theorem clear (h : Rewrites cs ts ts') (clear : Clear ts) : Clear ts' := by
  have known {t : Token} {k : Kind} {w : Text} (h : t.bare = (k, w)) (hk : k ≠ .unknown) :
      t.kind ≠ .unknown := by
    rwa [show t.kind = k from congrArg Prod.fst h]
  induction h with
  | nil => exact clear
  | keep ht _ ih =>
    obtain ⟨hc, hcs⟩ := List.forall_mem_cons.1 clear
    exact List.forall_mem_cons.2 ⟨kind_of_bare ht ▸ hc, ih hcs⟩
  | put hawait ht _ ih =>
    obtain ⟨hc, hcs⟩ := List.forall_mem_cons.1 clear
    exact List.forall_mem_cons.2 ⟨known hawait Kind.noConfusion,
      List.forall_mem_cons.2 ⟨kind_of_bare ht ▸ hc, ih hcs⟩⟩
  | digit _ _ hn' hwait ht _ ih =>
    obtain ⟨-, hcs⟩ := List.forall_mem_cons.1 clear
    obtain ⟨hc, hcs⟩ := List.forall_mem_cons.1 hcs
    exact List.forall_mem_cons.2 ⟨hn' ▸ Kind.noConfusion,
      List.forall_mem_cons.2 ⟨known hwait Kind.noConfusion,
        List.forall_mem_cons.2 ⟨kind_of_bare ht ▸ hc, ih hcs⟩⟩⟩

end Rewrites

/-! ## Sections -/

/-- Direct inclusions begin with the word. -/
theorem includeCalls_eq (previous : Option Token) (ts : List Token) :
    ∃ cs : List Token, cs.Sublist ts ∧ (∀ c ∈ cs, c.isWord inclusion = true) ∧
      Block.includeCalls previous ts = cs.map (·.start) := by
  induction ts generalizing previous with
  | nil => exact ⟨[], .slnil, by simp, rfl⟩
  | cons t ts ih =>
    obtain ⟨cs, hs, hw, hcs⟩ := ih (some t)
    have either (b : Bool) (h : b = true → t.isWord inclusion = true) :
        ∃ cs' : List Token, cs'.Sublist (t :: ts) ∧ (∀ c ∈ cs', c.isWord inclusion = true) ∧
          (if b = true then t.start :: Block.includeCalls (some t) ts
            else Block.includeCalls (some t) ts) = cs'.map (·.start) := by
      cases b with
      | true =>
        exact ⟨t :: cs, hs.cons_cons t, List.forall_mem_cons.2 ⟨h rfl, hw⟩,
          congrArg (t.start :: ·) hcs⟩
      | false => exact ⟨cs, hs.cons t, hw, hcs⟩
    refine either _ fun h => ?_
    simp only [Bool.and_eq_true] at h
    exact h.1.1

/-- The rows of a section with every direct inclusion awaited are tokens again. -/
theorem tokenize_awaitCalls (h : tokenize rows = .ok ts)
    (hcs : Block.includeCalls none (ts.filter Token.significant) = cs.map (·.start))
    (hs : cs.Sublist (ts.filter Token.significant)) (hw : ∀ c ∈ cs, c.isWord inclusion = true) :
    ∃ ts', tokenize (Block.awaitCalls rows ts) = .ok ts' ∧
      Block.headerColumn? ts' = Block.headerColumn? ts ∧ Rewrites cs ts ts' := by
  obtain ⟨ts', tokens, header, ⟨_, rfl, rewrites⟩ | ⟨before, n, _, hfront, -⟩⟩ :=
    tokenize_awaits [] (hs.trans List.filter_sublist) hw h
  · exact ⟨_, by rwa [Block.awaitCalls, hcs], header, rewrites⟩
  · simp at hfront

theorem notMem_awaitAt (h10 : ∀ t ∈ rows, (10 : CodePoint) ∉ t) (p : Pos) :
    ∀ t ∈ Block.awaitAt p rows, (10 : CodePoint) ∉ t := by
  intro t ht
  rw [awaitAt_eq] at ht
  obtain ⟨i, hi, rfl⟩ := List.mem_iff_getElem.1 ht
  rw [List.getElem_modify]
  rw [List.length_modify] at hi
  have inner := h10 _ (List.getElem_mem hi)
  split
  · intro hm
    rcases List.mem_append.1 hm with hm | hm
    · rcases List.mem_append.1 hm with hm | hm
      · exact inner (List.mem_of_mem_take hm)
      · exact absurd hm (by decide)
    · exact inner (List.mem_of_mem_drop hm)
  · exact inner

theorem notMem_awaitCalls (h10 : ∀ t ∈ rows, (10 : CodePoint) ∉ t) (ts : List Token) :
    ∀ t ∈ Block.awaitCalls rows ts, (10 : CodePoint) ∉ t := by
  unfold Block.awaitCalls
  generalize Block.includeCalls none (ts.filter Token.significant) = ps
  induction ps with
  | nil => exact h10
  | cons p ps ih => exact notMem_awaitAt ih p

/-- The rows of a section with every direct inclusion awaited are tokens with the same strings, and
they leave the tokenizer idle. -/
theorem runs_awaitCalls (h10 : ∀ t ∈ rows, (10 : CodePoint) ∉ t) (h : tokenize rows = .ok ts)
    (clear : Clear ts) :
    (∀ t ∈ Block.awaitCalls rows ts, (10 : CodePoint) ∉ t) ∧
      ∃ us m, Tokenizer.initial.Runs 1 (Block.awaitCalls rows ts) us m ∧ m.Idle ∧ Clear us ∧
        strings us = strings ts := by
  have rows10 := notMem_awaitCalls h10 ts
  obtain ⟨cs, hs, hw, hcs⟩ := includeCalls_eq none (ts.filter Token.significant)
  obtain ⟨ts', tokens, -, rewrites⟩ := tokenize_awaitCalls h hcs hs hw
  obtain ⟨us, m, hr, idle, hus, lasts⟩ := tokenize_eq_ok rows10 tokens (rewrites.clear clear)
  refine ⟨rows10, us, m, hr, idle, hus, ?_⟩
  rw [← strings_lasting us, lasts, strings_lasting, rewrites.strings_eq hw]

end Stencil.Script
