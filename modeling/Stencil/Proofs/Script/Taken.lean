import Stencil.Proofs.Script.Suite

/-!
# What parsers take

Parsers take terminals from the front of a line. What matters here is the last terminal that they
take: an expression or a simple statement never ends in a colon, though there may be colons inside
of it. Parsers are of three grades in this respect, and the grade of one parser after another follows
from theirs.

## Main definitions

* `Took` — the terminals between two cursors end in one that is no colon.
* `Passes`, `Rests`, `Closes` — a parser takes any terminals; takes none or ends in no colon; takes
  some and ends in no colon.
* `Asks` — a parser tells whether something comes next, and takes it if it does.

## Main results

* `Closes.bind`, `Passes.closes`, `Asks.closes` — one parser after another.
* `asks_op?`, `asks_word?` — what single terminals are taken.
-/

namespace Stencil.Script

namespace Parser

/-- The terminals between two cursors end in one that is no colon. -/
def Took (c c' : Cursor) : Prop :=
  ∃ (ts : List Terminal) (t : Terminal), c.rest = ts ++ t :: c'.rest ∧ t.isOp ":" = false

theorem Took.of_suffix {c c' c'' : Cursor} (h : c'.rest <:+ c.rest) (k : Took c' c'') :
    Took c c'' := by
  obtain ⟨us, hus⟩ := h
  obtain ⟨ts, t, hts, ht⟩ := k
  exact ⟨us ++ ts, t, by rw [← hus, hts, List.append_assoc], ht⟩

theorem Took.suffix {c c' : Cursor} (h : Took c c') : c'.rest <:+ c.rest := by
  obtain ⟨ts, t, hts, -⟩ := h
  exact ⟨ts ++ [t], by rw [hts, List.append_assoc]; rfl⟩

theorem Took.congr {c c' d' : Cursor} (h : Took c c') (hd : d'.rest = c'.rest) : Took c d' := by
  obtain ⟨ts, t, hts, ht⟩ := h
  exact ⟨ts, t, by rw [hd, hts], ht⟩

variable {α β : Type} {p q : Parser α} {f : α → Parser β} {w : Text}

/-- A parser takes terminals from the front. -/
def Passes (p : Parser α) : Prop :=
  ∀ ⦃c a c'⦄, p c = .ok (a, c') → c'.rest <:+ c.rest

/-- A parser takes nothing, or what it takes ends in no colon. -/
def Rests (p : Parser α) : Prop :=
  ∀ ⦃c a c'⦄, p c = .ok (a, c') → c'.rest = c.rest ∨ Took c c'

/-- A parser takes something that ends in no colon. -/
def Closes (p : Parser α) : Prop :=
  ∀ ⦃c a c'⦄, p c = .ok (a, c') → Took c c'

/-! ## One parser after another -/

theorem Closes.rests (h : Closes p) : Rests p := fun _ _ _ hp => .inr (h hp)

theorem Rests.passes (h : Rests p) : Passes p := fun _ _ _ hp => by
  rcases h hp with he | ht
  · exact ⟨[], he⟩
  · exact ht.suffix

theorem Closes.passes (h : Closes p) : Passes p := h.rests.passes

theorem Passes.bind (h : Passes p) (hf : ∀ a, Passes (f a)) : Passes (p >>= f) := by
  intro c b c' hb
  obtain ⟨a, u, hp, hb⟩ := Parse.exists_of_bind_ok hb
  exact (hf a hb).trans (h hp)

theorem Rests.bind (h : Rests p) (hf : ∀ a, Rests (f a)) : Rests (p >>= f) := by
  intro c b c' hb
  obtain ⟨a, u, hp, hb⟩ := Parse.exists_of_bind_ok hb
  rcases h hp with he | ht
  · rcases hf a hb with he' | ht'
    · exact .inl (he'.trans he)
    · exact .inr (ht'.of_suffix (he ▸ List.suffix_refl _))
  · rcases hf a hb with he' | ht'
    · exact .inr (ht.congr he')
    · exact .inr (ht'.of_suffix ht.suffix)

/-- A parser after any other ends as it does on its own. -/
theorem Passes.closes (h : Passes p) (hf : ∀ a, Closes (f a)) : Closes (p >>= f) := by
  intro c b c' hb
  obtain ⟨a, u, hp, hb⟩ := Parse.exists_of_bind_ok hb
  exact (hf a hb).of_suffix (h hp)

theorem Closes.bind (h : Closes p) (hf : ∀ a, Rests (f a)) : Closes (p >>= f) := by
  intro c b c' hb
  obtain ⟨a, u, hp, hb⟩ := Parse.exists_of_bind_ok hb
  rcases hf a hb with he | ht
  · exact (h hp).congr he
  · exact ht.of_suffix (h hp).suffix

theorem rests_pure (a : α) : Rests (pure a : Parser α) := by
  intro c b c' h
  obtain ⟨-, rfl⟩ := Prod.mk.inj (Except.ok.inj h)
  exact .inl rfl

theorem closes_throw (e : SyntaxFault) : Closes (throw e : Parser α) := fun _ _ _ h => nomatch h

theorem closes_failAt (row : Nat) : Closes (failAt row : Parser α) := closes_throw _

theorem rests_row : Rests row := by
  intro c b c' h
  obtain ⟨-, rfl⟩ := Prod.mk.inj (Except.ok.inj h)
  exact .inl rfl

theorem closes_fail : Closes (fail : Parser α) := rests_row.passes.closes fun _ => closes_throw _

theorem Closes.map {g : α → β} (h : Closes p) : Closes (g <$> p) := by
  rw [← bind_pure_comp]
  exact h.bind fun a => rests_pure _

theorem Passes.map {g : α → β} (h : Passes p) : Passes (g <$> p) := by
  rw [← bind_pure_comp]
  exact h.bind fun a => (rests_pure _).passes

theorem closes_ite {b : Prop} [Decidable b] (h : Closes p) (k : Closes q) :
    Closes (if b then p else q) := by
  split
  · exact h
  · exact k

theorem rests_ite {b : Prop} [Decidable b] (h : Rests p) (k : Rests q) :
    Rests (if b then p else q) := by
  split
  · exact h
  · exact k

theorem passes_ite {b : Prop} [Decidable b] (h : Passes p) (k : Passes q) :
    Passes (if b then p else q) := by
  split
  · exact h
  · exact k

/-- Two ways to a value that the parser goes on with. -/
theorem passes_choice {b : Prop} [Decidable b] (h : Passes p) (k : Passes q)
    (hf : ∀ a, Passes (f a)) : Passes (if b then p >>= f else q >>= f) :=
  passes_ite (h.bind hf) (k.bind hf)

/-- A parser goes on unless something forbids it. -/
theorem passes_guard {b : Prop} [Decidable b] {g : Unit → Parser β} (h : Passes (g ())) :
    Passes (if b then fail >>= g else g ()) :=
  passes_ite (closes_fail.passes.bind fun _ => h) h

theorem Rests.mapM {g : α → Parser β} (h : ∀ a, Rests (g a)) (as : List α) :
    Rests (as.mapM g) := by
  induction as with
  | nil =>
    rw [List.mapM_nil]
    exact rests_pure _
  | cons a as ih =>
    rw [List.mapM_cons]
    exact (h a).bind fun b => ih.bind fun bs => rests_pure _

/-! ## Single terminals -/

theorem rests_here : Rests here := by
  intro c b c' h
  obtain ⟨-, rfl⟩ := Prod.mk.inj (Except.ok.inj h)
  exact .inl rfl

theorem rests_since (start : Span) : Rests (since start) := by
  intro c b c' h
  obtain ⟨-, rfl⟩ := Prod.mk.inj (Except.ok.inj h)
  exact .inl rfl

theorem rests_peek : Rests peek := by
  intro c b c' h
  obtain ⟨-, rfl⟩ := Prod.mk.inj (Except.ok.inj h)
  exact .inl rfl

theorem rests_get : Rests (get : Parser Cursor) := by
  intro c b c' h
  obtain ⟨-, rfl⟩ := Prod.mk.inj (Except.ok.inj h)
  exact .inl rfl

theorem passes_take : Passes take := by
  intro c t c' h
  unfold take at h
  split at h
  · rename_i u rest hr
    obtain ⟨-, rfl⟩ := Prod.mk.inj (Except.ok.inj h)
    exact hr ▸ List.suffix_cons u rest
  · simp at h

/-- A terminal that is no punctuation is no colon. -/
theorem isOp_of_kind {t : Terminal} (h : t.kind ≠ .op) : t.isOp w = false := by
  simp [Terminal.isOp, h]

theorem isOp_of_isOp {t : Terminal} {v : Text} (h : t.isOp w = true) (hw : w ≠ v) :
    t.isOp v = false := by
  simp only [Terminal.isOp, Bool.and_eq_true, beq_iff_eq] at h
  simp [Terminal.isOp, h.2, hw]

/-- The next terminal is taken, which is no colon. -/
theorem took_take {t u : Terminal} {c c' : Cursor} (hc : c.rest.head? = some t)
    (ht : t.isOp ":" = false) (h : take c = .ok (u, c')) : Took c c' := by
  unfold take at h
  split at h
  · rename_i v rest hr
    rw [hr, List.head?_cons, Option.some.injEq] at hc
    obtain ⟨-, rfl⟩ := Prod.mk.inj (Except.ok.inj h)
    exact ⟨[], t, by rw [hr, hc]; rfl, ht⟩
  · simp at h

/-- A parser tells whether something comes next, and takes it if it does. -/
def Asks (p : Parser Bool) : Prop :=
  ∀ ⦃c a c'⦄, p c = .ok (a, c') → if a then Took c c' else c' = c

theorem Asks.closes {p : Parser Bool} {yes no : Parser α} (h : Asks p) (hyes : Rests yes)
    (hno : Closes no) : Closes (p >>= fun b => if b then yes else no) := by
  intro c a c' hb
  obtain ⟨b, u, hp, ha⟩ := Parse.exists_of_bind_ok hb
  have asked := h hp
  cases b with
  | true =>
    rcases hyes ha with he | ht
    · exact Took.congr asked he
    · exact ht.of_suffix asked.suffix
  | false =>
    obtain rfl : u = c := asked
    exact hno ha

theorem Asks.rests {p : Parser Bool} {yes no : Parser α} (h : Asks p) (hyes : Rests yes)
    (hno : Rests no) : Rests (p >>= fun b => if b then yes else no) := by
  intro c a c' hb
  obtain ⟨b, u, hp, ha⟩ := Parse.exists_of_bind_ok hb
  have asked := h hp
  cases b with
  | true =>
    rcases hyes ha with he | ht
    · exact .inr (Took.congr asked he)
    · exact .inr (ht.of_suffix asked.suffix)
  | false =>
    obtain rfl : u = c := asked
    exact hno ha

theorem Asks.passes {p : Parser Bool} (h : Asks p) : Passes p := by
  intro c a c' hp
  have asked := h hp
  cases a with
  | true => exact Took.suffix asked
  | false =>
    obtain rfl : c' = c := asked
    exact List.suffix_refl _

/-- A parser never yields a certain value. -/
def Never (b : β) (p : Parser β) : Prop := ∀ ⦃c c'⦄, p c ≠ .ok (b, c')

theorem never_pure {a b : α} (h : a ≠ b) : Never b (pure a : Parser α) := fun _ _ hp =>
  absurd (Prod.mk.inj (Except.ok.inj hp)).1 h

theorem Never.map {g : α → β} {b : β} (h : ∀ a, g a ≠ b) : Never b (g <$> p) := by
  intro c c' hp
  obtain ⟨a, -, ha⟩ := Parse.exists_of_map_ok hp
  exact h a ha

theorem Never.bind {b : β} (hf : ∀ a, Never b (f a)) : Never b (p >>= f) := by
  intro c c' h
  obtain ⟨a, u, -, h⟩ := Parse.exists_of_bind_ok h
  exact hf a h

theorem never_fail (a : α) : Never a (fail : Parser α) := Never.bind fun _ _ _ h => nomatch h

theorem never_ite {b : Prop} [Decidable b] {a : α} (h : Never a p) (k : Never a q) :
    Never a (if b then p else q) := by
  split
  · exact h
  · exact k

/-- A parser takes nothing where it finds nothing. -/
def Declines (p : Parser (Option β)) : Prop := ∀ ⦃c c'⦄, p c = .ok (none, c') → c' = c

theorem Never.declines {p : Parser (Option β)} (h : Never none p) : Declines p := fun _ _ hp =>
  absurd hp (@h _ _)

theorem declines_none : Declines (pure none : Parser (Option β)) := fun _ _ h =>
  (Prod.mk.inj (Except.ok.inj h)).2.symm

theorem Declines.bind_peek {f : Option Terminal → Parser (Option β)}
    (hf : ∀ next, Declines (f next)) : Declines (peek >>= f) := by
  intro c c' h
  obtain ⟨next, u, hp, h⟩ := Parse.exists_of_bind_ok h
  obtain ⟨rfl, rfl⟩ := Prod.mk.inj (Except.ok.inj hp)
  exact hf _ h

theorem Asks.declines {p : Parser Bool} {yes no : Parser (Option β)} (h : Asks p)
    (hyes : Never none yes) (hno : Declines no) :
    Declines (p >>= fun b => if b then yes else no) := by
  intro c c' hb
  obtain ⟨b, u, hp, ha⟩ := Parse.exists_of_bind_ok hb
  have asked := h hp
  cases b with
  | true => exact absurd ha (@hyes _ c')
  | false =>
    obtain rfl : u = c := asked
    exact hno ha

/-- Something that is asked for has to come next. -/
theorem Asks.required {p : Parser Bool} (h : Asks p) :
    Closes (p >>= fun b => if b then pure () else fail) :=
  h.closes (rests_pure ()) closes_fail

theorem word?_eq (w : Text) (c : Cursor) :
    word? w c = match c.rest with
      | t :: rest => if t.isWord w then .ok (true, ⟨rest, t.span⟩) else .ok (false, c)
      | [] => .ok (false, c) := by
  obtain ⟨ts, last⟩ := c
  cases ts with
  | nil => rfl
  | cons t ts => exact Parse.word?_cons w t ts last

theorem op?_eq (w : Text) (c : Cursor) :
    op? w c = match c.rest with
      | t :: rest => if t.isOp w then .ok (true, ⟨rest, t.span⟩) else .ok (false, c)
      | [] => .ok (false, c) := by
  obtain ⟨ts, last⟩ := c
  cases ts with
  | nil => rfl
  | cons t ts =>
    have at_ : atOp w ⟨t :: ts, last⟩ = .ok (t.isOp w, ⟨t :: ts, last⟩) := rfl
    change _ = if t.isOp w then _ else _
    unfold op?
    rw [bind_ok _ at_]
    cases t.isOp w <;> rfl

theorem asks_word? (w : Text) : Asks (word? w) := by
  intro c a c' h
  rw [word?_eq] at h
  split at h
  · rename_i t rest hr
    split at h
    · rename_i ht
      obtain ⟨rfl, rfl⟩ := Prod.mk.inj (Except.ok.inj h)
      simp only [Terminal.isWord, Bool.and_eq_true, beq_iff_eq] at ht
      exact ⟨[], t, hr, isOp_of_kind (by simp [ht.1])⟩
    · obtain ⟨rfl, rfl⟩ := Prod.mk.inj (Except.ok.inj h)
      rfl
  · obtain ⟨rfl, rfl⟩ := Prod.mk.inj (Except.ok.inj h)
    rfl

theorem asks_op? (hw : w ≠ ":") : Asks (op? w) := by
  intro c a c' h
  rw [op?_eq] at h
  split at h
  · rename_i t rest hr
    split at h
    · rename_i ht
      obtain ⟨rfl, rfl⟩ := Prod.mk.inj (Except.ok.inj h)
      exact ⟨[], t, hr, isOp_of_isOp ht hw⟩
    · obtain ⟨rfl, rfl⟩ := Prod.mk.inj (Except.ok.inj h)
      rfl
  · obtain ⟨rfl, rfl⟩ := Prod.mk.inj (Except.ok.inj h)
    rfl

theorem passes_op? (w : Text) : Passes (op? w) := by
  intro c a c' h
  rw [op?_eq] at h
  split at h
  · rename_i t rest hr
    split at h
    · obtain ⟨-, rfl⟩ := Prod.mk.inj (Except.ok.inj h)
      exact hr ▸ List.suffix_cons t rest
    · obtain ⟨-, rfl⟩ := Prod.mk.inj (Except.ok.inj h)
      exact List.suffix_refl _
  · obtain ⟨-, rfl⟩ := Prod.mk.inj (Except.ok.inj h)
    exact List.suffix_refl _

/-- Something is asked for that may be a colon, with more after it. -/
theorem rests_op? {yes no : Parser α} (hyes : Closes yes) (hno : Rests no) :
    Rests (op? w >>= fun b => if b then yes else no) := by
  intro c a c' hb
  obtain ⟨b, u, hp, ha⟩ := Parse.exists_of_bind_ok hb
  cases b with
  | true => exact .inr ((hyes ha).of_suffix (passes_op? w hp))
  | false =>
    rw [op?_eq] at hp
    split at hp
    · split at hp
      · simp at hp
      · obtain ⟨-, rfl⟩ := Prod.mk.inj (Except.ok.inj hp)
        exact hno ha
    · obtain ⟨-, rfl⟩ := Prod.mk.inj (Except.ok.inj hp)
      exact hno ha

theorem closes_word (w : Text) : Closes (word w) := (asks_word? w).required

theorem closes_op (hw : w ≠ ":") : Closes (op w) := (asks_op? hw).required

theorem passes_op (w : Text) : Passes (op w) :=
  (passes_op? w).bind fun _ => passes_ite (rests_pure ()).passes closes_fail.passes

theorem rests_atOp (w : Text) : Rests (atOp w) := rests_peek.bind fun _ => rests_pure _

theorem rests_atWord (w : Text) : Rests (atWord w) := rests_peek.bind fun _ => rests_pure _

/-- What comes next decides how to go on. -/
theorem closes_peek {f : Option Terminal → Parser α} (hnone : Closes (f none))
    (hsome : ∀ t c a c', c.rest.head? = some t → f (some t) c = .ok (a, c') → Took c c') :
    Closes (peek >>= f) := by
  intro c a c' h
  obtain ⟨found, u, hp, h⟩ := Parse.exists_of_bind_ok h
  obtain ⟨rfl, rfl⟩ := Prod.mk.inj (Except.ok.inj hp)
  cases ht : c.rest.head? with
  | none =>
    rw [ht] at h
    exact hnone h
  | some t =>
    rw [ht] at h
    exact hsome t c a c' ht h

/-- The next terminal is taken, which is no colon, before something else. -/
theorem took_take_bind {f : Terminal → Parser α} {t : Terminal} {c c' : Cursor} {a : α}
    (hc : c.rest.head? = some t) (ht : t.isOp ":" = false) (hf : ∀ u, Rests (f u))
    (h : (take >>= f) c = .ok (a, c')) : Took c c' := by
  obtain ⟨u, d, hp, h⟩ := Parse.exists_of_bind_ok h
  rcases hf u h with he | hd
  · exact (took_take hc ht hp).congr he
  · exact hd.of_suffix (took_take hc ht hp).suffix

theorem closes_name : Closes name := by
  refine closes_peek closes_fail fun t c a c' hc h => ?_
  simp only at h
  split at h
  · rename_i hn
    refine took_take_bind hc (isOp_of_kind ?_) (fun u => rests_pure _) h
    simp only [Terminal.isName, Bool.and_eq_true, beq_iff_eq] at hn
    simp [hn.1]
  · exact closes_fail h

end Parser

end Stencil.Script
