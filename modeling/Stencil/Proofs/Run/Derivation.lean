import Stencil.Proofs.Run.Layer

/-!
# Derivations

How the process of a script comes to its end, told as a tree: for each of its parts how the part came
to its own end. The leaves are what is done in one go. What holds of every step of the tree holds of
the whole.

## Main definitions

* `Layer.Bounds`, `Framed` — where code stands inside layers.
* `Standing` — where a process stands.
* `Exec` — a derivation.
* `Exec.Sub`, `Exec.Part` — what stands directly within a derivation, and what stands anywhere
  within it.

## Main results

* `Exec.goes` — what is derived is how a process goes.
* `Exec.grown` — what is derived makes a machine grow.
* `Exec.Part.within`, `Exec.Part.framed` — what stands within a derivation goes on within its
  process, and where its code stands.
* `Exec.Part.split` — at each place around a part of a derivation a node is at work.
-/

namespace Stencil

open Script

variable {α β : Type} {K : Code → Prop} {A : Replies} {m m' m'' m₁ m₂ : Machine} {r : Ref}

/-! ## Where code stands -/

namespace Layer

/-- The code in which a process stands outside and inside a layer. A call of code is entered from
outside of code; from inside of it nothing goes on but at one of its spots, which is outside of code
again. -/
def Bounds (K : Code → Prop) : Layer → Option Code → Option Code → Prop
  | place c spot, σ, σ' => σ = some c ∧ spot ∈ c.spots ∧ σ' = none
  | enter c, σ, σ' => σ = none ∧ K c ∧ σ' = some c
  | guard, σ, σ' | run _, σ, σ' | forget _, σ, σ' => σ = none ∧ σ' = none
  | unbind .., σ, σ' | except _, σ, σ' | final _, σ, σ' => σ' = σ

end Layer

/-- The code in which a process stands outside and inside of layers. -/
def Framed (K : Code → Prop) : Option Code → List Layer → Option Code → Prop
  | σ, [], σ' => σ' = σ
  | σ, ℓ :: ls, σ'' => ∃ σ', ℓ.Bounds K σ σ' ∧ Framed K σ' ls σ''

/-- Where a process stands: in code or outside of it, and while which exception is being handled. -/
structure Standing where
  code : Option Code
  handling : Option Ref

/-- If there is an exception it is being handled. -/
def Standing.handles (σ : Standing) (handled : Option Ref) : Standing :=
  { σ with handling := handled.or σ.handling }

/-! ## Derivations -/

/-- A derivation of how a process, which stands somewhere, goes from one machine to another. -/
inductive Exec (K : Code → Prop) (A : Replies) :
    Standing → {α : Type} → Proc α → Machine → Outcome α → Machine → Prop
  /-- Something is done in one go; in code nothing is raised like that. -/
  | calm {σ : Standing} {α : Type} {p : Proc α} {m m' : Machine} {o : Outcome α} (hp : p.CalmAt K m)
      (h : p.Goes A m o m') (outside : ∀ r, o = .raised r → σ.code = none) : Exec K A σ p m o m'
  /-- An exception that there is already is raised again; in code it is the one that is being
  handled. -/
  | throw {σ : Standing} {α : Type} (r : Ref) (m : Machine)
      (again : σ.code = none ∨ σ.handling = some r) :
      Exec K A σ (Proc.throw r : Proc α) m (.raised r) m
  | value {σ : Standing} {α β : Type} {p : Proc β} {f : β → Proc α} {a : β} {m m₁ m' : Machine}
      {o : Outcome α} (first : Exec K A σ p m (.value a) m₁) (rest : Exec K A σ (f a) m₁ o m') :
      Exec K A σ (p >>= f) m o m'
  | raised {σ : Standing} {α β : Type} {p : Proc β} {f : β → Proc α} {r : Ref} {m m' : Machine}
      (first : Exec K A σ p m (.raised r) m') : Exec K A σ (p >>= f) m (.raised r) m'
  | exhausted {σ : Standing} {α β : Type} {p : Proc β} {f : β → Proc α} {m m' : Machine}
      (first : Exec K A σ p m .exhausted m') : Exec K A σ (p >>= f) m .exhausted m'
  | layer {σ : Standing} {code : Option Code} {α : Type} {ℓ : Layer} {C : Proc α → Proc α}
      {p : Proc α} {m m₁ m' : Machine} {o o₁ : Outcome α} (around : Around (some ℓ) C)
      (plain : ℓ.IsPlain) (bounds : ℓ.Bounds K σ.code code) (fits : ℓ.Fits p)
      (inner : Exec K A { σ with code } p m o₁ m₁)
      (rest : (C (Proc.ofOutcome o₁)).Goes A m₁ o m') : Exec K A σ (C p) m o m'
  /-- Code is called. It may be that it does not know of the exception that is being handled. -/
  | enter {c : Code} {handling inside : Option Ref} {α : Type} {p : Proc α} {m m' : Machine}
      {o : Outcome α} (known : K c) (activation : Activation c p)
      (knows : inside = none ∨ inside = handling) (inner : Exec K A ⟨some c, inside⟩ p m o m') :
      Exec K A ⟨none, handling⟩ p m o m'
  /-- A body goes well, and something is done after it. -/
  | orelse {σ : Standing} {clauses : Ref → Guards} {orelse body : Proc Flow}
      {m m₁ m' : Machine} {o : Outcome Flow} (first : Exec K A σ body m (.value .normal) m₁)
      (rest : Exec K A σ orelse m₁ o m') : Exec K A σ (guarded clauses orelse body) m o m'
  /-- The exception of a body is handled. -/
  | handled {σ : Standing} {c : Code} {clauses : Ref → Guards} {orelse body : Proc Flow} {r : Ref}
      {m m₁ m' : Machine} {o : Outcome Flow} (inside : σ.code = some c)
      (first : Exec K A σ body m (.raised r) m₁)
      (rest : Exec K A (σ.handles (some r)) (handledBy r (clauses r)) m₁ o m') :
      Exec K A σ (guarded clauses orelse body) m o m'
  /-- A body has its own end. -/
  | unhandled {σ : Standing} {clauses : Ref → Guards} {orelse body : Proc Flow}
      {m m' : Machine} {o : Outcome Flow} (first : Exec K A σ body m o m')
      (leaves : o ≠ .value .normal) (quiet : ∀ r, o ≠ .raised r) :
      Exec K A σ (guarded clauses orelse body) m o m'
  | finished {σ : Standing} {c : Code} {clause : Option Ref → Proc Flow} {p : Proc Flow}
      {m m₁ m' : Machine} {o₁ o₂ : Outcome Flow} (inside : σ.code = some c)
      (first : Exec K A σ p m o₁ m₁) (ends : o₁ ≠ .exhausted)
      (rest : Exec K A (σ.handles o₁.raised?) (clause o₁.raised?) m₁ o₂ m') :
      Exec K A σ (finishing clause p) m (afterClause o₁ o₂) m'
  | unfinished {σ : Standing} {clause : Option Ref → Proc Flow} {p : Proc Flow}
      {m m' : Machine} (first : Exec K A σ p m .exhausted m') :
      Exec K A σ (finishing clause p) m .exhausted m'
  /-- A run passes through all of its stages, and goes on. -/
  | run {handling : Option Ref} {β : Type} {path : Path} {d : Delimiters} {opening : Ref → Proc β}
      {inner : Ref → β → Proc Unit} {a : β} {m m₁ m₂ m' : Machine} {o o₁ : Outcome Unit}
      (opens : Opens K A m.next (opening m.next) (m.created path d) 4 (.value a) m₁)
      (inside : Exec K A ⟨none, handling⟩ (inner m.next a) m₁ o₁ m₂)
      (rest : (Run.concluding m.next (Proc.ofOutcome o₁)).Goes A m₂ o m') :
      Exec K A ⟨none, handling⟩ (Run.create path d >>= fun run =>
        Run.concluding run (opening run >>= inner run)) m o m'
  /-- A run comes to its end on the way through its stages. -/
  | stopped {handling : Option Ref} {β : Type} {path : Path} {d : Delimiters}
      {opening : Ref → Proc β} {inner : Ref → β → Proc Unit} {k : Nat} {m m₁ m' : Machine}
      {o : Outcome Unit} {o₁ : Outcome β} {o₂ : Outcome Unit}
      (opens : Opens K A m.next (opening m.next) (m.created path d) k o₁ m₁)
      (stops : ∀ a, o₁ ≠ .value a) (ends : o₂.raised? = o₁.raised? ∧ ∀ a, o₂ ≠ .value a)
      (rest : (Run.concluding m.next (Proc.ofOutcome o₂)).Goes A m₁ o m') :
      Exec K A ⟨none, handling⟩ (Run.create path d >>= fun run =>
        Run.concluding run (opening run >>= inner run)) m o m'

section Runs

variable {path : Path} {d : Delimiters} {opening : Ref → Proc β} {inner : Ref → β → Proc Unit}
  {o o₁ o₂ : Outcome Unit} {o' : Outcome β} {a : β} {k : Nat}

/-- A run goes on to its end after it has passed through all of its stages. -/
theorem Opens.goes_run
    (opens : Opens K A m.next (opening m.next) (m.created path d) 4 (.value a) m₁)
    (inside : (inner m.next a).Goes A m₁ o₁ m₂)
    (rest : (Run.concluding m.next (Proc.ofOutcome o₁)).Goes A m₂ o m') :
    (Run.create path d >>= fun run =>
      Run.concluding run (opening run >>= inner run)).Goes A m o m' := by
  refine Proc.goes_bind.2 (.inl ⟨_, _, (Proc.goes_of_done rfl).2 ⟨rfl, rfl⟩, ?_⟩)
  exact Run.goes_concluding.2 ⟨_, _, Proc.goes_bind.2 (.inl ⟨_, _, opens.goes, inside⟩), rest⟩

/-- A run goes on to its end on the way through its stages. -/
theorem Opens.goes_stopped
    (opens : Opens K A m.next (opening m.next) (m.created path d) k o' m₁)
    (stops : ∀ a, o' ≠ .value a) (ends : o₂.raised? = o'.raised? ∧ ∀ a, o₂ ≠ .value a)
    (rest : (Run.concluding m.next (Proc.ofOutcome o₂)).Goes A m₁ o m') :
    (Run.create path d >>= fun run =>
      Run.concluding run (opening run >>= inner run)).Goes A m o m' := by
  refine Proc.goes_bind.2 (.inl ⟨_, _, (Proc.goes_of_done rfl).2 ⟨rfl, rfl⟩, ?_⟩)
  exact Run.goes_concluding.2 ⟨o₂, m₁, opens.goes_bind stops ends, rest⟩

end Runs

namespace Exec

variable {σ : Standing} {p : Proc α} {o : Outcome α}

/-- What is derived is how a process goes. -/
theorem goes (h : Exec K A σ p m o m') : p.Goes A m o m' := by
  induction h with
  | calm hp h outside => exact h
  | throw r m again => exact Proc.goes_throw.2 ⟨rfl, rfl⟩
  | value first rest ih ih' => exact Proc.goes_bind.2 (.inl ⟨_, _, ih, ih'⟩)
  | raised first ih => exact Proc.goes_bind.2 (.inr (.inl ⟨_, ih, rfl⟩))
  | exhausted first ih => exact Proc.goes_bind.2 (.inr (.inr ⟨ih, rfl⟩))
  | layer around plain bounds fits inner rest ih =>
    exact (goes_of_eq_bind around.eq_bind).2 ⟨_, _, ih, rest⟩
  | enter known activation knows inner ih => exact ih
  | orelse first rest ih ih' => exact goes_guarded.2 (.inl ⟨_, ih, ih'⟩)
  | handled inside first rest ih ih' => exact goes_guarded.2 (.inr (.inl ⟨_, _, ih, ih'⟩))
  | unhandled first leaves quiet ih => exact goes_guarded.2 (.inr (.inr ⟨ih, leaves, quiet⟩))
  | finished inside first ends rest ih ih' =>
    exact goes_finishing.2 (.inr ⟨_, _, _, ends, ih, ih', rfl⟩)
  | unfinished first ih => exact goes_finishing.2 (.inl ⟨ih, rfl⟩)
  | run opens inside rest ih => exact opens.goes_run ih rest
  | stopped opens stops ends rest => exact opens.goes_stopped stops ends rest

end Exec

/-- An error passes a layer that does not do more than to pass errors on: it is located, or that is
calm. -/
theorem Layer.Passes.grows {ℓ : Layer} {r' : Ref} {m m' : Machine} (hp : ℓ.IsPlain)
    (h : ℓ.Passes K A r m r' m') :
    (∃ c spot, ℓ = .place c spot ∧ m' = m.located r c spot) ∨
      (∀ c spot, ℓ ≠ .place c spot) ∧ m.Grows K [] m' := by
  cases ℓ with
  | place c spot => exact .inl ⟨c, spot, rfl, h.2⟩
  | guard =>
    refine .inr ⟨fun _ _ h => (by cases h), ?_⟩
    simp only [Layer.Passes] at h
    split at h <;> obtain ⟨rfl, rfl⟩ := h
    · exact .alloc ⟨fun _ h => (by cases h), by rintro _ ⟨⟩; rfl⟩
    · exact .refl K _
  | forget key =>
    obtain ⟨rfl, rfl⟩ := h
    exact .inr ⟨fun _ _ h => (by cases h),
      .of_heap_eq rfl rfl ⟨[], (List.append_nil _).symm, rfl⟩ ⟨[], (List.append_nil _).symm⟩⟩
  | unbind own id =>
    obtain ⟨rfl, rfl⟩ := h
    exact .inr ⟨fun _ _ h => (by cases h), .updateNames⟩
  | enter | run | except | final => exact hp.elim

/-- A process inside a layer that does not do more than to pass errors on. -/
theorem Around.plain {ℓ : Layer} {C : Proc α → Proc α} {o₁ o : Outcome α} (h : Around (some ℓ) C)
    (hp : ℓ.IsPlain) (rest : (C (Proc.ofOutcome o₁)).Goes A m₁ o m') :
    (∃ r r', o₁ = .raised r ∧ o = .raised r' ∧ ℓ.Passes K A r m₁ r' m') ∨
      o = o₁ ∧ (∀ r, o₁ ≠ .raised r) ∧ m₁.Grows K [] m' := by
  by_cases hr : ∃ r, o₁ = .raised r
  · obtain ⟨r, rfl⟩ := hr
    obtain ⟨r', rfl, h⟩ | ⟨_, _, ht, -⟩ := h.ends ((Proc.goes_of_done rfl).2 ⟨rfl, rfl⟩)
      (.refl K m₁) rest fun hn => absurd hp hn
    · exact .inl ⟨_, r', rfl, rfl, h⟩
    · cases ht <;> exact hp.elim
  · refine .inr ?_
    have hn (r : Ref) : o₁ ≠ .raised r := fun h => hr ⟨r, h⟩
    match o₁ with
    | .raised r => exact absurd rfl (hn r)
    | .value a =>
      cases h with
      | unbind own id =>
        obtain ⟨rfl, rfl⟩ := (Proc.goes_of_done rfl).1 rest
        exact ⟨rfl, hn, .updateNames⟩
      | except | final => exact hp.elim
      | _ =>
        obtain ⟨rfl, rfl⟩ := (Proc.goes_of_done rfl).1 rest
        exact ⟨rfl, hn, .refl K _⟩
    | .exhausted =>
      cases h with
      | except | final => exact hp.elim
      | _ =>
        obtain ⟨rfl, rfl⟩ := (Proc.goes_of_done rfl).1 rest
        exact ⟨rfl, hn, .refl K _⟩

/-- What a layer makes of a machine that does not do more than to pass errors on. -/
theorem Around.grown {ℓ : Layer} {C : Proc α → Proc α} {o₁ o : Outcome α} (h : Around (some ℓ) C)
    (hp : ℓ.IsPlain) (rest : (C (Proc.ofOutcome o₁)).Goes A m₁ o m') : m₁.Grown K m' := by
  obtain ⟨r, r', rfl, rfl, hr⟩ | ⟨-, -, hg⟩ := h.plain (K := K) hp rest
  · obtain ⟨c, spot, rfl, rfl⟩ | ⟨-, hg⟩ := hr.grows hp
    · exact .located
    · exact hg.grown
  · exact hg.grown

/-- At its end a run passes into at most one more state. -/
theorem Run.grows_concluding {run : Ref} {o₁ o : Outcome Unit} (hr : m.HasOther run)
    (h : (concluding run (Proc.ofOutcome o₁)).Goes A m o m') :
    ∃ last : Option RunState, m.Grows K (last.toList.map (run, ·)) m' ∧
      ∀ state, last = some state → state = .failed ∨ o₁ = .value () ∧ state = .completed := by
  obtain ⟨-, rfl⟩ := goes_concluding_ofOutcome.1 h
  cases o₁ with
  | value a => exact ⟨some .completed, .advanced hr, by rintro _ ⟨⟩; exact .inr ⟨rfl, rfl⟩⟩
  | exhausted => exact ⟨none, .refl K m, fun _ h => nomatch h⟩
  | raised r =>
    dsimp only
    split
    · exact ⟨some .failed, .advanced hr, by rintro _ ⟨⟩; exact .inl rfl⟩
    · exact ⟨none, .refl K m, fun _ h => nomatch h⟩

/-- The passages of a run with those that are nested in it. -/
theorem Machine.Grown.ofRun {path : Path} {d : Delimiters} {k : Nat} {m₂ : Machine}
    {last : Option RunState} (opening : (m.created path d).Grows K (passagesThrough m.next k) m₁)
    (inner : m₁.Grown K m₂) (quiet : k ≠ 4 → m₂ = m₁)
    (ending : m₂.Grows K (last.toList.map (m.next, ·)) m')
    (ends : ∀ state, last = some state → state = .failed ∨ k = 4 ∧ state = .completed) :
    m.Grown K m' := by
  have begins : m.Grows K (passagesThrough m.next k) m₁ := Grows.created.trans opening
  refine ⟨ending.directory.trans (inner.directory.trans begins.directory), ?_, ?_,
    fun hk => ending.knows (inner.knows (begins.knows hk)),
    fun r hr => ending.stays r (inner.stays r (begins.stays r hr)), ?_⟩
  rotate_left
  · exact (begins.keeps.trans (inner.keeps.mono fun _ _ _ => trivial) begins.size).trans
      ending.keeps (Nat.le_trans begins.size inner.size)
  · obtain ⟨es₁, he₁⟩ := begins.events
    obtain ⟨es₂, he₂⟩ := inner.events
    obtain ⟨es₃, he₃⟩ := ending.events
    exact ⟨es₁ ++ (es₂ ++ es₃), by rw [he₃, he₂, he₁, List.append_assoc, List.append_assoc]⟩
  obtain ⟨w₁, hw₁, hp₁⟩ := begins.log
  obtain ⟨w₂, hw₂, hn⟩ := inner.log
  obtain ⟨w₃, hw₃, hp₃⟩ := ending.log
  refine ⟨w₁ ++ (w₂ ++ w₃), by rw [hw₃, hw₂, hw₁, List.append_assoc, List.append_assoc], ?_⟩
  rw [passagesOf_append, passagesOf_append, hp₁, hp₃]
  refine .single (hn.mono ?_ ending.size) (fun hne => ?_) ends
  · exact next_created (m := m) ▸ opening.size
  · refine Decidable.byContradiction fun hk => hne ?_
    obtain rfl : w₂ = [] := by simpa [quiet hk] using hw₂
    rfl

section Runs

variable {path : Path} {d : Delimiters} {p : Proc β} {o o₁ : Outcome Unit} {o' : Outcome β} {k : Nat}

/-- What a run makes of a machine that has passed through all of its stages. -/
theorem Opens.grown_run {a : β}
    (opens : Opens K A m.next p (m.created path d) 4 (.value a) m₁) (inside : m₁.Grown K m₂)
    (rest : (Run.concluding m.next (Proc.ofOutcome o₁)).Goes A m₂ o m') : m.Grown K m' := by
  obtain ⟨last, ending, ends⟩ := Run.grows_concluding (inside.hasOther opens.hasOther) rest
  exact .ofRun opens.grows inside (absurd rfl ·) ending fun state hs =>
    (ends state hs).imp_right fun h => ⟨rfl, h.2⟩

/-- What a run makes of a machine that comes to its end on the way through its stages. -/
theorem Opens.grown_stopped (opens : Opens K A m.next p (m.created path d) k o' m₁)
    (stops : ∀ a, o₁ ≠ .value a)
    (rest : (Run.concluding m.next (Proc.ofOutcome o₁)).Goes A m₁ o m') : m.Grown K m' := by
  obtain ⟨last, ending, finals⟩ := Run.grows_concluding opens.hasOther rest
  exact .ofRun opens.grows (.refl K _) (fun _ => rfl) ending fun state hs =>
    (finals state hs).imp_right fun h => absurd h.1 (stops ())

end Runs

namespace Exec

variable {σ : Standing} {p : Proc α} {o : Outcome α}

/-- What is derived makes a machine grow. -/
theorem grown (h : Exec K A σ p m o m') : m.Grown K m' := by
  induction h with
  | calm hp h outside => exact (hp _ _ _ h).1.grown
  | throw r m again => exact .refl K m
  | value first rest ih ih' => exact ih.trans ih'
  | raised first ih => exact ih
  | exhausted first ih => exact ih
  | layer around plain bounds fits inner rest ih => exact ih.trans (around.grown plain rest)
  | enter known activation knows inner ih => exact ih
  | orelse first rest ih ih' => exact ih.trans ih'
  | handled inside first rest ih ih' => exact ih.trans ih'
  | unhandled first leaves quiet ih => exact ih
  | finished inside first ends rest ih ih' => exact ih.trans ih'
  | unfinished first ih => exact ih
  | run opens inside rest ih => exact opens.grown_run ih rest
  | stopped opens stops ends rest => exact opens.grown_stopped ends.2 rest

end Exec

/-! ## Processes within what is derived -/

namespace Within

variable {γ : Type} {σ : Standing} {q : Proc γ} {n n' : Machine} {o' : Outcome γ}
  {ls : List Layer}

variable {p : Proc α} {o : Outcome α}

theorem goes (h : Within K A ls p m o m' q n o' n') : p.Goes A m o m' := by
  induction h with
  | here h grown => exact h
  | inside around fits within rest grown ih =>
    exact (goes_of_eq_bind around.eq_bind).2 ⟨_, _, ih, rest⟩
  | later first grown within ih => exact Proc.goes_bind.2 (.inl ⟨_, _, first, ih⟩)
  | enter activation within ih => exact ih
  | run opens within rest ih => exact opens.goes_run ih rest
  | opening opens stops ends rest => exact opens.goes_stopped stops ends rest

theorem grown (h : Within K A ls p m o m' q n o' n') : m.Grown K m' := by
  induction h with
  | here h grown => exact grown
  | inside around fits within rest grown ih => exact ih.trans grown
  | later first grown within ih => exact grown.trans ih
  | enter activation within ih => exact ih
  | run opens within rest ih => exact opens.grown_run ih rest
  | opening opens stops ends rest => exact opens.grown_stopped ends.2 rest

section Bind

variable {p : Proc β} {f : β → Proc α} {a : β} {o : Outcome α}

theorem first (rest : Exec K A σ (f a) m₁ o m') (h : Within K A ls p m (.value a) m₁ q n o' n') :
    Within K A ls (p >>= f) m o m' q n o' n' := .inside (.bind f) trivial h rest.goes rest.grown

theorem second (first : Exec K A σ p m (.value a) m₁) (h : Within K A ls (f a) m₁ o m' q n o' n') :
    Within K A ls (p >>= f) m o m' q n o' n' := .later first.goes first.grown h

theorem raised (h : Within K A ls p m (.raised r) m' q n o' n') :
    Within K A ls (p >>= f) m (.raised r) m' q n o' n' :=
  .inside (.bind f) trivial h ((Proc.goes_of_done rfl).2 ⟨rfl, rfl⟩) (.refl K m')

theorem exhausted (h : Within K A ls p m .exhausted m' q n o' n') :
    Within K A ls (p >>= f) m .exhausted m' q n o' n' :=
  .inside (.bind f) trivial h ((Proc.goes_of_done rfl).2 ⟨rfl, rfl⟩) (.refl K m')

end Bind

section Clauses

variable {clauses : Ref → Guards} {after p : Proc Flow} {clause : Option Ref → Proc Flow}
  {o o₁ o₂ : Outcome Flow}

theorem body (rest : Exec K A σ after m₁ o m')
    (h : Within K A ls p m (.value .normal) m₁ q n o' n') :
    Within K A (.except clauses :: ls) (guarded clauses after p) m o m' q n o' n' :=
  .inside (.except clauses after) trivial h
    (goes_guarded.2 (.inl ⟨m₁, (Proc.goes_of_done rfl).2 ⟨rfl, rfl⟩, rest.goes⟩)) rest.grown

theorem orelse (first : Exec K A σ p m (.value .normal) m₁)
    (h : Within K A ls after m₁ o m' q n o' n') :
    Within K A ls (guarded clauses after p) m o m' q n o' n' :=
  .later (Proc.goes_attempt.2 (.inl ⟨.ok .normal, first.goes, rfl⟩)) first.grown h

theorem handledBody (rest : Exec K A σ (handledBy r (clauses r)) m₁ o m')
    (h : Within K A ls p m (.raised r) m₁ q n o' n') :
    Within K A (.except clauses :: ls) (guarded clauses after p) m o m' q n o' n' :=
  .inside (.except clauses after) trivial h
    (goes_guarded.2 (.inr (.inl ⟨r, m₁, (Proc.goes_of_done rfl).2 ⟨rfl, rfl⟩, rest.goes⟩)))
    rest.grown

theorem handled (first : Exec K A σ p m (.raised r) m₁)
    (h : Within K A ls (handledBy r (clauses r)) m₁ o m' q n o' n') :
    Within K A ls (guarded clauses after p) m o m' q n o' n' :=
  .later (Proc.goes_attempt.2 (.inl ⟨.error r, first.goes, rfl⟩)) first.grown h

theorem unhandled (leaves : o ≠ .value .normal) (quiet : ∀ r, o ≠ .raised r)
    (h : Within K A ls p m o m' q n o' n') :
    Within K A (.except clauses :: ls) (guarded clauses after p) m o m' q n o' n' :=
  .inside (.except clauses after) trivial h
    (goes_guarded.2 (.inr (.inr ⟨(Proc.goes_of_done rfl).2 ⟨rfl, rfl⟩, leaves, quiet⟩)))
    (.refl K m')

theorem finished (rest : Exec K A σ (clause o₁.raised?) m₁ o₂ m') (ends : o₁ ≠ .exhausted)
    (h : Within K A ls p m o₁ m₁ q n o' n') :
    Within K A (.final clause :: ls) (finishing clause p) m (afterClause o₁ o₂) m' q n o' n' :=
  .inside (.final clause) trivial h (goes_finishing.2
    (.inr ⟨o₁, m₁, o₂, ends, (Proc.goes_of_done rfl).2 ⟨rfl, rfl⟩, rest.goes, rfl⟩)) rest.grown

theorem final (first : Exec K A σ p m o₁ m₁) (ends : o₁ ≠ .exhausted)
    (h : Within K A ls (clause o₁.raised?) m₁ o₂ m' q n o' n') :
    Within K A ls (finishing clause p) m (afterClause o₁ o₂) m' q n o' n' := by
  obtain rfl | ⟨result, rfl⟩ := o₁.eq_ofResult
  · exact absurd rfl ends
  · refine .later (Proc.goes_attempt.2 (.inl ⟨result, first.goes, rfl⟩)) first.grown
      (.inside (.bind _) trivial h ?_ (.refl K m'))
    cases o₂ with
    | value flow =>
      cases flow <;> cases result <;> exact (Proc.goes_of_done rfl).2 ⟨rfl, rfl⟩
    | _ => exact (Proc.goes_of_done rfl).2 ⟨rfl, rfl⟩

theorem unfinished (h : Within K A ls p m .exhausted m' q n o' n') :
    Within K A (.final clause :: ls) (finishing clause p) m .exhausted m' q n o' n' :=
  .inside (.final clause) trivial h
    (goes_finishing.2 (.inl ⟨(Proc.goes_of_done rfl).2 ⟨rfl, rfl⟩, rfl⟩)) (.refl K m')

end Clauses

end Within

/-! ## Parts of derivations -/

/-- What stands directly within a derivation, with the layer that is around it. What stands beside it
is derived. -/
inductive Exec.Sub (K : Code → Prop) (A : Replies) : Option Layer →
    Standing → {α : Type} → Proc α → Machine → Outcome α → Machine →
    Standing → {β : Type} → Proc β → Machine → Outcome β → Machine → Prop
  | first {σ : Standing} {α β : Type} {p : Proc β} {f : β → Proc α} {a : β} {m m₁ m' : Machine}
      {o : Outcome α} (rest : Exec K A σ (f a) m₁ o m') :
      Exec.Sub K A none σ (p >>= f) m o m' σ p m (.value a) m₁
  | second {σ : Standing} {α β : Type} {p : Proc β} {f : β → Proc α} {a : β} {m m₁ m' : Machine}
      {o : Outcome α} (first : Exec K A σ p m (.value a) m₁) :
      Exec.Sub K A none σ (p >>= f) m o m' σ (f a) m₁ o m'
  | raised {σ : Standing} {α β : Type} {p : Proc β} {f : β → Proc α} {r : Ref} {m m' : Machine} :
      Exec.Sub K A none σ (p >>= f) m (.raised r) m' σ p m (.raised r) m'
  | exhausted {σ : Standing} {α β : Type} {p : Proc β} {f : β → Proc α} {m m' : Machine} :
      Exec.Sub K A none σ (p >>= f) m .exhausted m' σ p m .exhausted m'
  | layer {σ : Standing} {code : Option Code} {α : Type} {ℓ : Layer} {C : Proc α → Proc α}
      {p : Proc α} {m m₁ m' : Machine} {o o₁ : Outcome α} (around : Around (some ℓ) C)
      (plain : ℓ.IsPlain) (bounds : ℓ.Bounds K σ.code code) (fits : ℓ.Fits p)
      (rest : (C (Proc.ofOutcome o₁)).Goes A m₁ o m') :
      Exec.Sub K A (some ℓ) σ (C p) m o m' { σ with code } p m o₁ m₁
  | enter {c : Code} {handling inside : Option Ref} {α : Type} {p : Proc α} {m m' : Machine}
      {o : Outcome α} (known : K c) (activation : Activation c p)
      (knows : inside = none ∨ inside = handling) :
      Exec.Sub K A (some (.enter c)) ⟨none, handling⟩ p m o m' ⟨some c, inside⟩ p m o m'
  | body {σ : Standing} {clauses : Ref → Guards} {orelse body : Proc Flow}
      {m m₁ m' : Machine} {o : Outcome Flow} (rest : Exec K A σ orelse m₁ o m') :
      Exec.Sub K A (some (.except clauses)) σ (guarded clauses orelse body) m o m'
        σ body m (.value .normal) m₁
  | orelse {σ : Standing} {clauses : Ref → Guards} {orelse body : Proc Flow}
      {m m₁ m' : Machine} {o : Outcome Flow} (first : Exec K A σ body m (.value .normal) m₁) :
      Exec.Sub K A none σ (guarded clauses orelse body) m o m' σ orelse m₁ o m'
  | handledBody {σ : Standing} {c : Code} {clauses : Ref → Guards} {orelse body : Proc Flow} {r : Ref}
      {m m₁ m' : Machine} {o : Outcome Flow} (inside : σ.code = some c)
      (rest : Exec K A (σ.handles (some r)) (handledBy r (clauses r)) m₁ o m') :
      Exec.Sub K A (some (.except clauses)) σ (guarded clauses orelse body) m o m'
        σ body m (.raised r) m₁
  | handled {σ : Standing} {c : Code} {clauses : Ref → Guards} {orelse body : Proc Flow} {r : Ref}
      {m m₁ m' : Machine} {o : Outcome Flow} (inside : σ.code = some c)
      (first : Exec K A σ body m (.raised r) m₁) :
      Exec.Sub K A none σ (guarded clauses orelse body) m o m'
        (σ.handles (some r)) (handledBy r (clauses r)) m₁ o m'
  | unhandled {σ : Standing} {clauses : Ref → Guards} {orelse body : Proc Flow} {m m' : Machine}
      {o : Outcome Flow} (leaves : o ≠ .value .normal) (quiet : ∀ r, o ≠ .raised r) :
      Exec.Sub K A (some (.except clauses)) σ (guarded clauses orelse body) m o m' σ body m o m'
  | finished {σ : Standing} {c : Code} {clause : Option Ref → Proc Flow} {p : Proc Flow}
      {m m₁ m' : Machine} {o₁ o₂ : Outcome Flow} (inside : σ.code = some c) (ends : o₁ ≠ .exhausted)
      (rest : Exec K A (σ.handles o₁.raised?) (clause o₁.raised?) m₁ o₂ m') :
      Exec.Sub K A (some (.final clause)) σ (finishing clause p) m (afterClause o₁ o₂) m' σ p m o₁ m₁
  | final {σ : Standing} {c : Code} {clause : Option Ref → Proc Flow} {p : Proc Flow}
      {m m₁ m' : Machine} {o₁ o₂ : Outcome Flow} (inside : σ.code = some c)
      (first : Exec K A σ p m o₁ m₁) (ends : o₁ ≠ .exhausted) :
      Exec.Sub K A none σ (finishing clause p) m (afterClause o₁ o₂) m'
        (σ.handles o₁.raised?) (clause o₁.raised?) m₁ o₂ m'
  | unfinished {σ : Standing} {clause : Option Ref → Proc Flow} {p : Proc Flow} {m m' : Machine} :
      Exec.Sub K A (some (.final clause)) σ (finishing clause p) m .exhausted m' σ p m .exhausted m'
  | run {handling : Option Ref} {β : Type} {path : Path} {d : Delimiters} {opening : Ref → Proc β}
      {inner : Ref → β → Proc Unit} {a : β} {m m₁ m₂ m' : Machine} {o o₁ : Outcome Unit}
      (opens : Opens K A m.next (opening m.next) (m.created path d) 4 (.value a) m₁)
      (rest : (Run.concluding m.next (Proc.ofOutcome o₁)).Goes A m₂ o m') :
      Exec.Sub K A (some (.run m.next)) ⟨none, handling⟩ (Run.create path d >>= fun run =>
        Run.concluding run (opening run >>= inner run)) m o m'
        ⟨none, handling⟩ (inner m.next a) m₁ o₁ m₂

/-- What stands within a derivation, inside layers of which the first is the outermost one. -/
inductive Exec.Part (K : Code → Prop) (A : Replies) : List Layer →
    Standing → {α : Type} → Proc α → Machine → Outcome α → Machine →
    Standing → {β : Type} → Proc β → Machine → Outcome β → Machine → Prop
  | here {σ : Standing} {α : Type} {p : Proc α} {m m' : Machine} {o : Outcome α}
      (h : Exec K A σ p m o m') : Exec.Part K A [] σ p m o m' σ p m o m'
  /-- The stages of a run, before its template is executed. -/
  | opening {handling : Option Ref} {β : Type} {path : Path} {d : Delimiters}
      {opening : Ref → Proc β} {inner : Ref → β → Proc Unit} {k : Nat} {m m₁ m' : Machine}
      {o : Outcome Unit} {o₁ : Outcome β} {o₂ : Outcome Unit}
      (opens : Opens K A m.next (opening m.next) (m.created path d) k o₁ m₁)
      (stops : ∀ a, o₁ ≠ .value a) (ends : o₂.raised? = o₁.raised? ∧ ∀ a, o₂ ≠ .value a)
      (rest : (Run.concluding m.next (Proc.ofOutcome o₂)).Goes A m₁ o m') :
      Exec.Part K A [.run m.next] ⟨none, handling⟩ (Run.create path d >>= fun run =>
        Run.concluding run (opening run >>= inner run)) m o m'
        ⟨none, handling⟩ (opening m.next) (m.created path d) o₁ m₁
  | through {ℓ : Option Layer} {ls : List Layer} {σ σ' τ : Standing} {α β γ : Type} {p : Proc α}
      {p' : Proc β} {q : Proc γ} {m m' m₁ m₂ n n' : Machine} {o : Outcome α} {o₁ : Outcome β}
      {o' : Outcome γ} (sub : Exec.Sub K A ℓ σ p m o m' σ' p' m₁ o₁ m₂)
      (h : Exec.Part K A ls σ' p' m₁ o₁ m₂ τ q n o' n') :
      Exec.Part K A (ℓ.toList ++ ls) σ p m o m' τ q n o' n'

section Parts

variable {γ : Type} {σ σ' τ : Standing} {p : Proc α} {p' : Proc β} {q : Proc γ} {n n' : Machine}
  {o : Outcome α} {o₁ : Outcome β} {o' : Outcome γ} {ℓ : Option Layer} {ls : List Layer}

/-- A derivation is made of what stands directly within it and what is beside that. -/
theorem Exec.Sub.exec (h : Exec.Sub K A ℓ σ p m o m' σ' p' m₁ o₁ m₂)
    (he : Exec K A σ' p' m₁ o₁ m₂) : Exec K A σ p m o m' := by
  cases h with
  | first rest => exact .value he rest
  | second first => exact .value first he
  | raised => exact .raised he
  | exhausted => exact .exhausted he
  | layer around plain bounds fits rest => exact .layer around plain bounds fits he rest
  | enter known activation knows => exact .enter known activation knows he
  | body rest => exact .orelse he rest
  | orelse first => exact .orelse first he
  | handledBody inside rest => exact .handled inside he rest
  | handled inside first => exact .handled inside first he
  | unhandled leaves quiet => exact .unhandled he leaves quiet
  | finished inside ends rest => exact .finished inside he ends rest
  | final inside first ends => exact .finished inside first ends he
  | unfinished => exact .unfinished he
  | run opens rest => exact .run opens he rest

/-- What stands within what stands directly within a derivation is within its process. -/
theorem Exec.Sub.within (h : Exec.Sub K A ℓ σ p m o m' σ' p' m₁ o₁ m₂)
    (hw : Within K A ls p' m₁ o₁ m₂ q n o' n') :
    Within K A (ℓ.toList ++ ls) p m o m' q n o' n' := by
  cases h with
  | first rest => exact .first rest hw
  | second first => exact .second first hw
  | raised => exact hw.raised
  | exhausted => exact hw.exhausted
  | layer around plain bounds fits rest =>
    exact .inside around fits hw rest (around.grown plain rest)
  | enter known activation knows => exact .enter activation hw
  | body rest => exact .body rest hw
  | orelse first => exact .orelse first hw
  | handledBody inside rest => exact .handledBody rest hw
  | handled inside first => exact .handled first hw
  | unhandled leaves quiet => exact .unhandled leaves quiet hw
  | finished inside ends rest => exact .finished rest ends hw
  | final inside first ends => exact .final first ends hw
  | unfinished => exact hw.unfinished
  | run opens rest => exact .run opens hw rest

/-- Where the code stands of what stands directly within a derivation. -/
theorem Exec.Sub.framed (h : Exec.Sub K A ℓ σ p m o m' σ' p' m₁ o₁ m₂) {code : Option Code}
    (hf : Framed K σ'.code ls code) : Framed K σ.code (ℓ.toList ++ ls) code := by
  cases h with
  | layer around plain bounds fits rest => exact ⟨_, bounds, hf⟩
  | enter known activation knows => exact ⟨_, ⟨rfl, known, rfl⟩, hf⟩
  | body | handledBody | unhandled | finished | unfinished => exact ⟨_, rfl, hf⟩
  | run opens rest => exact ⟨_, ⟨rfl, rfl⟩, hf⟩
  | _ => exact hf

namespace Exec.Part

/-- What has a part is a derivation. -/
theorem exec (h : Part K A ls σ p m o m' τ q n o' n') : Exec K A σ p m o m' := by
  induction h with
  | here h => exact h
  | opening opens stops ends rest => exact .stopped opens stops ends rest
  | through sub h ih => exact sub.exec ih

/-- What stands within a derivation comes to its end. -/
theorem goes_inner (h : Part K A ls σ p m o m' τ q n o' n') : q.Goes A n o' n' := by
  induction h with
  | here h => exact h.goes
  | opening opens stops ends rest => exact opens.goes
  | through sub h ih => exact ih

/-- What stands within a derivation goes on within its process. -/
theorem within (h : Part K A ls σ p m o m' τ q n o' n') :
    Within K A ls p m o m' q n o' n' := by
  induction h with
  | here h => exact .here h.goes h.grown
  | opening opens stops ends rest => exact .opening opens stops ends rest
  | through sub h ih => exact sub.within ih

/-- Where the code stands of what stands within a derivation. -/
theorem framed (h : Part K A ls σ p m o m' τ q n o' n') : Framed K σ.code ls τ.code := by
  induction h with
  | here h => exact rfl
  | opening opens stops ends rest => exact ⟨none, ⟨rfl, rfl⟩, rfl⟩
  | through sub h ih => exact sub.framed ih

/-- At each place around a part of a derivation a node is at work, and the part stands within the
derivation of its work. -/
theorem split (h : Part K A ls σ p m o m' τ q n o' n') {above below : List Layer} {c : Code}
    {spot : Spot} (hs : ls = above ++ .place c spot :: below) :
    ∃ (τ₁ : Standing) (β : Type) (w : Proc β) (n₁ : Machine) (o₁ : Outcome β) (n₂ : Machine),
      spot.Does w ∧ Part K A (above ++ [.place c spot]) σ p m o m' τ₁ w n₁ o₁ n₂ ∧
      Part K A below τ₁ w n₁ o₁ n₂ τ q n o' n' := by
  induction h generalizing above with
  | here h => exact absurd hs.symm (List.append_ne_nil_of_right_ne_nil _ (List.cons_ne_nil _ _))
  | opening opens stops ends rest =>
    cases above with
    | nil => cases (List.cons.inj hs).1
    | cons ℓ above =>
      exact absurd (List.cons.inj hs).2.symm
        (List.append_ne_nil_of_right_ne_nil _ (List.cons_ne_nil _ _))
  | @through ℓ _ _ _ _ _ _ _ _ _ _ _ _ _ _ _ _ _ _ _ sub h ih =>
    cases ℓ with
    | none =>
      obtain ⟨τ₁, β, w, n₁, o₁, n₂, does, hw, inner⟩ := ih hs
      exact ⟨τ₁, β, w, n₁, o₁, n₂, does, .through sub hw, inner⟩
    | some ℓ =>
      cases above with
      | nil =>
        obtain ⟨rfl, rfl⟩ := List.cons.inj hs
        cases sub with
        | layer around plain bounds fits rest =>
          exact ⟨_, _, _, _, _, _, fits, .through (.layer around plain bounds fits rest)
            (.here h.exec), h⟩
      | cons ℓ' above =>
        obtain ⟨rfl, rfl⟩ := List.cons.inj hs
        obtain ⟨τ₁, β, w, n₁, o₁, n₂, does, hw, inner⟩ := ih rfl
        exact ⟨τ₁, β, w, n₁, o₁, n₂, does, .through sub hw, inner⟩

end Exec.Part

end Parts

end Stencil
