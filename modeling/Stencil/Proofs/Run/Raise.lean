import Stencil.Proofs.Run.Derivation

/-!
# Where errors come from

An error that leaves a process has been raised somewhere within it and has passed all the layers from
there on. On its way each place that it passes is put in front of its traceback, and nothing else is.
Only for an error that is raised again, when it has been raised before, that is not so: its traceback
keeps the places of the ways that it went before.

## Main definitions

* `sitesOf`, `callsOf` — the places and the calls among layers.
* `Machine.Raised`, `Reraised` — an exception has been raised before, and is raised again.
* `Raises` — an error leaves a process: where it was raised, and what it passed.
* `Told` — what is known of the errors of a process.

## Main results

* `Exec.told` — a derivation tells where an error comes from.
-/

namespace Stencil

open Script

variable {α β γ : Type} {K : Code → Prop} {A : Replies} {m m' m₁ m₂ n n' : Machine} {r : Ref}
  {σ σ' τ : Standing} {code code' : Option Code} {p : Proc α} {p' : Proc β} {q : Proc γ}
  {o : Outcome α} {o₁ : Outcome β} {o' : Outcome γ} {ls : List Layer}

/-! ## Places and calls -/

namespace Layer

/-- The node of code that a layer is the place of. -/
def site? : Layer → Option (Code × Spot)
  | place c spot => some (c, spot)
  | _ => none

/-- The code that a layer is a call of. -/
def call? : Layer → Option Code
  | enter c => some c
  | _ => none

end Layer

/-- The places among layers: nodes of code. -/
def sitesOf (ls : List Layer) : List (Code × Spot) := ls.filterMap Layer.site?

/-- The calls of code among layers. -/
def callsOf (ls : List Layer) : List Code := ls.filterMap Layer.call?

/-- What a place looks like in a traceback: the file and the line of a node of code. -/
def placeOf (site : Code × Spot) : Text × Int := (site.1.file, site.1.lineAt site.2.row)

theorem sitesOf_append (ls ls' : List Layer) : sitesOf (ls ++ ls') = sitesOf ls ++ sitesOf ls' :=
  List.filterMap_append

theorem sitesOf_cons (ℓ : Layer) : sitesOf (ℓ :: ls) = ℓ.site?.toList ++ sitesOf ls := by
  cases h : ℓ.site? <;> simp [sitesOf, h]

/-- Each call of code is left at one of its places, if what goes on inside all of the layers is outside
of code. -/
theorem Framed.sites_eq (h : Framed K code ls none) :
    (sitesOf ls).map Prod.fst = code.toList ++ callsOf ls := by
  induction ls generalizing code with
  | nil =>
    obtain rfl : none = code := h
    rfl
  | cons ℓ ls ih =>
    obtain ⟨code', bounds, h⟩ := h
    have ih := ih h
    cases ℓ with
    | place c spot =>
      obtain ⟨rfl, -, rfl⟩ := bounds
      exact congrArg (c :: ·) ih
    | enter c =>
      obtain ⟨rfl, -, rfl⟩ := bounds
      exact ih
    | guard | run | forget =>
      obtain ⟨rfl, rfl⟩ := bounds
      exact ih
    | unbind | except | final =>
      obtain rfl : code' = code := bounds
      exact ih

/-- Code is left at nodes that are part of it. -/
theorem Framed.mem_spots (h : Framed K code ls code') {c : Code} {spot : Spot}
    (hs : (c, spot) ∈ sitesOf ls) : spot ∈ c.spots := by
  induction ls generalizing code with
  | nil => exact absurd hs List.not_mem_nil
  | cons ℓ ls ih =>
    obtain ⟨code₁, bounds, h⟩ := h
    rw [sitesOf_cons] at hs
    obtain hs | hs := List.mem_append.1 hs
    · cases ℓ with
      | place c' spot' =>
        obtain ⟨rfl, rfl⟩ := by simpa [Layer.site?] using hs
        exact bounds.2.1
      | _ => cases hs
    · exact ih h hs

/-- Code that is called is known. -/
theorem Framed.known (h : Framed K code ls code') {c : Code} (hc : c ∈ callsOf ls) : K c := by
  induction ls generalizing code with
  | nil => exact absurd hc List.not_mem_nil
  | cons ℓ ls ih =>
    obtain ⟨code₁, bounds, h⟩ := h
    cases ℓ with
    | enter c' =>
      obtain rfl | hc := List.mem_cons.1 (show c ∈ c' :: callsOf ls from hc)
      · exact bounds.2.1
      · exact ih h hc
    | _ => exact ih h hc

/-! ## Exceptions that have been raised before -/

namespace Machine

/-- An exception has been raised before: it has passed a place. -/
def Raised (m : Machine) (r : Ref) : Prop := ∃ e, m.heap.thrown? r = some e ∧ e.traceback ≠ []

/-- One machine is a later state of another one, as far as exceptions that have been raised are
concerned. -/
structure Before (m m' : Machine) : Prop where
  size : m.next ≤ m'.next
  stays : ∀ r, (m.heap.thrown? r).isSome → (m'.heap.thrown? r).isSome
  raised : ∀ r, m.Raised r → m'.Raised r

theorem Before.trans (h : m.Before m₁) (h' : m₁.Before m') : m.Before m' :=
  ⟨Nat.le_trans h.size h'.size, fun r hr => h'.stays r (h.stays r hr),
    fun r hr => h'.raised r (h.raised r hr)⟩

theorem Keeps.before {R : Ref → Prop} (h : m.Keeps R m') (size : m.next ≤ m'.next)
    (stays : ∀ r, (m.heap.thrown? r).isSome → (m'.heap.thrown? r).isSome) : m.Before m' := by
  refine ⟨size, stays, fun r hr => ?_⟩
  obtain ⟨e, he, hne⟩ := hr
  obtain ⟨e', he'⟩ := Option.isSome_iff_exists.1 (stays r (by rw [he]; rfl))
  obtain ⟨e₁, places, he₁, -, htb, -⟩ := h r e' (Heap.lt_of_thrown? he) he'
  obtain rfl := Option.some.inj (he₁.symm.trans he)
  exact ⟨e', he', fun h => hne (List.append_eq_nil_iff.1 (htb ▸ h)).2⟩

theorem Grown.before (h : m.Grown K m') : m.Before m' := h.keeps.before h.size h.stays

theorem Grows.before {ps : List (Ref × RunState)} (h : m.Grows K ps m') : m.Before m' :=
  (h.keeps (R := fun _ => True)).before h.size h.stays

end Machine

/-- A process comes to its end within another one before that does. -/
theorem Within.ends (h : Within K A ls p m o m' q n o' n') : n'.Before m' := by
  induction h with
  | @here _ _ _ m' _ h grown => exact (Machine.Grown.refl (fun _ => True) m').before
  | inside around fits within rest grown ih => exact ih.trans grown.before
  | later first grown within ih => exact ih
  | enter activation within ih => exact ih
  | run opens within rest ih =>
    obtain ⟨last, ending, -⟩ :=
      Run.grows_concluding (K := K) (within.grown.hasOther opens.hasOther) rest
    exact ih.trans ending.before
  | opening opens stops ends rest =>
    obtain ⟨last, ending, -⟩ := Run.grows_concluding (K := K) opens.hasOther rest
    exact ending.before

/-- An exception is raised again within a process that stands somewhere: what goes on outside of code,
as the work of a node does, ends with the exception, which has been raised before that began. -/
def Reraised (K : Code → Prop) (A : Replies) (σ : Standing) (p : Proc α) (m : Machine)
    (o : Outcome α) (m' : Machine) (r : Ref) : Prop :=
  ∃ ls τ, ∃ (γ : Type) (q : Proc γ), ∃ n n', Exec.Part K A ls σ p m o m' τ q n (.raised r) n' ∧
    τ.code = none ∧ n.Raised r

/-- What is raised again directly within a derivation is raised again within its process. -/
theorem Reraised.through {ℓ : Option Layer} (h : Reraised K A σ' p' m₁ o₁ m₂ r)
    (sub : Exec.Sub K A ℓ σ p m o m' σ' p' m₁ o₁ m₂) : Reraised K A σ p m o m' r := by
  obtain ⟨ls, τ, γ, q, n, n', part, outside, before⟩ := h
  exact ⟨_, τ, γ, q, n, n', .through sub part, outside, before⟩

/-! ## Errors that leave a process -/

/-- Where an exception comes from: it is a new one, or one that is raised as it is. -/
inductive Arises (r : Ref) (q : Proc γ) (n n' : Machine) : Prop
  | new (h : n'.IsNew n r)
  | again (h : ∀ m, q m = .done (.raised r) m)

/-- An exception leaves a process that stands somewhere: where it was raised outside of code, the layers
around that, and their places, which are put in front of its traceback. -/
inductive Raises (K : Code → Prop) (A : Replies) (σ : Standing) (p : Proc α) (m : Machine)
    (r : Ref) (m' : Machine) : Prop
  | intro {ls : List Layer} {τ : Standing} {γ : Type} {q : Proc γ} {n n' : Machine}
      (part : Exec.Part K A ls σ p m (.raised r) m' τ q n (.raised r) n') (outside : τ.code = none)
      (origin : Arises r q n n')
      (traceback : ∀ e e', n'.heap.thrown? r = some e → m'.heap.thrown? r = some e' →
        e'.traceback = (sitesOf ls).map placeOf ++ e.traceback)

/-- How it comes that an exception leaves a process that stands somewhere. It may be the one that is
being handled there. -/
inductive Comes (K : Code → Prop) (A : Replies) (σ : Standing) (p : Proc α) (m : Machine) (r : Ref)
    (m' : Machine) : Prop
  | reraised (h : Reraised K A σ p m (.raised r) m' r)
  | raised (h : Raises K A σ p m r m')
  | handled (handling : σ.handling = some r)

namespace Comes

/-- An exception is raised right where a process stands, outside of code. -/
theorem here (exec : Exec K A σ p m (.raised r) m') (outside : σ.code = none)
    (origin : Arises r p m m') : Comes K A σ p m r m' :=
  .raised (.intro (.here exec) outside origin fun e e' he he' => by
    obtain rfl := Option.some.inj (he.symm.trans he')
    rfl)

/-- An exception leaves what stands directly within a derivation, and passes the layer around it. -/
theorem through {ℓ : Option Layer} (h : Comes K A σ' p' m₁ r m₂)
    (sub : Exec.Sub K A ℓ σ p m (.raised r) m' σ' p' m₁ (.raised r) m₂)
    (knows : σ'.handling = none ∨ σ'.handling = σ.handling)
    (bears : ∀ e', r < m₂.next → m'.heap.thrown? r = some e' → ∃ e places,
      m₂.heap.thrown? r = some e ∧ e'.traceback = places ++ e.traceback ∧
        (places = (sitesOf ℓ.toList).map placeOf ∨
          σ'.code ≠ none ∧ (m₂.Raised r → Reraised K A σ p m (.raised r) m' r))) :
    Comes K A σ p m r m' := by
  by_cases hr : Reraised K A σ p m (.raised r) m' r
  · exact .reraised hr
  cases h with
  | reraised h => exact absurd (h.through sub) hr
  | raised h =>
    obtain ⟨part, outside, origin, traceback⟩ := h
    refine .raised (.intro (.through sub part) outside origin fun e e' he he' => ?_)
    have hlt : r < m₂.next := Nat.lt_of_lt_of_le (Heap.lt_of_thrown? he) part.within.ends.size
    obtain ⟨e₁, places, he₁, htb, rfl | ⟨inside, raised⟩⟩ := bears e' hlt he'
    · rw [htb, traceback e e₁ he he₁, sitesOf_append, List.map_append, List.append_assoc]
    · refine absurd (raised ⟨e₁, he₁, fun hnil => ?_⟩) hr
      rw [traceback e e₁ he he₁] at hnil
      obtain ⟨c, hc⟩ := Option.ne_none_iff_exists'.1 inside
      have sites := (outside ▸ part.framed).sites_eq
      rw [List.map_eq_nil_iff.1 (List.append_eq_nil_iff.1 hnil).1, hc] at sites
      cases sites
  | handled handling =>
    obtain knows | knows := knows
    · cases knows.symm.trans handling
    · exact .handled (knows ▸ handling)

/-- An exception leaves what stands directly within a derivation, and nothing is around it. -/
theorem lift (h : Comes K A σ' p' m₁ r m')
    (sub : Exec.Sub K A none σ p m (.raised r) m' σ' p' m₁ (.raised r) m')
    (knows : σ'.handling = none ∨ σ'.handling = σ.handling) : Comes K A σ p m r m' :=
  h.through sub knows fun e' _ he => ⟨e', [], he, rfl, .inl rfl⟩

end Comes

/-- What is known of the errors of a process that stands somewhere: exceptions that have been raised
before it are left alone unless they are raised again, and if it ends with one, where that comes
from. -/
structure Told (K : Code → Prop) (A : Replies) (σ : Standing) (p : Proc α) (m : Machine)
    (o : Outcome α) (m' : Machine) : Prop where
  keeps : m.Keeps (fun r => m.Raised r → Reraised K A σ p m o m' r) m'
  comes : ∀ r, o = .raised r → Comes K A σ p m r m'

namespace Told

/-- What stands directly within a derivation, when that begins, leaves exceptions alone unless they are
raised again. -/
theorem keeps_first {ℓ : Option Layer} (told : Told K A σ' p' m o₁ m₁)
    (sub : Exec.Sub K A ℓ σ p m o m' σ' p' m o₁ m₁) :
    m.Keeps (fun r => m.Raised r → Reraised K A σ p m o m' r) m₁ :=
  told.keeps.mono fun _ h hr => (h hr).through sub

/-- What stands directly within a derivation, after something else, leaves exceptions alone unless they
are raised again. -/
theorem keeps_then {ℓ : Option Layer} (told : Told K A σ' p' m₁ o₁ m₂) (before : m.Before m₁)
    (sub : Exec.Sub K A ℓ σ p m o m' σ' p' m₁ o₁ m₂) :
    m₁.Keeps (fun r => r < m.next → m.Raised r → Reraised K A σ p m o m' r) m₂ :=
  told.keeps.mono fun r h _ hr => (h (before.raised r hr)).through sub

/-- The error that leaves a layer is the one that came to it, or a new one in its place. -/
theorem passes_plain {ℓ : Layer} {r' : Ref} (plain : ℓ.IsPlain) (h : ℓ.Passes K A r m r' m') :
    r' = r ∨ ℓ = .guard ∧ m'.IsNew m r' := by
  cases ℓ with
  | guard =>
    simp only [Layer.Passes] at h
    split at h
    · obtain ⟨rfl, rfl⟩ := h
      exact .inr ⟨rfl, Machine.isNew_threw rfl⟩
    · exact .inl h.1
  | enter | run | except | final => exact plain.elim
  | _ => exact .inl h.1

/-- A layer that does not do more than to pass errors on puts itself in front of a traceback if it is
a place, and leaves it alone otherwise. -/
theorem bears_plain {ℓ : Layer} {e' : Thrown} (plain : ℓ.IsPlain) (h : ℓ.Passes K A r m r m')
    (hr : r < m.next) (he : m'.heap.thrown? r = some e') :
    ∃ e, m.heap.thrown? r = some e ∧
      e'.traceback = (sitesOf [ℓ]).map placeOf ++ e.traceback := by
  obtain ⟨c, spot, rfl, rfl⟩ | ⟨hne, hg⟩ := h.grows plain
  · obtain ⟨e, he₁, rfl⟩ := Option.map_eq_some_iff.1 (Machine.thrown?_located ▸ he)
    exact ⟨e, he₁, by rw [if_pos rfl]; rfl⟩
  · have site : ℓ.site? = none := by
      cases ℓ with
      | place c spot => exact absurd rfl (hne c spot)
      | _ => rfl
    obtain ⟨e, he, -, htb⟩ | ⟨hn, -⟩ := hg.exceptions r e' he
    · exact ⟨e, he, by rw [htb, sitesOf_cons, site]; rfl⟩
    · exact absurd hr (Nat.not_lt.2 hn)

/-- A process inside a layer that does not do more than to pass errors on. -/
theorem layer {ℓ : Layer} {C : Proc α → Proc α} {p : Proc α} {o₁ : Outcome α}
    (inner : Exec K A { σ with code } p m o₁ m₁) (told : Told K A { σ with code } p m o₁ m₁)
    (around : Around (some ℓ) C) (plain : ℓ.IsPlain) (bounds : ℓ.Bounds K σ.code code)
    (fits : ℓ.Fits p) (rest : (C (Proc.ofOutcome o₁)).Goes A m₁ o m') : Told K A σ (C p) m o m' := by
  have sub : Exec.Sub K A (some ℓ) σ (C p) m o m' { σ with code } p m o₁ m₁ :=
    .layer around plain bounds fits rest
  have keeps := told.keeps_first sub
  have size := inner.grown.size
  obtain ⟨r, r', rfl, rfl, h⟩ | ⟨rfl, hn, h⟩ := around.plain (K := K) plain rest
  · obtain rfl | ⟨rfl, new⟩ := passes_plain plain h
    · refine ⟨?_, ?_⟩
      · obtain ⟨c, spot, rfl, rfl⟩ | ⟨-, hg⟩ := h.grows (K := K) plain
        · exact keeps.trans (.located fun _ hr =>
            ⟨_, _, _, p, m, m₁, .through sub (.here inner), bounds.2.2, hr⟩) size
        · exact keeps.trans hg.keeps size
      · rintro _ ⟨⟩
        refine (told.comes _ rfl).through sub (.inr rfl) fun e' hr he => ?_
        obtain ⟨e, he, htb⟩ := bears_plain plain h hr he
        exact ⟨e, _, he, htb, .inl rfl⟩
    · obtain ⟨c, spot, hℓ, -⟩ | ⟨-, hg⟩ := h.grows (K := K) plain
      · cases hℓ
      refine ⟨keeps.trans hg.keeps size, ?_⟩
      rintro _ ⟨⟩
      exact .here (sub.exec inner) bounds.1 (.new ⟨Nat.le_trans size new.1, new.2⟩)
  · exact ⟨keeps.trans h.keeps size, fun r hr => absurd hr (hn r)⟩

/-- Something is done in one go. -/
theorem calm (hp : p.CalmAt K m) (h : p.Goes A m o m') (outside : ∀ r, o = .raised r → σ.code = none) :
    Told K A σ p m o m' := by
  obtain ⟨grows, new⟩ := hp _ _ _ h
  refine ⟨grows.keeps, fun r ho => ?_⟩
  subst ho
  exact .here (.calm hp h outside) (outside r rfl) (.new (new r rfl))

/-- An exception is raised as it is; in code it is the one that is being handled. -/
theorem throw (again : σ.code = none ∨ σ.handling = some r) :
    Told K A σ (Proc.throw r : Proc α) m (.raised r) m := by
  refine ⟨(Machine.Grows.refl K m).keeps, ?_⟩
  rintro _ ⟨⟩
  obtain outside | handling := again
  · exact .here (.throw r m (.inl outside)) outside (.again fun _ => rfl)
  · exact .handled handling

/-- A process that goes on after another one. -/
theorem value {p : Proc β} {f : β → Proc α} {a : β} (first : Exec K A σ p m (.value a) m₁)
    (rest : Exec K A σ (f a) m₁ o m') (told : Told K A σ p m (.value a) m₁)
    (told' : Told K A σ (f a) m₁ o m') : Told K A σ (p >>= f) m o m' where
  keeps := (told.keeps_first (.first rest)).trans
    (told'.keeps_then first.grown.before (.second first)) first.grown.size
  comes r ho := by
    subst ho
    exact (told'.comes r rfl).lift (.second first) (.inr rfl)

/-- A process that ends before another one. -/
theorem raised {p : Proc β} {f : β → Proc α} (told : Told K A σ p m (.raised r) m') :
    Told K A σ (p >>= f) m (.raised r) m' := by
  refine ⟨told.keeps_first .raised, ?_⟩
  rintro _ ⟨⟩
  exact (told.comes r rfl).lift .raised (.inr rfl)

/-- A body goes well, and something is done after it. -/
theorem orelse {clauses : Ref → Guards} {orelse body : Proc Flow} {o : Outcome Flow}
    (first : Exec K A σ body m (.value .normal) m₁) (rest : Exec K A σ orelse m₁ o m')
    (told : Told K A σ body m (.value .normal) m₁) (told' : Told K A σ orelse m₁ o m') :
    Told K A σ (guarded clauses orelse body) m o m' where
  keeps := (told.keeps_first (.body rest)).trans
    (told'.keeps_then first.grown.before (.orelse first)) first.grown.size
  comes r ho := by
    subst ho
    exact (told'.comes r rfl).lift (.orelse first) (.inr rfl)

/-- What is done while an exception is being handled, or after it has been raised, tells where an error
comes from that it raises, unless it is that exception. -/
theorem comes_handling {handled : Option Ref} (told : Told K A (σ.handles handled) p' m₁ (.raised r) m')
    (sub : Exec.Sub K A none σ p m (.raised r) m' (σ.handles handled) p' m₁ (.raised r) m')
    (hr : handled = some r → Comes K A σ p m r m') : Comes K A σ p m r m' := by
  cases told.comes r rfl with
  | reraised h => exact .reraised (h.through sub)
  | raised h =>
    obtain ⟨part, outside, origin, traceback⟩ := h
    exact .raised (.intro (.through sub part) outside origin traceback)
  | handled handling =>
    cases handled with
    | none => exact .handled handling
    | some r' => exact hr (congrArg some (Option.some.inj handling))

/-- An exception comes from a process after which something is done that leaves its traceback alone,
unless it raises the exception again. -/
theorem comes_before {ℓ : Layer} {handled : Option Ref} {o₂ : Outcome β} {c : Code}
    (inside : σ.code = some c) (site : ℓ.site? = none) (told : Told K A σ p m (.raised r) m₁)
    (told' : Told K A (σ.handles handled) p' m₁ o₂ m')
    {p₀ : Proc α} (sub : Exec.Sub K A (some ℓ) σ p₀ m (.raised r) m' σ p m (.raised r) m₁)
    (sub' : Exec.Sub K A none σ p₀ m (.raised r) m' (σ.handles handled) p' m₁ o₂ m') :
    Comes K A σ p₀ m r m' := by
  refine (told.comes r rfl).through sub (.inr rfl) fun e' hr he => ?_
  obtain ⟨e, places, he, -, htb, rfl | h⟩ := told'.keeps r e' hr he
  · exact ⟨e, [], he, htb, .inl (by simp [sitesOf, site])⟩
  · exact ⟨e, places, he, htb, .inr ⟨by simp [inside], fun hr => (h hr).through sub'⟩⟩

/-- The exception of a body is handled. It comes from the body if the clauses raise it again as the one
that is being handled, or do not take it. -/
theorem handled {c : Code} {clauses : Ref → Guards} {orelse body : Proc Flow} {o : Outcome Flow}
    {r : Ref} (inside : σ.code = some c) (first : Exec K A σ body m (.raised r) m₁)
    (rest : Exec K A (σ.handles (some r)) (handledBy r (clauses r)) m₁ o m')
    (told : Told K A σ body m (.raised r) m₁)
    (told' : Told K A (σ.handles (some r)) (handledBy r (clauses r)) m₁ o m') :
    Told K A σ (guarded clauses orelse body) m o m' := by
  refine ⟨(told.keeps_first (.handledBody inside rest)).trans
    (told'.keeps_then first.grown.before (.handled inside first)) first.grown.size, fun r' ho => ?_⟩
  subst ho
  refine told'.comes_handling (.handled inside first) fun he => ?_
  obtain rfl := Option.some.inj he
  exact told.comes_before inside rfl told' (.handledBody inside rest) (.handled inside first)

/-- A clause is executed after a process. If it goes on normally, or raises the exception of the
process again as the one that is being handled, the exception comes from the process. -/
theorem finished {c : Code} {clause : Option Ref → Proc Flow} {p : Proc Flow} {o₁ o₂ : Outcome Flow}
    (inside : σ.code = some c) (first : Exec K A σ p m o₁ m₁) (ends : o₁ ≠ .exhausted)
    (rest : Exec K A (σ.handles o₁.raised?) (clause o₁.raised?) m₁ o₂ m')
    (told : Told K A σ p m o₁ m₁)
    (told' : Told K A (σ.handles o₁.raised?) (clause o₁.raised?) m₁ o₂ m') :
    Told K A σ (finishing clause p) m (afterClause o₁ o₂) m' := by
  refine ⟨(told.keeps_first (.finished inside ends rest)).trans
    (told'.keeps_then first.grown.before (.final inside first ends)) first.grown.size, fun r ho => ?_⟩
  have sub : Exec.Sub K A (some (.final clause)) σ (finishing clause p) m (afterClause o₁ o₂) m'
      σ p m o₁ m₁ := .finished inside ends rest
  have sub' : Exec.Sub K A none σ (finishing clause p) m (afterClause o₁ o₂) m' _ _ m₁ o₂ m' :=
    .final inside first ends
  rw [ho] at sub sub'
  have fromBody (ho₁ : o₁ = .raised r) : Comes K A σ (finishing clause p) m r m' := by
    subst ho₁
    exact told.comes_before inside rfl told' sub sub'
  cases o₂ with
  | value flow =>
    cases flow with
    | normal => exact fromBody ho
    | _ => cases ho
  | exhausted => cases ho
  | raised r' =>
    obtain rfl : r' = r := Outcome.raised.inj ho
    refine told'.comes_handling sub' fun he => fromBody ?_
    cases o₁ with
    | raised r => exact congrArg Outcome.raised (Option.some.inj he)
    | _ => cases he

section Runs

variable {handling : Option Ref} {path : Path} {d : Delimiters} {opening : Ref → Proc β}
  {inner : Ref → β → Proc Unit} {o : Outcome Unit}

/-- What a run leaves alone at its end. -/
theorem bears_run {o₁ : Outcome Unit} {run : Ref} {e' : Thrown} (other : m₁.HasOther run)
    (rest : (Run.concluding run (Proc.ofOutcome o₁)).Goes A m₁ o m') (hr : r < m₁.next)
    (he : m'.heap.thrown? r = some e') :
    ∃ e, m₁.heap.thrown? r = some e ∧ e'.traceback = e.traceback := by
  obtain ⟨last, ending, -⟩ := Run.grows_concluding (K := fun _ => True) other rest
  obtain ⟨e, he, -, htb⟩ | ⟨hn, -⟩ := ending.exceptions r e' he
  · exact ⟨e, he, htb⟩
  · exact absurd hr (Nat.not_lt.2 hn)

/-- The last stage of a run. -/
theorem run {a : β} {o₁ : Outcome Unit}
    (opens : Opens K A m.next (opening m.next) (m.created path d) 4 (.value a) m₁)
    (inside : Exec K A ⟨none, handling⟩ (inner m.next a) m₁ o₁ m₂)
    (rest : (Run.concluding m.next (Proc.ofOutcome o₁)).Goes A m₂ o m')
    (told : Told K A ⟨none, handling⟩ (inner m.next a) m₁ o₁ m₂) :
    Told K A ⟨none, handling⟩ (Run.create path d >>= fun run =>
      Run.concluding run (opening run >>= inner run)) m o m' := by
  have begins : m.Grows K (passagesThrough m.next 4) m₁ := Machine.Grows.created.trans opens.grows
  have other := inside.grown.hasOther opens.hasOther
  obtain ⟨last, ending, -⟩ := Run.grows_concluding (K := K) other rest
  refine ⟨(begins.keeps.trans (told.keeps_then begins.before (.run opens rest)) begins.size).trans
    ending.keeps (Nat.le_trans begins.size inside.grown.size), fun r ho => ?_⟩
  obtain rfl := (Run.goes_concluding_ofOutcome.1 rest).1
  subst ho
  refine (told.comes r rfl).through (.run opens rest) (.inr rfl) fun e' hr he => ?_
  obtain ⟨e, he, htb⟩ := bears_run other rest hr he
  exact ⟨e, [], he, htb, .inl rfl⟩

/-- A run that comes to its end before its last stage. -/
theorem stopped {k : Nat} {o₁ : Outcome β} {o₂ : Outcome Unit}
    (opens : Opens K A m.next (opening m.next) (m.created path d) k o₁ m₁)
    (stops : ∀ a, o₁ ≠ .value a) (ends : o₂.raised? = o₁.raised? ∧ ∀ a, o₂ ≠ .value a)
    (rest : (Run.concluding m.next (Proc.ofOutcome o₂)).Goes A m₁ o m') :
    Told K A ⟨none, handling⟩ (Run.create path d >>= fun run =>
      Run.concluding run (opening run >>= inner run)) m o m' := by
  have begins : m.Grows K (passagesThrough m.next k) m₁ := Machine.Grows.created.trans opens.grows
  obtain ⟨last, ending, -⟩ := Run.grows_concluding (K := K) opens.hasOther rest
  refine ⟨begins.keeps.trans ending.keeps begins.size, fun r ho => ?_⟩
  obtain rfl := (Run.goes_concluding_ofOutcome.1 rest).1
  subst ho
  obtain rfl | ⟨result, rfl⟩ := o₁.eq_ofResult
  · cases ends.1
  cases result with
  | ok a => cases ends.1
  | error r' =>
    obtain rfl := Option.some.inj ends.1
    refine .raised (.intro (.opening opens stops ends rest) rfl (.new (opens.new r rfl))
      fun e e' he he' => ?_)
    obtain ⟨e₁, he₁, htb⟩ := bears_run opens.hasOther rest (Heap.lt_of_thrown? he) he'
    obtain rfl := Option.some.inj (he.symm.trans he₁)
    exact htb

end Runs

end Told

/-- A derivation tells where an error comes from. -/
theorem Exec.told (h : Exec K A σ p m o m') : Told K A σ p m o m' := by
  induction h with
  | calm hp h outside => exact .calm hp h outside
  | throw r m again => exact .throw again
  | value first rest ih ih' => exact .value first rest ih ih'
  | raised first ih => exact ih.raised
  | exhausted first ih => exact ⟨ih.keeps_first .exhausted, fun _ h => by cases h⟩
  | layer around plain bounds fits inner rest ih => exact .layer inner ih around plain bounds fits rest
  | enter known activation knows inner ih =>
    refine ⟨ih.keeps_first (.enter known activation knows), fun r ho => ?_⟩
    subst ho
    exact (ih.comes r rfl).through (.enter known activation knows) knows
      fun e' _ he => ⟨e', [], he, rfl, .inl rfl⟩
  | orelse first rest ih ih' => exact .orelse first rest ih ih'
  | handled inside first rest ih ih' => exact .handled inside first rest ih ih'
  | unhandled first leaves quiet ih =>
    exact ⟨ih.keeps_first (.unhandled leaves quiet), fun r h => absurd h (quiet r)⟩
  | finished inside first ends rest ih ih' => exact .finished inside first ends rest ih ih'
  | unfinished first ih => exact ⟨ih.keeps_first .unfinished, fun _ h => by cases h⟩
  | run opens inside rest ih => exact .run opens inside rest ih
  | stopped opens stops ends rest => exact .stopped opens stops ends rest

end Stencil
