import Stencil.Proofs.Run.Derivation

/-!
# What has derivations

A process is derivable if each way in which it comes to its end has a derivation. The rules follow the
ways in which processes are put together.

## Main definitions

* `Derivable` — a process has derivations, in code or outside of it.

## Main results

* `Derivable.bind`, `Derivable.locate`, `Derivable.guarded`, `Derivable.finishing` — the rules.
-/

namespace Stencil

open Script

variable {α β : Type} {K : Code → Prop} {A : Replies} {D : Path} {σ : Standing} {c : Code}
  {handling : Option Ref}

/-- Whatever a process comes to on a machine has a derivation. -/
def DerivableAt (K : Code → Prop) (A : Replies) (σ : Standing) (p : Proc α) (m : Machine) :
    Prop := ∀ o m', p.Goes A m o m' → Exec K A σ p m o m'

/-- The code on a machine is known, and so is its directory. -/
structure Machine.Minds (K : Code → Prop) (D : Path) (m : Machine) : Prop where
  knows : m.heap.Knows K
  directory : m.directory = D

theorem Machine.Minds.grown {m m' : Machine} (h : m.Minds K D) (hg : m.Grown K m') :
    m'.Minds K D := ⟨hg.knows h.knows, hg.directory.trans h.directory⟩

/-- A process has derivations on every machine whose code and whose directory are known. -/
def Derivable (K : Code → Prop) (A : Replies) (D : Path) (σ : Standing) (p : Proc α) : Prop :=
  ∀ m, m.Minds K D → DerivableAt K A σ p m

/-- What goes on with the heap is derivable if it is so with the one that there is. -/
theorem DerivableAt.heap {f : Heap → Proc β} {m : Machine}
    (hf : DerivableAt K A σ (f m.heap) m) : DerivableAt K A σ (Proc.heap >>= f) m := by
  intro o m' h
  have looks : Proc.heap.Goes A m (.value m.heap) m := (Proc.goes_of_done rfl).2 ⟨rfl, rfl⟩
  have calm : Proc.heap.Calm K := .of_done fun m => ⟨_, _, rfl, .refl K m⟩
  exact .value (.calm (calm m) looks fun _ h => nomatch h) (hf o m' h)

namespace Derivable

variable {p : Proc α} {f : α → Proc β}

/-- Something is done in one go, outside of code. -/
theorem calm (hp : p.Calm K) : Derivable K A D ⟨none, handling⟩ p :=
  fun m _ _ _ h => .calm (hp m) h fun _ _ => rfl

/-- Something is done in one go that does not fail. -/
theorem quiet (hp : p.Calm K) (hq : p.Quiet) : Derivable K A D σ p := by
  refine fun m _ o m' h => .calm (hp m) h fun r ho => ?_
  subst ho
  exact absurd h (hq A m r m')

theorem pure {a : α} : Derivable K A D σ (Pure.pure a : Proc α) := .quiet .pure .pure

/-- An exception is raised again; in code it is the one that is being handled. -/
theorem throw {r : Ref} (again : σ.code = none ∨ σ.handling = some r) :
    Derivable K A D σ (Proc.throw r : Proc α) := by
  intro m _ o m' h
  obtain ⟨rfl, rfl⟩ := Proc.goes_throw.1 h
  exact .throw r _ again

theorem exhausted : Derivable K A D σ (Proc.exhausted : Proc α) := by
  refine .quiet (fun m A o m' h => ?_) fun A m r m' h => nomatch (Proc.goes_exhausted.1 h).1
  obtain ⟨rfl, rfl⟩ := Proc.goes_exhausted.1 h
  exact ⟨.refl K _, fun _ h => nomatch h⟩

/-- A process is followed by one that is derivable after what the first one ensures. -/
theorem bindEnsures {P : α → Machine → Prop} (hp : Derivable K A D σ p) (he : p.Ensures P)
    (hf : ∀ a m, P a m → m.Minds K D → DerivableAt K A σ (f a) m) :
    Derivable K A D σ (p >>= f) := by
  intro m hm o m' h
  obtain ⟨a, m₁, h₁, h₂⟩ | ⟨r, h₁, rfl⟩ | ⟨h₁, rfl⟩ := Proc.goes_bind.1 h
  · have first := hp _ hm _ _ h₁
    exact .value first (hf a m₁ ((he m).goes h₁) (hm.grown first.grown) _ _ h₂)
  · exact .raised (hp _ hm _ _ h₁)
  · exact .exhausted (hp _ hm _ _ h₁)

/-- Something is done in one go that does not fail, and is followed by a process. -/
theorem calmBind {m : Machine} (hm : m.Minds K D) (hp : p.CalmAt K m) (hq : p.Quiet)
    (hf : ∀ a, Derivable K A D σ (f a)) : DerivableAt K A σ (p >>= f) m := by
  intro o m' h
  obtain ⟨a, m₁, h₁, h₂⟩ | ⟨r, h₁, -⟩ | ⟨h₁, rfl⟩ := Proc.goes_bind.1 h
  · have first : Exec K A σ p m (.value a) m₁ := .calm hp h₁ fun _ h => by cases h
    exact .value first (hf a m₁ (hm.grown first.grown) _ _ h₂)
  · exact absurd h₁ (hq _ _ _ _)
  · exact .exhausted (.calm hp h₁ fun _ h => by cases h)

/-- Processes one after another. -/
theorem bind (hp : Derivable K A D σ p) (hf : ∀ a, Derivable K A D σ (f a)) :
    Derivable K A D σ (p >>= f) :=
  hp.bindEnsures (fun m => Step.ensures_true (p m)) fun a m _ hm => hf a m hm

theorem heap {f : Heap → Proc β} (hf : ∀ h, h.Knows K → Derivable K A D σ (f h)) :
    Derivable K A D σ (Proc.heap >>= f) := fun m hm => .heap (hf m.heap hm.knows m hm)

theorem ite {c : Prop} [Decidable c] {q : Proc α} (hp : Derivable K A D σ p)
    (hq : Derivable K A D σ q) : Derivable K A D σ (if c then p else q) := by
  split
  · exact hp
  · exact hq

/-- A loop, by induction on the number of rounds that it may take. -/
theorem iterate {ρ : Type} {step : ρ → Proc (ρ ⊕ α)} (hs : ∀ s, Derivable K A D σ (step s))
    (limit : Nat) (s : ρ) : Derivable K A D σ (Proc.iterate step limit s) := by
  induction limit generalizing s with
  | zero => exact exhausted
  | succ limit ih =>
    refine (hs s).bind fun next => ?_
    cases next with
    | inl s => exact ih s
    | inr a => exact pure

/-- A layer that does not do more than to pass errors on. -/
theorem layer {ℓ : Layer} {C : Proc α → Proc α} {code : Option Code} (around : Around (some ℓ) C)
    (plain : ℓ.IsPlain) (bounds : ℓ.Bounds K σ.code code) (fits : ℓ.Fits p)
    (hp : Derivable K A D { σ with code } p) : Derivable K A D σ (C p) := by
  intro m hm o m' h
  obtain ⟨o₁, m₁, h₁, rest⟩ := (goes_of_eq_bind around.eq_bind).1 h
  exact .layer around plain bounds fits (hp _ hm _ _ h₁) rest

/-- A call of code. -/
theorem enter {inside : Option Ref} (known : K c) (activation : Activation c p)
    (knows : inside = none ∨ inside = handling) (hp : Derivable K A D ⟨some c, inside⟩ p) :
    Derivable K A D ⟨none, handling⟩ p :=
  fun _ hm _ _ h => .enter known activation knows (hp _ hm _ _ h)

theorem guarded {clauses : Ref → Guards} {orelse body : Proc Flow} (inside : σ.code = some c)
    (hb : Derivable K A D σ body) (ho : Derivable K A D σ orelse)
    (hc : ∀ r, Derivable K A D (σ.handles (some r)) (Script.handledBy r (clauses r))) :
    Derivable K A D σ (guarded clauses orelse body) := by
  intro m hm o m' h
  obtain ⟨m₁, h₁, h₂⟩ | ⟨r, m₁, h₁, h₂⟩ | ⟨h, hn, hr⟩ := goes_guarded.1 h
  · have first := hb _ hm _ _ h₁
    exact .orelse first (ho _ (hm.grown first.grown) _ _ h₂)
  · have first := hb _ hm _ _ h₁
    exact .handled inside first (hc r _ (hm.grown first.grown) _ _ h₂)
  · exact .unhandled (hb _ hm _ _ h) hn hr

theorem finishing {clause : Option Ref → Proc Flow} {p : Proc Flow} (inside : σ.code = some c)
    (hp : Derivable K A D σ p)
    (hc : ∀ handled, Derivable K A D (σ.handles handled) (clause handled)) :
    Derivable K A D σ (finishing clause p) := by
  intro m hm o m' h
  obtain ⟨h₁, rfl⟩ | ⟨o₁, m₁, o₂, hn, h₁, h₂, rfl⟩ := goes_finishing.1 h
  · exact .unfinished (hp _ hm _ _ h₁)
  · have first := hp _ hm _ _ h₁
    exact .finished inside first hn (hc _ _ (hm.grown first.grown) _ _ h₂)

end Derivable

/-- A frame in which known code is executed. -/
structure Frame.IsOf (K : Code → Prop) (f : Frame) (c : Code) : Prop where
  known : K c
  file : f.file = c.file
  lines : f.lines = c.lines

/-- Where code stands that is executed in a frame. -/
def Frame.standing (f : Frame) (c : Code) : Standing := ⟨some c, f.handling⟩

namespace Frame.IsOf

variable {f : Frame}

/-- The work of a node of code. -/
theorem locate (hf : f.IsOf K c) {p : Proc α} {row : Nat} {spot : Spot} (hs : spot ∈ c.spots)
    (hr : spot.row = row) (does : spot.Does p) (hp : Derivable K A D ⟨none, f.handling⟩ p) :
    Derivable K A D (f.standing c) (f.locate row p) := by
  have heq : f.locate row p = p.handle (Layer.place c spot).rescue := by
    subst hr
    simp only [Frame.locate, Frame.lineAt, hf.file, hf.lines]
    rfl
  exact heq ▸ .layer (.place c spot) trivial ⟨rfl, hs, rfl⟩ does hp

/-- The work of a node of code, which is done in one go. -/
theorem locateCalm (hf : f.IsOf K c) {p : Proc α} {row : Nat} {spot : Spot} (hs : spot ∈ c.spots)
    (hr : spot.row = row) (does : spot.Does p) (hp : p.Calm K) :
    Derivable K A D (f.standing c) (f.locate row p) :=
  hf.locate hs hr does (.calm hp)

end Frame.IsOf

end Stencil
