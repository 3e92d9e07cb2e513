import Stencil.Proofs.Machine.Course

/-!
# How processes go

A process goes from one machine to another, with an outcome, if it has a course on which nothing else
changes the machine. What replies it may be given on the way is left open: they may be those of one
disk, or any. A process that is put together goes as its parts go, one after another.

## Main definitions

* `Replies` — the replies that a process may be given.
* `Proc.Goes` — a process goes from one machine to another, with an outcome.

## Main results

* `Proc.goes_bind`, `Proc.goes_handle`, `Proc.goes_attempt` — how processes go that are put together.
-/

namespace Stencil

namespace Outcome

variable {α : Type}

/-- The exception with which a process ends. -/
def raised? : Outcome α → Option Ref
  | raised r => some r
  | _ => none

/-- How a process ends whose exception would be a value. -/
def ofResult : Except Ref α → Outcome α
  | .ok a => value a
  | .error r => raised r

theorem eq_ofResult : ∀ o : Outcome α, o = exhausted ∨ ∃ result, o = ofResult result
  | value a => .inr ⟨.ok a, rfl⟩
  | raised r => .inr ⟨.error r, rfl⟩
  | exhausted => .inl rfl

end Outcome

/-- The replies that a process may be given. -/
abbrev Replies := (q : Request) → q.Reply → Prop

variable {α β : Type} {A : Replies} {m m' : Machine}

/-- A process goes on to an outcome and a machine, while it is given certain replies and nothing else
changes the machine. -/
def Step.Goes (A : Replies) (s : Step α) (a : α) (m : Machine) : Prop :=
  ∃ moves, (∀ move ∈ moves, ∀ reply, move.reply = .answer reply → A move.request reply) ∧
    s.Course Eq moves a m

theorem Step.goes_done {a b : α} : (done a m).Goes A b m' ↔ b = a ∧ m' = m := by
  simp only [Goes, course_done]
  constructor
  · rintro ⟨_, -, -, rfl, rfl⟩
    exact ⟨rfl, rfl⟩
  · rintro ⟨rfl, rfl⟩
    exact ⟨[], fun _ h => absurd h List.not_mem_nil, rfl, rfl, rfl⟩

theorem Step.goes_bind {f : α → Machine → Step β} {s : Step α} {b : β} :
    (bind f s).Goes A b m' ↔ ∃ a m, s.Goes A a m ∧ (f a m).Goes A b m' := by
  constructor
  · rintro ⟨moves, hA, h⟩
    obtain ⟨before, after, a, m, rfl, h₁, h₂⟩ := course_bind.1 h
    exact ⟨a, m, ⟨before, fun move hm => hA move (List.mem_append_left _ hm), h₁⟩,
      ⟨after, fun move hm => hA move (List.mem_append_right _ hm), h₂⟩⟩
  · rintro ⟨a, m, ⟨before, hA, h₁⟩, ⟨after, hA', h₂⟩⟩
    refine ⟨before ++ after, fun move hm => ?_, h₁.bind h₂⟩
    rcases List.mem_append.1 hm with hm | hm
    · exact hA move hm
    · exact hA' move hm

/-- What a process ensures holds when it ends with a value. -/
theorem Step.Ensures.goes {P : α → Machine → Prop}
    {s : Step (Outcome α)} {a : α} (hs : s.Ensures P) (h : s.Goes A (.value a) m) : P a m := by
  obtain ⟨moves, -, h⟩ := h
  induction s generalizing moves with
  | done o m' =>
    obtain ⟨-, rfl, rfl⟩ := course_done.1 h
    exact hs
  | ask q m' next ih =>
    cases h with
    | ask pass rest => exact ih _ _ (hs _ _) _ rest

namespace Proc

variable {p : Proc α} {f : α → Proc β} {g : Ref → Proc α}

/-- A process goes from one machine to another. -/
def Goes (A : Replies) (p : Proc α) (m : Machine) (o : Outcome α)
    (m' : Machine) : Prop := (p m).Goes A o m'

theorem goes_of_done {o o₁ : Outcome α} {m₁ : Machine} (h : p m = .done o₁ m₁) :
    p.Goes A m o m' ↔ o = o₁ ∧ m' = m₁ := by
  rw [Goes, h]
  exact Step.goes_done

theorem goes_pure {a : α} {o : Outcome α} :
    (pure a : Proc α).Goes A m o m' ↔ o = .value a ∧ m' = m := goes_of_done rfl

theorem goes_throw {r : Ref} {o : Outcome α} :
    (throw r : Proc α).Goes A m o m' ↔ o = .raised r ∧ m' = m := goes_of_done rfl

theorem goes_exhausted {o : Outcome α} :
    (exhausted : Proc α).Goes A m o m' ↔ o = .exhausted ∧ m' = m := goes_of_done rfl

/-- A process followed by another: both go, or the first one does not end with a value. -/
theorem goes_bind {o : Outcome β} : (p >>= f).Goes A m o m' ↔
    (∃ a m₁, p.Goes A m (.value a) m₁ ∧ (f a).Goes A m₁ o m') ∨
      (∃ r, p.Goes A m (.raised r) m' ∧ o = .raised r) ∨
      (p.Goes A m .exhausted m' ∧ o = .exhausted) := by
  rw [Goes, bind_eq, Step.goes_bind]
  constructor
  · rintro ⟨o₁, m₁, h₁, h₂⟩
    cases o₁ with
    | value a => exact .inl ⟨a, m₁, h₁, h₂⟩
    | raised r =>
      obtain ⟨rfl, rfl⟩ := Step.goes_done.1 h₂
      exact .inr (.inl ⟨r, h₁, rfl⟩)
    | exhausted =>
      obtain ⟨rfl, rfl⟩ := Step.goes_done.1 h₂
      exact .inr (.inr ⟨h₁, rfl⟩)
  · rintro (⟨a, m₁, h₁, h₂⟩ | ⟨r, h₁, rfl⟩ | ⟨h₁, rfl⟩)
    · exact ⟨_, m₁, h₁, h₂⟩
    · exact ⟨_, m', h₁, Step.goes_done.2 ⟨rfl, rfl⟩⟩
    · exact ⟨_, m', h₁, Step.goes_done.2 ⟨rfl, rfl⟩⟩

/-- A process whose exception is handled. -/
theorem goes_handle {o : Outcome α} : (p.handle g).Goes A m o m' ↔
    (∃ r m₁, p.Goes A m (.raised r) m₁ ∧ (g r).Goes A m₁ o m') ∨
      (p.Goes A m o m' ∧ ∀ r, o ≠ .raised r) := by
  rw [Goes, handle, Step.goes_bind]
  constructor
  · rintro ⟨o₁, m₁, h₁, h₂⟩
    cases o₁ with
    | raised r => exact .inl ⟨r, m₁, h₁, h₂⟩
    | value a =>
      obtain ⟨rfl, rfl⟩ := Step.goes_done.1 h₂
      exact .inr ⟨h₁, nofun⟩
    | exhausted =>
      obtain ⟨rfl, rfl⟩ := Step.goes_done.1 h₂
      exact .inr ⟨h₁, nofun⟩
  · rintro (⟨r, m₁, h₁, h₂⟩ | ⟨h₁, hr⟩)
    · exact ⟨_, m₁, h₁, h₂⟩
    · refine ⟨o, m', h₁, ?_⟩
      cases o with
      | raised r => exact absurd rfl (hr r)
      | value a => exact Step.goes_done.2 ⟨rfl, rfl⟩
      | exhausted => exact Step.goes_done.2 ⟨rfl, rfl⟩

/-- A process whose exception is a value. -/
theorem goes_attempt {o : Outcome (Except Ref α)} : p.attempt.Goes A m o m' ↔
    (∃ result, p.Goes A m (.ofResult result) m' ∧ o = .value result) ∨
      (p.Goes A m .exhausted m' ∧ o = .exhausted) := by
  rw [Goes, attempt, Step.goes_bind]
  constructor
  · rintro ⟨o₁, m₁, h₁, h₂⟩
    cases o₁ <;> obtain ⟨rfl, rfl⟩ := Step.goes_done.1 h₂
    · exact .inl ⟨.ok _, h₁, rfl⟩
    · exact .inl ⟨.error _, h₁, rfl⟩
    · exact .inr ⟨h₁, rfl⟩
  · rintro (⟨result, h₁, rfl⟩ | ⟨h₁, rfl⟩)
    · cases result <;> exact ⟨_, m', h₁, Step.goes_done.2 ⟨rfl, rfl⟩⟩
    · exact ⟨_, m', h₁, Step.goes_done.2 ⟨rfl, rfl⟩⟩

theorem goes_attempt_value {result : Except Ref α} :
    p.attempt.Goes A m (.value result) m' ↔ p.Goes A m (.ofResult result) m' := by
  rw [goes_attempt]
  constructor
  · rintro (⟨result, h, he⟩ | ⟨-, he⟩)
    · exact Outcome.value.inj he ▸ h
    · cases he
  · exact fun h => .inl ⟨result, h, rfl⟩

/-- A process whose value does not matter. -/
theorem goes_bind_pure {b : β} {result : Except Ref β} :
    (p >>= fun _ => pure b).Goes A m (.ofResult result) m' ↔
      ∃ end_ : Except Ref α, p.Goes A m (.ofResult end_) m' ∧ result = end_.map fun _ => b := by
  rw [goes_bind]
  constructor
  · rintro (⟨a, m₁, h, hb⟩ | ⟨r, h, hr⟩ | ⟨-, he⟩)
    · obtain ⟨hv, rfl⟩ := goes_pure.1 hb
      cases result with
      | ok b' => exact ⟨.ok a, h, congrArg Except.ok (Outcome.value.inj hv)⟩
      | error => cases hv
    · cases result with
      | ok => cases hr
      | error r' => exact ⟨.error r, h, congrArg Except.error (Outcome.raised.inj hr)⟩
    · cases result <;> cases he
  · rintro ⟨end_, h, rfl⟩
    cases end_ with
    | ok a => exact .inl ⟨a, m', h, goes_pure.2 ⟨rfl, rfl⟩⟩
    | error r => exact .inr (.inl ⟨r, h, rfl⟩)

/-- The exception with which a process raises something new. -/
theorem goes_raise {e : Thrown} {o : Outcome α} : (raise e : Proc α).Goes A m o m' ↔
    o = .raised m.next ∧ m' = m.threw e := goes_of_done rfl

/-- A request is answered, or the process is cancelled meanwhile. -/
theorem goes_ask {q : Request} {o : Outcome q.Reply} (h : (ask q).Goes A m o m') :
    (∃ reply, A q reply ∧ o = .value reply ∧ m' = m) ∨
      (o = .raised m.next ∧ m' = m.cancelled) := by
  obtain ⟨moves, hA, h⟩ := h
  rcases h with _ | @⟨_, _, m₁, _, _, reply, moves, _, pass, rest⟩
  obtain rfl := pass.eq
  cases reply with
  | answer a =>
    obtain ⟨-, rfl, rfl⟩ := Step.course_done.1 rest
    exact .inl ⟨a, hA _ (List.mem_cons_self ..) a rfl, rfl, rfl⟩
  | cancel =>
    obtain ⟨-, rfl, rfl⟩ := Step.course_done.1 rest
    exact .inr ⟨rfl, rfl⟩

end Proc

end Stencil
