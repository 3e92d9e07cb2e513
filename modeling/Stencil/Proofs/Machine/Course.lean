import Stencil.Proofs.Machine.Laws

/-!
# Courses of processes

A process may end in many ways, depending on the answers to its requests, on what others do to the
machine while it is suspended, and on whether it is cancelled then. A course is one of these ways,
told by what has been answered. Whatever holds of all courses holds in every world.

## Main definitions

* `Move` — how a process went on from a request.
* `Step.Course` — a process comes to an end along a list of moves.

## Main results

* `Step.course_bind` — the courses of two processes one after another.
* `Step.exists_course_of_finish` — a process in a world takes a course.
-/

namespace Stencil

/-- How a process went on from a request: what it was given, and the machine that it found. -/
structure Move where
  request : Request
  reply : Resumption request.Reply
  found : Machine

namespace Request

/-- A process that asks a request may be given this reply and find this machine. While it is
suspended the machine changes as `others` say, and it may be cancelled. -/
def Passes (others : Machine → Machine → Prop) (q : Request) (m : Machine)
    (reply : Resumption q.Reply) (m' : Machine) : Prop :=
  if q.suspends then others m m' else m' = m ∧ ∃ a, reply = .answer a

theorem passes_answer {others : Machine → Machine → Prop} {q : Request} {m : Machine}
    (h : others m m) (a : q.Reply) : q.Passes others m (.answer a) m := by
  unfold Passes
  split
  · exact h
  · exact ⟨rfl, a, rfl⟩

theorem Passes.eq {q : Request} {m m' : Machine} {reply : Resumption q.Reply}
    (h : q.Passes Eq m reply m') : m' = m := by
  unfold Passes at h
  split at h
  · exact h.symm
  · exact h.1

end Request

namespace Step

variable {α β : Type} {others : Machine → Machine → Prop}

/-- A process comes to an end along a list of moves, where `others` say what may become of the
machine while it is suspended. -/
inductive Course (others : Machine → Machine → Prop) :
    Step α → List Move → α → Machine → Prop
  | done (a : α) (m : Machine) : Course others (.done a m) [] a m
  | ask {q : Request} {m m' m'' : Machine} {next : Resumption q.Reply → Machine → Step α}
      {reply : Resumption q.Reply} {moves : List Move} {a : α}
      (pass : q.Passes others m reply m') (rest : Course others (next reply m') moves a m'') :
      Course others (.ask q m next) (⟨q, reply, m'⟩ :: moves) a m''

@[simp]
theorem course_done {a b : α} {m m' : Machine} {moves : List Move} :
    (done a m).Course others moves b m' ↔ moves = [] ∧ b = a ∧ m' = m := by
  constructor
  · rintro ⟨⟩
    exact ⟨rfl, rfl, rfl⟩
  · rintro ⟨rfl, rfl, rfl⟩
    exact .done _ _

theorem Course.bind {f : α → Machine → Step β} {s : Step α} {before after : List Move} {a : α}
    {b : β} {m m' : Machine} (h : s.Course others before a m)
    (hf : (f a m).Course others after b m') :
    (Step.bind f s).Course others (before ++ after) b m' := by
  induction h with
  | done a m => exact hf
  | ask pass rest ih => exact .ask pass (ih hf)

/-- Two processes one after another take a course of the first and then one of the second. -/
theorem course_bind {f : α → Machine → Step β} {s : Step α} {moves : List Move} {b : β}
    {m' : Machine} :
    (bind f s).Course others moves b m' ↔
      ∃ before after a m, moves = before ++ after ∧ s.Course others before a m ∧
        (f a m).Course others after b m' := by
  constructor
  · intro h
    induction s generalizing moves with
    | done a m => exact ⟨[], moves, a, m, rfl, .done a m, h⟩
    | ask q m next ih =>
      cases h with
      | ask pass rest =>
        obtain ⟨before, after, a, m₁, rfl, h₁, h₂⟩ := ih _ _ rest
        exact ⟨_ :: before, after, a, m₁, rfl, .ask pass h₁, h₂⟩
  · rintro ⟨before, after, a, m, rfl, h₁, h₂⟩
    exact h₁.bind h₂

/-- A world along a list of moves. -/
def replay {σ : Type} (world : (q : Request) → σ → q.Reply × σ) (s : σ) (moves : List Move) : σ :=
  moves.foldl (fun s move => (world move.request s).2) s

/-- A process in a world takes a course, on which nothing else changes the machine, and the world
is led along it. -/
theorem exists_course_of_finish {σ : Type} (world : (q : Request) → σ → q.Reply × σ)
    (step : Step α) (s : σ) :
    ∃ moves, step.Course Eq moves (step.finish world s).1 (step.finish world s).2.1 ∧
      (step.finish world s).2.2 = replay world s moves := by
  induction step generalizing s with
  | done a m => exact ⟨[], .done a m, rfl⟩
  | ask q m next ih =>
    obtain ⟨moves, h, hs⟩ := ih (.answer (world q s).1) m (world q s).2
    exact ⟨_ :: moves, .ask (Request.passes_answer rfl _) h, hs⟩

end Step

namespace Machine

/-- An exception on the heap is of a class. -/
def isA (m : Machine) (r : Ref) (c : ExceptionClass) : Bool :=
  (m.heap.thrown? r).any fun e => e.type.isA c

/-- The place of a new object. -/
def next (m : Machine) : Ref := m.heap.objects.size

/-- The machine with a new exception. -/
def threw (m : Machine) (e : Thrown) : Machine :=
  { m with heap := (m.heap.alloc (.exception e)).2 }

/-- The machine with a new exception for a run that has been cancelled. -/
def cancelled (m : Machine) : Machine :=
  { m with heap := (m.heap.alloc (.exception (.plain .cancelledError []))).2 }

/-- The machine with a new dictionary. -/
def withDict (m : Machine) (es : Entries) : Machine :=
  { m with heap := (m.heap.alloc (.dict es)).2 }

variable {m : Machine} {es : Entries} {e : Thrown} {r : Ref} {o : Object}

theorem get?_withDict_next : (m.withDict es).heap.get? m.next = some (.dict es) :=
  Heap.get?_alloc m.heap _

theorem get?_withDict_of_get? (h : m.heap.get? r = some o) :
    (m.withDict es).heap.get? r = some o :=
  Heap.get?_alloc_of_get? h

theorem get?_threw_of_get? (h : m.heap.get? r = some o) :
    (m.threw e).heap.get? r = some o :=
  Heap.get?_alloc_of_get? h

end Machine

end Stencil
