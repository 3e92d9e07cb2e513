import Stencil.Proofs.Machine.Calm
import Stencil.Proofs.Run.State

/-!
# Passages

What the process of a script makes of a machine while runs pass from one state to the next: the
passages of runs are nested in each other, and exceptions only get more places in front of their
tracebacks.

## Main definitions

* `Nested`, `Opened` — passages of runs are nested in each other, and some of them still go on.
* `Machine.Keeps` — what becomes of the exceptions on a machine.
* `Machine.Grown` — what the process of a script makes of a machine.
* `Opens` — a run passes through the first of its stages.

## Main results

* `Nested.append`, `Machine.Grown.trans` — one process after another.
-/

namespace Stencil

open Script

variable {α β : Type} {K : Code → Prop} {A : Replies} {m m' m'' m₁ : Machine} {r : Ref}

/-! ## What becomes of a machine -/

namespace Machine

/-- The run at a place. -/
def runAt (m : Machine) (run : Ref) : TemplateRun :=
  match m.heap.get? run with
  | some (.run r) => r
  | _ => ⟨Path.here, Delimiters.standard, .unstarted⟩

/-- The machine when a run has passed into a state. -/
def advanced (m : Machine) (run : Ref) (state : RunState) : Machine := { m with
  heap := m.heap.set run (.run { m.runAt run with state })
  log := m.log.push (.advanced run (m.runAt run).path (m.runAt run).state state) }

/-- The machine when an error has passed a spot in code. -/
def located (m : Machine) (r : Ref) (c : Code) (spot : Spot) : Machine :=
  { m with heap := m.heap.locate r c.file (c.lineAt spot.row) }

/-- The machine when a name of a scope or a module has lost its value. -/
def unbound (m : Machine) (own : Ref) (id : Text) : Machine :=
  { m with heap := m.heap.updateNames own fun ns => ns.erase id }

/-- The machine when what is kept under a key is forgotten. -/
def forgotten (m : Machine) (key : Text) : Machine :=
  { m with modules := m.modules.filter (·.1 != key) }

/-- The machine with a new run. -/
def created (m : Machine) (path : Path) (d : Delimiters) : Machine :=
  { m with heap := (m.heap.alloc (.run ⟨path, d, .unstarted⟩)).2 }

end Machine

/-! ## Passages -/

/-- The passages of a run through the first of its stages. -/
def passagesThrough (run : Ref) (k : Nat) : List (Ref × RunState) :=
  (RunState.stages.take k).map (run, ·)

/-- Passages of new runs, from one place on the heap to another. Each run passes through the first of
its stages in their order; where it has passed through all of them other runs may be nested, one after
another; then it may pass to its end. Its word is over before that of the next run begins. -/
inductive Nested : Ref → List (Ref × RunState) → Ref → Prop
  | nil {lo hi : Ref} (h : lo ≤ hi) : Nested lo [] hi
  | run {lo run mid hi : Ref} {k : Nat} {inner rest : List (Ref × RunState)} {last : Option RunState}
      (new : lo ≤ run) (inside : Nested (run + 1) inner mid) (all : inner ≠ [] → k = 4)
      (ends : ∀ state, last = some state → state = .failed ∨ k = 4 ∧ state = .completed)
      (after : Nested mid rest hi) :
      Nested lo (passagesThrough run k ++ (inner ++ (last.toList.map (run, ·) ++ rest))) hi

namespace Nested

variable {lo lo' mid hi hi' : Ref} {ps ps' : List (Ref × RunState)}

theorem le (h : Nested lo ps hi) : lo ≤ hi := by
  induction h with
  | nil h => exact h
  | run new _ _ _ _ ih ih' =>
    exact Nat.le_trans new (Nat.le_trans (Nat.le_of_succ_le ih) ih')

theorem append (h : Nested lo ps mid) (h' : Nested mid ps' hi) : Nested lo (ps ++ ps') hi := by
  induction h with
  | nil h =>
    cases h' with
    | nil h' => exact .nil (Nat.le_trans h h')
    | run new inside all ends after => exact .run (Nat.le_trans h new) inside all ends after
  | run new inside all ends after _ ih =>
    simpa only [List.append_assoc] using .run new inside all ends (ih h')

theorem mono (h : Nested lo ps hi) (hlo : lo' ≤ lo) (hhi : hi ≤ hi') : Nested lo' ps hi' := by
  simpa using (Nested.nil hlo).append (h.append (.nil hhi))

/-- The passages of one run, within which others are nested. -/
theorem single {run : Ref} {k : Nat} {inner : List (Ref × RunState)} {last : Option RunState}
    (inside : Nested (run + 1) inner hi) (all : inner ≠ [] → k = 4)
    (ends : ∀ state, last = some state → state = .failed ∨ k = 4 ∧ state = .completed) :
    Nested run (passagesThrough run k ++ (inner ++ last.toList.map (run, ·))) hi := by
  simpa using Nested.run (Nat.le_refl run) inside all ends (.nil (Nat.le_refl hi))

/-- Passages are of runs from one place on the heap to another. -/
theorem bounds (h : Nested lo ps hi) : ∀ p ∈ ps, lo ≤ p.1 ∧ p.1 < hi := by
  induction h with
  | nil => exact fun p hp => absurd hp List.not_mem_nil
  | @run lo run mid hi k inner rest last new inside all ends after ih ih' =>
    have hmid : run < mid := Nat.lt_of_succ_le inside.le
    have own : lo ≤ run ∧ run < hi := ⟨new, Nat.lt_of_lt_of_le hmid after.le⟩
    intro p hp
    simp only [passagesThrough, List.mem_append, List.mem_map] at hp
    obtain ⟨_, -, rfl⟩ | hp | ⟨_, -, rfl⟩ | hp := hp
    · exact own
    · obtain ⟨h, h'⟩ := ih p hp
      exact ⟨Nat.le_trans new (Nat.le_of_succ_le h), Nat.lt_of_lt_of_le h' after.le⟩
    · exact own
    · obtain ⟨h, h'⟩ := ih' p hp
      exact ⟨Nat.le_trans new (Nat.le_trans (Nat.le_of_lt hmid) h), h'⟩

end Nested

/-- Nested passages up to a moment at which some runs have not come to their ends yet, each of them
within the one before. All but the last one have passed through all of their stages. -/
inductive Opened : Ref → List (Ref × RunState) → List Ref → Ref → Prop
  | none {lo hi : Ref} {ps : List (Ref × RunState)} (h : Nested lo ps hi) : Opened lo ps [] hi
  | run {lo run hi : Ref} {k : Nat} {ps inner : List (Ref × RunState)} {runs : List Ref}
      (before : Nested lo ps run) (inside : Opened (run + 1) inner runs hi)
      (all : inner ≠ [] ∨ runs ≠ [] → k = 4) :
      Opened lo (ps ++ (passagesThrough run k ++ inner)) (run :: runs) hi

theorem Opened.prepend {lo mid hi : Ref} {ps ps' : List (Ref × RunState)} {runs : List Ref}
    (h : Nested lo ps mid) (h' : Opened mid ps' runs hi) : Opened lo (ps ++ ps') runs hi := by
  cases h' with
  | none h' => exact .none (h.append h')
  | run before inside all => exact List.append_assoc .. ▸ .run (h.append before) inside all

/-! ## Exceptions -/

theorem Heap.lt_of_thrown? {h : Heap} {e : Thrown} (he : h.thrown? r = some e) :
    r < h.objects.size := by
  unfold Heap.thrown? at he
  split at he
  · next ho => exact Heap.lt_of_get? ho
  · nomatch he

/-- Exceptions that are on a machine have the same classes on another one and the same tracebacks,
in front of which there are more places only if something else holds. -/
def Machine.Keeps (R : Ref → Prop) (m m' : Machine) : Prop :=
  ∀ r e', r < m.next → m'.heap.thrown? r = some e' →
    ∃ e places, m.heap.thrown? r = some e ∧ e'.type = e.type ∧
      e'.traceback = places ++ e.traceback ∧ (places = [] ∨ R r)

namespace Machine

variable {R R' : Ref → Prop}

theorem Keeps.trans (h : m.Keeps R m₁) (h' : m₁.Keeps (fun r => r < m.next → R r) m')
    (size : m.next ≤ m₁.next) : m.Keeps R m' := by
  intro r e' hr he
  obtain ⟨e₁, ps', he₁, ht', htb', hR'⟩ := h' r e' (Nat.lt_of_lt_of_le hr size) he
  obtain ⟨e, ps, he, ht, htb, hR⟩ := h r e₁ hr he₁
  refine ⟨e, ps' ++ ps, he, ht'.trans ht, by rw [htb', htb, List.append_assoc], ?_⟩
  obtain rfl | hR' := hR'
  · simpa using hR
  · exact .inr (hR' hr)

theorem Keeps.mono (h : m.Keeps R m') (hR : ∀ r, R r → R' r) : m.Keeps R' m' := by
  intro r e' hr he
  obtain ⟨e, ps, he, ht, htb, h⟩ := h r e' hr he
  exact ⟨e, ps, he, ht, htb, h.imp_right (hR r)⟩

theorem Grows.keeps {ps : List (Ref × RunState)} (h : m.Grows K ps m') : m.Keeps R m' := by
  intro r e' hr he
  obtain ⟨e, he, ht, htb⟩ | ⟨hn, -⟩ := h.exceptions r e' he
  · exact ⟨e, [], he, ht, htb, .inl rfl⟩
  · exact absurd hr (Nat.not_lt.2 hn)

/-- An error that is located has the place in front of its traceback, and others are left alone. -/
theorem thrown?_located {c : Code} {spot : Spot} {s : Ref} :
    (m.located r c spot).heap.thrown? s = (m.heap.thrown? s).map fun e =>
      if r = s then { e with traceback := (c.file, c.lineAt spot.row) :: e.traceback } else e := by
  unfold Machine.located Heap.locate
  dsimp only
  split
  · next e hr =>
    by_cases hrs : r = s
    · subst hrs
      simp [Heap.thrown?, Heap.get?_set hr, hr]
    · simp [Heap.thrown?, Heap.get?_set_of_ne hrs, hrs]
  · next hr =>
    have hs : r = s → m.heap.thrown? s = none := by
      rintro rfl
      unfold Heap.thrown?
      split
      · next e he => exact absurd he (hr e)
      · rfl
    by_cases hrs : r = s
    · simp [hs hrs]
    · simp [hrs]

/-- An error is located at a place. -/
theorem Keeps.located {c : Code} {spot : Spot} (hR : R r) : m.Keeps R (m.located r c spot) := by
  intro s e' hs he
  obtain ⟨e, he₁, rfl⟩ := Option.map_eq_some_iff.1 (thrown?_located ▸ he)
  by_cases hrs : r = s
  · subst hrs
    exact ⟨e, [_], he₁, by rw [if_pos rfl], by rw [if_pos rfl]; rfl, .inr hR⟩
  · exact ⟨e, [], he₁, by rw [if_neg hrs], by rw [if_neg hrs]; rfl, .inl rfl⟩

/-! ## What the process of a script does -/

/-- What the process of a script makes of a machine: its directory stays, runs that are new pass on,
exceptions that were there stay, keep their classes and only get places in front of their tracebacks,
no code comes onto the heap that has not been known, and no event is taken back. -/
structure Grown (K : Code → Prop) (m m' : Machine) : Prop where
  directory : m'.directory = m.directory
  log : ∃ w, m'.log.toList = m.log.toList ++ w ∧ Nested m.next (passagesOf w) m'.next
  keeps : m.Keeps (fun _ => True) m'
  knows : m.heap.Knows K → m'.heap.Knows K
  stays : ∀ r, (m.heap.thrown? r).isSome → (m'.heap.thrown? r).isSome
  events : ∃ es, m'.events.toList = m.events.toList ++ es

theorem Grown.size (h : m.Grown K m') : m.next ≤ m'.next := by
  obtain ⟨_, -, hn⟩ := h.log
  exact hn.le

theorem Grown.trans (h : m.Grown K m') (h' : m'.Grown K m'') : m.Grown K m'' where
  directory := h'.directory.trans h.directory
  log := by
    obtain ⟨w, hw, hn⟩ := h.log
    obtain ⟨w', hw', hn'⟩ := h'.log
    exact ⟨w ++ w', by rw [hw', hw, List.append_assoc], passagesOf_append w w' ▸ hn.append hn'⟩
  keeps := h.keeps.trans (h'.keeps.mono fun _ _ _ => trivial) h.size
  knows hk := h'.knows (h.knows hk)
  stays r he := h'.stays r (h.stays r he)
  events := by
    obtain ⟨es, he⟩ := h.events
    obtain ⟨es', he'⟩ := h'.events
    exact ⟨es ++ es', by rw [he', he, List.append_assoc]⟩

theorem Grows.grown (h : m.Grows K [] m') : m.Grown K m' where
  directory := h.directory
  log := by
    obtain ⟨w, hw, hp⟩ := h.log
    exact ⟨w, hw, hp ▸ .nil h.size⟩
  keeps := h.keeps
  knows := h.knows
  stays := h.stays
  events := h.events

theorem Grown.refl (K : Code → Prop) (m : Machine) : m.Grown K m := (Grows.refl K m).grown

/-- The heap when an error has been located. -/
theorem Grown.located {c : Code} {spot : Spot} : m.Grown K (m.located r c spot) where
  directory := rfl
  log := by
    refine ⟨[], (List.append_nil _).symm, .nil (Nat.le_of_eq ?_)⟩
    unfold next Machine.located Heap.locate
    dsimp only
    split
    · simp [Heap.set]
    · rfl
  keeps := .located trivial
  knows hk := by
    unfold Machine.located Heap.locate
    dsimp only
    split
    · exact hk.set fun _ h => by cases h
    · exact hk
  stays s hs := by
    rw [thrown?_located]
    simpa using hs
  events := ⟨[], (List.append_nil _).symm⟩

theorem Grows.created {path : Path} {d : Delimiters} : m.Grows K [] (m.created path d) :=
  .alloc ⟨fun _ h => (nomatch h), fun _ h => (nomatch h)⟩

theorem next_created {path : Path} {d : Delimiters} : (m.created path d).next = m.next + 1 := by
  simp [next, created, Heap.alloc]

/-- There is an object at a place that is no exception. -/
def HasOther (m : Machine) (r : Ref) : Prop := r < m.next ∧ m.heap.thrown? r = none

theorem Keeps.hasOther (h : m.Keeps R m') (size : m.next ≤ m'.next) (hr : m.HasOther r) :
    m'.HasOther r := by
  refine ⟨Nat.lt_of_lt_of_le hr.1 size, Option.not_isSome_iff_eq_none.1 fun hs => ?_⟩
  obtain ⟨e', he'⟩ := Option.isSome_iff_exists.1 hs
  obtain ⟨e, _, he, -⟩ := h r e' hr.1 he'
  cases hr.2.symm.trans he

theorem Grows.hasOther {ps : List (Ref × RunState)} (h : m.Grows K ps m') (hr : m.HasOther r) :
    m'.HasOther r := (h.keeps (R := fun _ => True)).hasOther h.size hr

theorem Grown.hasOther (h : m.Grown K m') (hr : m.HasOther r) : m'.HasOther r :=
  h.keeps.hasOther h.size hr

/-- A new run is no exception. -/
theorem hasOther_created {path : Path} {d : Delimiters} : (m.created path d).HasOther m.next :=
  ⟨by rw [next_created]; exact Nat.lt_succ_self _,
    Heap.thrown?_eq_none (Heap.get?_alloc m.heap _) fun _ h => nomatch h⟩

/-- A run passes into a state. -/
theorem Grows.advanced {run : Ref} {state : RunState} (hr : m.HasOther run) :
    m.Grows K [(run, state)] (m.advanced run state) := by
  have hset : m.Grows K [] { m with heap := m.heap.set run (.run { m.runAt run with state }) } :=
    .setPlain rfl (fun _ h => nomatch h) hr.2
  exact hset.trans (.of_heap_eq rfl rfl
    ⟨[.advanced run (m.runAt run).path (m.runAt run).state state], Array.toList_push, rfl⟩
    ⟨[], (List.append_nil _).symm⟩)

end Machine

/-- A run passes through the first of its stages, and through all of them if it comes to a value. -/
structure Opens (K : Code → Prop) (A : Replies) (run : Ref) (p : Proc α) (m : Machine) (k : Nat)
    (o : Outcome α) (m' : Machine) : Prop where
  goes : p.Goes A m o m'
  grows : m.Grows K (passagesThrough run k) m'
  all : ∀ a, o = .value a → k = 4
  new : ∀ r, o = .raised r → m'.IsNew m r

/-- A new run that has passed through stages is no exception. -/
theorem Opens.hasOther {path : Path} {d : Delimiters} {p : Proc α} {k : Nat} {o : Outcome α}
    (h : Opens K A m.next p (m.created path d) k o m') : m'.HasOther m.next :=
  h.grows.hasOther Machine.hasOther_created

/-- Nothing follows a process that does not come to a value. -/
theorem Opens.goes_bind {run : Ref} {p : Proc α} {f : α → Proc β} {k : Nat} {o : Outcome α}
    {o' : Outcome β} (h : Opens K A run p m k o m') (stops : ∀ a, o ≠ .value a)
    (ends : o'.raised? = o.raised? ∧ ∀ b, o' ≠ .value b) : (p >>= f).Goes A m o' m' := by
  refine Proc.goes_bind.2 (.inr ?_)
  have goes := h.goes
  match o, o' with
  | .value a, _ => exact absurd rfl (stops a)
  | _, .value b => exact absurd rfl (ends.2 b)
  | .raised r, .raised r' =>
    obtain rfl := Option.some.inj ends.1
    exact .inl ⟨_, goes, rfl⟩
  | .exhausted, .exhausted => exact .inr ⟨goes, rfl⟩
  | .exhausted, .raised r => nomatch ends.1
  | .raised r, .exhausted => nomatch ends.1

end Stencil
