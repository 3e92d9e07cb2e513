import Stencil.Proofs.Machine.Goes
import Stencil.Proofs.Script.Spot

/-!
# Calm processes

Most of what a script does happens in one go: an operation looks at the heap, puts something on it,
and yields a value or raises a new exception. What such a process leaves alone is said here once for
all of them: no run passes on, no exception gets another traceback, and no code comes onto the heap
that has not been known.

The rules follow the ways in which processes are put together, so that a function is shown to be calm
along its definition.

## Main definitions

* `Code` — code as far as tracebacks are concerned: where it says that it comes from, and its spots.
* `Heap.Knows` — the code on a heap is known.
* `Machine.Grows` — what a calm process makes of a machine.
* `Proc.Calm`, `Proc.Quiet` — a process is calm, or does not raise an exception.

## Main results

* `Proc.Calm.bind` — calm processes one after another are calm.
-/

namespace Stencil

open Script

/-! ## Code -/

/-- Code as far as tracebacks are concerned: the file and the lines that it says it comes from, and
the spots in it. -/
structure Code where
  file : Text
  lines : LineMap
  spots : List Spot

namespace Code

/-- The line of code at a row; a line that no file has counts as the first one. -/
def lineAt (c : Code) (row : Nat) : Int :=
  let line := c.lines.line row
  if line < 0 then 1 else line

/-- Statements that come from a file by a map of lines are part of code. -/
structure Holds (c : Code) (file : Text) (lines : LineMap) (stmts : List Stmt) : Prop where
  file : file = c.file
  lines : lines = c.lines
  spots : ∀ p ∈ spotsOf stmts, p ∈ c.spots

end Code

/-- The function in an object that holds one. -/
def Object.closure? : Object → Option Closure
  | .function f | .coroutine (.body f _) => some f
  | _ => none

variable {K : Code → Prop} {α β : Type} {A : Replies} {m m' m'' : Machine}
  {ps ps' : List (Ref × RunState)}

/-- The code of a function is known. -/
def Closure.IsKnown (K : Code → Prop) (f : Closure) : Prop :=
  ∃ c, K c ∧ c.Holds f.file f.lines f.body

/-- The code on a heap is known. -/
def Heap.Knows (K : Code → Prop) (h : Heap) : Prop :=
  ∀ r o f, h.get? r = some o → o.closure? = some f → f.IsKnown K

/-- Code stays known when an object takes the place of another one. -/
theorem Heap.Knows.set {h : Heap} {r : Ref} {o : Object} (hk : h.Knows K)
    (code : ∀ f, o.closure? = some f → f.IsKnown K) : (h.set r o).Knows K := by
  intro s o' f ho' hf
  by_cases hs : r = s
  · subst hs
    simp only [Heap.set, Heap.get?, Array.getElem?_setIfInBounds, if_true] at ho'
    split at ho'
    · obtain rfl := Option.some.inj ho'
      exact code f hf
    · cases ho'
  · exact hk s o' f (by rwa [Heap.get?_set_of_ne hs] at ho') hf

theorem Heap.isSome_thrown? {h : Heap} {r : Ref} :
    (h.thrown? r).isSome ↔ ∃ e, h.get? r = some (.exception e) := by
  unfold Heap.thrown?
  split
  · next e he => simp [he]
  · next hn => simpa using hn

/-- At the place of something else there is no exception. -/
theorem Heap.thrown?_eq_none {h : Heap} {r : Ref} {o : Object} (ho : h.get? r = some o)
    (he : ∀ e, o ≠ .exception e) : h.thrown? r = none := by
  refine Option.not_isSome_iff_eq_none.1 fun hs => ?_
  obtain ⟨e, hr⟩ := isSome_thrown?.1 hs
  exact he e (Option.some.inj (ho.symm.trans hr))

/-- The run that an entry is about, and the state into which it passes. -/
def LogEntry.passage? : LogEntry → Option (Ref × RunState)
  | .advanced run _ _ after => some (run, after)
  | _ => none

/-- The passages of runs that entries tell of. -/
def passagesOf (w : List LogEntry) : List (Ref × RunState) := w.filterMap LogEntry.passage?

theorem passagesOf_append (w w' : List LogEntry) :
    passagesOf (w ++ w') = passagesOf w ++ passagesOf w' := List.filterMap_append

/-! ## What becomes of a machine -/

/-- An object that may come onto a heap at any time: its code is known, and an exception has not been
anywhere. -/
structure Object.IsFresh (K : Code → Prop) (o : Object) : Prop where
  code : ∀ f, o.closure? = some f → f.IsKnown K
  traceback : ∀ e, o = .exception e → e.traceback = []

namespace Machine

/-- What a process makes of a machine in one go, while runs pass on as `ps` tells. An exception that
was there is there still, with the same class and the same traceback; a new one has not been anywhere.
No event is taken back. -/
structure Grows (K : Code → Prop) (m : Machine) (ps : List (Ref × RunState)) (m' : Machine) :
    Prop where
  size : m.next ≤ m'.next
  directory : m'.directory = m.directory
  log : ∃ w, m'.log.toList = m.log.toList ++ w ∧ passagesOf w = ps
  knows : m.heap.Knows K → m'.heap.Knows K
  exceptions : ∀ r e', m'.heap.thrown? r = some e' →
    (∃ e, m.heap.thrown? r = some e ∧ e'.type = e.type ∧ e'.traceback = e.traceback) ∨
      m.next ≤ r ∧ e'.traceback = []
  stays : ∀ r, (m.heap.thrown? r).isSome → (m'.heap.thrown? r).isSome
  events : ∃ es, m'.events.toList = m.events.toList ++ es

theorem Grows.refl (K : Code → Prop) (m : Machine) : m.Grows K [] m where
  size := Nat.le_refl _
  directory := rfl
  log := ⟨[], (List.append_nil _).symm, rfl⟩
  knows := id
  exceptions _ e' he := .inl ⟨e', he, rfl, rfl⟩
  stays _ := id
  events := ⟨[], (List.append_nil _).symm⟩

theorem Grows.trans (h : m.Grows K ps m') (h' : m'.Grows K ps' m'') :
    m.Grows K (ps ++ ps') m'' where
  size := Nat.le_trans h.size h'.size
  directory := h'.directory.trans h.directory
  log := by
    obtain ⟨w, hw, rfl⟩ := h.log
    obtain ⟨w', hw', rfl⟩ := h'.log
    exact ⟨w ++ w', by rw [hw', hw, List.append_assoc], passagesOf_append w w'⟩
  knows hk := h'.knows (h.knows hk)
  exceptions r e'' he := by
    obtain ⟨e', he', ht', htb'⟩ | ⟨hr, htb⟩ := h'.exceptions r e'' he
    · obtain ⟨e, he, ht, htb⟩ | ⟨hr, htb⟩ := h.exceptions r e' he'
      · exact .inl ⟨e, he, ht'.trans ht, htb'.trans htb⟩
      · exact .inr ⟨hr, htb'.trans htb⟩
    · exact .inr ⟨Nat.le_trans h.size hr, htb⟩
  stays r he := h'.stays r (h.stays r he)
  events := by
    obtain ⟨es, he⟩ := h.events
    obtain ⟨es', he'⟩ := h'.events
    exact ⟨es ++ es', by rw [he', he, List.append_assoc]⟩

/-- A machine of which nothing but its heap becomes another one. -/
theorem Grows.of_heap {h : Heap} (size : m.heap.objects.size ≤ h.objects.size)
    (objects : ∀ r o, h.get? r = some o → m.heap.get? r = some o ∨
      (∀ f, o.closure? = some f → f.IsKnown K) ∧ ∀ e', o = .exception e' →
        (∃ e, m.heap.thrown? r = some e ∧ e'.type = e.type ∧ e'.traceback = e.traceback) ∨
          m.next ≤ r ∧ e'.traceback = [])
    (stays : ∀ r, (m.heap.thrown? r).isSome → (h.thrown? r).isSome) :
    m.Grows K [] { m with heap := h } where
  size := size
  directory := rfl
  log := ⟨[], (List.append_nil _).symm, rfl⟩
  knows hk r o f ho hf := (objects r o ho).elim (fun ho => hk r o f ho hf) fun hn => hn.1 f hf
  exceptions r e' he := by
    unfold Heap.thrown? at he
    split at he
    · next e₁ ho =>
      obtain rfl := Option.some.inj he
      obtain ho | ho := objects r _ ho
      · exact .inl ⟨e₁, by rw [Heap.thrown?, ho], rfl, rfl⟩
      · exact ho.2 e₁ rfl
    · nomatch he
  stays := stays
  events := ⟨[], (List.append_nil _).symm⟩

/-- A new object. -/
theorem Grows.alloc {o : Object} (ho : o.IsFresh K) :
    m.Grows K [] { m with heap := (m.heap.alloc o).2 } := by
  refine .of_heap (by simp [Heap.alloc]) (fun r o' ho' => ?_) fun r hr => ?_
  rotate_left
  · obtain ⟨e, he⟩ := Heap.isSome_thrown?.1 hr
    exact Heap.isSome_thrown?.2 ⟨e, Heap.get?_alloc_of_get? he⟩
  simp only [Heap.alloc, Heap.get?, Array.getElem?_push] at ho'
  split at ho'
  · next hr =>
    obtain rfl := Option.some.inj ho'
    exact .inr ⟨ho.code, fun e' he => .inr ⟨Nat.le_of_eq hr.symm, ho.traceback e' he⟩⟩
  · exact .inl ho'

/-- An object takes the place of another; that of an exception only another state of it takes. -/
theorem Grows.set {r : Ref} {o : Object} (code : ∀ f, o.closure? = some f → f.IsKnown K)
    (exception : ∀ e', o = .exception e' →
      ∃ e, m.heap.thrown? r = some e ∧ e'.type = e.type ∧ e'.traceback = e.traceback)
    (stays : (m.heap.thrown? r).isSome → ∃ e', o = .exception e') :
    m.Grows K [] { m with heap := m.heap.set r o } := by
  refine .of_heap (by simp [Heap.set]) (fun s o' ho' => ?_) fun s hs => ?_
  rotate_left
  · obtain ⟨e, he⟩ := Heap.isSome_thrown?.1 hs
    by_cases hrs : r = s
    · subst hrs
      obtain ⟨e', rfl⟩ := stays hs
      exact Heap.isSome_thrown?.2 ⟨e', Heap.get?_set he⟩
    · exact Heap.isSome_thrown?.2 ⟨e, by rwa [Heap.get?_set_of_ne hrs]⟩
  by_cases hs : r = s
  · subst hs
    simp only [Heap.set, Heap.get?, Array.getElem?_setIfInBounds, if_true] at ho'
    split at ho'
    · obtain rfl := Option.some.inj ho'
      exact .inr ⟨code, fun e' he => .inl (exception e' he)⟩
    · cases ho'
  · exact .inl (by rwa [Heap.get?_set_of_ne hs] at ho')

/-- An object that holds no code takes the place of another, and neither is an exception. -/
theorem Grows.setPlain {r : Ref} {o : Object} (code : o.closure? = none)
    (he : ∀ e, o ≠ .exception e) (hr : m.heap.thrown? r = none) :
    m.Grows K [] { m with heap := m.heap.set r o } :=
  .set (fun _ h => nomatch code ▸ h) (fun e h => absurd h (he e)) fun h => by simp [hr] at h

theorem Grows.setItems {r : Ref} {items : List Value} :
    m.Grows K [] { m with heap := m.heap.setItems r items } := by
  unfold Heap.setItems
  split
  · next ho => exact .setPlain rfl (fun _ h => nomatch h) (Heap.thrown?_eq_none ho fun _ h => nomatch h)
  · exact .refl K m

theorem Grows.setEntries {r : Ref} {entries : Entries} :
    m.Grows K [] { m with heap := m.heap.setEntries r entries } := by
  unfold Heap.setEntries
  split
  · next ho => exact .setPlain rfl (fun _ h => nomatch h) (Heap.thrown?_eq_none ho fun _ h => nomatch h)
  · exact .refl K m

theorem Grows.updateNames {r : Ref} {f : Names → Names} :
    m.Grows K [] { m with heap := m.heap.updateNames r f } := by
  unfold Heap.updateNames
  split
  · next ho => exact .setPlain rfl (fun _ h => nomatch h) (Heap.thrown?_eq_none ho fun _ h => nomatch h)
  · next ho => exact .setPlain rfl (fun _ h => nomatch h) (Heap.thrown?_eq_none ho fun _ h => nomatch h)
  · exact .refl K m

/-- What is not about the heap. -/
theorem Grows.of_heap_eq (heap : m'.heap = m.heap) (directory : m'.directory = m.directory)
    (log : ∃ w, m'.log.toList = m.log.toList ++ w ∧ passagesOf w = ps)
    (events : ∃ es, m'.events.toList = m.events.toList ++ es) : m.Grows K ps m' where
  size := Nat.le_of_eq (by rw [next, next, heap])
  directory := directory
  log := log
  knows hk := by rwa [heap]
  exceptions r e' he := .inl ⟨e', by rwa [← heap], rfl, rfl⟩
  stays r hr := by rwa [heap]
  events := events

end Machine

/-- There is an exception on a machine that has not been on another one. -/
def Machine.IsNew (m' m : Machine) (r : Ref) : Prop :=
  m.next ≤ r ∧ ∃ e, m'.heap.thrown? r = some e ∧ e.traceback = []

theorem Machine.isNew_threw {e : Thrown} (he : e.traceback = []) : (m.threw e).IsNew m m.next := by
  have h : (m.threw e).heap.get? m.next = some (.exception e) := Heap.get?_alloc m.heap _
  exact ⟨Nat.le_refl _, e, by rw [Heap.thrown?, h], he⟩

/-! ## Calm and quiet processes -/

namespace Proc

/-- A process is calm on a machine: the machine grows, and an exception that the process ends with is
a new one. -/
def CalmAt (K : Code → Prop) (p : Proc α) (m : Machine) : Prop :=
  ∀ A o m', p.Goes A m o m' → m.Grows K [] m' ∧ ∀ r, o = .raised r → m'.IsNew m r

/-- A process is calm on every machine. -/
def Calm (K : Code → Prop) (p : Proc α) : Prop := ∀ m, p.CalmAt K m

/-- A process does not end with an exception. -/
def Quiet (p : Proc α) : Prop := ∀ A m r m', ¬ p.Goes A m (.raised r) m'

variable {p : Proc α} {f : α → Proc β}

theorem Calm.of_done (h : ∀ m, ∃ a m', p m = .done (.value a) m' ∧ m.Grows K [] m') : p.Calm K := by
  intro m A o m' hp
  obtain ⟨a, m₁, hm, hg⟩ := h m
  obtain ⟨rfl, rfl⟩ := (goes_of_done hm).1 hp
  exact ⟨hg, fun _ h => (nomatch h)⟩

theorem Quiet.of_done (h : ∀ m, ∃ a m', p m = .done (.value a) m') : p.Quiet := by
  intro A m r m' hp
  obtain ⟨a, m₁, hm⟩ := h m
  nomatch ((goes_of_done hm).1 hp).1

theorem Calm.pure {a : α} : Calm K (Pure.pure a : Proc α) :=
  .of_done fun m => ⟨a, m, rfl, .refl K m⟩

theorem Quiet.pure {a : α} : Quiet (Pure.pure a : Proc α) := .of_done fun m => ⟨a, m, rfl⟩

/-- A calm process followed by one that is calm after what the first one ensures. -/
theorem CalmAt.bind {P : α → Machine → Prop} (hp : p.CalmAt K m) (he : (p m).Ensures P)
    (hf : ∀ a m', P a m' → (f a).CalmAt K m') : (p >>= f).CalmAt K m := by
  intro A o m' h
  obtain ⟨a, m₁, h₁, h₂⟩ | ⟨r, h₁, rfl⟩ | ⟨h₁, rfl⟩ := goes_bind.1 h
  · obtain ⟨hg, -⟩ := hp _ _ _ h₁
    obtain ⟨hg', hr⟩ := hf a m₁ (he.goes h₁) _ _ _ h₂
    exact ⟨hg.trans hg', fun r ho => ⟨Nat.le_trans hg.size (hr r ho).1, (hr r ho).2⟩⟩
  · obtain ⟨hg, hr⟩ := hp _ _ _ h₁
    exact ⟨hg, fun r' ho => hr r' (by cases ho; rfl)⟩
  · exact ⟨(hp _ _ _ h₁).1, fun _ h => nomatch h⟩

/-- Calm processes one after another. -/
theorem Calm.bind (hp : p.Calm K) (hf : ∀ a, (f a).Calm K) : (p >>= f).Calm K := fun m =>
  (hp m).bind (Step.ensures_true (p m)) fun a m' _ => hf a m'

theorem Quiet.bind (hp : p.Quiet) (hf : ∀ a, (f a).Quiet) : (p >>= f).Quiet := by
  intro A m r m' h
  obtain ⟨a, m₁, -, h₂⟩ | ⟨r', h₁, -⟩ | ⟨-, ho⟩ := goes_bind.1 h
  · exact hf a _ _ _ _ h₂
  · exact hp _ _ _ _ h₁
  · nomatch ho

/-- What can go on with the heap is calm if it goes on calmly with each. -/
theorem Calm.heap {f : Heap → Proc β} (hf : ∀ h, (f h).Calm K) : (Proc.heap >>= f).Calm K :=
  fun m => hf m.heap m

theorem CalmAt.heap {f : Heap → Proc β} (hf : (f m.heap).CalmAt K m) :
    (Proc.heap >>= f).CalmAt K m := hf

/-- What can go on with the machine is calm if it goes on calmly with each. -/
theorem Calm.machine {f : Machine → Proc β} (hf : ∀ m, (f m).Calm K) :
    (Proc.machine >>= f).Calm K := fun m => hf m m

theorem Calm.ite {c : Prop} [Decidable c] {q : Proc α} (hp : p.Calm K) (hq : q.Calm K) :
    (if c then p else q).Calm K := by
  split
  · exact hp
  · exact hq

/-- One process for each member of a list. -/
theorem Calm.forM {as : List α} {f : α → Proc Unit} (hf : ∀ a, (f a).Calm K) :
    (as.forM f).Calm K := by
  induction as with
  | nil => exact .pure
  | cons a as ih => exact (hf a).bind fun _ => ih

theorem Calm.mapM {as : List α} (hf : ∀ a, (f a).Calm K) : (as.mapM f).Calm K := by
  induction as with
  | nil => exact .pure
  | cons a as ih =>
    rw [List.mapM_cons]
    exact (hf a).bind fun _ => ih.bind fun _ => .pure

/-! ### What changes the machine -/

theorem Calm.modify {f : Machine → Machine} (h : ∀ m : Machine, m.Grows K [] (f m)) :
    (Proc.modify f).Calm K :=
  .of_done fun m => ⟨(), f m, rfl, h m⟩

theorem Quiet.modify {f : Machine → Machine} : (Proc.modify f).Quiet :=
  .of_done fun _ => ⟨_, _, rfl⟩

theorem Calm.alloc {o : Object} (ho : o.IsFresh K) : (Proc.alloc o).Calm K :=
  .of_done fun _ => ⟨_, _, rfl, .alloc ho⟩

theorem Quiet.alloc {o : Object} : (Proc.alloc o).Quiet := .of_done fun _ => ⟨_, _, rfl⟩

/-- A new object that holds no code, and is no exception. -/
theorem Calm.allocPlain {o : Object} (code : o.closure? = none) (he : ∀ e, o ≠ .exception e) :
    (Proc.alloc o).Calm K :=
  .alloc ⟨fun _ h => (nomatch code ▸ h), fun e h => absurd h (he e)⟩

theorem Calm.mark : Proc.mark.Calm K := .allocPlain rfl fun _ h => nomatch h

/-- A new exception. -/
theorem Calm.allocThrown {e : Thrown} (he : e.traceback = []) : (Proc.alloc (.exception e)).Calm K :=
  .alloc ⟨fun _ h => (nomatch h), by rintro _ ⟨⟩; exact he⟩

/-- An object that holds no code takes the place of another, and neither is an exception. -/
theorem CalmAt.put {r : Ref} {o : Object} (code : o.closure? = none) (he : ∀ e, o ≠ .exception e)
    (hr : m.heap.thrown? r = none) : (Proc.put r o).CalmAt K m := by
  intro A o' m' h
  obtain ⟨rfl, rfl⟩ := (goes_of_done rfl).1 h
  exact ⟨.setPlain code he hr, fun _ h => nomatch h⟩

theorem Calm.setItems {r : Ref} {items : List Value} : (Proc.setItems r items).Calm K :=
  .modify fun _ => .setItems

theorem Calm.setEntries {r : Ref} {entries : Entries} : (Proc.setEntries r entries).Calm K :=
  .modify fun _ => .setEntries

/-- A new exception is raised. -/
theorem Calm.raise {e : Thrown} (he : e.traceback = []) : (Proc.raise e : Proc α).Calm K := by
  intro m A o m' h
  obtain ⟨rfl, rfl⟩ := goes_raise.1 h
  exact ⟨.alloc ⟨fun _ h => (nomatch h), by rintro _ ⟨⟩; exact he⟩,
    by rintro _ ⟨⟩; exact Machine.isNew_threw he⟩

theorem Calm.error {type : ExceptionClass} {message : Text} :
    (Proc.error type message : Proc α).Calm K := .raise rfl

theorem Calm.ofWriting {t : Except WritingFault α} : (Proc.ofWriting t).Calm K := by
  unfold Proc.ofWriting
  split
  · exact .pure
  · exact .error
  · exact .error

theorem Calm.text {v : Value} : (Proc.text v).Calm K := .heap fun _ => .ofWriting

theorem Calm.quoted {v : Value} : (Proc.quoted v).Calm K := .heap fun _ => .ofWriting

theorem Calm.emit {e : Event} : (Proc.emit e).Calm K :=
  .modify fun _ => .of_heap_eq rfl rfl ⟨[], (List.append_nil _).symm, rfl⟩ ⟨[e], Array.toList_push⟩

/-- An entry of the log that tells of no passage. -/
theorem Calm.log {e : LogEntry} (he : e.passage? = none) : (Proc.log e).Calm K :=
  .modify fun _ => .of_heap_eq rfl rfl ⟨[e], by simp, List.filterMap_cons_none he⟩
    ⟨[], (List.append_nil _).symm⟩

theorem Calm.updateNames {r : Ref} {f : Names → Names} : (Proc.updateNames r f).Calm K :=
  .modify fun _ => .updateNames

/-- A process that asks is calm: one that is cancelled meanwhile ends with a new exception. -/
theorem Calm.ask {q : Request} : (Proc.ask q).Calm K := by
  intro m A o m' h
  obtain ⟨reply, -, rfl, rfl⟩ | ⟨rfl, rfl⟩ := goes_ask h
  · exact ⟨.refl K _, fun _ h => (nomatch h)⟩
  · refine ⟨.alloc ⟨fun _ h => (nomatch h), ?_⟩, ?_⟩
    · rintro _ ⟨⟩
      rfl
    · rintro _ ⟨⟩
      exact Machine.isNew_threw rfl

end Proc

end Stencil
