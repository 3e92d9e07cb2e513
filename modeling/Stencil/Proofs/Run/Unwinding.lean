import Stencil.Proofs.Run.Derivation

/-!
# How errors leave runs

An error that leaves the template of a run makes the run fail and goes on to whatever included it. It
makes one run after another fail like that, the innermost first, until code takes it or it leaves the
outermost run, and it is the same error all the way. What is between the runs may change that in two
ways only: a coroutine does not let the end of an iteration out but another error in its place, and
clauses that the error passes are executed meanwhile.

## Main definitions

* `runsOf` — the runs among layers.
* `Reached` — how things stand when a process ends within another one.
* `Machine.Unwinds` — what becomes of a machine while an error passes layers.
* `Survives`, `Arrives` — what becomes of an error that passes layers.
* `Fate` — what becomes of an error that is raised inside layers.

## Main results

* `Arrives.cons` — an error that passes one more layer.
* `Within.fate` — an error leaves all the layers around it, or one of them takes it.
-/

namespace Stencil

open Script

variable {α β γ : Type} {K : Code → Prop} {A : Replies} {m m' m₁ m₂ n n' n₁ : Machine} {r r' r₁ : Ref}
  {p : Proc α} {q : Proc γ} {o : Outcome α} {o' : Outcome γ} {ℓ : Layer}
  {ls : List Layer}

/-! ## Runs within runs -/

namespace Layer

/-- The run that a layer is. -/
def run? : Layer → Option Ref
  | run ref => some ref
  | _ => none

/-- A layer that executes clauses. -/
def IsClause : Layer → Prop
  | except _ | final _ => True
  | _ => False

end Layer

/-- The runs among layers. -/
def runsOf (ls : List Layer) : List Ref := ls.filterMap Layer.run?

theorem runsOf_cons : runsOf (ℓ :: ls) = ℓ.run?.toList ++ runsOf ls := by
  cases h : ℓ.run? <;> simp [runsOf, h]

theorem Around.run?_eq_none {C : Proc β → Proc α} (h : Around (some ℓ) C) :
    ℓ.run? = none := by cases h <;> rfl

/-- A process ends within another one, inside layers: the exceptions that were there before are
still what they were, and the runs among the layers are new ones that have not come to their ends,
each of them within the one before. -/
structure Reached (m : Machine) (ls : List Layer) (n' : Machine) : Prop where
  keeps : m.Keeps (fun _ => True) n'
  size : m.next ≤ n'.next
  log : ∃ w, n'.log.toList = m.log.toList ++ w ∧
    Opened m.next (passagesOf w) (runsOf ls) n'.next
  others : ∀ run ∈ runsOf ls, n'.HasOther run

namespace Reached

theorem of_run?_eq_none (h : Reached m ls n') (hℓ : ℓ.run? = none) : Reached m (ℓ :: ls) n' := by
  have runs : runsOf (ℓ :: ls) = runsOf ls := by rw [runsOf_cons, hℓ]; rfl
  exact ⟨h.keeps, h.size, runs ▸ h.log, runs ▸ h.others⟩

/-- Something else has been done before. -/
theorem later (h : Reached m₁ ls n') (grown : m.Grown K m₁) : Reached m ls n' where
  keeps := grown.keeps.trans (h.keeps.mono fun _ _ _ => trivial) grown.size
  size := Nat.le_trans grown.size h.size
  log := by
    obtain ⟨w₁, hw₁, hn⟩ := grown.log
    obtain ⟨w₂, hw₂, ho⟩ := h.log
    exact ⟨w₁ ++ w₂, by rw [hw₂, hw₁, List.append_assoc], passagesOf_append w₁ w₂ ▸ .prepend hn ho⟩
  others := h.others

variable {path : Path} {d : Delimiters} {k : Nat}

/-- Within the last stage of a new run. -/
theorem run {a : α} (h : Reached m₁ ls n')
    (opens : Opens K A m.next p (m.created path d) 4 (.value a) m₁) :
    Reached m (.run m.next :: ls) n' := by
  have begins : m.Grows K (passagesThrough m.next 4) m₁ := Machine.Grows.created.trans opens.grows
  refine ⟨begins.keeps.trans (h.keeps.mono fun _ _ _ => trivial) begins.size,
    Nat.le_trans begins.size h.size, ?_, fun run hr => ?_⟩
  · obtain ⟨w₁, hw₁, hp₁⟩ := begins.log
    obtain ⟨w₂, hw₂, ho⟩ := h.log
    refine ⟨w₁ ++ w₂, by rw [hw₂, hw₁, List.append_assoc], ?_⟩
    have new : m.next + 1 ≤ m₁.next := Machine.next_created (m := m) ▸ opens.grows.size
    rw [passagesOf_append, hp₁, runsOf_cons]
    exact .run (.nil (Nat.le_refl _)) (.prepend (.nil new) ho) fun _ => rfl
  · rw [runsOf_cons] at hr
    obtain hr | hr := List.mem_append.1 hr
    · obtain rfl : run = m.next := by simpa [Layer.run?] using hr
      exact h.keeps.hasOther h.size opens.hasOther
    · exact h.others run hr

/-- What a new run does up to its last stage. -/
theorem opening (opens : Opens K A m.next p (m.created path d) k o m₁) :
    Reached m [.run m.next] m₁ := by
  have begins : m.Grows K (passagesThrough m.next k) m₁ := Machine.Grows.created.trans opens.grows
  refine ⟨begins.keeps, begins.size, ?_, fun run hr => ?_⟩
  · obtain ⟨w, hw, hp⟩ := begins.log
    have new : m.next + 1 ≤ m₁.next := Machine.next_created (m := m) ▸ opens.grows.size
    have opened : Opened m.next (passagesThrough m.next k ++ []) [m.next] m₁.next :=
      .run (.nil (Nat.le_refl _)) (.none (.nil new)) fun h => by simp at h
    exact ⟨w, hw, hp ▸ List.append_nil (passagesThrough m.next k) ▸ opened⟩
  · obtain rfl : run = m.next := by simpa [runsOf, Layer.run?] using hr
    exact opens.hasOther

end Reached

/-- How things stand when a process ends within another one. -/
theorem Within.reached (h : Within K A ls p m o m' q n o' n') : Reached m ls n' := by
  induction h with
  | here h grown =>
    obtain ⟨w, hw, hn⟩ := grown.log
    exact ⟨grown.keeps, grown.size, ⟨w, hw, .none hn⟩, fun _ h => absurd h List.not_mem_nil⟩
  | @inside ℓ _ _ _ _ _ _ _ _ _ _ _ _ _ _ _ around fits within rest grown ih =>
    cases ℓ with
    | none => exact ih
    | some ℓ => exact ih.of_run?_eq_none around.run?_eq_none
  | later first grown within ih => exact ih.later grown
  | enter activation within ih => exact ih.of_run?_eq_none rfl
  | run opens within rest ih => exact ih.run opens
  | opening opens stops ends rest => exact .opening opens

/-! ## What becomes of a machine -/

namespace Machine

theorem isA_iff {c : ExceptionClass} :
    m.isA r c ↔ ∃ e, m.heap.thrown? r = some e ∧ e.type.isA c := Option.any_eq_true ..

theorem thrown?_threw (m : Machine) (e : Thrown) : (m.threw e).heap.thrown? m.next = some e := by
  have h : (m.threw e).heap.get? m.next = some (.exception e) := Heap.get?_alloc m.heap _
  rw [Heap.thrown?, h]

/-- What becomes of a machine while an error passes layers: of the runs that were there some fail, one
after another, and none passes on otherwise. Exceptions that were there stay, and keep their classes,
and no event is taken back. -/
structure Unwinds (m : Machine) (runs : List Ref) (m' : Machine) : Prop where
  size : m.next ≤ m'.next
  keeps : m.Keeps (fun _ => True) m'
  stays : ∀ r, (m.heap.thrown? r).isSome → (m'.heap.thrown? r).isSome
  log : ∃ w, m'.log.toList = m.log.toList ++ w ∧
    (passagesOf w).filter (·.1 < m.next) = runs.map (·, .failed)
  events : ∃ es, m'.events.toList = m.events.toList ++ es

theorem Grown.unwinds (h : m.Grown K m') : m.Unwinds [] m' where
  size := h.size
  keeps := h.keeps
  stays := h.stays
  log := by
    obtain ⟨w, hw, hn⟩ := h.log
    refine ⟨w, hw, List.filter_eq_nil_iff.2 fun p hp => ?_⟩
    simpa using (hn.bounds p hp).1
  events := h.events

/-- A run that was there fails. -/
theorem unwinds_advanced {run : Ref} (hr : m.HasOther run) :
    m.Unwinds [run] (m.advanced run .failed) := by
  have h : m.Grows (fun _ => True) [(run, .failed)] (m.advanced run .failed) := .advanced hr
  obtain ⟨w, hw, hp⟩ := h.log
  exact ⟨h.size, h.keeps, h.stays, ⟨w, hw, by simp [hp, hr.1]⟩, h.events⟩

namespace Unwinds

variable {runs runs' : List Ref}

theorem trans (h : m.Unwinds runs m₁) (h' : m₁.Unwinds runs' m')
    (old : ∀ run ∈ runs', run < m.next) : m.Unwinds (runs ++ runs') m' where
  size := Nat.le_trans h.size h'.size
  keeps := h.keeps.trans (h'.keeps.mono fun _ _ _ => trivial) h.size
  stays r hr := h'.stays r (h.stays r hr)
  log := by
    obtain ⟨w, hw, hp⟩ := h.log
    obtain ⟨w', hw', hp'⟩ := h'.log
    refine ⟨w ++ w', by rw [hw', hw, List.append_assoc], ?_⟩
    have hf : (passagesOf w').filter (·.1 < m.next) =
        ((passagesOf w').filter (·.1 < m₁.next)).filter (·.1 < m.next) := by
      rw [List.filter_filter]
      refine List.filter_congr fun p _ => ?_
      simpa using fun hlt => Nat.lt_of_lt_of_le hlt h.size
    rw [passagesOf_append, List.filter_append, hp, hf, hp', List.map_append]
    refine congrArg (_ ++ ·) (List.filter_eq_self.2 fun p hp => ?_)
    obtain ⟨run, hrun, rfl⟩ := List.mem_map.1 hp
    simpa using old run hrun
  events := by
    obtain ⟨es, he⟩ := h.events
    obtain ⟨es', he'⟩ := h'.events
    exact ⟨es ++ es', by rw [he', he, List.append_assoc]⟩

theorem hasOther (h : m.Unwinds runs m') {run : Ref} (hr : m.HasOther run) : m'.HasOther run :=
  h.keeps.hasOther h.size hr

/-- An exception that was there is there, and of the same class. -/
theorem thrown? {e : Thrown} (h : m.Unwinds runs m') (he : m.heap.thrown? r = some e) :
    ∃ e', m'.heap.thrown? r = some e' ∧ e'.type = e.type := by
  obtain ⟨e', he'⟩ := Option.isSome_iff_exists.1 (h.stays r (by rw [he]; rfl))
  obtain ⟨e₁, _, he₁, ht, -⟩ := h.keeps r e' (Heap.lt_of_thrown? he) he'
  obtain rfl := Option.some.inj (he₁.symm.trans he)
  exact ⟨e', he', ht⟩

end Unwinds

end Machine

/-! ## Errors that pass layers -/

theorem Heap.thrown?_updateNames {h : Heap} {own : Ref} {f : Names → Names} :
    (h.updateNames own f).thrown? r = h.thrown? r := by
  unfold Heap.updateNames
  split
  all_goals try rfl
  all_goals
    next ho =>
    by_cases hr : own = r
    · subst hr
      rw [Heap.thrown?_eq_none ho fun _ h => (by cases h),
        Heap.thrown?_eq_none (Heap.get?_set ho) fun _ h => (by cases h)]
    · simp [Heap.thrown?, Heap.get?_set_of_ne hr]

namespace Layer

/-- What becomes of a machine on which an error passes a layer that is no run. -/
theorem Passes.grown (h : ℓ.Passes K A r m r' m') (hℓ : ℓ.run? = none) : m.Grown K m' := by
  by_cases plain : ℓ.IsPlain
  · obtain ⟨c, spot, rfl, rfl⟩ | ⟨-, hg⟩ := h.grows plain
    · exact .located
    · exact hg.grown
  · cases ℓ with
    | run ref => cases hℓ
    | enter c =>
      obtain ⟨rfl, rfl⟩ := h
      exact .refl K _
    | except clauses => exact h.2.2
    | final clause => exact h.2.2
    | _ => exact (plain trivial).elim

/-- What becomes of a machine on which an error passes a layer. -/
theorem Passes.unwinds (h : ℓ.Passes K A r m r' m') (he : m.isA r .exception)
    (hr : ∀ run ∈ ℓ.run?, m.HasOther run) : m.Unwinds ℓ.run?.toList m' := by
  cases hℓ : ℓ.run? with
  | none => exact (h.grown hℓ).unwinds
  | some ref =>
    obtain rfl : ℓ = .run ref := by
      cases ℓ <;> cases hℓ
      rfl
    obtain ⟨-, rfl⟩ := h
    rw [if_pos he]
    exact Machine.unwinds_advanced (hr ref rfl)

/-- An error that passes a layer is the same one afterwards, but for its traceback if the layer
executes no clauses. -/
theorem Passes.same {e : Thrown} (h : ℓ.Passes K A r m r' m') (he : m.heap.thrown? r = some e)
    (hr : ∀ run ∈ ℓ.run?, m.HasOther run) (hg : ℓ = .guard → ¬ m.isA r .stopIteration) :
    r' = r ∧ (¬ ℓ.IsClause → ∃ places, m'.heap.thrown? r =
      some { e with traceback := places ++ e.traceback }) := by
  cases ℓ with
  | place c spot =>
    obtain ⟨rfl, rfl⟩ := h
    refine ⟨rfl, fun _ => ⟨[(c.file, c.lineAt spot.row)], ?_⟩⟩
    rw [Machine.thrown?_located, he, Option.map_some, if_pos rfl]
    rfl
  | guard =>
    obtain ⟨rfl, rfl⟩ := (if_neg (hg rfl)).mp h
    exact ⟨rfl, fun _ => ⟨[], he⟩⟩
  | enter c =>
    obtain ⟨rfl, rfl⟩ := h
    exact ⟨rfl, fun _ => ⟨[], he⟩⟩
  | run ref =>
    obtain ⟨rfl, rfl⟩ := h
    refine ⟨rfl, fun _ => ⟨[], ?_⟩⟩
    have hne : ref ≠ r' := by
      rintro rfl
      cases he.symm.trans (hr ref rfl).2
    split
    · simpa [Machine.advanced, Heap.thrown?, Heap.get?_set_of_ne hne] using he
    · exact he
  | forget key =>
    obtain ⟨rfl, rfl⟩ := h
    exact ⟨rfl, fun _ => ⟨[], he⟩⟩
  | unbind own id =>
    obtain ⟨rfl, rfl⟩ := h
    exact ⟨rfl, fun _ => ⟨[], Heap.thrown?_updateNames.trans he⟩⟩
  | except clauses => exact ⟨h.1, fun hn => (hn trivial).elim⟩
  | final clause => exact ⟨h.1, fun hn => (hn trivial).elim⟩

/-- Nothing is written while an error passes a layer that executes no clauses. -/
theorem Passes.events (h : ℓ.Passes K A r m r' m') (hℓ : ¬ ℓ.IsClause) : m'.events = m.events := by
  cases ℓ with
  | guard =>
    simp only [Layer.Passes] at h
    split at h <;> obtain ⟨rfl, rfl⟩ := h <;> rfl
  | run ref =>
    obtain ⟨rfl, rfl⟩ := h
    split <;> rfl
  | except clauses | final clause => exact (hℓ trivial).elim
  | _ =>
    obtain ⟨rfl, rfl⟩ := h
    rfl

end Layer

/-- What is left of an error that has passed layers: it is the same one, of the same class, and the
same but for its traceback if none of the layers executes clauses; or it was the end of an iteration,
which a coroutine does not let out. -/
inductive Survives (ls : List Layer) (r : Ref) (n : Machine) : Ref → Machine → Prop
  | same {n' : Machine} {e e' : Thrown} (before : n.heap.thrown? r = some e)
      (after : n'.heap.thrown? r = some e') (type : e'.type = e.type)
      (content : (∀ ℓ ∈ ls, ¬ ℓ.IsClause) → ∃ places,
        e' = { e with traceback := places ++ e.traceback }) : Survives ls r n r n'
  | iteration {r' : Ref} {n' : Machine} {e' : Thrown} (guard : Layer.guard ∈ ls)
      (before : n.isA r .stopIteration) (after : n'.heap.thrown? r' = some e')
      (type : e'.type = .runtimeError) : Survives ls r n r' n'

/-- What becomes of an error that passes layers. -/
structure Arrives (K : Code → Prop) (A : Replies) (ls : List Layer) (r : Ref) (n : Machine) (r' : Ref)
    (n' : Machine) : Prop where
  passes : Passes K A ls r n r' n'
  error : Survives ls r n r' n'
  /-- The runs among the layers fail, the innermost first. -/
  unwinds : n.Unwinds (runsOf ls).reverse n'
  /-- Whatever is written meanwhile has been written by clauses that the error passes. -/
  written : ∀ i, n.events.size ≤ i → i < n'.events.size → ∃ above ℓ below r₁ n₁ r₂ n₂,
    ls = above ++ ℓ :: below ∧ ℓ.IsClause ∧ Passes K A below r n r₁ n₁ ∧
      ℓ.Passes K A r₁ n₁ r₂ n₂ ∧ n₁.events.size ≤ i ∧ i < n₂.events.size

/-- What is left of an error that passes one more layer. -/
theorem Survives.cons {runs : List Ref} (h : Survives ls r n r₁ n₁)
    (hr : ∀ run ∈ ℓ.run?, n₁.HasOther run) (step : n₁.Unwinds runs n')
    (hℓ : ℓ.Passes K A r₁ n₁ r' n') : Survives (ℓ :: ls) r n r' n' := by
  cases h with
  | @same _ e e₁ before after type content =>
    obtain ⟨e', he', ht⟩ := step.thrown? after
    by_cases hg : ℓ = .guard ∧ n₁.isA r .stopIteration
    · obtain ⟨rfl, hs⟩ := hg
      obtain ⟨rfl, rfl⟩ := (if_pos hs).mp hℓ
      have hs' : n.isA r .stopIteration := by
        simpa only [Machine.isA, before, after, Option.any_some, type] using hs
      exact .iteration (List.mem_cons_self ..) hs' (Machine.thrown?_threw ..) rfl
    · obtain ⟨rfl, same⟩ := hℓ.same after hr fun h hs => hg ⟨h, hs⟩
      refine .same before he' (ht.trans type) fun hn => ?_
      obtain ⟨places, rfl⟩ := content fun ℓ' h => hn ℓ' (List.mem_cons_of_mem _ h)
      obtain ⟨places', he⟩ := same (hn ℓ (List.mem_cons_self ..))
      obtain rfl := Option.some.inj (he'.symm.trans he)
      exact ⟨places' ++ places, by simp only [List.append_assoc]⟩
  | iteration guard before after type =>
    have hs : ¬ n₁.isA r₁ .stopIteration := by
      simp only [Machine.isA, after, Option.any_some, type]
      decide
    obtain ⟨e', he', ht⟩ := step.thrown? after
    obtain ⟨rfl, -⟩ := hℓ.same after hr fun _ => hs
    exact .iteration (List.mem_cons_of_mem _ guard) before he' (ht.trans type)

namespace Arrives

/-- An error that has not passed anything. -/
theorem nil (he : m.isA r .exception) : Arrives K A [] r m r m := by
  obtain ⟨e, he, -⟩ := Machine.isA_iff.1 he
  exact ⟨⟨rfl, rfl⟩, .same he he rfl fun _ => ⟨[], rfl⟩, (Machine.Grown.refl K m).unwinds,
    fun i hi hi' => absurd hi (Nat.not_le.2 hi')⟩

/-- An error that has arrived is an error. -/
theorem isA (h : Arrives K A ls r n r' n') (he : n.isA r .exception) : n'.isA r' .exception := by
  obtain ⟨e, he, hc⟩ := Machine.isA_iff.1 he
  cases h.error with
  | same before after type _ =>
    obtain rfl := Option.some.inj (before.symm.trans he)
    exact Machine.isA_iff.2 ⟨_, after, type ▸ hc⟩
  | iteration guard _ after type => exact Machine.isA_iff.2 ⟨_, after, type ▸ rfl⟩

/-- An error that passes one more layer. -/
theorem cons (h : Arrives K A ls r n r₁ n₁) (he : n.isA r .exception)
    (hr : ∀ run ∈ runsOf (ℓ :: ls), n.HasOther run) (hℓ : ℓ.Passes K A r₁ n₁ r' n') :
    Arrives K A (ℓ :: ls) r n r' n' := by
  have own (run : Ref) (h : run ∈ ℓ.run?) : n.HasOther run :=
    hr run (by rw [runsOf_cons]; exact List.mem_append_left _ (Option.mem_toList.2 h))
  have own₁ (run : Ref) (hrun : run ∈ ℓ.run?) : n₁.HasOther run := h.unwinds.hasOther (own run hrun)
  have step := hℓ.unwinds (h.isA he) own₁
  refine ⟨⟨r₁, n₁, h.passes, hℓ⟩, ?_, ?_, fun i hi hi' => ?_⟩
  · exact h.error.cons own₁ step hℓ
  · rw [runsOf_cons, List.reverse_append]
    have single : ℓ.run?.toList.reverse = ℓ.run?.toList := by cases ℓ.run? <;> rfl
    rw [single]
    exact h.unwinds.trans step fun run hrun => (own run (Option.mem_toList.1 hrun)).1
  · by_cases hlt : i < n₁.events.size
    · obtain ⟨above, ℓ', below, r₂, n₂, r₃, n₃, rfl, hc, hp, hp', hb⟩ := h.written i hi hlt
      exact ⟨ℓ :: above, ℓ', below, r₂, n₂, r₃, n₃, rfl, hc, hp, hp', hb⟩
    · by_cases hc : ℓ.IsClause
      · exact ⟨[], ℓ, ls, r₁, n₁, r', n', rfl, hc, h.passes, hℓ, Nat.not_lt.1 hlt, hi'⟩
      · exact absurd (hℓ.events hc ▸ hi') hlt

end Arrives

/-- What becomes of an error that is raised inside layers: it leaves all of them, or it passes some
and is taken by the next one, and what takes it goes on inside of those that are left. -/
inductive Fate (K : Code → Prop) (A : Replies) (ls : List Layer) (p : Proc α) (m : Machine)
    (o : Outcome α) (m' : Machine) (r : Ref) (n : Machine) : Prop
  | leaves {r' : Ref} (outcome : o = .raised r') (arrives : Arrives K A ls r n r' m')
  | taken {above below : List Layer} {ℓ : Layer} {r' : Ref} {n' : Machine} {t : Proc Flow}
      {o₂ : Outcome Flow} {m₂ : Machine} (split : ls = above ++ ℓ :: below)
      (arrives : Arrives K A below r n r' n') (takes : ℓ.Takes A r' n' t o₂ m₂)
      (goesOn : Within K A above p m o m' t n' o₂ m₂)

namespace Fate

/-- The fate of an error inside layers is its fate around which there is nothing more. -/
theorem lift {p : Proc β} {p' : Proc α} {o₁ : Outcome β} {o : Outcome α}
    (h : Fate K A ls p m₁ o₁ m₂ r n) (leaves : ∀ r', o₁ = .raised r' → o = .raised r' ∧ m' = m₂)
    (lift : ∀ {ls : List Layer} {t : Proc Flow} {n : Machine} {o₂ : Outcome Flow} {n₂ : Machine},
      Within K A ls p m₁ o₁ m₂ t n o₂ n₂ → Within K A ls p' m o m' t n o₂ n₂) :
    Fate K A ls p' m o m' r n := by
  cases h with
  | leaves outcome arrives =>
    obtain ⟨ho, rfl⟩ := leaves _ outcome
    exact .leaves ho arrives
  | taken split arrives takes goesOn => exact .taken split arrives takes (lift goesOn)

/-- The fate of an error inside layers, with one more layer around them. -/
theorem cons {p : Proc β} {p' : Proc α} {o₁ : Outcome β} {o : Outcome α}
    (h : Fate K A ls p m₁ o₁ m₂ r n) (he : n.isA r .exception)
    (hr : ∀ run ∈ runsOf (ℓ :: ls), n.HasOther run)
    (ends : ∀ r₁, o₁ = .raised r₁ → (∃ r', o = .raised r' ∧ ℓ.Passes K A r₁ m₂ r' m') ∨
      ∃ t o₂, ℓ.Takes A r₁ m₂ t o₂ m' ∧ Within K A [] p' m o m' t m₂ o₂ m')
    (lift : ∀ {ls : List Layer} {t : Proc Flow} {n : Machine} {o₂ : Outcome Flow} {n₂ : Machine},
      Within K A ls p m₁ o₁ m₂ t n o₂ n₂ → Within K A (ℓ :: ls) p' m o m' t n o₂ n₂) :
    Fate K A (ℓ :: ls) p' m o m' r n := by
  cases h with
  | leaves outcome arrives =>
    obtain ⟨r', ho, hp⟩ | ⟨t, o₂, ht, hw⟩ := ends _ outcome
    · exact .leaves ho (arrives.cons he hr hp)
    · exact .taken (List.nil_append _).symm arrives ht hw
  | taken split arrives takes goesOn =>
    exact .taken (congrArg (ℓ :: ·) split) arrives takes (lift goesOn)

end Fate

theorem Outcome.eq_raised {o : Outcome α} (h : o.raised? = some r) : o = .raised r := by
  cases o with
  | raised r' => exact congrArg Outcome.raised (Option.some.inj h)
  | value a => cases h
  | exhausted => cases h

/-- A run fails with an error that comes to its end. -/
theorem Run.passes_concluding {run : Ref} {o : Outcome Unit}
    (h : (concluding run (Proc.ofOutcome (.raised r))).Goes A m o m') :
    ∃ r', o = .raised r' ∧ (Layer.run run).Passes K A r m r' m' := by
  obtain ⟨rfl, rfl⟩ := goes_concluding_ofOutcome.1 h
  exact ⟨r, rfl, rfl, rfl⟩

/-- An error that a process ends with within another one leaves all the layers around it, or one of
them takes it. -/
theorem Within.fate (h : Within K A ls p m o m' q n (.raised r) n') (he : n'.isA r .exception) :
    Fate K A ls p m o m' r n' := by
  have others := h.reached.others
  generalize ho : Outcome.raised r = o' at h
  induction h with
  | here h grown => exact ho ▸ .leaves rfl (.nil he)
  | @inside ℓ _ _ _ _ _ _ _ _ _ _ _ _ _ _ _ around fits within rest grown ih =>
    cases ℓ with
    | none =>
      refine (ih he others ho).lift (fun r' hr => ?_) fun hw => .inside around fits hw rest grown
      cases around
      subst hr
      exact (Proc.goes_of_done rfl).1 rest
    | some ℓ =>
      have inner : ∀ run ∈ runsOf _, _ := fun run hrun =>
        others run (by
          rw [Option.toList_some, List.singleton_append, runsOf_cons]
          exact List.mem_append_right _ hrun)
      refine (ih he inner ho).cons he others (fun r₁ hr => ?_) fun hw =>
        .inside around fits hw rest grown
      subst hr
      exact around.ends within.goes within.grown rest fun _ => grown
  | later first grown within ih =>
    exact (ih he others ho).lift (fun _ h => ⟨h, rfl⟩) fun hw => .later first grown hw
  | enter activation within ih =>
    exact (ih he others ho).cons he others (fun r₁ hr => .inl ⟨r₁, hr, rfl, rfl⟩)
      fun hw => .enter activation hw
  | run opens within rest ih =>
    have inner : ∀ run ∈ runsOf _, _ := fun run hrun =>
        others run (by rw [runsOf_cons]; exact List.mem_append_right _ hrun)
    exact (ih he inner ho).cons he others (fun r₁ hr => .inl (Run.passes_concluding (hr ▸ rest)))
      fun hw => .run opens hw rest
  | opening opens stops ends rest =>
    subst ho
    obtain ⟨r', rfl, hp⟩ := Run.passes_concluding (Outcome.eq_raised ends.1 ▸ rest)
    exact .leaves rfl ((Arrives.nil he).cons he others hp)

end Stencil
