import Stencil.Proofs.Machine.Role

/-!
# What scripts leave alone

A process is safe if it keeps a machine as roles say, on all of its courses: it only looks at the
files outside, new roles are those of new objects, and what has no role stays as it is, unless the
process has a right to it. One that may not look at files loads no modules. A process may be there
in several variants. If the variants agree with the roles that come about, all of them take the same
courses.

The rules follow the ways in which processes are put together, so that the safety of a function is
shown along its definition.

## Main definitions

* `Rights` — what a process may do beside what every process may do.
* `Roles.Leads` — what becomes of roles and a machine.
* `SafeAt`, `Safe` — variants of a process are safe on one machine, and on every sound one.

## Main results

* `Safe.bind`, `Safe.handle`, `Safe.iterate` — safe processes put together are safe.
-/

namespace Stencil

/-- What a process may do beside what every process may do. -/
structure Rights where
  /-- It may change the object at a place without a role, and pass on the run there. -/
  Touches : Ref → Prop
  /-- It may write. -/
  Writes : Prop
  /-- It may look at files, and load modules. -/
  Looks : Prop

namespace Rights

/-- All that one process may do, another may do as well. -/
instance : LE Rights :=
  ⟨fun R R' => (∀ r, R.Touches r → R'.Touches r) ∧ (R.Writes → R'.Writes) ∧ (R.Looks → R'.Looks)⟩

/-- The rights to read, and to put new objects on the heap. -/
def reading : Rights := ⟨fun _ => False, False, True⟩

/-- The rights of scripts. -/
def script : Rights := ⟨fun _ => False, True, True⟩

/-- Rights with the one to pass on a run. -/
def passing (R : Rights) (run : Ref) : Rights :=
  ⟨fun r => r = run ∨ R.Touches r, R.Writes, R.Looks⟩

variable {R : Rights} {run : Ref}

theorem le_passing : R ≤ R.passing run := ⟨fun _ => .inr, id, id⟩

end Rights

namespace Request

/-- Nothing outside is changed. -/
def IsQuiet : Request → Prop
  | read .. | probe _ | resolve _ => True
  | makeDirectories _ | write .. => False

end Request

/-- The state into which an entry says that a run passes. -/
def LogEntry.passing? (run : Ref) : LogEntry → Option RunState
  | .advanced r _ _ after => if r = run then some after else none
  | _ => none

namespace Machine

/-- The states into which a run has passed. -/
def passed (m : Machine) (run : Ref) : List RunState :=
  m.log.toList.filterMap fun e => e.passing? run

theorem passed_push {m m' : Machine} {e : LogEntry} (run : Ref) (h : m'.log = m.log.push e) :
    m'.passed run = m.passed run ++ (e.passing? run).toList := by
  simp only [passed, h, Array.toList_push, List.filterMap_append, List.append_cancel_left_eq]
  cases he : e.passing? run <;> simp [he]

end Machine

variable {P : Policy}

namespace Roles

/-- What becomes of roles and a machine: there are new objects, some of them with roles, and what
has no role stays as it is, as far as there are no rights to it. -/
structure Leads (R : Rights) (ρ : Roles P) (m : Machine) (ρ' : Roles P) (m' : Machine) :
    Prop where
  size : m.heap.objects.size ≤ m'.heap.objects.size
  old : ∀ r, r < m.heap.objects.size → ρ' r = ρ r
  kept : ∀ r, r < m.heap.objects.size → ρ r = none → ¬ R.Touches r →
    m'.heap.get? r = m.heap.get? r ∧ m'.passed r = m.passed r
  events : ∃ added, m'.events.toList = m.events.toList ++ added ∧ (R.Writes ∨ added = [])
  modules : R.Looks ∨ m'.modules = m.modules

variable {R R' : Rights} {ρ ρ' ρ'' : Roles P} {m m' m'' : Machine}

theorem Leads.le (h : ρ.Leads R m ρ' m') (hd : ρ.Describes m.heap) : ρ ≤ ρ' := fun r _ hr =>
  (h.old r (hd.lt hr)).trans hr

theorem Leads.refl (R : Rights) (ρ : Roles P) (m : Machine) : ρ.Leads R m ρ m where
  size := Nat.le_refl _
  old _ _ := rfl
  kept _ _ _ _ := ⟨rfl, rfl⟩
  events := ⟨[], (List.append_nil _).symm, .inr rfl⟩
  modules := .inr rfl

theorem Leads.trans (h : ρ.Leads R m ρ' m') (h' : ρ'.Leads R m' ρ'' m'') :
    ρ.Leads R m ρ'' m'' where
  size := Nat.le_trans h.size h'.size
  old r hr := (h'.old r (Nat.lt_of_lt_of_le hr h.size)).trans (h.old r hr)
  kept r hr hρ hn := by
    obtain ⟨ho, hp⟩ := h.kept r hr hρ hn
    obtain ⟨ho', hp'⟩ :=
      h'.kept r (Nat.lt_of_lt_of_le hr h.size) ((h.old r hr).trans hρ) hn
    exact ⟨ho'.trans ho, hp'.trans hp⟩
  events := by
    obtain ⟨added, he, hw⟩ := h.events
    obtain ⟨added', he', hw'⟩ := h'.events
    refine ⟨added ++ added', by rw [he', he, List.append_assoc], ?_⟩
    rcases hw with hw | rfl
    · exact .inl hw
    · exact hw'.imp_right fun hn => by rw [hn, List.append_nil]
  modules := h.modules.elim .inl fun he => h'.modules.imp_right (·.trans he)

theorem Leads.mono (h : ρ.Leads R m ρ' m') (hR : R ≤ R') : ρ.Leads R' m ρ' m' where
  size := h.size
  old := h.old
  kept r hr hρ hn := h.kept r hr hρ fun ht => hn (hR.1 r ht)
  events := h.events.imp fun _ he => ⟨he.1, he.2.imp_left hR.2.1⟩
  modules := h.modules.imp_left hR.2.2

/-- A right to what is new is no right to anything that was there. -/
theorem Leads.trans_new {run : Ref} (h : ρ.Leads R m ρ' m') (hrun : m.heap.objects.size ≤ run)
    (h' : ρ'.Leads (R.passing run) m' ρ'' m'') : ρ.Leads R m ρ'' m'' where
  size := Nat.le_trans h.size h'.size
  old r hr := (h'.old r (Nat.lt_of_lt_of_le hr h.size)).trans (h.old r hr)
  kept r hr hρ hn := by
    obtain ⟨ho, hp⟩ := h.kept r hr hρ hn
    obtain ⟨ho', hp'⟩ :=
      h'.kept r (Nat.lt_of_lt_of_le hr h.size) ((h.old r hr).trans hρ) fun ht =>
        ht.elim (fun e => Nat.ne_of_lt (Nat.lt_of_lt_of_le hr hrun) e) hn
    exact ⟨ho'.trans ho, hp'.trans hp⟩
  events := ((h.mono Rights.le_passing).trans h').events
  modules := ((h.mono Rights.le_passing).trans h').modules

end Roles

namespace Outcome

variable {α : Type}

/-- A process ends with a value about which something holds, or with an exception. -/
def Meets (ρ : Roles P) (Q : Roles P → α → Prop) : Outcome α → Prop
  | value a => Q ρ a
  | raised r => ρ r = some .exception
  | exhausted => True

end Outcome

section Definitions

variable {α : Type} (R : Rights) (ρ : Roles P)

/-- Variants of a process are safe on a machine. Something holds about the end of the standard
one, and those that agree with the roles at its end come to the same end. -/
def SafeAt (m : Machine) (s : P.Variant → Step (Outcome α))
    (Q : Roles P → Machine → Outcome α → Prop) : Prop :=
  ∀ moves o m', (s P.standard).Course Eq moves o m' →
    (∀ move ∈ moves, R.Looks ∧ move.request.IsQuiet) ∧
    ∃ ρ' : Roles P, ρ.Leads R m ρ' m' ∧ ρ'.Sound m' ∧ Q ρ' m' o ∧
      ∀ v, P.Agrees ρ' v → (s v).Course Eq moves o m'

/-- Variants of a process are safe on every machine that is as roles say. -/
def Safe (F : P.Variant → Proc α) (Q : Roles P → α → Prop) : Prop :=
  ∀ m, ρ.Sound m → SafeAt R ρ m (fun v => F v m) fun ρ' _ o => o.Meets ρ' Q

end Definitions

variable {α β : Type} {R R' : Rights} {ρ : Roles P} {m : Machine}

namespace SafeAt

variable {s : P.Variant → Step (Outcome α)} {Q Q' : Roles P → Machine → Outcome α → Prop}

theorem done {ρ' : Roles P} {m' : Machine} {o : Outcome α} (h : ρ.Leads R m ρ' m')
    (hs : ρ'.Sound m') (hQ : Q ρ' m' o) : SafeAt R ρ m (fun _ => .done o m') Q := by
  rintro moves o' m'' hc
  obtain ⟨rfl, rfl, rfl⟩ := Step.course_done.1 hc
  exact ⟨fun _ hm => (nomatch hm), ρ', h, hs, hQ, fun _ _ => .done _ _⟩

theorem imp (h : SafeAt R ρ m s Q)
    (hQ : ∀ ρ' m' o, ρ.Leads R m ρ' m' → ρ'.Sound m' → Q ρ' m' o → Q' ρ' m' o) :
    SafeAt R ρ m s Q' := fun moves o m' hc => by
  obtain ⟨hq, ρ', hl, hs, ho, hv⟩ := h moves o m' hc
  exact ⟨hq, ρ', hl, hs, hQ ρ' m' o hl hs ho, hv⟩

/-- What is safe after something that roles allow is safe from before it. -/
theorem after {ρ' : Roles P} {m' : Machine} (hl : ρ.Leads R m ρ' m') (h : SafeAt R ρ' m' s Q) :
    SafeAt R ρ m s Q := fun moves o m'' hc => by
  obtain ⟨hq, ρ'', hl', hs, ho, hv⟩ := h moves o m'' hc
  exact ⟨hq, ρ'', hl.trans hl', hs, ho, hv⟩

theorem mono (h : SafeAt R ρ m s Q) (hR : R ≤ R') : SafeAt R' ρ m s Q := fun moves o m' hc => by
  obtain ⟨hq, ρ', hl, hs, ho, hv⟩ := h moves o m' hc
  exact ⟨fun move hm => (hq move hm).imp_left hR.2.2, ρ', hl.mono hR, hs, ho, hv⟩

theorem bind {K : P.Variant → Outcome α → Machine → Step (Outcome β)}
    {Q' : Roles P → Machine → Outcome β → Prop} (hd : ρ.Describes m.heap)
    (h : SafeAt R ρ m s Q)
    (hK : ∀ ρ' m' o, ρ ≤ ρ' → ρ.Leads R m ρ' m' → ρ'.Sound m' → Q ρ' m' o →
      SafeAt R ρ' m' (fun v => K v o m') Q') :
    SafeAt R ρ m (fun v => Step.bind (K v) (s v)) Q' := by
  intro moves o m' hc
  obtain ⟨before, after, o₁, m₁, rfl, hc₁, hc₂⟩ := Step.course_bind.1 hc
  obtain ⟨hq₁, ρ₁, hl₁, hs₁, ho₁, hv₁⟩ := h _ _ _ hc₁
  obtain ⟨hq₂, ρ₂, hl₂, hs₂, ho₂, hv₂⟩ := hK ρ₁ m₁ o₁ (hl₁.le hd) hl₁ hs₁ ho₁ _ _ _ hc₂
  refine ⟨fun move hm => (List.mem_append.1 hm).elim (hq₁ move) (hq₂ move), ρ₂,
    hl₁.trans hl₂, hs₂, ho₂, fun v hv => (hv₁ v ?_).bind (hv₂ v hv)⟩
  exact P.agrees_anti (hl₂.le hs₁.heap) hv

/-- A process followed by another one, on a machine that is given. -/
theorem bind_proc {F : P.Variant → Proc α} {G : P.Variant → α → Proc β}
    {Q' : Roles P → Machine → Outcome β → Prop} (hs : ρ.Sound m)
    (h : SafeAt R ρ m (fun v => F v m) Q)
    (hG : ∀ ρ' m' a, ρ ≤ ρ' → ρ'.Sound m' → Q ρ' m' (.value a) →
      SafeAt R ρ' m' (fun v => G v a m') Q')
    (hr : ∀ ρ' m' r, Q ρ' m' (.raised r) → Q' ρ' m' (.raised r))
    (he : ∀ ρ' m', Q ρ' m' .exhausted → Q' ρ' m' .exhausted) :
    SafeAt R ρ m (fun v => (F v >>= G v) m) Q' :=
  h.bind hs.heap fun ρ' m' o hle _ hs' ho => by
    cases o with
    | value a => exact hG ρ' m' a hle hs' ho
    | raised r => exact .done (.refl R ρ' m') hs' (hr ρ' m' r ho)
    | exhausted => exact .done (.refl R ρ' m') hs' (he ρ' m' ho)

end SafeAt

namespace Safe

variable {F : P.Variant → Proc α} {Q Q' : Roles P → α → Prop}

theorem imp (h : Safe R ρ F Q) (hQ : ∀ ρ', ρ ≤ ρ' → ∀ a, Q ρ' a → Q' ρ' a) :
    Safe R ρ F Q' := fun m hs =>
  (h m hs).imp fun ρ' m' o hl _ ho => by
    cases o with
    | value a => exact hQ ρ' (hl.le hs.heap) a ho
    | raised r => exact ho
    | exhausted => trivial

/-- Processes that are the same on machines that are as roles say. -/
theorem congr {G : P.Variant → Proc α} (h : Safe R ρ G Q)
    (he : ∀ m, ρ.Sound m → ∀ v, v = P.standard ∨ P.Agrees ρ v → F v m = G v m) :
    Safe R ρ F Q := by
  intro m hs moves o m' hc
  have hstandard := he m hs P.standard (.inl rfl)
  obtain ⟨hq, ρ', hl, hs', ho, hv⟩ := h m hs moves o m' (by simpa only [hstandard] using hc)
  refine ⟨hq, ρ', hl, hs', ho, fun v hagrees => ?_⟩
  have heq := he m hs v (.inr (P.agrees_anti (hl.le hs.heap) hagrees))
  simpa only [heq] using hv v hagrees

theorem pure {a : α} (h : Q ρ a) : Safe R ρ (fun _ => Pure.pure a) Q := fun m hs =>
  .done (.refl R ρ m) hs h

theorem exhausted : Safe R ρ (fun _ => Proc.exhausted) Q := fun m hs =>
  .done (.refl R ρ m) hs trivial

theorem throw {r : Ref} (h : ρ r = some .exception) : Safe R ρ (fun _ => Proc.throw r) Q :=
  fun m hs => .done (.refl R ρ m) hs h

/-- A process followed by another one. -/
theorem bind {G : P.Variant → α → Proc β} {Q' : Roles P → β → Prop} (h : Safe R ρ F Q)
    (hG : ∀ ρ', ρ ≤ ρ' → ∀ a, Q ρ' a → Safe R ρ' (fun v => G v a) Q') :
    Safe R ρ (fun v => F v >>= G v) Q' := fun m hs =>
  (h m hs).bind_proc hs (fun ρ' m' a hle hs' ho => hG ρ' hle a ho m' hs')
    (fun _ _ _ ho => ho) fun _ _ _ => trivial

/-- A process whose exceptions are handled by another one. -/
theorem handle {G : P.Variant → Ref → Proc α} (h : Safe R ρ F Q)
    (hG : ∀ ρ', ρ ≤ ρ' → ∀ r, ρ' r = some .exception → Safe R ρ' (fun v => G v r) Q) :
    Safe R ρ (fun v => (F v).handle (G v)) Q := fun m hs =>
  (h m hs).bind hs.heap fun ρ' m' o hle _ hs' ho => by
    cases o with
    | value a => exact .done (.refl R ρ' m') hs' ho
    | raised r => exact hG ρ' hle r ho m' hs'
    | exhausted => exact .done (.refl R ρ' m') hs' trivial

/-- A process whose exceptions become values. -/
theorem attempt (h : Safe R ρ F Q) :
    Safe R ρ (fun v => (F v).attempt) fun ρ' result => match result with
      | .ok a => Q ρ' a
      | .error r => ρ' r = some .exception := fun m hs =>
  (h m hs).bind hs.heap fun ρ' m' o _ _ hs' ho => by
    cases o with
    | value a => exact .done (.refl R ρ' m') hs' ho
    | raised r => exact .done (.refl R ρ' m') hs' ho
    | exhausted => exact .done (.refl R ρ' m') hs' trivial

/-- What can go on with the heap is safe if it goes on safely with each. -/
theorem heap_bind {G : P.Variant → Heap → Proc β} {Q' : Roles P → β → Prop}
    (hG : ∀ h, ρ.Describes h → Safe R ρ (fun v => G v h) Q') :
    Safe R ρ (fun v => Proc.heap >>= G v) Q' := fun m hs => hG m.heap hs.heap m hs

/-- What can go on with the machine is safe if it goes on safely with each. -/
theorem machine_bind {G : P.Variant → Machine → Proc β} {Q' : Roles P → β → Prop}
    (hG : ∀ m, ρ.Sound m → Safe R ρ (fun v => G v m) Q') :
    Safe R ρ (fun v => Proc.machine >>= G v) Q' := fun m hs => hG m hs m hs

theorem ite {p : Prop} [Decidable p] {F' : P.Variant → Proc α} (h : p → Safe R ρ F Q)
    (h' : ¬ p → Safe R ρ F' Q) : Safe R ρ (fun v => if p then F v else F' v) Q := by
  by_cases hp : p
  · simpa only [if_pos hp] using h hp
  · simpa only [if_neg hp] using h' hp

/-- A process followed by one that runs however it ends. -/
theorem andFinally {G : P.Variant → Proc Unit} [Fitting α] (h : Safe R ρ F Roles.Fits)
    (hG : ∀ ρ', ρ ≤ ρ' → Safe R ρ' G Roles.Fits) :
    Safe R ρ (fun v => (F v).andFinally (G v)) Roles.Fits :=
  h.attempt.bind fun ρ₁ h₁ result hr => (hG ρ₁ h₁).bind fun ρ₂ h₂ _ _ => by
    cases result with
    | ok a => exact pure (Roles.Fits.mono hr h₂)
    | error r => exact throw (h₂ _ _ hr)

/-- A loop whose steps are safe is safe. -/
theorem iterate {σ : Type} [Fitting σ] [Fitting α] {step : P.Variant → σ → Proc (σ ⊕ α)}
    (h : ∀ ρ', ρ ≤ ρ' → ∀ s, ρ'.Fits s → Safe R ρ' (fun v => step v s) Roles.Fits)
    (fuel : Nat) {s : σ} (hs : ρ.Fits s) :
    Safe R ρ (fun v => Proc.iterate (step v) fuel s) Roles.Fits := by
  induction fuel generalizing ρ s with
  | zero => exact exhausted
  | succ fuel ih =>
    refine (h ρ (Roles.le_refl ρ) s hs).bind fun ρ₁ h₁ next hn => ?_
    cases next with
    | inl s => exact ih (fun ρ' h' => h ρ' (Roles.le_trans h₁ h')) hn
    | inr a => exact pure hn

/-- One process for each member of a list. -/
theorem forM {β : Type} {F : P.Variant → β → Proc Unit} {bs : List β}
    (h : ∀ ρ', ρ ≤ ρ' → ∀ b ∈ bs, Safe R ρ' (fun v => F v b) Roles.Fits) :
    Safe R ρ (fun v => bs.forM (F v)) Roles.Fits := by
  induction bs generalizing ρ with
  | nil => exact pure (Roles.fits_unit ())
  | cons b bs ih =>
    exact (h ρ (Roles.le_refl ρ) b (List.mem_cons_self ..)).bind fun ρ₁ h₁ _ _ =>
      ih fun ρ' h' b hb => h ρ' (Roles.le_trans h₁ h') b (List.mem_cons_of_mem _ hb)

/-! ## What changes the machine -/

/-- A change of the machine that roles allow. -/
theorem modify {f : Machine → Machine}
    (h : ∀ m, ρ.Sound m → ρ.Leads R m ρ (f m) ∧ ρ.Sound (f m)) :
    Safe R ρ (fun _ => Proc.modify f) Roles.Fits := fun m hs =>
  .done (h m hs).1 (h m hs).2 (Roles.fits_unit ())

end Safe

namespace Roles

variable {r : Ref} {o : Object} {role : Role P.Label}

/-- What becomes of a machine whose heap is another one, on which objects with roles may differ. -/
theorem Leads.of_heap {h : Heap} (hsize : m.heap.objects.size = h.objects.size)
    (hkept : ∀ r, ρ r = none → h.get? r = m.heap.get? r) :
    ρ.Leads R m ρ { m with heap := h } where
  size := Nat.le_of_eq hsize
  old _ _ := rfl
  kept r _ hρ _ := ⟨hkept r hρ, rfl⟩
  events := ⟨[], (List.append_nil _).symm, .inr rfl⟩
  modules := .inr rfl

theorem Sound.of_heap {h : Heap} (hs : ρ.Sound m) (hd : ρ.Describes h) :
    ρ.Sound { m with heap := h } := ⟨hd, hs.modules, hs.directory⟩

/-- What becomes of a machine with a new object. -/
theorem leads_alloc {ρ' : Roles P} (h : ∀ r, r < m.heap.objects.size → ρ' r = ρ r) (o : Object) :
    ρ.Leads R m ρ' { m with heap := (m.heap.alloc o).2 } where
  size := by simp [Heap.alloc]
  old := h
  kept r hr _ _ := by simp [Heap.alloc, Heap.get?, Array.getElem?_push, Nat.ne_of_lt hr,
    Machine.passed]
  events := ⟨[], (List.append_nil _).symm, .inr rfl⟩
  modules := .inr rfl

theorem leads_assign (ρ : Roles P) (m : Machine) (o : Object) (role : Role P.Label) :
    ρ.Leads R m (ρ.assign (m.heap.alloc o).1 role) { m with heap := (m.heap.alloc o).2 } :=
  leads_alloc (fun _ hr => assign_of_ne (Nat.ne_of_lt hr)) o

theorem Sound.assign (hs : ρ.Sound m) (ho : ρ.Admits role o) :
    (ρ.assign (m.heap.alloc o).1 role).Sound { m with heap := (m.heap.alloc o).2 } where
  heap := hs.heap.alloc_assign ho
  modules p hp := le_assign (hs.heap.eq_none_of_le (Nat.le_refl _)) _ _ (hs.modules p hp)
  directory := hs.directory

end Roles

namespace Safe

variable {Q : Roles P → α → Prop} {r : Ref} {o : Object} {role : Role P.Label}

/-- A new object that plays a role. -/
theorem alloc (role : Role P.Label) (o : Object) (ho : ρ.Admits role o) :
    Safe R ρ (fun _ => Proc.alloc o) fun ρ' r => ρ' r = some role := fun m hs =>
  .done (Roles.leads_assign ρ m o role) (hs.assign ho) Roles.assign_self

/-- A new object that is of use to nobody but its owner. -/
theorem alloc_plain (o : Object) : Safe R ρ (fun _ => Proc.alloc o) Roles.Fits := fun _ hs =>
  .done (Roles.leads_alloc (fun _ _ => rfl) o) (hs.of_heap (hs.heap.alloc o)) (Roles.fits_nat _)

/-- A new object without a role, to which its owner alone has a right. -/
theorem alloc_bind {G : P.Variant → Ref → Proc α}
    (h : ∀ m, ρ.Sound m → ∀ m' : Machine, m' = { m with heap := (m.heap.alloc o).2 } →
      SafeAt (R.passing m.heap.objects.size) ρ m' (fun v => G v m.heap.objects.size m')
        fun ρ' _ o => o.Meets ρ' Q) :
    Safe R ρ (fun v => Proc.alloc o >>= G v) Q := fun m hs moves out m' hc => by
  obtain ⟨hq, ρ', hl, hs', ho, hv⟩ := h m hs _ rfl moves out m' hc
  exact ⟨hq, ρ', (Roles.leads_alloc (fun _ _ => rfl) o).trans_new (Nat.le_refl _) hl, hs', ho, hv⟩

theorem mark : Safe R ρ (fun _ => Proc.mark) Roles.Fits := alloc_plain .mark

theorem raise {e : Thrown} (he : ρ.Fits e) : Safe R ρ (fun _ => (Proc.raise e : Proc α)) Q :=
  (alloc .exception (.exception e) he).bind fun _ _ _ hr => throw hr

theorem error {type : ExceptionClass} {message : Text} :
    Safe R ρ (fun _ => (Proc.error type message : Proc α)) Q := raise (by simp)

/-- An object is replaced by one that plays the same role. -/
theorem put (hr : ρ r = some role) (ho : ρ.Admits role o) :
    Safe R ρ (fun _ => Proc.put r o) Roles.Fits :=
  modify fun m hs => by
    refine ⟨.of_heap (by simp [Heap.set]) fun s hρ => Heap.get?_set_of_ne ?_,
      hs.of_heap (hs.heap.set hr ho)⟩
    rintro rfl
    simp [hr] at hρ

/-- A list gets other items. -/
theorem setItems {items : List Value} (hr : ρ r = some .list) (hi : ρ.Fits items) :
    Safe R ρ (fun _ => Proc.setItems r items) Roles.Fits :=
  congr (put (o := .list items) hr hi) fun m hs _ _ => by
    obtain ⟨_, ho, -⟩ := hs.heap.list hr
    simp only [Proc.setItems, Proc.put, Proc.modify, Heap.setItems, ho]

/-- A dictionary gets other entries. -/
theorem setEntries {entries : Entries} (hr : ρ r = some .dict) (he : ρ.Fits entries) :
    Safe R ρ (fun _ => Proc.setEntries r entries) Roles.Fits :=
  congr (put (o := .dict entries) hr he) fun m hs _ _ => by
    obtain ⟨_, ho, -⟩ := hs.heap.dict hr
    simp only [Proc.setEntries, Proc.put, Proc.modify, Heap.setEntries, ho]

theorem updateNames {f : Names → Names} (hr : ρ r = some .scope ∨ ρ r = some .module)
    (hf : ∀ ns, ρ.Fits ns → ρ.Fits (f ns)) :
    Safe R ρ (fun _ => Proc.updateNames r f) Roles.Fits :=
  modify fun m hs => by
    have hne : ∀ s, ρ s = none → r ≠ s := by
      rintro s hρ rfl
      simp [hρ] at hr
    rcases hr with hr | hr
    · obtain ⟨owned, bound, ho, hb⟩ := hs.heap.scope hr
      simp only [Heap.updateNames, ho]
      exact ⟨.of_heap (by simp [Heap.set]) fun s hρ => Heap.get?_set_of_ne (hne s hρ),
        hs.of_heap (hs.heap.set hr (hf bound hb))⟩
    · obtain ⟨id, names, ho, hn⟩ := hs.heap.module hr
      simp only [Heap.updateNames, ho]
      exact ⟨.of_heap (by simp [Heap.set]) fun s hρ => Heap.get?_set_of_ne (hne s hρ),
        hs.of_heap (hs.heap.set hr (hf names hn))⟩

theorem emit (hw : R.Writes) (e : Event) : Safe R ρ (fun _ => Proc.emit e) Roles.Fits :=
  modify fun m hs => ⟨⟨Nat.le_refl _, fun _ _ => rfl, fun _ _ _ _ => ⟨rfl, rfl⟩,
    ⟨[e], by simp, .inl hw⟩, .inr rfl⟩, hs.heap, hs.modules, hs.directory⟩

/-- An entry of the log that is not about the state of a run. -/
theorem log {e : LogEntry} (he : ∀ r path before after, e ≠ .advanced r path before after) :
    Safe R ρ (fun _ => Proc.log e) Roles.Fits :=
  modify fun m hs => by
    refine ⟨⟨Nat.le_refl _, fun _ _ => rfl, fun r _ _ _ => ⟨rfl, ?_⟩,
      ⟨[], by simp, .inr rfl⟩, .inr rfl⟩, hs.heap, hs.modules, hs.directory⟩
    rw [Machine.passed_push _ rfl]
    cases e with
    | advanced r path before after => exact absurd rfl (he r path before after)
    | _ => exact List.append_nil _

/-- Something is asked that changes nothing outside. -/
theorem ask (hL : R.Looks) {q : Request} (hq : q.IsQuiet) :
    Safe R ρ (fun _ => Proc.ask q) fun _ _ => True := fun m hs => by
  rintro moves o m' hc
  have hv : ∀ v, P.Agrees ρ v → (Proc.ask q m).Course Eq moves o m' := fun _ _ => hc
  cases hc with
  | @ask _ _ m₁ _ _ reply moves _ pass rest =>
    obtain rfl := pass.eq
    cases reply with
    | answer a =>
      obtain ⟨rfl, rfl, rfl⟩ := Step.course_done.1 rest
      exact ⟨by simpa using ⟨hL, hq⟩, ρ, .refl R ρ _, hs, trivial, hv⟩
    | cancel =>
      obtain ⟨rfl, rfl, rfl⟩ := Step.course_done.1 rest
      refine ⟨by simpa using ⟨hL, hq⟩, _, Roles.leads_assign ρ _ _ .exception, hs.assign ?_,
        Roles.assign_self, fun _ _ => .ask pass rest⟩
      exact (Roles.fits_thrown_plain (P := P)).2 Roles.fits_nil

end Safe

end Stencil
