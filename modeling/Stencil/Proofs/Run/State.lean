import Stencil.Disk.Basic
import Stencil.Proofs.Run.Stage

/-!
# The states of a run

A run passes through its states one after another, and nothing that it runs can pass it on: its own
object is out of the reach of scripts. However it ends, it has passed through a beginning of the
states in their order, and its last state tells how it ended if that was well or with an error.

## Main definitions

* `RunState.stages` — the states of a run before its end.
* `Run.Stands` — where a run stands.
* `Run.Ends` — what a run has passed through at its end.

## Main results

* `Run.safeAt_executeBy` — what a run passes through.
* `Run.ends_in_order` — a run ends in the state that tells how it ended.
-/

namespace Stencil

variable {P : Policy} {R : Rights} {ρ : Roles P} {m : Machine}

namespace RunState

/-- The states into which a run passes before its end, in their order. -/
def stages : List RunState := [.reading, .transpiling, .contextBuilding, .executing]

end RunState

namespace Run

variable {run : Ref} {t : TemplateRun} {w : List RunState} {α β : Type}

/-- Where a run stands: what its object is, which is out of the reach of scripts, and the states
into which it has passed. -/
structure Stands (run : Ref) (t : TemplateRun) (w : List RunState) (ρ : Roles P) (m : Machine) :
    Prop where
  free : ρ run = none
  object : m.heap.get? run = some (.run t)
  passed : m.passed run = w

/-- Nothing that may not touch a run passes it on. -/
theorem Stands.of_leads {ρ' : Roles P} {m' : Machine} (h : Stands run t w ρ m)
    (hn : ¬ R.Touches run) (hl : ρ.Leads R m ρ' m') : Stands run t w ρ' m' := by
  have hlt := Heap.lt_of_get? h.object
  obtain ⟨ho, hp⟩ := hl.kept run hlt h.free hn
  exact ⟨(hl.old run hlt).trans h.free, ho.trans h.object, hp.trans h.passed⟩

/-- A process that is safe leaves a run where it stands. -/
theorem Stands.safeAt {F : P.Variant → Proc α} {Q : Roles P → α → Prop}
    (h : Stands run t w ρ m) (hn : ¬ R.Touches run) (hs : ρ.Sound m) (hF : Safe R ρ F Q) :
    SafeAt (R.passing run) ρ m (fun v => F v m) fun ρ' m' o =>
      o.Meets ρ' Q ∧ Stands run t w ρ' m' :=
  ((hF m hs).imp fun _ _ _ hl _ ho => ⟨ho, h.of_leads hn hl⟩).mono Rights.le_passing

/-- A run is passed on. -/
theorem Stands.advance (h : Stands run t w ρ m) (hs : ρ.Sound m) (state : RunState) :
    ∃ m', Run.advance run state m = .done (.value ()) m' ∧
      ρ.Leads (R.passing run) m ρ m' ∧ ρ.Sound m' ∧
      Stands run { t with state } (w ++ [state]) ρ m' ∧
      ∀ r, r ≠ run → m'.heap.get? r = m.heap.get? r := by
  let m' : Machine := { m with
    heap := m.heap.set run (.run { t with state })
    log := m.log.push (.advanced run t.path t.state state) }
  have hget : Run.get run m = .done (.value t) m := by
    simp only [Run.get, Proc.bind_eq, Proc.heap, Step.bind, h.object]
    rfl
  have hp (r : Ref) :
      m'.passed r = m.passed r ++ (if run = r then some state else none).toList :=
    Machine.passed_push (e := .advanced run t.path t.state state) r rfl
  have hkept (r : Ref) (hr : r ≠ run) : m'.heap.get? r = m.heap.get? r :=
    Heap.get?_set_of_ne hr.symm
  refine ⟨m', (Proc.bind_of_done hget).trans rfl, ⟨?_, fun _ _ => rfl, fun r _ _ ht => ?_,
    ⟨[], (List.append_nil _).symm, .inr rfl⟩, .inr rfl⟩, ⟨hs.heap.set_of_none h.free, hs.modules,
    hs.directory⟩, ⟨h.free, Heap.get?_set h.object, ?_⟩, hkept⟩
  · simp [m', Heap.set]
  · have hr : r ≠ run := fun e => ht (.inl e)
    exact ⟨hkept r hr, by simp [hp, hr.symm]⟩
  · simp [hp, h.passed]

theorem Stands.get (h : Stands run t w ρ m) : Run.get run m = .done (.value t) m := by
  simp only [Run.get, Proc.bind_eq, Proc.heap, Step.bind, h.object]
  rfl

/-! ## The stages -/

/-- The stages of a run with its own ways to check its context and to supply what the template is
run with, which depends on the delimiters and on the directory of the template. -/
def stagesBy (I : Interp) (caller : Caller) (run : Ref) (mode : Mode) (check : Proc Ref)
    (supply : Delimiters → Path → Proc Entries) : Proc Unit := do
  let _ ← check
  advance run .reading
  let r ← get run
  let file ← TemplateFile.read r.path.text r.path mode
  advance run .transpiling
  let source ← Template.source r.delimiters mode (some file.path.text) file.text
  advance run .contextBuilding
  let entries ← supply r.delimiters file.directory
  advance run .executing
  let lines := source.lines.map Int.ofNat
  let procedure ←
    Procedure.construct I source.text lines (entries.map (·.1)) mode file.path.text
  let _ ← procedure.complete I caller (entries.map (·.2))
  return ()

/-- A run with its own ways to check its context and to supply what the template is run with. -/
def executeBy (I : Interp) (caller : Caller) (run : Ref) (mode : Mode) (check : Proc Ref)
    (supply : Delimiters → Path → Proc Entries) : Proc Unit := do
  (stagesBy I caller run mode check supply).handle fun r => do
    if ((← Proc.heap).thrown? r).any fun e => e.type.isA .exception then
      advance run .failed
    Proc.throw r
  advance run .completed

/-- What a template is run with out of a context. -/
def supply (context : Value) (mode : Mode) (d : Delimiters) (directory : Path) : Proc Entries :=
  Context.build context directory fun directory parent =>
    return .capability (.inclusion directory parent d mode)

theorem execute_eq (I : Interp) {caller : Caller} {mode : Mode} {context : Value} :
    execute I caller run mode context =
      executeBy I caller run mode (Context.check context) (supply context mode) := rfl

/-- What a run passes through while its stages go on, whatever the outcome: the first stages, all of
them if the outcome is a value. -/
def Halts (run : Ref) (path : Path) (d : Delimiters) (w : List RunState) (ρ : Roles P)
    (m : Machine) (o : Outcome Unit) : Prop :=
  o.Meets ρ Roles.Fits ∧ ∃ k, (o = .value () → k = 4) ∧
    Stands run ⟨path, d, (RunState.stages.take k).getLastD .unstarted⟩
      (w ++ RunState.stages.take k) ρ m

variable {path : Path} {d : Delimiters} {k : Nat}

/-- A safe process on the way does not pass the run on. -/
theorem safeAt_then {F : P.Variant → Proc α} {G : P.Variant → α → Proc Unit}
    {Q : Roles P → α → Prop}
    (h : Stands run ⟨path, d, (RunState.stages.take k).getLastD .unstarted⟩
      (w ++ RunState.stages.take k) ρ m)
    (hn : ¬ R.Touches run) (hs : ρ.Sound m) (hF : Safe R ρ F Q)
    (hG : ∀ ρ' m' a, ρ ≤ ρ' → ρ'.Sound m' → Q ρ' a →
      Stands run ⟨path, d, (RunState.stages.take k).getLastD .unstarted⟩
        (w ++ RunState.stages.take k) ρ' m' →
      SafeAt (R.passing run) ρ' m' (fun v => G v a m') (Halts run path d w)) :
    SafeAt (R.passing run) ρ m (fun v => (F v >>= G v) m) (Halts run path d w) :=
  (h.safeAt hn hs hF).bind_proc hs (fun ρ' m' a hle hs' ho => hG ρ' m' a hle hs' ho.1 ho.2)
    (fun _ _ _ ho => ⟨ho.1, k, nofun, ho.2⟩) fun _ _ ho => ⟨trivial, k, nofun, ho.2⟩

/-- The run passes into the next of its stages. -/
theorem safeAt_advance {G : P.Variant → Unit → Proc Unit}
    (h : Stands run ⟨path, d, (RunState.stages.take k).getLastD .unstarted⟩
      (w ++ RunState.stages.take k) ρ m)
    (hs : ρ.Sound m) {state : RunState} (hk : RunState.stages[k]? = some state)
    (hG : ∀ m', ρ.Sound m' →
      Stands run ⟨path, d, (RunState.stages.take (k + 1)).getLastD .unstarted⟩
        (w ++ RunState.stages.take (k + 1)) ρ m' →
      SafeAt (R.passing run) ρ m' (fun v => G v () m') (Halts run path d w)) :
    SafeAt (R.passing run) ρ m (fun v => (Run.advance run state >>= G v) m)
      (Halts run path d w) := by
  obtain ⟨m', hm', hl, hs', h', -⟩ := h.advance (R := R) hs state
  have htake : RunState.stages.take (k + 1) = RunState.stages.take k ++ [state] := by
    rw [List.take_add_one, hk, Option.toList_some]
  simp only [Proc.bind_of_done hm']
  refine .after hl (hG m' hs' ?_)
  rw [htake]
  simpa [← List.append_assoc] using h'

variable {limit depth : Nat} {𝓘 : P.Variant → Interp} {caller : Caller} {mode : Mode}
  {check : P.Variant → Proc Ref} {supply : P.Variant → Delimiters → Path → Proc Entries} {A : Prop}

/-- The stages of a run, if it is safe to check the context and to supply what the template is run
with. -/
theorem safeAt_stagesBy (hL : R.Looks) (hI : Interp.Safe R limit depth 𝓘) (hn : ¬ R.Touches run)
    (hs : ρ.Sound m) (h : Stands run ⟨path, d, .unstarted⟩ w ρ m) (hcaller : ρ.Fits caller)
    (hcheck : Safe R ρ check fun _ _ => A)
    (hsupply : A → ∀ ρ', ρ ≤ ρ' →
      Safe R ρ' (fun v => supply v d (P.directory.join path).parent) Roles.Fits) :
    SafeAt (R.passing run) ρ m
      (fun v => stagesBy (𝓘 v) caller run mode (check v) (supply v) m) (Halts run path d w) := by
  have h₀ : Stands run ⟨path, d, (RunState.stages.take 0).getLastD .unstarted⟩
      (w ++ RunState.stages.take 0) ρ m := by simpa using h
  refine safeAt_then h₀ hn hs hcheck fun ρ₁ m₁ _ le₁ s₁ hA h₁ => ?_
  refine safeAt_advance h₁ s₁ rfl fun m₂ s₂ h₂ => ?_
  simp only [Proc.bind_of_done h₂.get]
  refine safeAt_then h₂ hn s₂ (TemplateFile.safe_read hL) fun ρ₃ m₃ file le₃ s₃ hfile h₃ => ?_
  refine safeAt_advance h₃ s₃ rfl fun m₄ s₄ h₄ => ?_
  refine safeAt_then h₄ hn s₄ Template.safe_source fun ρ₅ m₅ source le₅ s₅ _ h₅ => ?_
  refine safeAt_advance h₅ s₅ rfl fun m₆ s₆ h₆ => ?_
  have le₆ := Roles.le_trans (Roles.le_trans le₁ le₃) le₅
  rw [TemplateFile.directory, hfile]
  refine safeAt_then h₆ hn s₆ (hsupply hA ρ₅ le₆) fun ρ₇ m₇ es le₇ s₇ hes h₇ => ?_
  refine safeAt_advance h₇ s₇ rfl fun m₈ s₈ h₈ => ?_
  refine safeAt_then h₈ hn s₈ (Procedure.safe_construct hI) fun ρ₉ m₉ p le₉ s₉ hp h₉ => ?_
  have hargs : ρ₉.Fits (es.map (·.2)) := fun v hv => by
    obtain ⟨q, hq, rfl⟩ := List.mem_map.1 hv
    exact ((hes q hq).mono le₉).2
  refine safeAt_then h₉ hn s₉ (Procedure.safe_complete hI hp
    (((hcaller.mono le₆).mono le₇).mono le₉) hargs) fun ρ' m' _ _ s' _ h' => ?_
  exact .done (.refl _ ρ' m') s' ⟨Roles.fits_unit (), 4, fun _ => rfl, h'⟩

/-! ## The end -/

/-- The state that tells how a run ended: well or with an error. An exception that is no error is
not told. -/
def final (m : Machine) : Outcome Unit → List RunState
  | .value () => [.completed]
  | .raised r => if m.isA r .exception then [.failed] else []
  | .exhausted => []

/-- What a run has passed through when it has ended: the first stages, all of them if it ended well,
and the state that tells how it ended. Its own state is the last one. -/
def Ends (run : Ref) (w : List RunState) (m : Machine) (o : Outcome Unit) : Prop :=
  ∃ k, (o = .value () → k = 4) ∧
    m.passed run = w ++ (RunState.stages.take k ++ final m o) ∧
    ∃ t, m.heap.get? run = some (.run t) ∧
      t.state = (RunState.stages.take k ++ final m o).getLastD .unstarted

/-- How a run goes on when its stages have ended, as a process. -/
def conclude (run : Ref) (o : Outcome Unit) (m : Machine) : Step (Outcome Unit) :=
  match o with
  | .value () => advance run .completed m
  | .raised r =>
    if m.isA r .exception then (advance run .failed >>= fun _ => Proc.throw r : Proc Unit) m
    else .done (.raised r) m
  | .exhausted => .done .exhausted m

theorem executeBy_eq (I : Interp) (check : Proc Ref) (supply : Delimiters → Path → Proc Entries) :
    executeBy I caller run mode check supply m =
      Step.bind (conclude run) (stagesBy I caller run mode check supply m) := by
  refine (Step.bind_assoc _ _ _).trans (congrArg (Step.bind · _) ?_)
  funext o m
  cases o with
  | value a => rfl
  | exhausted => rfl
  | raised r =>
    change (do
      if m.isA r .exception then advance run .failed
      Proc.throw r : Proc Unit).bind _ m = _
    by_cases hr : m.isA r .exception
    · simp only [conclude, hr, if_true]
      exact congrFun (bind_assoc (advance run .failed) (fun _ => Proc.throw r) _) m
    · simp only [conclude, if_neg hr]
      rfl

/-- However a run ends, it has passed through its states in their order. -/
theorem safeAt_executeBy (hL : R.Looks) (hI : Interp.Safe R limit depth 𝓘) (hn : ¬ R.Touches run)
    (hs : ρ.Sound m) (h : Stands run ⟨path, d, .unstarted⟩ w ρ m) (hcaller : ρ.Fits caller)
    (hcheck : Safe R ρ check fun _ _ => A)
    (hsupply : A → ∀ ρ', ρ ≤ ρ' →
      Safe R ρ' (fun v => supply v d (P.directory.join path).parent) Roles.Fits) :
    SafeAt (R.passing run) ρ m
      (fun v => executeBy (𝓘 v) caller run mode (check v) (supply v) m)
      fun ρ' m' o => o.Meets ρ' Roles.Fits ∧ Ends run w m' o := by
  simp only [executeBy_eq]
  refine (safeAt_stagesBy hL hI hn hs h hcaller hcheck hsupply).bind hs.heap
    fun ρ₁ m₁ o _ _ s₁ ho => ?_
  obtain ⟨hmeets, k, hk, h₁⟩ := ho
  have ends {m' : Machine} {state : RunState}
      (h' : Stands run ⟨path, d, state⟩ (w ++ RunState.stages.take k ++ [state]) ρ₁ m')
      (hfinal : final m' o = [state]) : Ends run w m' o := by
    refine ⟨k, hk, by rw [hfinal, h'.passed, List.append_assoc], _, h'.object, ?_⟩
    rw [hfinal, List.getLastD_concat]
  cases o with
  | value a =>
    obtain ⟨m₂, hm₂, hl, s₂, h₂, -⟩ := h₁.advance (R := R) s₁ .completed
    simp only [conclude, hm₂]
    exact .done hl s₂ ⟨hmeets, ends h₂ rfl⟩
  | exhausted =>
    refine .done (.refl _ ρ₁ m₁) s₁ ⟨trivial, k, hk, ?_, _, h₁.object, ?_⟩
    · rw [final, List.append_nil, h₁.passed]
    · rw [final, List.append_nil]
  | raised r =>
    simp only [conclude]
    by_cases hr : m₁.isA r .exception
    · obtain ⟨m₂, hm₂, hl, s₂, h₂, hkept⟩ := h₁.advance (R := R) s₁ .failed
      have hne : r ≠ run := by
        rintro rfl
        exact absurd (h₁.free.symm.trans hmeets) nofun
      have hr₂ : m₂.isA r .exception := by
        simpa only [Machine.isA, Heap.thrown?, hkept r hne] using hr
      simp only [hr, if_true, Proc.bind_of_done hm₂]
      exact .done hl s₂ ⟨hmeets, ends h₂ (if_pos hr₂)⟩
    · simp only [hr, Bool.false_eq_true, if_false]
      refine .done (.refl _ ρ₁ m₁) s₁ ⟨hmeets, k, hk, ?_, _, h₁.object, ?_⟩
      · rw [final, if_neg hr, List.append_nil, h₁.passed]
      · rw [final, if_neg hr, List.append_nil]

/-! ## Runs that a run includes -/

/-- A run that is new is safe, since nothing else has a right to it. -/
theorem safe_newBy (hI : Interp.Safe .script limit depth 𝓘) (hcaller : ρ.Fits caller)
    (hcheck : Safe .script ρ check fun _ _ => A)
    (hsupply : A → ∀ ρ', ρ ≤ ρ' →
      Safe .script ρ' (fun v => supply v d (P.directory.join path).parent) Roles.Fits) :
    Safe .script ρ (fun v => create path d >>= fun run =>
      executeBy (𝓘 v) caller run mode (check v) (supply v)) Roles.Fits :=
  .alloc_bind fun m hs m' hm' => by
    subst hm'
    refine (safeAt_executeBy trivial hI id (hs.of_heap (hs.heap.alloc _))
      ⟨hs.heap.eq_none_of_le (Nat.le_refl _), Heap.get?_alloc m.heap _, rfl⟩ hcaller hcheck
        hsupply).imp fun _ _ _ _ _ ho => ho.1

variable {context : Value}

theorem safe_new (hI : Interp.Safe .script limit depth 𝓘) (hcaller : ρ.Fits caller)
    (hc : ∀ r, context = .dict r → P.Hosts ρ r (P.directory.join path).parent d mode) :
    Safe .script ρ (fun v => create path d >>= fun run => execute (𝓘 v) caller run mode context)
      Roles.Fits := by
  simp only [execute_eq]
  exact safe_newBy (A := True) hI hcaller (Context.safe_check.imp fun _ _ _ _ => trivial)
    fun _ _ h => Context.safe_build fun r hr => (hc r hr).mono h

theorem safe_pathOf {v : Value} : Safe R ρ (fun _ => pathOf v) Roles.Fits := by
  unfold pathOf
  split
  · exact .pure (by simp)
  · exact Eval.safe_typeName.bind fun _ _ _ _ => .error

/-- An inclusion is safe if the context that it makes may be the context of a run. -/
theorem safe_include (hI : Interp.Safe .script limit depth 𝓘) (hcaller : ρ.Fits caller)
    {directory : Path} {parent : Ref} {target override : Value}
    (hc : ∀ (path : Path) (ρ' : Roles P), ρ ≤ ρ' →
      Safe .script ρ' (fun _ => Context.inherit parent override) fun ρ'' v =>
        ∀ r, v = .dict r →
          P.Hosts ρ'' r (P.directory.join (directory.join path)).parent d mode) :
    Safe .script ρ (fun v => include_ (𝓘 v) caller directory parent d mode target override)
      Roles.Fits :=
  safe_pathOf.bind fun ρ₁ h₁ path _ => (Safe.log (by simp)).bind fun ρ₂ h₂ _ _ =>
    (hc path ρ₂ (Roles.le_trans h₁ h₂)).bind fun ρ₃ h₃ inherited hi =>
      (safe_new hI (Caller.fits_deeper (((hcaller.mono h₁).mono h₂).mono h₃) _) hi).bind
        fun _ _ _ _ => .pure (by simp)

/-- A capability is not one that a run supplies, or is not called as such. -/
def IsOther (c : Capability) (args : List Value) : Prop :=
  (∀ directory context d mode target override, c = .inclusion directory context d mode →
    args ≠ [target, override]) ∧ ∀ directory v, c = .requirement directory → args ≠ [v]

/-- What is granted includes a template, loads a module or does something else. -/
theorem grant_cases (c : Capability) (args : List Value) :
    (∃ directory context d mode target override,
      c = .inclusion directory context d mode ∧ args = [target, override]) ∨
    (∃ directory v, c = .requirement directory ∧ args = [v]) ∨ IsOther c args := by
  by_cases hi : ∃ directory context d mode target override,
    c = .inclusion directory context d mode ∧ args = [target, override]
  · exact .inl hi
  · by_cases hr : ∃ directory v, c = .requirement directory ∧ args = [v]
    · exact .inr (.inl hr)
    · exact .inr (.inr ⟨fun directory context d mode target override hc ha =>
        hi ⟨directory, context, d, mode, target, override, hc, ha⟩,
        fun directory v hc ha => hr ⟨directory, v, hc, ha⟩⟩)

theorem grant_of_isOther {c : Capability} {args : List Value} (h : IsOther c args) (I : Interp)
    (caller : Caller) : grant I caller c args = return .none := by
  unfold grant
  split
  · exact absurd rfl (h.1 _ _ _ _ _ _ rfl)
  · exact absurd rfl (h.2 _ _ rfl)
  · rfl

end Run

namespace Policy

/-- Scripts may have all capabilities, and contexts are dictionaries like any other. -/
def plain (directory : Path) : Policy where
  Label := Empty
  entries := nofun
  directory
  Admits ρ
    | .inclusion _ context _ _ => ρ context = some .dict
    | _ => True
  admits_mono {ρ ρ' c} h hc := by
    cases c with
    | inclusion directory context d mode => exact h _ _ hc
    | _ => trivial
  Variant := Unit
  standard := ()
  grant _ := Run.grant
  Agrees _ _ := True
  agrees_anti _ _ := trivial

theorem hosts_plain {directory : Path} {ρ : Roles (plain directory)} {context : Value}
    {place : Path} {d : Delimiters} {mode : Mode} (h : ρ.Fits context) :
    ∀ r, context = .dict r → (plain directory).Hosts ρ r place d mode := by
  rintro r rfl
  have hr : ρ r = some .dict := by simpa using h
  exact ⟨.inl hr, trivial, hr⟩

theorem safe_plain (directory : Path) : (plain directory).Safe .script := by
  intro limit depth 𝓘 hI ρ caller c args hcaller hc ha
  change Stencil.Safe .script ρ (fun v => Run.grant (𝓘 v) caller c args) Roles.Fits
  obtain ⟨directory', context, d, mode, target, override, rfl, rfl⟩ | ⟨directory', v, rfl, rfl⟩ |
    hother := Run.grant_cases c args
  · refine Run.safe_include hI hcaller fun path ρ' h' => .heap_bind fun h hd => ?_
    have hcontext := hd.fits_entries (h' _ _ hc)
    have hoverride : ρ.Fits override := (by simpa using ha : _ ∧ _).2
    split
    · exact (Eval.safe_newDict hcontext).imp fun _ _ _ => hosts_plain
    · refine (Eval.safe_newDict (Entries.fits_update hcontext (hd.fits_entries ?_))).imp
        fun _ _ _ => hosts_plain
      simpa using hoverride.mono h'
    · exact .error
  · exact Module.safe_require trivial hI hcaller (by simpa using ha)
  · simp only [Run.grant_of_isOther hother]
    exact .pure (by simp)

/-- Scripts are safe where they may have all capabilities. -/
theorem interp_safe_plain (directory : Path) (limit depth fuel : Nat) :
    Interp.Safe .script limit depth
      fun _ : (plain directory).Variant => Interp.ofFuel Run.grant limit depth fuel :=
  Interp.safe_ofFuel (safe_plain directory) trivial limit depth fuel

end Policy

namespace Run

/-- However a run ends, it has passed through its states in their order. It begins where it has not
started; on its way it is given any answers, and it may be cancelled wherever it is suspended. In
the end it has passed through the first stages, through all of them if it ended well; then it is
completed if it ended well, and failed if it ended with an exception that is an error. -/
theorem ends_in_order (limit depth fuel : Nat) {directory : Path}
    {ρ : Roles (Policy.plain directory)} {m m' : Machine} {run : Ref} {path : Path}
    {d : Delimiters} {caller : Caller} {mode : Mode} {context : Value} {moves : List Move}
    {o : Outcome Unit} (hs : ρ.Sound m) (hcaller : ρ.Fits caller) (hcontext : ρ.Fits context)
    (hfree : ρ run = none) (hrun : m.heap.get? run = some (.run ⟨path, d, .unstarted⟩))
    (hc : (execute (Interp.ofFuel grant limit depth fuel) caller run mode context m).Course
      Eq moves o m') : Ends run (m.passed run) m' o := by
  have hI := Policy.interp_safe_plain directory limit depth fuel
  have hsafe : SafeAt (Rights.script.passing run) ρ m
      (fun _ => executeBy (Interp.ofFuel grant limit depth fuel) caller run mode
        (Context.check context) (supply context mode) m)
      fun ρ' m' o => o.Meets ρ' Roles.Fits ∧ Ends run (m.passed run) m' o :=
    safeAt_executeBy (A := True) trivial hI id hs ⟨hfree, hrun, rfl⟩ hcaller
      (Context.safe_check.imp fun _ _ _ _ => trivial)
      fun _ _ h => Context.safe_build fun r hr => (Policy.hosts_plain hcontext r hr).mono h
  rw [execute_eq] at hc
  obtain ⟨-, ρ', -, -, ho, -⟩ := hsafe moves o m' hc
  exact ho.2

/-- A machine with a context that grants `write`, and with a run that has not started. -/
def beginning : Machine := { Machine.fresh Path.here with
  heap := ⟨#[.dict [(.str "write", .capability (.write 0 "write"))],
    .run ⟨Path.ofText "t", Delimiters.standard, .unstarted⟩]⟩ }

/-- The roles on a machine with nothing but a context. -/
def beginningRoles : Roles (Policy.plain Path.here) := fun r => if r = 0 then some .dict else none

theorem sound_beginning : beginningRoles.Sound beginning := by
  refine ⟨fun r role hr => ?_, nofun, rfl⟩
  unfold beginningRoles at hr
  split at hr
  · next h =>
    subst h
    obtain rfl := Option.some.inj hr
    refine ⟨_, rfl, Roles.fits_cons.2 ⟨⟨?_, ?_⟩, Roles.fits_nil⟩⟩
    · simp
    · exact Roles.fits_value_capability.2 trivial
  · nomatch hr

/-- On a disk without files the run of `beginning` comes to an end, having passed through its states
in their order. -/
theorem ends_in_order_of_missing : ∃ moves o m',
    (execute Interp.standard .none 1 .blocking (.dict 0) beginning).Course Eq moves o m' ∧
      Ends 1 [] m' o := by
  obtain ⟨moves, hc, -⟩ := Step.exists_course_of_finish Disk.answer
    (execute Interp.standard .none 1 .blocking (.dict 0) beginning) Disk.empty
  refine ⟨moves, _, _, hc, ?_⟩
  exact ends_in_order Interp.rounds Interp.maxDepth (Interp.maxDepth + 1) sound_beginning
    (by rintro r ⟨⟩) (by simp [beginningRoles]) rfl rfl hc

end Run

end Stencil
