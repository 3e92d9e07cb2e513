import Stencil.Proofs.Command.Output
import Stencil.Proofs.Run.Refusal

/-!
# Calls for modules

What one call of `require` with a dotted path does: it finds a place, looks whether a module from
there is loaded, and executes the file at the place if there is none. The code of a module is given
nothing that reaches modules or files, so that it comes to its end in one go and loads no other
module.

## Main definitions

* `Module.Visit` — a call for a module, on a machine and a disk.
* `Visit.file?`, `Visit.outcome`, `Visit.after`, `Visit.reads` — what the call leads to.
* `Visit.Executes` — the code of a file is executed in the call.
* `Visit.Ends` — the ways in which a call comes to its end.

## Main results

* `Module.code_done` — the code of a module leaves the modules that are loaded as they are.
* `Visit.ends` — every call comes to its end in one of these ways.
-/

namespace Stencil

open Script

/-! ## What is asked on the way -/

namespace Request

/-- The file whose octets are asked for. -/
def file? : Request → Option Path
  | read path _ => some path
  | _ => none

end Request

namespace Step

variable {α β σ : Type} {world : (q : Request) → σ → q.Reply × σ} {s : σ}

/-- The files that a process reads in a world, in their order. -/
def reads (world : (q : Request) → σ → q.Reply × σ) : Step α → σ → List Path
  | done _ _, _ => []
  | ask q m next, s =>
    q.file?.toList ++ reads world (next (.answer (world q s).1) m) (world q s).2

theorem reads_bind (f : α → Machine → Step β) (step : Step α) :
    (bind f step).reads world s = step.reads world s ++
      (f (step.finish world s).1 (step.finish world s).2.1).reads world
        (step.finish world s).2.2 := by
  induction step generalizing s with
  | done a m => rfl
  | ask q m next ih => exact (congrArg _ (ih ..)).trans (List.append_assoc ..).symm

theorem eq_done_of_course {others : Machine → Machine → Prop} {step : Step α} {a : α} {m : Machine}
    (h : step.Course others [] a m) : step = .done a m := by
  cases h
  rfl

end Step

namespace Proc

variable {α β : Type} {d : Disk} {p : Proc α} {f : α → Proc β} {g : Ref → Proc α}
  {m m₁ m' : Machine} {ps ps' : List Path}

/-- On a disk a process goes from one machine to another, with an outcome, reads files on its way,
and leaves the disk as it is. -/
def GoesOn (d : Disk) (p : Proc α) (m : Machine) (ps : List Path) (o : Outcome α) (m' : Machine) :
    Prop :=
  (p m).finish Disk.answer d = (o, m', d) ∧ (p m).reads Disk.answer d = ps

theorem goesOn_of_done {o : Outcome α} (h : p m = .done o m') : p.GoesOn d m [] o m' := by
  rw [GoesOn, h]
  exact ⟨rfl, rfl⟩

theorem goesOn_ask {q : Request} (hq : q.IsQuiet) :
    (ask q).GoesOn d m q.file?.toList (.value (Disk.answer q d).1) m := by
  refine ⟨?_, List.append_nil _⟩
  exact Prod.ext rfl (Prod.ext rfl (Disk.answer_of_isQuiet hq))

theorem GoesOn.bind {a : α} {o : Outcome β} (h : p.GoesOn d m ps (.value a) m₁)
    (hf : (f a).GoesOn d m₁ ps' o m') : (p >>= f).GoesOn d m (ps ++ ps') o m' := by
  refine ⟨(finish_bind_value h.1).trans hf.1, ?_⟩
  rw [bind_eq, Step.reads_bind, h.1, h.2]
  exact congrArg _ hf.2

theorem GoesOn.bind_raised {r : Ref} (h : p.GoesOn d m ps (.raised r) m') :
    (p >>= f).GoesOn d m ps (.raised r) m' := by
  refine ⟨finish_bind_raised h.1, ?_⟩
  rw [bind_eq, Step.reads_bind, h.1, h.2]
  exact List.append_nil _

theorem GoesOn.bind_exhausted (h : p.GoesOn d m ps .exhausted m') :
    (p >>= f).GoesOn d m ps .exhausted m' := by
  refine ⟨?_, ?_⟩
  · rw [bind_eq, Step.finish_bind, h.1]
    rfl
  · rw [bind_eq, Step.reads_bind, h.1, h.2]
    exact List.append_nil _

theorem GoesOn.handle {r : Ref} {o : Outcome α} (h : p.GoesOn d m ps (.raised r) m₁)
    (hg : (g r).GoesOn d m₁ ps' o m') : (p.handle g).GoesOn d m (ps ++ ps') o m' := by
  refine ⟨?_, ?_⟩
  · rw [Proc.handle, Step.finish_bind, h.1]
    exact hg.1
  · rw [Proc.handle, Step.reads_bind, h.1, h.2]
    exact congrArg _ hg.2

theorem GoesOn.handle_of_ne {o : Outcome α} (h : p.GoesOn d m ps o m') (ho : ∀ r, o ≠ .raised r) :
    (p.handle g).GoesOn d m ps o m' := by
  refine ⟨?_, ?_⟩
  · rw [Proc.handle, Step.finish_bind, h.1]
    cases o with
    | raised r => exact absurd rfl (ho r)
    | _ => rfl
  · rw [Proc.handle, Step.reads_bind, h.1, h.2]
    cases o with
    | raised r => exact absurd rfl (ho r)
    | _ => exact List.append_nil _

/-- On a disk a process finds something out: it reads no file, changes nothing, and ends with a
value or a new exception. -/
def Observes (d : Disk) (p : Proc α) : Prop :=
  ∀ m, (∃ a, p.GoesOn d m [] (.value a) m) ∨ ∃ e, p.GoesOn d m [] (.raised m.next) (m.threw e)

namespace Observes

theorem pure {a : α} : (Pure.pure a : Proc α).Observes d := fun _ =>
  .inl ⟨a, goesOn_of_done rfl⟩

theorem error {type : ExceptionClass} {message : Text} :
    (error type message : Proc α).Observes d := fun _ => .inr ⟨_, goesOn_of_done rfl⟩

theorem bind (hp : p.Observes d) (hf : ∀ a, (f a).Observes d) : (p >>= f).Observes d := fun m => by
  obtain ⟨a, ha⟩ | ⟨e, he⟩ := hp m
  · obtain ⟨b, hb⟩ | ⟨e, he⟩ := hf a m
    · exact .inl ⟨b, ha.bind hb⟩
    · exact .inr ⟨e, ha.bind he⟩
  · exact .inr ⟨e, he.bind_raised⟩

theorem ite {c : Prop} [Decidable c] {q : Proc α} (hp : p.Observes d) (hq : q.Observes d) :
    (if c then p else q).Observes d := by
  split
  · exact hp
  · exact hq

theorem machine : Proc.machine.Observes d := fun m => .inl ⟨m, goesOn_of_done rfl⟩

theorem ask {q : Request} (hq : q.IsQuiet) (hf : q.file? = none) : (Proc.ask q).Observes d :=
  fun m => .inl ⟨_, by simpa [hf] using goesOn_ask (d := d) (m := m) hq⟩

end Observes

end Proc

/-! ## Code that is given nothing -/

/-- Scripts have no capabilities. -/
def Policy.bare (directory : Path) : Policy where
  Label := Empty
  entries := nofun
  directory
  Admits _ _ := False
  admits_mono _ h := h
  Variant := Unit
  standard := ()
  grant _ := Run.grant
  Agrees _ _ := True
  agrees_anti _ _ := trivial

theorem Policy.safe_bare (directory : Path) (R : Rights) : (bare directory).Safe R := by
  intro limit depth 𝓘 hI ρ caller c args hcaller hc ha
  exact hc.elim

/-- Calls are safe where scripts have no capabilities, whatever may be done with them. -/
theorem Policy.interp_safe_bare (directory : Path) {R : Rights} (hw : R.Writes)
    (limit depth fuel : Nat) :
    Interp.Safe R limit depth
      fun _ : (bare directory).Variant => Interp.ofFuel Run.grant limit depth fuel :=
  Interp.safe_ofFuel (safe_bare directory R) hw limit depth fuel

namespace Rights

/-- The rights of code that may not look at files. -/
def code : Rights := ⟨fun _ => False, True, False⟩

end Rights

/-- Processes that may not look at files come to their end in one go. -/
theorem SafeAt.eq_done {P : Policy} {R : Rights} {ρ : Roles P} {m : Machine} {α : Type}
    {s : P.Variant → Step (Outcome α)} {Q : Roles P → Machine → Outcome α → Prop}
    (hL : ¬ R.Looks) (h : SafeAt R ρ m s Q) :
    ∃ o m' ρ', s P.standard = .done o m' ∧ ρ.Leads R m ρ' m' ∧ ρ'.Sound m' ∧ Q ρ' m' o := by
  obtain ⟨moves, hc, -⟩ := Step.exists_course_of_finish Disk.answer (s P.standard) Disk.empty
  obtain ⟨hq, ρ', hl, hs, ho, -⟩ := h moves _ _ hc
  obtain rfl : moves = [] := List.eq_nil_iff_forall_not_mem.2 fun move hm => hL (hq move hm).1
  exact ⟨_, _, ρ', Step.eq_done_of_course hc, hl, hs, ho⟩

namespace Module

variable {I : Interp} {caller : Caller} {d : Disk} {path : Path} {m m' : Machine} {key : Text}

/-- The code in the octets of a file is executed in a module. -/
def code (I : Interp) (caller : Caller) (file : Text) (r : Ref) (octets : Octets) : Proc Unit := do
  let stmts ← scriptOf file octets
  let inner := caller.deeper 5
  I.enter inner
  let _ ← execAll I ⟨file, [], none, [], r, inner.handling, inner.depth⟩ stmts
  return ()

/-- The code of a module, called from outside of handlers, comes to its end in one go, and the
modules that are loaded stay as they are. -/
theorem code_done (limit depth fuel : Nat) {cwd : Path} {ρ : Roles (Policy.bare cwd)}
    (hs : ρ.Sound m) (hcaller : caller.handling = none) {r : Ref} (hr : ρ r = some .module)
    (file : Text) (octets : Octets) :
    ∃ o m', code (Interp.ofFuel Run.grant limit depth fuel) caller file r octets m = .done o m' ∧
      m'.modules = m.modules ∧ m.next ≤ m'.next := by
  have hI := Policy.interp_safe_bare cwd (R := .code) trivial limit depth fuel
  have hcode : Safe .code ρ
      (fun _ => code (Interp.ofFuel Run.grant limit depth fuel) caller file r octets)
      Roles.Fits := by
    refine safe_scriptOf.bind fun ρ₁ h₁ stmts _ => hI.enter.bind fun ρ₂ h₂ _ _ =>
      (safe_execAll hI ?_ stmts).bind fun _ _ _ _ => .pure (by simp)
    exact ⟨by simp, h₂ _ _ (h₁ _ _ hr), fun e he => nomatch hcaller.symm.trans he⟩
  obtain ⟨o, m', ρ', hdone, hl, -, -⟩ := (hcode m hs).eq_done id
  exact ⟨o, m', hdone, hl.modules.resolve_left id, hl.size⟩

/-! ## Where a call leads -/

variable {α : Type}

theorem observes_pathError {e : FileError} : (pathError e path : Proc α).Observes d := .error

theorem observes_probe : (probe path).Observes d :=
  .bind .machine fun m => (Proc.Observes.ask (q := .probe _) trivial rfl).bind fun reply => by
    split
    · exact .pure
    · exact observes_pathError

theorem observes_candidate : (candidate path).Observes d := by
  have fallback : (candidate.fallback path).Observes d :=
    observes_probe.bind fun _ => .ite .pure .pure
  exact .ite (.ite .error (observes_probe.bind fun _ => .ite .pure fallback)) fallback

theorem goesOn_resolve (d : Disk) (path : Path) (m : Machine) :
    (∃ p : Path, p.root = .single ∧ (resolve path).GoesOn d m [] (.value p) m) ∨
      ∃ e, (resolve path).GoesOn d m [] (.raised m.next) (m.threw e) := by
  have first : Proc.machine.GoesOn d m [] (.value m) m := Proc.goesOn_of_done rfl
  have second := Proc.goesOn_ask (d := d) (m := m) (q := .resolve (m.directory.join path)) trivial
  have root (p base : Path) (h : Disk.resolve base = .ok p) : p.root = .single := by
    unfold Disk.resolve at h
    split at h
    · nomatch h
    · nomatch h
    · obtain rfl := Except.ok.inj h
      rfl
  change Proc.GoesOn d _ m [] (.value (Disk.resolve (m.directory.join path))) m at second
  cases hr : Disk.resolve (m.directory.join path) with
  | ok p =>
    rw [hr] at second
    exact .inl ⟨p, root _ _ hr, first.bind (second.bind (Proc.goesOn_of_done rfl))⟩
  | error e =>
    rw [hr] at second
    cases e <;> exact .inr ⟨_, first.bind (second.bind (Proc.goesOn_of_done rfl))⟩

theorem observes_resolve : (resolve path).Observes d := fun m =>
  (goesOn_resolve d path m).imp_left fun ⟨p, _, h⟩ => ⟨p, h⟩

/-- The place that a path leads to, if the path may leave out the ending. -/
def placeOf (path : Path) : Proc Path := do resolve (← candidate path)

theorem observes_placeOf : (placeOf path).Observes d :=
  observes_candidate.bind fun _ => observes_resolve

/-- A place is seen from the root. -/
theorem root_of_placeOf {ps : List Path} {p : Path}
    (h : (placeOf path).GoesOn d m ps (.value p) m') : p.root = .single := by
  have looked : (candidate path).Observes d := observes_candidate
  obtain ⟨c, hc⟩ | ⟨e, he⟩ := looked m
  · have rest := (Proc.finish_bind_value hc.1).symm.trans h.1
    obtain ⟨p', root, hp⟩ | ⟨e, he⟩ := goesOn_resolve d c m
    · obtain ⟨rfl, -⟩ : p' = p ∧ m = m' := by simpa using hp.1.symm.trans rest
      exact root
    · nomatch he.1.symm.trans rest
  · nomatch (Proc.finish_bind_raised he.1).symm.trans h.1

/-- The module at a place. -/
def loadAt (I : Interp) (caller : Caller) (path resolved : Path) : Proc Value := do
  match ← loaded? resolved.text with
  | some r => return .module r
  | none =>
    if (← probe resolved) ≠ some .file then
      Proc.error .moduleNotFoundError ("Module not found: " ++ path.text ++ " (resolved to " ++
        resolved.text ++ ")")
    else if !(ending.isSuffixOf resolved.text) then
      Proc.error .importError ("Cannot load module from " ++ resolved.text)
    else
      let r ← Proc.alloc (.module resolved.text [])
      keep resolved.text r
      (execute I caller resolved r).handle fun e => do
        forget resolved.text
        Proc.throw e
      return .module r

theorem load_eq (I : Interp) (caller : Caller) (path : Path) :
    load I caller path = placeOf path >>= loadAt I caller path := by
  rw [placeOf, bind_assoc]
  rfl

theorem goesOn_probe (d : Disk) (path : Path) (m : Machine) :
    match d.probe (m.directory.join path) with
    | .ok kind => (probe path).GoesOn d m [] (.value kind) m
    | .error _ => ∃ e, (probe path).GoesOn d m [] (.raised m.next) (m.threw e) := by
  have first : Proc.machine.GoesOn d m [] (.value m) m := Proc.goesOn_of_done rfl
  have second := Proc.goesOn_ask (d := d) (m := m) (q := .probe (m.directory.join path)) trivial
  change Proc.GoesOn d _ m [] (.value (d.probe (m.directory.join path))) m at second
  split
  · next kind hr =>
    rw [hr] at second
    exact first.bind (second.bind (Proc.goesOn_of_done rfl))
  · next e hr =>
    rw [hr] at second
    exact ⟨_, first.bind (second.bind (Proc.goesOn_of_done rfl))⟩

end Module

/-- A file that is there can be read. -/
theorem Disk.read_of_probe {d : Disk} {p : Path} (h : d.probe p = .ok (some .file)) :
    ∃ octets, d.read p = .ok octets := by
  unfold Disk.probe at h
  split at h
  · nomatch h
  · next octets hg => exact ⟨octets, by rw [Disk.read, hg]⟩
  · split at h <;> nomatch h

namespace Machine

/-- The module that is kept under a key. -/
def loaded? (m : Machine) (key : Text) : Option Ref := (m.modules.find? (·.1 == key)).map (·.2)

/-- The machine on which a new module is kept under a key, before its code is executed. -/
def loading (m : Machine) (key : Text) : Machine :=
  { m with heap := (m.heap.alloc (.module key [])).2, modules := (key, m.next) :: m.modules }

theorem next_loading (m : Machine) (key : Text) : (m.loading key).next = m.next + 1 :=
  Array.size_push _

theorem next_le_threw (m : Machine) (e : Thrown) : m.next ≤ (m.threw e).next :=
  Nat.le_of_succ_le (Nat.le_of_eq (Array.size_push _).symm)

theorem loaded?_eq_none {m : Machine} {key : Text} :
    m.loaded? key = none ↔ ∀ p ∈ m.modules, p.1 ≠ key := by
  simp [loaded?]

end Machine

namespace Module

/-! ## Calls -/

/-- A call of `require` with a dotted path, from outside of handlers. -/
structure Requirement where
  /-- The directory of the template. -/
  directory : Path
  /-- The path, which is seen from there. -/
  name : Text
  dotted : List.isPrefixOf (Text.ofString "./") name ∨ List.isPrefixOf (Text.ofString "../") name
  /-- The number of activations that are going on. -/
  depth : Nat

namespace Requirement

/-- The path that is asked for, seen from the directory of the machine. -/
def path (q : Requirement) : Path := q.directory.join (Path.ofText q.name)

/-- No exception is being handled. -/
def caller (q : Requirement) : Caller := ⟨none, q.depth⟩

theorem require_eq (q : Requirement) (I : Interp) :
    require I q.caller q.directory (.str q.name) = placeOf q.path >>= loadAt I q.caller q.path := by
  rw [← load_eq]
  exact if_pos (by simpa using q.dotted)

end Requirement

/-- A call for a module, on a disk and a machine. -/
structure Visit where
  requirement : Requirement
  disk : Disk
  before : Machine

namespace Visit

section Definitions

variable (I : Interp) (v : Visit)

/-- The call as a process that is given the machine. -/
def step : Step (Outcome Value) :=
  require I v.requirement.caller v.requirement.directory (.str v.requirement.name) v.before

/-- How the call ends. -/
def outcome : Outcome Value := ((v.step I).finish Disk.answer v.disk).1

/-- The machine after the call. -/
def after : Machine := ((v.step I).finish Disk.answer v.disk).2.1

/-- The disk after the call. -/
def left : Disk := ((v.step I).finish Disk.answer v.disk).2.2

/-- The files that are read in the call, in their order. -/
def reads : List Path := (v.step I).reads Disk.answer v.disk

/-- The place that the path leads to, whatever is there. -/
def place? : Option Path :=
  match ((placeOf v.requirement.path v.before).finish Disk.answer v.disk).1 with
  | .value p => some p
  | _ => none

/-- The file that the path leads to, by its path from the root. -/
def file? : Option Text := v.place?.map Path.text

/-- There is a file of a script at the place. -/
def HasScript : Prop :=
  ∃ p, v.place? = some p ∧ v.disk.probe p = .ok (some .file) ∧ ending.isSuffixOf p.text

/-- The code of a file is executed in the call, with the octets that the file has then, in a new
module that is kept already. It comes to an outcome and a machine. -/
def Runs (p : Path) (o : Outcome Unit) (m : Machine) : Prop :=
  ∃ octets, v.disk.read p = .ok octets ∧
    code I v.requirement.caller p.text v.before.next octets (v.before.loading p.text) = .done o m

/-- The code of a file is executed in the call, and comes to an outcome. Whoever executes a file
has to read it first, and no other file is read. -/
def Executes (file : Text) (o : Outcome Unit) : Prop :=
  ∃ p m, v.reads I = [p] ∧ p.text = file ∧ v.Runs I p o m

/-- The ways in which a call comes to its end: how it ends, the machine that it leaves, and the
files that it has read. -/
inductive Ends : Outcome Value → Machine → List Path → Prop
  /-- The path leads nowhere. -/
  | lost {e : Thrown} (nowhere : v.file? = none) :
      Ends (.raised v.before.next) (v.before.threw e) []
  /-- The module is there already. -/
  | found {file : Text} {r : Ref} (place : v.file? = some file)
      (loaded : v.before.loaded? file = some r) : Ends (.value (.module r)) v.before []
  /-- There is no script at the place. -/
  | refused {file : Text} {e : Thrown} (place : v.file? = some file)
      (new : v.before.loaded? file = none) (script : ¬ v.HasScript) :
      Ends (.raised v.before.next) (v.before.threw e) []
  /-- The code has run to its end. -/
  | completed {p : Path} {m : Machine} (place : v.place? = some p)
      (new : v.before.loaded? p.text = none) (script : v.HasScript) (runs : v.Runs I p (.value ()) m)
      (modules : m.modules = (p.text, v.before.next) :: v.before.modules)
      (size : v.before.next < m.next) : Ends (.value (.module v.before.next)) m [p]
  /-- The code has raised an exception. -/
  | failed {p : Path} {r : Ref} {m : Machine} (place : v.place? = some p)
      (new : v.before.loaded? p.text = none) (script : v.HasScript)
      (runs : v.Runs I p (.raised r) m) (size : v.before.next ≤ m.next) :
      Ends (.raised r) { m with modules := v.before.modules } [p]
  /-- The code does not come to an end. -/
  | endless {p : Path} {m : Machine} (place : v.place? = some p)
      (new : v.before.loaded? p.text = none) (script : v.HasScript) (runs : v.Runs I p .exhausted m) :
      Ends .exhausted m [p]

end Definitions

variable {v : Visit} {limit depth fuel : Nat} {cwd : Path}

theorem file?_of_place {p : Path} (h : v.place? = some p) : v.file? = some p.text := by
  rw [file?, h]
  rfl

/-- What is forgotten leaves the modules that were there before. -/
theorem goesOn_forget {d : Disk} {m : Machine} {key : Text} {r e : Ref}
    {modules : List (Text × Ref)} (new : ∀ p ∈ modules, p.1 ≠ key)
    (hm : m.modules = (key, r) :: modules) :
    (forget key >>= fun _ => (Proc.throw e : Proc Unit)).GoesOn d m [] (.raised e)
      { m with modules } := by
  have kept : m.modules.filter (·.1 != key) = modules := by
    rw [hm, List.filter_cons_of_neg (by simp)]
    exact List.filter_eq_self.2 fun p hp => by simpa using new p hp
  refine Proc.goesOn_of_done ?_
  rw [← kept]
  rfl

/-- The machine on which the code of a module begins is as roles say, which give the module its
own. -/
theorem sound_loading {ρ : Roles (Policy.bare cwd)} {m : Machine} (hs : ρ.Sound m) (key : Text) :
    (ρ.assign m.next .module).Sound (m.loading key) where
  heap := hs.heap.alloc_assign (o := .module key []) Roles.fits_nil
  modules := List.forall_mem_cons.2 ⟨Roles.assign_self, fun p hp =>
    Roles.le_assign (hs.heap.eq_none_of_le (Nat.le_refl _)) _ _ (hs.modules p hp)⟩
  directory := hs.directory

/-- The code in a file is executed as a new module, which is forgotten if the code fails. -/
theorem goesOn_fresh {ρ : Roles (Policy.bare cwd)} (hs : ρ.Sound v.before) {p : Path}
    (hp : v.place? = some p) (new : v.before.loaded? p.text = none) (script : v.HasScript)
    {octets : Octets} (hr : v.disk.read p = .ok octets) :
    ∃ o m ps, (do
        let r ← Proc.alloc (.module p.text [])
        keep p.text r
        (execute (Interp.ofFuel Run.grant limit depth fuel) v.requirement.caller p r).handle
          fun e => do
            forget p.text
            Proc.throw e
        return .module r : Proc Value).GoesOn v.disk v.before ps o m ∧
      v.Ends (Interp.ofFuel Run.grant limit depth fuel) o m ps := by
  obtain ⟨o, m, hcode, modules, size⟩ := code_done limit depth fuel (sound_loading hs p.text)
    (show v.requirement.caller.handling = none from rfl) Roles.assign_self p.text octets
  have runs : v.Runs (Interp.ofFuel Run.grant limit depth fuel) p o m := ⟨octets, hr, hcode⟩
  rw [Machine.next_loading] at size
  have created : (Proc.alloc (.module p.text [])).GoesOn v.disk v.before [] (.value v.before.next)
      { v.before with heap := (v.before.heap.alloc (.module p.text [])).2 } :=
    Proc.goesOn_of_done rfl
  have kept : (keep p.text v.before.next).GoesOn v.disk
      { v.before with heap := (v.before.heap.alloc (.module p.text [])).2 } [] (.value ())
      (v.before.loading p.text) := Proc.goesOn_of_done rfl
  have reading := Proc.goesOn_ask (d := v.disk) (m := v.before.loading p.text)
    (q := .read p .blocking) trivial
  change Proc.GoesOn v.disk _ _ [p] (.value (v.disk.read p)) _ at reading
  rw [hr] at reading
  have executes : (execute (Interp.ofFuel Run.grant limit depth fuel) v.requirement.caller p
      v.before.next).GoesOn v.disk (v.before.loading p.text) [p] o m :=
    reading.bind (Proc.goesOn_of_done hcode)
  cases o with
  | value u =>
    refine ⟨_, _, _, created.bind (kept.bind ((executes.handle_of_ne nofun).bind ?_)),
      .completed hp new script runs modules size⟩
    exact Proc.goesOn_of_done rfl
  | raised e =>
    have forgotten := goesOn_forget (d := v.disk) (e := e) (Machine.loaded?_eq_none.1 new) modules
    exact ⟨_, _, _, created.bind (kept.bind (executes.handle forgotten).bind_raised),
      .failed hp new script runs (Nat.le_of_lt size)⟩
  | exhausted =>
    exact ⟨_, _, _, created.bind (kept.bind (executes.handle_of_ne nofun).bind_exhausted),
      .endless hp new script runs⟩

/-- A module is loaded at a place. -/
theorem goesOn_loadAt {ρ : Roles (Policy.bare cwd)} (hs : ρ.Sound v.before) {p : Path}
    (hp : v.place? = some p) (hroot : p.root = .single) :
    ∃ o m ps, (loadAt (Interp.ofFuel Run.grant limit depth fuel) v.requirement.caller
        v.requirement.path p).GoesOn v.disk v.before ps o m ∧
      v.Ends (Interp.ofFuel Run.grant limit depth fuel) o m ps := by
  have place := file?_of_place hp
  have looked : (Module.loaded? p.text).GoesOn v.disk v.before []
      (.value (v.before.loaded? p.text)) v.before := Proc.goesOn_of_done rfl
  cases hk : v.before.loaded? p.text with
  | some r =>
    rw [hk] at looked
    exact ⟨_, _, _, looked.bind (Proc.goesOn_of_done rfl), .found place hk⟩
  | none =>
    rw [hk] at looked
    have probed := goesOn_probe v.disk p v.before
    rw [show v.before.directory.join p = p by rw [Path.join, hroot]] at probed
    cases hkind : v.disk.probe p with
    | error e =>
      rw [hkind] at probed
      obtain ⟨e, he⟩ := probed
      refine ⟨_, _, _, looked.bind he.bind_raised, .refused place hk ?_⟩
      rintro ⟨p', hp', hfile, -⟩
      obtain rfl := Option.some.inj (hp.symm.trans hp')
      nomatch hkind.symm.trans hfile
    | ok kind =>
      rw [hkind] at probed
      replace probed : (probe p).GoesOn v.disk v.before [] (.value kind) v.before := probed
      by_cases hscript : kind = some .file ∧ ending.isSuffixOf p.text
      · obtain ⟨rfl, hending⟩ := hscript
        obtain ⟨octets, hr⟩ := Disk.read_of_probe hkind
        obtain ⟨o, m, ps, h, he⟩ := goesOn_fresh hs hp hk ⟨p, hp, hkind, hending⟩ hr
        refine ⟨o, m, ps, looked.bind (probed.bind ?_), he⟩
        rw [if_neg (by simp), if_neg (by simpa using hending)]
        exact h
      · have script : ¬ v.HasScript := by
          rintro ⟨p', hp', hfile, hending⟩
          obtain rfl := Option.some.inj (hp.symm.trans hp')
          exact hscript ⟨Except.ok.inj (hkind.symm.trans hfile), hending⟩
        by_cases hfile : kind = some .file
        · have hending : ending.isSuffixOf p.text = false :=
            Bool.eq_false_iff.2 fun h => hscript ⟨hfile, h⟩
          refine ⟨_, _, _, looked.bind (probed.bind ?_), .refused
            (e := .plain .importError [.str ("Cannot load module from " ++ p.text)]) place hk script⟩
          rw [if_neg (by simpa using hfile), if_pos (by rw [hending]; rfl)]
          exact Proc.goesOn_of_done rfl
        · refine ⟨_, _, _, looked.bind (probed.bind ?_), .refused
            (e := .plain .moduleNotFoundError [.str ("Module not found: " ++
              v.requirement.path.text ++ " (resolved to " ++ p.text ++ ")")]) place hk script⟩
          rw [if_pos hfile]
          exact Proc.goesOn_of_done rfl

/-- Every call comes to its end in one of the ways. -/
theorem ends {ρ : Roles (Policy.bare cwd)} (hs : ρ.Sound v.before) :
    v.Ends (Interp.ofFuel Run.grant limit depth fuel)
      (v.outcome (Interp.ofFuel Run.grant limit depth fuel))
      (v.after (Interp.ofFuel Run.grant limit depth fuel))
      (v.reads (Interp.ofFuel Run.grant limit depth fuel)) := by
  suffices h : ∃ o m ps, (require (Interp.ofFuel Run.grant limit depth fuel) v.requirement.caller
      v.requirement.directory (.str v.requirement.name)).GoesOn v.disk v.before ps o m ∧
        v.Ends (Interp.ofFuel Run.grant limit depth fuel) o m ps by
    obtain ⟨o, m, ps, ⟨hf, hr⟩, he⟩ := h
    rw [outcome, after, reads, step, hf, hr]
    exact he
  rw [Requirement.require_eq]
  have looked : (placeOf v.requirement.path).Observes v.disk := observes_placeOf
  obtain ⟨p, hp⟩ | ⟨e, he⟩ := looked v.before
  · have place : v.place? = some p := by rw [place?, hp.1]
    obtain ⟨o, m, ps, h, he⟩ := goesOn_loadAt hs place (root_of_placeOf hp)
    exact ⟨o, m, ps, hp.bind h, he⟩
  · refine ⟨_, _, _, he.bind_raised, .lost ?_⟩
    rw [file?, place?, he.1]
    rfl

/-- After a call the machine is as roles say again. -/
theorem sound_after {ρ : Roles (Policy.bare cwd)} (hs : ρ.Sound v.before) :
    ∃ ρ' : Roles (Policy.bare cwd),
      ρ'.Sound (v.after (Interp.ofFuel Run.grant limit depth fuel)) := by
  have hI := Policy.interp_safe_bare cwd (R := .script) trivial limit depth fuel
  have safe : Safe .script ρ (fun _ => require (Interp.ofFuel Run.grant limit depth fuel)
      v.requirement.caller v.requirement.directory (.str v.requirement.name)) Roles.Fits :=
    safe_require trivial hI (fun _ h => nomatch h) (by simp)
  obtain ⟨-, ρ', -, -, hs', -⟩ := safe.endsOn hs v.disk
  exact ⟨ρ', hs'⟩

end Visit

end Module

end Stencil
