import Stencil.Command.Basic
import Stencil.Proofs.Context.File
import Stencil.Proofs.Disk.Basic
import Stencil.Proofs.Run.State

/-!
# The output of the command

The command writes its output file when the template has ended well, and then the whole output. If
it fails before that, the output file is as it was before: scripts cannot change files, and making
directories leaves files as they are. There is one way to fail after that, which is an output that
has no octets; it leaves an empty file. And a script may end the program with any status.

## Main definitions

* `Step.EndsOn` — how a process ends on a disk.
* `Command.Settles` — what becomes of the output file.

## Main results

* `Safe.endsOn` — a safe process leaves the disk as it is.
* `Command.all_or_nothing` — the output file of a command is written or as it was before.
-/

namespace Stencil

variable {α β : Type}

/-! ## Processes on a disk -/

namespace Step

/-- A process that asks a disk ends as something says of its outcome, the machine and the disk. -/
def EndsOn (d : Disk) (s : Step α) (Q : α → Machine → Disk → Prop) : Prop :=
  Q (s.finish Disk.answer d).1 (s.finish Disk.answer d).2.1 (s.finish Disk.answer d).2.2

theorem EndsOn.bind {d : Disk} {s : Step α} {f : α → Machine → Step β}
    {Q : α → Machine → Disk → Prop} {Q' : β → Machine → Disk → Prop} (h : s.EndsOn d Q)
    (hf : ∀ a m d', Q a m d' → (f a m).EndsOn d' Q') : (Step.bind f s).EndsOn d Q' := by
  induction s generalizing d with
  | done a m => exact hf a m d h
  | ask q m next ih => exact ih _ _ h

end Step

namespace Outcome

variable {α : Type}

/-- The outcome of a process whose exceptions are caught. -/
def caught : Outcome α → Outcome (Except Ref α)
  | value a => value (.ok a)
  | raised r => value (.error r)
  | exhausted => exhausted

end Outcome

variable {P : Policy} {R : Rights} {ρ : Roles P} {m : Machine} {d : Disk}

/-- A safe process leaves the disk as it is. -/
theorem Safe.endsOn {F : P.Variant → Proc α} {Q : Roles P → α → Prop} (h : Safe R ρ F Q)
    (hs : ρ.Sound m) (d : Disk) :
    (F P.standard m).EndsOn d fun o m' d' =>
      d' = d ∧ ∃ ρ', ρ ≤ ρ' ∧ ρ.Leads R m ρ' m' ∧ ρ'.Sound m' ∧ o.Meets ρ' Q := by
  obtain ⟨moves, hc, hd⟩ := Step.exists_course_of_finish Disk.answer (F P.standard m) d
  obtain ⟨hq, ρ', hl, hs', ho, -⟩ := h m hs moves _ _ hc
  exact ⟨hd.trans (Disk.replay_answer fun move hm => (hq move hm).2), ρ', hl.le hs.heap, hl, hs', ho⟩

namespace Command

/-! ## The output is saved -/

/-- A file is as it was before: it has the same octets, or there is still none. -/
def Keeps (file : Path) (d d' : Disk) : Prop := (d'.read file).toOption = (d.read file).toOption

theorem Keeps.of_extends {file : Path} {d' : Disk} (h : Disk.Extends d d')
    (hr : ∀ octets, d'.read file ≠ .ok octets) : Keeps file d d' := by
  have hnone {d : Disk} (hr : ∀ octets, d.read file ≠ .ok octets) :
      (d.read file).toOption = none := by
    cases he : d.read file with
    | error e => rfl
    | ok octets => exact absurd he (hr octets)
  rw [Keeps, hnone hr, hnone fun octets ho => hr octets (h.read ho)]

/-- What has become of a file when a text was to be saved in it. -/
def Saved (file : Path) (t : Text) (events : Array Event) (d : Disk) (o : Outcome Unit)
    (m : Machine) (d' : Disk) : Prop :=
  m.events = events ∧ match o with
    | .value () => ∃ octets, Text.encode? t = some octets ∧ d'.read file = .ok octets
    | .raised r => Keeps file d d' ∨
        m.isA r .exception ∧ Text.encode? t = none ∧ d'.read file = .ok []
    | .exhausted => False

theorem encode?_of_unencodable? {t : Text} :
    (t.unencodable?).isSome ↔ Text.encode? t = none := by
  have h (n : Nat) : (Text.surrogates? (fun _ => false) n t).isSome ↔
      t.any CodePoint.isSurrogate := by
    induction t generalizing n with
    | nil => simp [Text.surrogates?]
    | cons c t ih => cases hc : CodePoint.isSurrogate c <;> simp [Text.surrogates?, hc, ih]
  rw [Text.unencodable?, Option.isSome_map, h, Text.encode?]
  split <;> simp_all

/-- Something is asked of the disk. -/
theorem endsOn_ask {q : Request} {f : q.Reply → Proc β} {Q : Outcome β → Machine → Disk → Prop} :
    ((Proc.ask q >>= f) m).EndsOn d Q ↔
      (f (Disk.answer q d).1 m).EndsOn (Disk.answer q d).2 Q := Iff.rfl

theorem endsOn_machine {f : Machine → Proc β} {Q : Outcome β → Machine → Disk → Prop} :
    ((Proc.machine >>= f) m).EndsOn d Q ↔ (f m m).EndsOn d Q := Iff.rfl

/-- An exception is raised. -/
theorem endsOn_error {type : ExceptionClass} {message : Text}
    {Q : Outcome α → Machine → Disk → Prop}
    (h : ∀ r m', m'.events = m.events → (∀ c, m'.isA r c = type.isA c) → Q (.raised r) m' d) :
    ((Proc.error type message : Proc α) m).EndsOn d Q := by
  let o : Object := .exception (.plain type [.str message])
  refine h (m.heap.alloc o).1 { m with heap := (m.heap.alloc o).2 } rfl fun c => ?_
  simp [Machine.isA, Heap.thrown?, Heap.get?_alloc, o, Thrown.plain]

/-- A text is saved in a file, or the file is as it was, or it is empty since the text has no
octets. -/
theorem endsOn_save (output : Path) (t : Text) (m : Machine) (d : Disk) :
    (save output t m).EndsOn d (Saved (m.directory.join output) t m.events d) := by
  refine endsOn_ask.2 ?_
  generalize m.directory.join output = file
  have hextends : Disk.Extends d (Disk.answer (.makeDirectories file.parent) d).2 :=
    Disk.extends_makeDirectories d file.parent 0 _
  cases hmade : (Disk.answer (.makeDirectories file.parent) d).1 with
  | error e =>
    have hno := Disk.not_hasDirectory_of_makeDirectories hmade
    refine endsOn_error fun r m' he _ => ⟨he, .inl (.of_extends hextends fun octets ho => ?_)⟩
    exact hno (Disk.hasDirectory_of_read ho)
  | ok u =>
    refine endsOn_ask.2 ?_
    generalize (Disk.answer (.makeDirectories file.parent) d).2 = d₁ at hextends
    cases hwritten : (Disk.answer (.write file (Text.encode? t)) d₁).1 with
    | error e =>
      obtain ⟨hsame, hno⟩ := Disk.not_read_of_write hwritten
      change (Disk.answer (.write file (Text.encode? t)) d₁).2 = d₁ at hsame
      rw [hsame]
      exact endsOn_error fun r m' he _ => ⟨he, .inl (.of_extends hextends hno)⟩
    | ok u =>
      have hread := Disk.read_write hwritten
      change (Disk.answer (.write file (Text.encode? t)) d₁).2.read file = _ at hread
      generalize (Disk.answer (.write file (Text.encode? t)) d₁).2 = d₂ at hread
      cases hencode : Text.encode? t with
      | none =>
        obtain ⟨message, hm⟩ := Option.isSome_iff_exists.1 (encode?_of_unencodable?.2 hencode)
        simp only [hm]
        refine endsOn_error fun r m' he hclass => ⟨he, .inr ⟨?_, hencode, ?_⟩⟩
        · rw [hclass]
          rfl
        · rw [hread, hencode]
          rfl
      | some octets =>
        have hm : t.unencodable? = none := by
          refine Option.not_isSome_iff_eq_none.1 fun hs => ?_
          simp [encode?_of_unencodable?.1 hs] at hencode
        simp only [hm]
        refine ⟨rfl, octets, hencode, ?_⟩
        exact hread.trans (by rw [hencode]; rfl)

/-! ## The template is run -/

/-- What has become of the output file when a template was to be run. -/
def Performed (file : Path) (d : Disk) (o : Outcome (Option Complaint)) (m : Machine)
    (d' : Disk) : Prop :=
  match o with
  | .value none => ∃ octets, Text.encode? (written 0 m) = some octets ∧ d'.read file = .ok octets
  | .value (some _) | .exhausted => Keeps file d d'
  | .raised r => Keeps file d d' ∨
      m.isA r .exception ∧ Text.encode? (written 0 m) = none ∧ d'.read file = .ok []

variable {file : Path}

/-- A safe process is followed by another one. If it ends with an exception, the output file is as
it was. -/
theorem endsOn_then {p : Proc α} {f : α → Proc (Option Complaint)} {Q : Roles P → α → Prop}
    (hp : Safe R ρ (fun _ => p) Q) (hs : ρ.Sound m)
    (hf : ∀ ρ' m' a, ρ ≤ ρ' → ρ'.Sound m' → (¬ R.Writes → m'.events = m.events) → Q ρ' a →
      (f a m').EndsOn d (Performed file d)) :
    ((p >>= f) m).EndsOn d (Performed file d) :=
  (hp.endsOn hs d).bind fun o m' d' ⟨hd, ρ', hle, hl, hs', ho⟩ => by
    subst hd
    cases o with
    | value a =>
      refine hf ρ' m' a hle hs' (fun hn => ?_) ho
      obtain ⟨added, he, hw⟩ := hl.events
      obtain rfl := hw.resolve_left hn
      exact Array.toList_inj.1 (he.trans (List.append_nil _))
    | raised r => exact .inl rfl
    | exhausted => exact rfl

theorem safe_blocking {cwd : Path} {ρ : Roles (Policy.plain cwd)} (limit depth fuel : Nat)
    {path : Text} {context : Value} {o : Options} (hc : ρ.Fits context) :
    Safe .script ρ (fun _ => Run.blocking (Interp.ofFuel Run.grant limit depth fuel) path context
      (.options o)) Roles.Fits :=
  Run.safe_new (Policy.interp_safe_plain cwd limit depth fuel) nofun (Policy.hosts_plain hc)

/-- What the context file of a command gives. -/
def given (j : Job) : Proc Entries :=
  match j.context with
  | none => return []
  | some path => do
    match ← Context.ofFile path with
    | .dict r => return (← Proc.heap).dict r
    | _ => return []

/-- A template is run with what the context file gives, and its output is written. -/
def performWith (I : Interp) (j : Job) (extra : Entries) : Proc (Option Complaint) :=
  if (extra.getText? "write").isSome then return some .writeDefined
  else do
    let options ← Options.orRefuse (Options.ofTexts j.start j.stop)
    Proc.log (.running j.template)
    let granted : Entries := [(.str "write", .capability (.write channel writerTitle))]
    let context ← Eval.newDict (granted.merge extra)
    let since := (← Proc.machine).events.size
    Run.blocking I j.template.text context (.options options)
    Proc.log (.writing j.output)
    save j.output (written since (← Proc.machine))
    Proc.log .finished
    return none

theorem perform_eq (I : Interp) (j : Job) : perform I j = given j >>= performWith I j := by
  unfold perform given
  cases j.context with
  | none => rfl
  | some path =>
    dsimp only
    rw [bind_assoc]
    refine congrArg _ (funext fun v => ?_)
    cases v <;> rfl

theorem safe_given (hL : R.Looks) {j : Job} : Safe R ρ (fun _ => given j) Roles.Fits := by
  unfold given
  split
  · exact .pure Roles.fits_nil
  · refine (Context.safe_ofFile hL).bind fun ρ v _ hv => ?_
    split
    · exact .heap_bind fun h hd => .pure (hd.fits_entries (by simpa using hv))
    · exact .pure Roles.fits_nil

/-- The output of a template that has ended well is saved. -/
theorem endsOn_finish (output : Path) (m : Machine) (d : Disk) :
    ((do
      Proc.log (.writing output)
      save output (written 0 (← Proc.machine))
      Proc.log .finished
      return none : Proc (Option Complaint)) m).EndsOn d
        (Performed (m.directory.join output) d) := by
  refine (endsOn_save output (written 0 m) _ d).bind fun o m' d' ⟨he, ho⟩ => ?_
  have hw : written 0 m' = written 0 m := by rw [written, he]; rfl
  rw [← hw] at ho
  cases o with
  | value u => exact ho
  | raised r => exact ho
  | exhausted => exact ho.elim

theorem endsOn_performWith (limit depth fuel : Nat) (j : Job) {cwd : Path}
    {ρ : Roles (Policy.plain cwd)} {extra : Entries} (hs : ρ.Sound m) (he : m.events = #[])
    (hextra : ρ.Fits extra) :
    (performWith (Interp.ofFuel Run.grant limit depth fuel) j extra m).EndsOn d
      (Performed (cwd.join j.output) d) := by
  unfold performWith
  split
  · exact rfl
  · refine endsOn_then (R := .reading) Options.safe_orRefuse hs fun ρ₁ m₁ o h₁ s₁ e₁ _ => ?_
    refine endsOn_then (R := .reading) (Safe.log (by simp)) s₁ fun ρ₂ m₂ _ h₂ s₂ e₂ _ => ?_
    dsimp only
    refine endsOn_then (R := .reading) (Eval.safe_newDict ?_) s₂ fun ρ₃ m₃ context h₃ s₃ e₃ hc => ?_
    · refine Entries.fits_update ?_ ((hextra.mono h₁).mono h₂)
      exact Roles.fits_cons.2 ⟨⟨by simp, Roles.fits_value_capability.2 trivial⟩, Roles.fits_nil⟩
    · have hsize : m₃.events.size = 0 := by rw [e₃ id, e₂ id, e₁ id, he]; rfl
      refine endsOn_machine.2 ?_
      refine endsOn_then (safe_blocking limit depth fuel hc) s₃ fun ρ₄ m₄ _ _ s₄ _ _ => ?_
      rw [hsize, ← show m₄.directory = cwd from s₄.directory]
      exact endsOn_finish j.output m₄ d

theorem endsOn_perform (limit depth fuel : Nat) (j : Job) (cwd : Path) (d : Disk) :
    (perform (Interp.ofFuel Run.grant limit depth fuel) j (Machine.fresh cwd)).EndsOn d
      (Performed (cwd.join j.output) d) := by
  have hs : Roles.Sound (P := .plain cwd) (fun _ => none) (Machine.fresh cwd) :=
    ⟨nofun, nofun, rfl⟩
  rw [perform_eq]
  exact endsOn_then (R := .reading) (safe_given trivial) hs fun _ _ _ _ s₁ e₁ he =>
    endsOn_performWith limit depth fuel j s₁ (e₁ id) he

/-! ## The command as a whole -/

/-- How a command ends that has not written its output. -/
inductive Fails (m : Machine) : Outcome Ending → Prop
  | complaint (level : Level) (c : Complaint) : Fails m (.value ⟨.int 1, level, [], some c⟩)
  /-- A script has ended the program. -/
  | exit (level : Level) {r : Ref} (h : m.isA r .systemExit) :
    Fails m (.value ⟨exitStatus m.heap r, level, [], none⟩)
  | interrupt (level : Level) {r : Ref} (h : m.isA r .keyboardInterrupt) :
    Fails m (.value ⟨interruptedStatus, level, [], none⟩)
  | raised {r : Ref} (h : ¬ m.isA r .exception) : Fails m (.raised r)
  | exhausted : Fails m .exhausted

/-- What becomes of the output file, by how the command ends. -/
inductive Settles (file : Path) (d : Disk) (m : Machine) (d' : Disk) : Outcome Ending → Prop
  /-- The file holds all that has been written. -/
  | full (level : Level) {octets : Octets} (text : Text.encode? (written 0 m) = some octets)
      (read : d'.read file = .ok octets) : Settles file d m d' (.value ⟨.int 0, level, [], none⟩)
  | kept {o : Outcome Ending} (fails : Fails m o) (keeps : Keeps file d d') :
    Settles file d m d' o
  /-- What has been written has no octets. -/
  | emptied (level : Level) {r : Ref} (error : m.isA r .exception)
      (text : Text.encode? (written 0 m) = none) (read : d'.read file = .ok []) :
    Settles file d m d' (.value ⟨.int 1, level, [], some (.raised r)⟩)

variable {file : Path}

/-- How the command ends when its template was run. -/
def endingOf (level : Level) (o : Outcome (Except Ref (Option Complaint))) (m : Machine) :
    Outcome Ending :=
  match o with
  | .value (.ok none) => .value ⟨.int 0, level, [], none⟩
  | .value (.ok (some c)) => .value ⟨.int 1, level, [], some c⟩
  | .value (.error r) =>
    if m.isA r .exception then .value ⟨.int 1, level, [], some (.raised r)⟩
    else if m.isA r .systemExit then .value ⟨exitStatus m.heap r, level, [], none⟩
    else if m.isA r .keyboardInterrupt then .value ⟨interruptedStatus, level, [], none⟩
    else .raised r
  | .raised r => .raised r
  | .exhausted => .exhausted

theorem execute_eq (I : Interp) (debug : Bool) {arguments : List Text} {j : Job}
    (hj : Order.ofArguments? arguments = some (.job j)) (m : Machine) :
    execute I debug arguments m =
      Step.bind (fun o m => .done (endingOf (.of debug j.verbose) o m) m)
        ((perform I j).attempt m) := by
  simp only [execute, hj]
  refine congrArg (Step.bind · _) ?_
  funext o m
  cases o with
  | exhausted => rfl
  | raised r => rfl
  | value result =>
    cases result with
    | ok c => cases c <;> rfl
    | error r =>
      have hisA (c : ExceptionClass) : Run.isA r c m = .done (.value (m.isA r c)) m := rfl
      dsimp only [endingOf]
      rw [Proc.bind_of_done (hisA _)]
      cases m.isA r .exception with
      | true => rfl
      | false =>
        simp only [Bool.false_eq_true, if_false]
        rw [Proc.bind_of_done (hisA _)]
        cases m.isA r .systemExit with
        | true => rfl
        | false =>
          simp only [Bool.false_eq_true, if_false]
          rw [Proc.bind_of_done (hisA _)]
          cases m.isA r .keyboardInterrupt <;> rfl

/-- A template that is run leaves the output file as the end of the command tells. -/
theorem Performed.settles {file : Path} {d d' : Disk} {m : Machine} (level : Level)
    {o : Outcome (Option Complaint)} (h : Performed file d o m d') :
    Settles file d m d' (endingOf level o.caught m) := by
  cases o with
  | value c =>
    cases c with
    | none =>
      obtain ⟨octets, ht, hr⟩ := h
      exact .full level ht hr
    | some c => exact .kept (.complaint level c) h
  | exhausted => exact .kept .exhausted h
  | raised r =>
    simp only [Outcome.caught, endingOf]
    by_cases he : m.isA r .exception
    · rw [if_pos he]
      obtain hk | ⟨-, ht, hr⟩ := h
      · exact .kept (.complaint level _) hk
      · exact .emptied level he ht hr
    · have hk : Keeps file d d' := h.resolve_right fun hr => he hr.1
      rw [if_neg he]
      split
      · next hs => exact .kept (.exit level hs) hk
      · split
        · next hi => exact .kept (.interrupt level hi) hk
        · exact .kept (.raised he) hk

/-- The command is all or nothing. Whatever the files are and whatever the template does, the output
file holds in the end all that has been written, and the status is 0, or it is as it was before, and
the command has failed. There are two exceptions: what has been written may have no octets, which
leaves an empty file, and a script may end the program with a status of its own. What cannot be
understood as a template, an output file and options is refused. -/
theorem all_or_nothing (limit depth fuel : Nat) (debug : Bool) (arguments : List Text)
    (cwd : Path) (d : Disk) :
    (execute (Interp.ofFuel Run.grant limit depth fuel) debug arguments
      (Machine.fresh cwd)).EndsOn d fun o m d' =>
        match Order.ofArguments? arguments with
        | some (.job j) => Settles (cwd.join j.output) d m d' o
        | some _ => True
        | none => o = .value ⟨.int 2, .critical, [], none⟩ ∧ d' = d := by
  cases horder : Order.ofArguments? arguments with
  | none =>
    simp only [execute, horder]
    exact ⟨rfl, rfl⟩
  | some order =>
    cases order with
    | version => trivial
    | help => trivial
    | job j =>
      rw [execute_eq _ _ horder]
      refine Step.EndsOn.bind (Q := fun o m d' => ∃ o', o = o'.caught ∧
        Performed (cwd.join j.output) d o' m d') ?_ fun o m d' ⟨o', ho, h⟩ => ?_
      · refine (endsOn_perform limit depth fuel j cwd d).bind fun o m d' h => ?_
        cases o <;> exact ⟨_, rfl, h⟩
      · exact ho ▸ h.settles (.of debug j.verbose)

end Command

end Stencil
