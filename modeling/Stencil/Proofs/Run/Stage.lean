import Stencil.Proofs.Eval.Call
import Stencil.Run.Launch

/-!
# The stages of a run are safe

What a run does one thing after another: it reads a file, compiles it, constructs a procedure and
calls it. Modules are loaded in the same way.

## Main results

* `Procedure.safe_construct`, `Procedure.safe_complete` — procedures.
* `Module.safe_require` — modules.
* `Options.safe_coerce` — options.
* `TemplateFile.safe_read`, `Template.safe_source` — template files.
-/

namespace Stencil

open Script

variable {P : Policy} {R : Rights} {ρ : Roles P} {limit depth : Nat} {𝓘 : P.Variant → Interp}

namespace Procedure

variable {α : Type} {Q : Roles P → α → Prop}

theorem safe_notAScript {file : Text} {line : Int} :
    Safe R ρ (fun _ => (notAScript file line : Proc α)) Q :=
  .raise (by simp [Roles.fits_thrown, Thrown.plain])

theorem safe_parse {file : Text} {moved : Nat → Int} {t : Text} :
    Safe R ρ (fun _ => parse file moved t) fun _ _ => True := by
  unfold parse
  split
  · exact .error
  · refine .ite (fun _ => .error) fun _ => ?_
    split
    · exact .ite (fun _ => .error) fun _ => .pure trivial
    · exact safe_notAScript

theorem safe_outline {mode : Mode} {names : List Text} {body : List Stmt} :
    Safe R ρ (fun _ => outline mode names body) fun _ _ => True :=
  safe_parse.bind fun _ _ stmts _ => by
    split
    · exact .pure trivial
    · exact safe_notAScript

theorem safe_refuseRepeated {names : List Value} :
    Safe R ρ (fun _ => refuseRepeated names) Roles.Fits := by
  have quotedAll (ρ : Roles P) (vs : List Value) :
      Safe R ρ (fun _ => vs.mapM Proc.quoted) fun _ _ => True := by
    induction vs generalizing ρ with
    | nil => exact .pure trivial
    | cons v vs ih =>
      simp only [List.mapM_cons]
      exact Safe.quoted.bind fun _ _ _ _ => (ih _).bind fun _ _ _ _ => .pure trivial
  exact .ite (fun _ => (quotedAll ρ names).bind fun _ _ _ _ => .error) fun _ => .pure (by simp)

theorem safe_define (hI : Interp.Safe R limit depth 𝓘) {o : Outline} {mode : Mode}
    {lines : LineMap} {file : Text} :
    Safe R ρ (fun v => define (𝓘 v) o mode lines file) Roles.Fits := by
  refine (Safe.alloc .module (.module id []) Roles.fits_nil).bind fun ρ₁ h₁ globals hg => ?_
  have hf : ρ₁.Fits (⟨file, [], none, [], globals, none, 0⟩ : Frame) :=
    ⟨by simp, hg, by simp⟩
  have rest (ρ₂ : Roles P) (h₂ : ρ₁ ≤ ρ₂) : Safe R ρ₂ (fun v => do
      let _ ← execAll (𝓘 v) ⟨file, [], none, [], globals, none, 0⟩ o.rest
      return ((← Proc.heap).namesOfModule globals |>.get? id).getD .none) Roles.Fits :=
    (safe_execAll hI (hf.mono h₂) o.rest).bind fun ρ₃ h₃ _ _ => .heap_bind fun h hd =>
      .pure ((Names.fits_get? (hd.fits_names (h₃ _ _ (h₂ _ _ hg)))).getD (by simp))
  refine (Stmt.safe_exec hI hf _).bind fun ρ₂ h₂ _ _ => .heap_bind fun h hd => ?_
  dsimp only
  split
  · next r hr =>
    have hfun : ρ₂ r = some .function := by
      simpa using Names.fits_get? (hd.fits_names (h₂ _ _ hg)) _ hr
    refine .heap_bind fun h hd => ?_
    obtain ⟨c, ho, hc⟩ := hd.function hfun
    simp only [ho]
    refine (Safe.put (o := .function { c with lines }) hfun hc).bind fun ρ₃ h₃ _ _ =>
      rest ρ₃ (Roles.le_trans h₂ h₃)
  · exact (Safe.pure (Q := Roles.Fits) (Roles.fits_unit ())).bind fun ρ₃ h₃ _ _ =>
      rest ρ₃ (Roles.le_trans h₂ h₃)

/-- The function of a procedure fits. -/
theorem safe_construct (hI : Interp.Safe R limit depth 𝓘) {source : Text} {lines : LineMap}
    {names : List Value} {mode : Mode} {file : Text} :
    Safe R ρ (fun v => construct (𝓘 v) source lines names mode file)
      fun ρ' p => ρ'.Fits p.function := by
  refine safe_refuseRepeated.bind fun _ _ _ _ => safe_parse.bind fun _ _ _ _ =>
    Eval.safe_joinTexts.bind fun _ _ _ _ => safe_outline.bind fun _ _ o _ =>
      .ite (fun _ => .error) fun _ => .ite (fun _ => .error) fun _ => ?_
  split
  · exact .error
  · split
    · exact safe_notAScript
    · exact (safe_define hI).bind fun _ _ _ hf => .pure hf

theorem safe_complete (hI : Interp.Safe R limit depth 𝓘) {p : Procedure} {caller : Caller}
    {args : List Value} (hp : ρ.Fits p.function) (hcaller : ρ.Fits caller) (ha : ρ.Fits args) :
    Safe R ρ (fun v => p.complete (𝓘 v) caller args) Roles.Fits := by
  refine Safe.bind (Q := Roles.Fits) (.ite (fun _ => hI.call hcaller hp ha Roles.fits_nil)
    fun _ => .error) fun ρ₁ h₁ w hw => ?_
  cases p.mode with
  | blocking => exact .pure hw
  | suspending => exact hI.await (hcaller.mono h₁) hw

end Procedure

namespace Module

variable {α : Type} {Q : Roles P → α → Prop} {key : Text} {r : Ref}

theorem safe_loaded? :
    Safe R ρ (fun _ => loaded? key) fun ρ' o => ∀ r, o = some r → ρ' r = some .module :=
  .machine_bind fun _ hs => .pure fun r hr => by
    obtain ⟨p, hp, rfl⟩ := Option.map_eq_some_iff.1 hr
    exact hs.modules p (List.mem_of_find?_eq_some hp)

/-- Other modules are loaded, and nothing else changes. -/
theorem safe_modules (hL : R.Looks) {f : List (Text × Ref) → List (Text × Ref)}
    (hf : ∀ modules, (∀ p ∈ modules, ρ p.2 = some .module) → ∀ p ∈ f modules,
      ρ p.2 = some .module) :
    Safe R ρ (fun _ => Proc.modify fun m => { m with modules := f m.modules }) Roles.Fits :=
  .modify fun _ hs => ⟨⟨Nat.le_refl _, fun _ _ => rfl, fun _ _ _ _ => ⟨rfl, rfl⟩,
    ⟨[], (List.append_nil _).symm, .inr rfl⟩, .inl hL⟩, hs.heap, hf _ hs.modules,
    hs.directory⟩

theorem safe_keep (hL : R.Looks) (hr : ρ r = some .module) : Safe R ρ (fun _ => keep key r) Roles.Fits :=
  safe_modules hL fun _ hm => List.forall_mem_cons.2 ⟨hr, hm⟩

theorem safe_forget (hL : R.Looks) : Safe R ρ (fun _ => forget key) Roles.Fits :=
  safe_modules hL fun _ hm p hp => hm p (List.mem_filter.1 hp).1

/-- What is known about a module by its name are texts. -/
theorem fits_known : ∀ p ∈ known, ρ.Fits p.2 := by
  simp [known]

theorem safe_named (hL : R.Looks) {id : Text} : Safe R ρ (fun _ => named id) Roles.Fits := by
  refine .ite (fun _ => .error) fun _ => .ite (fun _ => .error) fun _ => ?_
  dsimp only
  split
  · exact .error
  · next id' names hfound =>
    refine .ite (fun _ => .error) fun _ => safe_loaded?.bind fun ρ₁ h₁ o ho => ?_
    cases o with
    | some r => exact .pure (by simpa using ho r rfl)
    | none =>
      have hn : ρ₁.Fits names := fits_known _ (List.mem_of_find?_eq_some hfound)
      exact (Safe.alloc .module (.module id' names) hn).bind fun ρ₂ h₂ r hr =>
        (safe_keep hL hr).bind fun ρ₃ h₃ _ _ => .pure (by simpa using h₃ _ _ hr)

theorem safe_probe (hL : R.Looks) {path : Path} : Safe R ρ (fun _ => probe path) fun _ _ => True :=
  .machine_bind fun _ _ => (Safe.ask hL (q := .probe _) trivial).bind fun _ _ reply _ => by
    cases reply with
    | ok kind => exact .pure trivial
    | error e => exact .error

theorem safe_candidate (hL : R.Looks) {path : Path} :
    Safe R ρ (fun _ => candidate path) fun _ _ => True := by
  have fallback (ρ₁ : Roles P) : Safe R ρ₁ (fun _ => candidate.fallback path) fun _ _ => True :=
    (safe_probe hL).bind fun _ _ _ _ => .ite (fun _ => .pure trivial) fun _ => .pure trivial
  exact .ite (fun _ => .ite (fun _ => .error) fun _ => (safe_probe hL).bind fun _ _ _ _ =>
    .ite (fun _ => .pure trivial) fun _ => fallback _) fun _ => fallback _

theorem safe_resolve (hL : R.Looks) {path : Path} : Safe R ρ (fun _ => resolve path) fun _ _ => True :=
  .machine_bind fun _ _ => (Safe.ask hL (q := .resolve _) trivial).bind fun _ _ reply _ => by
    cases reply with
    | ok resolved => exact .pure trivial
    | error e => cases e <;> exact .error

theorem safe_scriptOf {file : Text} {octets : Octets} :
    Safe R ρ (fun _ => scriptOf file octets) fun _ _ => True := by
  unfold scriptOf
  split
  · exact Procedure.safe_notAScript
  · refine Procedure.safe_parse.bind fun _ _ stmts _ => ?_
    split
    · exact Procedure.safe_notAScript
    · exact Procedure.safe_notAScript
    · exact Procedure.safe_notAScript
    · exact .pure trivial

theorem safe_execute (hL : R.Looks) (hI : Interp.Safe R limit depth 𝓘) {caller : Caller} {resolved : Path}
    (hcaller : ρ.Fits caller) (hr : ρ r = some .module) :
    Safe R ρ (fun v => execute (𝓘 v) caller resolved r) Roles.Fits := by
  refine (Safe.ask hL (q := .read _ _) trivial).bind fun ρ₁ h₁ reply _ => ?_
  cases reply with
  | error e => exact .error
  | ok octets =>
    refine safe_scriptOf.bind fun ρ₂ h₂ stmts _ => hI.enter.bind fun ρ₃ h₃ _ _ =>
      (safe_execAll hI ?_ stmts).bind fun _ _ _ _ => .pure (by simp)
    exact ⟨by simp, h₃ _ _ (h₂ _ _ (h₁ _ _ hr)), ((hcaller.mono h₁).mono h₂).mono h₃⟩

theorem safe_load (hL : R.Looks) (hI : Interp.Safe R limit depth 𝓘) {caller : Caller}
    {path : Path} (hcaller : ρ.Fits caller) : Safe R ρ (fun v => load (𝓘 v) caller path) Roles.Fits := by
  refine (safe_candidate hL).bind fun ρ₁ h₁ _ _ => (safe_resolve hL).bind fun ρ₂ h₂ resolved _ =>
    safe_loaded?.bind fun ρ₃ h₃ o ho => ?_
  cases o with
  | some r => exact .pure (by simpa using ho r rfl)
  | none =>
    refine (safe_probe hL).bind fun ρ₄ h₄ kind _ => .ite (fun _ => .error) fun _ =>
      .ite (fun _ => .error) fun _ =>
        (Safe.alloc .module (.module _ []) Roles.fits_nil).bind fun ρ₅ h₅ r hr =>
          (safe_keep hL hr).bind fun ρ₆ h₆ _ _ => ?_
    have hcaller₆ := (((((hcaller.mono h₁).mono h₂).mono h₃).mono h₄).mono h₅).mono h₆
    exact ((safe_execute hL hI hcaller₆ (h₆ _ _ hr)).handle fun ρ₇ h₇ e he =>
      (safe_forget hL).bind fun ρ₈ h₈ _ _ => .throw (h₈ _ _ he)).bind fun ρ₇ h₇ _ _ =>
        .pure (by simpa using h₇ _ _ (h₆ _ _ hr))

/-- What a template asks for is a module, and loading it is safe. -/
theorem safe_require (hL : R.Looks) (hI : Interp.Safe R limit depth 𝓘) {caller : Caller}
    {directory : Path} {v : Value} (hcaller : ρ.Fits caller) (hv : ρ.Fits v) :
    Safe R ρ (fun x => require (𝓘 x) caller directory v) Roles.Fits := by
  unfold require
  split
  · exact .ite (fun _ => safe_load hL hI hcaller) fun _ => safe_named hL
  · exact Eval.safe_noAttribute hv

end Module

/-! ## Options -/

namespace Options

theorem safe_orRefuse {options : Except (List OptionIssue) Options} :
    Safe R ρ (fun _ => orRefuse options) fun _ _ => True := by
  cases options with
  | ok o => exact .pure trivial
  | error issues => exact .raise (by simp [Roles.fits_thrown, Thrown.plain])

theorem safe_pairs {vs : List Value} {index : Nat} :
    Safe R ρ (fun _ => pairs index vs) fun _ _ => True := by
  induction vs generalizing ρ index with
  | nil => exact .pure trivial
  | cons v vs ih =>
    refine .heap_bind fun h _ => ?_
    split
    · exact .error
    · exact Eval.safe_checkKey.bind fun _ _ _ _ => ih.bind fun _ _ _ _ => .pure trivial
    · exact .error

/-- Options are read from any value. -/
theorem safe_coerce {options : Given} (h : ∀ v, options = .value v → ρ.Fits v) :
    Safe R ρ (fun _ => coerce options) fun _ _ => True := by
  have entries (v : Value) (hv : ρ.Fits v) : Safe R ρ (fun _ => entriesOf v) fun _ _ => True := by
    unfold entriesOf
    split
    · exact .heap_bind fun _ _ => .pure trivial
    · exact (Eval.safe_items hv).bind fun _ _ _ _ => safe_pairs.bind fun _ _ _ _ => .pure trivial
  unfold coerce
  split
  · exact .pure trivial
  · exact .pure trivial
  · next v _ => exact (entries v (h v rfl)).bind fun _ _ _ _ => safe_orRefuse

end Options

/-! ## Template files -/

theorem TemplateFile.safe_unreadable {α : Type} {Q : Roles P → α → Prop} {given reason : Text}
    {cause : ExceptionClass} : Safe R ρ (fun _ => (unreadable given reason cause : Proc α)) Q :=
  .raise (by simp [Roles.fits_thrown, Thrown.plain])

/-- A template file is where its path says, seen from the directory of the machine. -/
theorem TemplateFile.safe_read (hL : R.Looks) {given : Text} {path : Path} {mode : Mode} :
    Safe R ρ (fun _ => read given path mode)
      fun _ file => file.path = P.directory.join path := by
  refine .machine_bind fun m hs => (Safe.ask hL (q := .read _ _) trivial).bind fun _ _ reply _ => ?_
  cases reply with
  | error e => exact .ite (fun _ => safe_unreadable) fun _ => .error
  | ok octets =>
    dsimp only
    split
    · exact .pure (by rw [hs.directory])
    · exact safe_unreadable

theorem Template.safe_source {d : Delimiters} {mode : Mode} {name : Option Text} {text : Text} :
    Safe R ρ (fun _ => source d mode name text) fun _ _ => True := by
  unfold source
  split
  · exact .raise (by simp [Roles.fits_thrown, Thrown.plain])
  · exact (Safe.log (by simp)).bind fun _ _ _ _ => .pure trivial

/-! ## Contexts -/

/-- A mapping may be the context of a template in a directory. -/
structure Policy.Hosts (P : Policy) (ρ : Roles P) (context : Ref) (directory : Path)
    (d : Delimiters) (mode : Mode) : Prop where
  mapping : ρ context = some .dict ∨ ∃ label, ρ context = some (.context label)
  requirement : P.Admits ρ (.requirement directory)
  inclusion : P.Admits ρ (.inclusion directory context d mode)

namespace Policy.Hosts

variable {context : Ref} {directory : Path} {d : Delimiters} {mode : Mode}

theorem mono {ρ' : Roles P} (h : P.Hosts ρ context directory d mode) (hle : ρ ≤ ρ') :
    P.Hosts ρ' context directory d mode where
  mapping := h.mapping.imp (hle _ _) fun ⟨label, hl⟩ => ⟨label, hle _ _ hl⟩
  requirement := P.admits_mono hle h.requirement
  inclusion := P.admits_mono hle h.inclusion

theorem fits_entries {h : Heap} (hh : P.Hosts ρ context directory d mode) (hd : ρ.Describes h) :
    ρ.Fits (h.dict context) := by
  rcases hh.mapping with hc | ⟨label, hc⟩
  · exact hd.fits_entries hc
  · rw [hd.dict_context hc]
    exact (hd.context hc).2

end Policy.Hosts

namespace Context

variable {context : Value} {directory : Path} {d : Delimiters} {mode : Mode}

theorem safe_check : Safe R ρ (fun _ => check context) fun _ r => context = .dict r := by
  unfold check
  split
  · exact .heap_bind fun _ _ => .ite (fun _ => .pure rfl) fun _ => .error
  · exact .error

theorem fits_bind {es : Entries} {require include_ : Option Value} (he : ρ.Fits es)
    (hr : ρ.Fits require) (hi : ρ.Fits include_) : ρ.Fits (bind es require include_) := by
  cases require with
  | none =>
    cases include_ with
    | none => exact he
    | some v => exact Entries.fits_insert he (by simp) (by simpa using hi)
  | some w =>
    have hw := Entries.fits_insert (k := .str "require") he (by simp) (by simpa using hr)
    cases include_ with
    | none => exact hw
    | some v => exact Entries.fits_insert hw (by simp) (by simpa using hi)

/-- What a template is run with fits, if a run may have what is supplied. -/
theorem safe_build (hc : ∀ r, context = .dict r → P.Hosts ρ r directory d mode) :
    Safe R ρ (fun _ => build context directory fun directory parent =>
      return .capability (.inclusion directory parent d mode)) Roles.Fits := by
  refine safe_check.bind fun ρ₁ h₁ r hr => .heap_bind fun h hd => ?_
  have hh := (hc r hr).mono h₁
  have he := hh.fits_entries hd
  have last (ρ₂ : Roles P) (h₂ : ρ₁ ≤ ρ₂) (require : Option Value) (hq : ρ₂.Fits require) :
      Safe R ρ₂ (fun _ => do
        let include_ : Option Value ←
          if (h.dict r).lacks "include" then do
            Proc.log (.injected "include" directory)
            some <$> (return .capability (.inclusion directory r d mode) : Proc Value)
          else pure none
        return bind (h.dict r) require include_) Roles.Fits := by
    have bound (ρ₃ : Roles P) (h₃ : ρ₂ ≤ ρ₃) (include_ : Option Value) (hi : ρ₃.Fits include_) :
        Safe R ρ₃ (fun _ => return bind (h.dict r) require include_) Roles.Fits :=
      .pure (fits_bind ((he.mono h₂).mono h₃) (hq.mono h₃) hi)
    refine .ite (fun _ => (Safe.log (by simp)).bind fun ρ₃ h₃ _ _ => ?_) fun _ =>
      Safe.bind (Q := Roles.Fits) (.pure Roles.fits_none) bound
    simp only [map_pure]
    refine Safe.bind (Q := Roles.Fits) (.pure ?_) fun ρ₄ h₄ => bound ρ₄ (Roles.le_trans h₃ h₄)
    simpa using P.admits_mono h₃ (hh.mono h₂).inclusion
  refine .ite (fun _ => (Safe.log (by simp)).bind fun ρ₂ h₂ _ _ =>
    Safe.bind (Q := Roles.Fits) (.pure ?_) fun ρ₃ h₃ => last ρ₃ (Roles.le_trans h₂ h₃)) fun _ =>
      Safe.bind (Q := Roles.Fits) (.pure Roles.fits_none) last
  simpa using P.admits_mono h₂ hh.requirement

end Context

end Stencil
