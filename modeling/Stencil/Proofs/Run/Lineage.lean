import Stencil.Proofs.Machine.Datum
import Stencil.Proofs.Run.State
import Stencil.Proofs.Value.Entries

/-!
# What included templates inherit

A template that is included has a lineage: the template that a host runs, and the inclusions that
lead from there. Its context, its path and its delimiters depend on the lineage alone. To say so,
inclusions are defined a second time, out of lineages; contexts are told apart by their places on
the heap, and an assignment says which lineage each of them belongs to. A run with the inclusions as
they are and a run with those of lineages cannot be told apart.

## Main definitions

* `Lineage` — how a template came to be run.
* `Lineage.context`, `Lineage.directory`, `Lineage.delimiters` — what it inherits.
* `Lineage.grant`, `Lineage.launch` — inclusions, and a whole run, out of lineages.

## Main results

* `Lineage.safe_launch` — a run cannot be told from one out of lineages.
* `Run.inherits_along_lineages` — templates inherit along their lineages.
-/

namespace Stencil

/-- How a template came to be run. -/
inductive Lineage where
  /-- A host runs a template in a directory with these entries. -/
  | root (entries : Entries) (directory : Path) (delimiters : Delimiters) (mode : Mode)
  /-- A template is included by its path as the other one sees it, with entries laid over. -/
  | included (parent : Lineage) (target : Path) (override : Entries)

namespace Lineage

/-- The entries of the context. -/
def context : Lineage → Entries
  | root entries _ _ _ => entries
  | included c _ override => c.context.merge override

/-- The directory of the template, on a machine that sees relative paths from `base`. -/
def directory (base : Path) : Lineage → Path
  | root _ directory _ _ => directory
  | included c target _ => (base.join ((c.directory base).join target)).parent

def delimiters : Lineage → Delimiters
  | root _ _ delimiters _ => delimiters
  | included c _ _ => c.delimiters

def mode : Lineage → Mode
  | root _ _ _ mode => mode
  | included c _ _ => c.mode

/-- The entries of the host. -/
def given : Lineage → Entries
  | root entries _ _ _ => entries
  | included c _ _ => c.given

/-- All entries that were laid over the context, the first inclusion first. -/
def overrides : Lineage → List Entries
  | root .. => []
  | included c _ override => c.overrides ++ [override]

variable (base : Path)

/-! ## Runs out of lineages -/

/-- A context that grants `write` is one. -/
def check (c : Lineage) (context : Ref) : Proc Ref :=
  if Context.grantsWrite c.context then return context else Context.refuse

/-- What the template is run with: its context, and what that lacks. -/
def supplied (c : Lineage) (context : Ref) : Entries :=
  Context.bind c.context
    (if c.context.lacks "require" then some (.capability (.requirement (c.directory base)))
      else none)
    (if c.context.lacks "include" then
        some (.capability (.inclusion (c.directory base) context c.delimiters c.mode))
      else none)

/-- What the template is run with, which is logged. -/
def supply (c : Lineage) (context : Ref) : Proc Entries := do
  if c.context.lacks "require" then Proc.log (.injected "require" (c.directory base))
  if c.context.lacks "include" then Proc.log (.injected "include" (c.directory base))
  return c.supplied base context

/-- The entries that an inclusion lays over the context: those of a dictionary, or none. -/
def overriding (override : Value) : Proc Entries := do
  let h ← Proc.heap
  match override with
  | .none => return []
  | .dict r => return h.dict r
  | v =>
    Proc.error .contextError ("include context must be a mapping, got " ++ v.typeName h)

/-- What a context belongs to. -/
inductive Label where
  /-- The host gave these entries. -/
  | given (entries : Entries)
  | of (c : Lineage)

/-- The lineage of a template that holds a way to include others from a directory. -/
def Label.lineage (directory : Path) (d : Delimiters) (mode : Mode) : Label → Lineage
  | given entries => .root entries directory d mode
  | of c => c

open Classical in
/-- A template is run that has been included, in a context which has to belong to its lineage. -/
noncomputable def run (labels : Ref → Option Label) (I : Interp) (caller : Caller) (path : Path)
    (c : Lineage) (context : Ref) : Proc Value :=
  if labels context = some (.of c) then do
    let run ← Run.create path c.delimiters
    Run.executeBy I caller run c.mode (c.check context) fun _ _ => c.supply base context
    return .none
  else Proc.exhausted

/-- A template that has been included by its path, as the other one sees it, is run with entries
laid over the context. -/
noncomputable def descend (labels : Ref → Option Label) (I : Interp) (caller : Caller)
    (c : Lineage) (target : Path) (override : Value) : Proc Value := do
  let child := c.included target (← overriding override)
  let context ← Proc.alloc (.dict child.context)
  child.run base labels I caller ((c.directory base).join target) context

/-- A template is included out of the lineage of the one that includes it. -/
noncomputable def include_ (labels : Ref → Option Label) (I : Interp) (caller : Caller)
    (c : Lineage) (target override : Value) : Proc Value := do
  let target ← Run.pathOf target
  Proc.log (.including ((c.directory base).join target) c.mode)
  c.descend base labels I (caller.deeper (Run.inclusionDepth c.mode)) target override

/-- What the capabilities do that a run supplies, where templates are included out of lineages. -/
noncomputable def grant (labels : Ref → Option Label) : Grant := fun I caller c args =>
  match c, args with
  | .inclusion directory context d mode, [target, override] =>
    match labels context with
    | some label =>
      include_ base labels I caller (label.lineage directory d mode) target override
    | none => Proc.exhausted
  | .requirement directory, [v] => Module.require I caller directory v
  | _, _ => return .none

/-- A template is run without interruption, as the root of its lineage. -/
def launch (I : Interp) (path : Text) (context : Ref) (entries : Entries)
    (options : Options.Given) : Proc Unit := do
  let o ← Options.coerce options
  let c := root entries (base.join (Path.ofText path)).parent o.delimiters .blocking
  let run ← Run.create (Path.ofText path) o.delimiters
  Run.executeBy I .none run .blocking (c.check context) fun _ _ => c.supply base context

end Lineage

namespace Policy

/-- Contexts are labelled, and the way to include templates that a script may have is one that
belongs to the label of its context. -/
noncomputable def inheriting (base : Path) : Policy where
  Label := Lineage.Label
  entries
    | .given entries => entries
    | .of c => c.context
  directory := base
  Admits ρ
    | .inclusion directory context d mode => ∃ label, ρ context = some (.context label) ∧
        (label.lineage directory d mode).directory base = directory ∧
        (label.lineage directory d mode).delimiters = d ∧
        (label.lineage directory d mode).mode = mode
    | _ => True
  admits_mono {ρ ρ' c} h hc := by
    cases c with
    | inclusion directory context d mode => exact hc.imp fun label hl => ⟨h _ _ hl.1, hl.2⟩
    | _ => trivial
  Variant := Option (Ref → Option Lineage.Label)
  standard := none
  grant
    | none => Run.grant
    | some labels => Lineage.grant base labels
  Agrees ρ v := ∀ labels, v = some labels → ∀ r label, ρ r = some (.context label) →
    labels r = some label
  agrees_anti h hv labels hl r label hr := hv labels hl r label (h _ _ hr)

end Policy

namespace Lineage

variable {base : Path} {ρ : Roles (Policy.inheriting base)} {c : Lineage} {context : Ref}

/-- A context belongs to a lineage, and a run with that context may have what includes others. -/
structure Owns (ρ : Roles (Policy.inheriting base)) (c : Lineage) (context : Ref) : Prop where
  labelled : ∃ label, ρ context = some (.context label) ∧
    (Policy.inheriting base).entries label = c.context
  inclusion : (Policy.inheriting base).Admits ρ
    (.inclusion (c.directory base) context c.delimiters c.mode)

namespace Owns

theorem mono {ρ' : Roles (Policy.inheriting base)} (h : Owns ρ c context) (hle : ρ ≤ ρ') :
    Owns ρ' c context where
  labelled := h.labelled.imp fun _ hl => ⟨hle _ _ hl.1, hl.2⟩
  inclusion := (Policy.inheriting base).admits_mono hle h.inclusion

theorem dict {h : Heap} (ho : Owns ρ c context) (hd : ρ.Describes h) :
    h.dict context = c.context := by
  obtain ⟨label, hl, he⟩ := ho.labelled
  rw [hd.dict_context hl, he]

theorem fits {h : Heap} (ho : Owns ρ c context) (hd : ρ.Describes h) : ρ.Fits c.context := by
  obtain ⟨label, hl, he⟩ := ho.labelled
  exact he ▸ (hd.context hl).2

end Owns

/-- A host's context belongs to the root of a lineage. -/
theorem owns_root {entries : Entries} {directory : Path} {d : Delimiters} {mode : Mode}
    (h : ρ context = some (.context (.given entries))) :
    Owns ρ (.root entries directory d mode) context :=
  ⟨⟨_, h, rfl⟩, _, h, rfl, rfl, rfl⟩

theorem owns_of (h : ρ context = some (.context (.of c))) : Owns ρ c context :=
  ⟨⟨_, h, rfl⟩, _, h, rfl, rfl, rfl⟩

/-! ## The variants are safe -/

/-- A variant of a process: as it is, or out of lineages. -/
def either {α : Type} (p q : Proc α) : (Policy.inheriting base).Variant → Proc α
  | none => p
  | some _ => q

theorem check_eq {m : Machine} (ho : Owns ρ c context) (hd : ρ.Describes m.heap) :
    Context.check (.dict context) m = c.check context m := by
  rw [check, ← ho.dict hd]
  rfl

theorem safe_check (ho : Owns ρ c context) :
    Safe .script ρ (either (Context.check (.dict context)) (c.check context))
      fun _ _ => Context.grantsWrite c.context = true := by
  refine .congr (G := fun _ => c.check context) ?_ fun m hs v _ => ?_
  · exact .ite (fun h => .pure h) fun _ => .error
  · cases v with
    | none => exact check_eq ho hs.heap
    | some labels => rfl

theorem supply_eq {m : Machine} (ho : Owns ρ c context) (hd : ρ.Describes m.heap)
    (hw : Context.grantsWrite c.context = true) :
    Run.supply (.dict context) c.mode c.delimiters (c.directory base) m =
      c.supply base context m := by
  have hcheck : Context.check (.dict context) m = .done (.value context) m := by
    rw [check_eq ho hd, check, if_pos hw]
    rfl
  rw [Run.supply, Context.build, Proc.bind_of_done hcheck,
    Proc.bind_of_done (show Proc.heap m = .done (.value m.heap) m from rfl), ho.dict hd]
  cases hr : c.context.lacks "require" <;> cases hi : c.context.lacks "include" <;>
    simp only [supply, supplied, hr, hi, if_true, Bool.false_eq_true, if_false] <;> rfl

theorem fits_supplied (ho : Owns ρ c context) (hc : ρ.Fits c.context) :
    ρ.Fits (c.supplied base context) := by
  refine Context.fits_bind hc (.ite ?_ Roles.fits_none) (.ite ?_ Roles.fits_none)
  · exact Roles.fits_some.2 (Roles.fits_value_capability.2 trivial)
  · exact Roles.fits_some.2 (Roles.fits_value_capability.2 ho.inclusion)

theorem safe_supply (ho : Owns ρ c context) (hw : Context.grantsWrite c.context = true) :
    Safe .script ρ
      (either (Run.supply (.dict context) c.mode c.delimiters (c.directory base))
        (c.supply base context)) Roles.Fits := by
  refine .congr (G := fun _ => c.supply base context) (fun m hs => ?_) fun m hs v _ => ?_
  · have hfits := fits_supplied ho (ho.fits hs.heap)
    have after (ρ₁ : Roles (Policy.inheriting base)) (h₁ : ρ ≤ ρ₁) : Safe .script ρ₁ (fun _ => do
        if c.context.lacks "include" then Proc.log (.injected "include" (c.directory base))
        return c.supplied base context) Roles.Fits :=
      .ite (fun _ => (Safe.log (by simp)).bind fun ρ₂ h₂ _ _ => .pure ((hfits.mono h₁).mono h₂))
        fun _ => .pure (hfits.mono h₁)
    have whole : Safe .script ρ (fun _ => c.supply base context) Roles.Fits :=
      .ite (fun _ => (Safe.log (by simp)).bind fun ρ₁ h₁ _ _ => after ρ₁ h₁)
        fun _ => after ρ (Roles.le_refl ρ)
    exact whole m hs
  · cases v with
    | none => exact supply_eq ho hs.heap hw
    | some labels => rfl

variable {limit depth : Nat} {caller : Caller} {d : Delimiters} {mode : Mode} {path : Path}
  {𝓘 : (Policy.inheriting base).Variant → Interp}

/-- A new run with a context that belongs to its lineage. -/
theorem safe_new (hI : Interp.Safe .script limit depth 𝓘) (hcaller : ρ.Fits caller)
    (ho : Owns ρ c context) (hpath : (base.join path).parent = c.directory base) :
    Safe .script ρ (fun v => Run.create path c.delimiters >>= fun run =>
      either (Run.execute (𝓘 v) caller run c.mode (.dict context))
        (Run.executeBy (𝓘 v) caller run c.mode (c.check context) fun _ _ => c.supply base context)
        v) Roles.Fits := by
  have hnew : Safe .script ρ (fun v => Run.create path c.delimiters >>= fun run =>
      Run.executeBy (𝓘 v) caller run c.mode
        (either (Context.check (.dict context)) (c.check context) v) fun d directory =>
          either (Run.supply (.dict context) c.mode d directory) (c.supply base context) v)
      Roles.Fits := by
    refine Run.safe_newBy hI hcaller (safe_check ho) fun hw ρ' h' => ?_
    rw [show (Policy.inheriting base).directory = base from rfl, hpath]
    exact safe_supply (ho.mono h') hw
  exact hnew.congr fun m _ v _ => by cases v <;> rfl

theorem safe_overriding {override : Value} (h : ρ.Fits override) :
    Safe .script ρ (fun _ => overriding override) Roles.Fits :=
  .heap_bind fun _ hd => by
    split
    · exact .pure Roles.fits_nil
    · exact .pure (hd.fits_entries (by simpa using h))
    · exact .error

theorem inherit_eq {m : Machine} (ho : Owns ρ c context) (hd : ρ.Describes m.heap)
    (override : Value) :
    Context.inherit context override m =
      (overriding override >>= fun es => Eval.newDict (c.context.merge es)) m := by
  rw [Context.inherit, overriding, bind_assoc,
    Proc.bind_of_done (show Proc.heap m = .done (.value m.heap) m from rfl),
    Proc.bind_of_done (show Proc.heap m = .done (.value m.heap) m from rfl), ho.dict hd]
  cases override <;> rfl

/-- A template that has been included cannot be told from one that is run out of its lineage. -/
theorem safe_run (hI : Interp.Safe .script limit depth 𝓘) (hcaller : ρ.Fits caller)
    (hc : ρ context = some (.context (.of c)))
    (hpath : (base.join path).parent = c.directory base) :
    Safe .script ρ
      (fun v => match v with
        | none => (Run.create path c.delimiters >>= fun run =>
            Run.execute (𝓘 none) caller run c.mode (.dict context)) >>= fun _ => return .none
        | some labels => c.run base labels (𝓘 (some labels)) caller path context) Roles.Fits := by
  refine ((safe_new hI hcaller (owns_of hc) hpath).bind fun _ _ _ _ =>
    .pure (Q := Roles.Fits) (a := Value.none) (by simp)).congr fun m _ v hv => ?_
  cases v with
  | none => rfl
  | some labels =>
    have hl : labels context = some (.of c) :=
      hv.resolve_left nofun labels rfl context (.of c) hc
    dsimp only
    rw [run, if_pos hl, bind_assoc]
    rfl

/-- A template that has been included is run, as it is. -/
def descendIn (I : Interp) (caller : Caller) (path : Path) (context : Ref) (d : Delimiters)
    (mode : Mode) (override : Value) : Proc Value := do
  let inherited ← Context.inherit context override
  Run.create path d >>= fun run => Run.execute I caller run mode inherited
  return .none

theorem safe_descend (hI : Interp.Safe .script limit depth 𝓘) (hcaller : ρ.Fits caller)
    (ho : Owns ρ c context) {target : Path} {override : Value} (hoverride : ρ.Fits override) :
    Safe .script ρ
      (fun v => match v with
        | none => descendIn (𝓘 none) caller ((c.directory base).join target) context c.delimiters
            c.mode override
        | some labels => c.descend base labels (𝓘 (some labels)) caller target override)
      Roles.Fits := by
  have htold (hcontext : ρ.Fits c.context) : Safe .script ρ
      (fun v => overriding override >>= fun es =>
        Proc.alloc (.dict (c.included target es).context) >>= fun r => match v with
          | none => (Run.create ((c.directory base).join target) c.delimiters >>= fun run =>
              Run.execute (𝓘 none) caller run c.mode (.dict r)) >>= fun _ => return .none
          | some labels => (c.included target es).run base labels (𝓘 (some labels)) caller
              ((c.directory base).join target) r) Roles.Fits := by
    refine (safe_overriding hoverride).bind fun ρ₁ h₁ es hes => ?_
    have hchild : ρ₁.Admits (.context (.of (c.included target es)))
        (.dict (c.included target es).context) :=
      ⟨rfl, Entries.fits_update (hcontext.mono h₁) hes⟩
    exact (Safe.alloc _ _ hchild).bind fun ρ₂ h₂ r hr =>
      safe_run hI ((hcaller.mono h₁).mono h₂) hr rfl
  refine Safe.congr (fun m hs => htold (ho.fits hs.heap) m hs) fun m hs v _ => ?_
  cases v with
  | none =>
    change descendIn _ _ _ _ _ _ _ m = _
    rw [descendIn, Proc.bind_eq, inherit_eq ho hs.heap, ← Proc.bind_eq, bind_assoc]
    rfl
  | some labels => rfl

/-- An inclusion cannot be told from one out of the lineage that its context belongs to. -/
theorem safe_include (hI : Interp.Safe .script limit depth 𝓘) (hcaller : ρ.Fits caller)
    (ho : Owns ρ c context) (target : Value) {override : Value} (hoverride : ρ.Fits override) :
    Safe .script ρ
      (fun v => match v with
        | none => Run.include_ (𝓘 none) caller (c.directory base) context c.delimiters c.mode target
            override
        | some labels => include_ base labels (𝓘 (some labels)) caller c target override)
      Roles.Fits := by
  have hwhole : Safe .script ρ (fun v => Run.pathOf target >>= fun given =>
      Proc.log (.including ((c.directory base).join given) c.mode) >>= fun _ => match v with
        | none => descendIn (𝓘 none) (caller.deeper (Run.inclusionDepth c.mode))
            ((c.directory base).join given) context c.delimiters c.mode override
        | some labels => c.descend base labels (𝓘 (some labels))
            (caller.deeper (Run.inclusionDepth c.mode)) given override) Roles.Fits :=
    Run.safe_pathOf.bind fun ρ₁ h₁ given _ => (Safe.log (by simp)).bind fun ρ₂ h₂ _ _ =>
      safe_descend hI (Caller.fits_deeper ((hcaller.mono h₁).mono h₂) _)
        ((ho.mono h₁).mono h₂) ((hoverride.mono h₁).mono h₂)
  exact hwhole.congr fun m _ v _ => by cases v <;> rfl

theorem Label.context_lineage (directory : Path) (d : Delimiters) (mode : Mode) (label : Label) :
    (label.lineage directory d mode).context = (Policy.inheriting base).entries label := by
  cases label <;> rfl

theorem grant_of_isOther {capability : Capability} {args : List Value}
    (h : Run.IsOther capability args) (labels : Ref → Option Label) (I : Interp)
    (caller : Caller) : grant base labels I caller capability args = return .none := by
  unfold grant
  split
  · exact absurd rfl (h.1 _ _ _ _ _ _ rfl)
  · exact absurd rfl (h.2 _ _ rfl)
  · rfl

/-- What is granted is safe, and it cannot be told from what is granted out of lineages. -/
theorem safe_grant (base : Path) : (Policy.inheriting base).Safe .script := by
  intro limit depth 𝓘 hI ρ caller capability args hcaller hc ha
  obtain ⟨directory, context, d, mode, target, override, rfl, rfl⟩ | ⟨directory, v, rfl, rfl⟩ |
    hother := Run.grant_cases capability args
  · obtain ⟨label, hlabel, hdirectory, hd, hmode⟩ := id hc
    have hcontext : _ = (Policy.inheriting base).entries label :=
      label.context_lineage directory d mode
    have hgrant (labels : Ref → Option Label) (I : Interp) (hl : labels context = some label) :
        grant base labels I caller (.inclusion directory context d mode) [target, override] =
          include_ base labels I caller (label.lineage directory d mode) target override := by
      simp only [grant, hl]
    generalize label.lineage directory d mode = c at *
    subst hdirectory hd hmode
    have hoverride : ρ.Fits override := (by simpa using ha : _ ∧ _).2
    refine (safe_include hI hcaller ⟨⟨label, hlabel, hcontext.symm⟩, hc⟩ target
      hoverride).congr fun m _ v hv => ?_
    cases v with
    | none => rfl
    | some labels =>
      exact congrFun (hgrant labels _ (hv.resolve_left nofun labels rfl context label hlabel)) m
  · have hrequire : Safe .script ρ
        (fun variant => Module.require (𝓘 variant) caller directory v) Roles.Fits :=
      Module.safe_require trivial hI hcaller (by simpa using ha)
    exact hrequire.congr fun m _ variant _ => by cases variant <;> rfl
  · refine (Safe.pure (a := Value.none) (by simp)).congr fun m _ variant _ => ?_
    cases variant with
    | none => exact congrFun (Run.grant_of_isOther hother _ caller) m
    | some labels => exact congrFun (grant_of_isOther hother labels _ caller) m

/-- What the contexts belong to, by their roles. -/
def labelsOf (ρ : Roles (Policy.inheriting base)) (r : Ref) : Option Label :=
  match ρ r with
  | some (.context label) => some label
  | _ => none

theorem labelsOf_of {r : Ref} {label : Label} (h : ρ r = some (.context label)) :
    labelsOf ρ r = some label := by
  rw [labelsOf, h]

/-- A run cannot be told from one out of lineages. -/
theorem safe_launch (base : Path) (limit depth fuel : Nat) {ρ : Roles (Policy.inheriting base)}
    {path : Text} {entries : Entries} {options : Options.Given}
    (hroot : ρ context = some (.context (.given entries)))
    (ho : ∀ v, options = .value v → ρ.Fits v) :
    Safe .script ρ
      (fun v => match v with
        | none => Run.blocking (Interp.ofFuel Run.grant limit depth fuel) path (.dict context)
            options
        | some labels => launch base (Interp.ofFuel (grant base labels) limit depth fuel) path
            context entries options) Roles.Fits := by
  have hI : Interp.Safe .script limit depth
      fun v => Interp.ofFuel ((Policy.inheriting base).grant v) limit depth fuel :=
    Interp.safe_ofFuel (safe_grant base) trivial limit depth fuel
  let origin (o : Options) : Lineage :=
    .root entries (base.join (Path.ofText path)).parent o.delimiters .blocking
  have hwhole : Safe .script ρ (fun v => Options.coerce options >>= fun o =>
      Run.create (Path.ofText path) o.delimiters >>= fun run =>
        either
          (Run.execute (Interp.ofFuel ((Policy.inheriting base).grant v) limit depth fuel) .none run
            .blocking (.dict context))
          (Run.executeBy (Interp.ofFuel ((Policy.inheriting base).grant v) limit depth fuel) .none
            run .blocking ((origin o).check context) fun _ _ => (origin o).supply base context)
          v) Roles.Fits :=
    (Options.safe_coerce ho).bind fun ρ₁ h₁ o _ =>
      safe_new (c := origin o) hI (by rintro r ⟨⟩) (owns_root (h₁ _ _ hroot)) rfl
  exact hwhole.congr fun m _ v _ => by cases v <;> rfl

end Lineage

/-! ## What is supplied -/

namespace Entries

variable {es others : Entries} {k v : Value} {id : Text}

theorem getText?_insert (h : ¬ k.sameKey (.str id)) :
    (es.insert k v).getText? id = es.getText? id := get?_insert.trans (if_neg h)

theorem getText?_merge (h : others.getText? id = none) :
    (es.merge others).getText? id = es.getText? id := by
  induction others generalizing es with
  | nil => rfl
  | cons p rest ih =>
    rw [getText?, get?_cons] at h
    split at h
    · nomatch h
    · next hp => exact (ih h).trans (getText?_insert hp)

end Entries

namespace Lineage

/-- The context is the left fold of what is laid over the entries of the host. -/
theorem context_eq_foldl (c : Lineage) : c.context = c.overrides.foldl Entries.merge c.given := by
  induction c with
  | root => rfl
  | included c target override ih => simp [context, overrides, given, ih]

theorem lacks_context {c : Lineage} {id : Text} (hgiven : c.given.lacks id)
    (ho : ∀ es ∈ c.overrides, es.getText? id = none) : c.context.lacks id := by
  induction c with
  | root => exact hgiven
  | included c target override ih =>
    simp only [overrides, List.mem_append, List.mem_singleton] at ho
    rw [context, Entries.lacks, Entries.getText?_merge (ho override (.inr rfl))]
    exact ih hgiven fun es hes => ho es (.inl hes)

end Lineage

/-! ## Whole runs -/

namespace Run

/-- What a host gives a template is loaded so that nothing else refers to it. -/
theorem exists_sound_given {base : Path} {ρ : Roles (Policy.inheriting base)} {m m' : Machine}
    {granted : Text → Value} {data : List (Datum × Datum)} {es : Entries} {moves : List Move}
    (hs : ρ.Sound m) (hg : ∀ id, ρ.Fits (granted id))
    (hc : (Datum.loadEntries granted data m).Course Eq moves (.value es) m') :
    ∃ ρ' : Roles (Policy.inheriting base), ρ ≤ ρ' ∧
      ρ'.Sound (m'.withDict (Entries.ofPairs es)) ∧
      ρ' m'.heap.objects.size = some (.context (.given (Entries.ofPairs es))) := by
  obtain ⟨-, ρ₁, hl, hs₁, hes, -⟩ :=
    Datum.safe_loadEntries (R := .reading) hg data m hs moves _ m' hc
  have hle := hl.le hs.heap
  have ho : ρ₁.Admits (.context (.given (Entries.ofPairs es))) (.dict (Entries.ofPairs es)) :=
    ⟨rfl, Entries.fits_update Roles.fits_nil hes⟩
  refine ⟨_, Roles.le_trans hle (Roles.le_assign ?_), hs₁.assign ho, Roles.assign_self⟩
  exact hs₁.heap.eq_none_of_le (Nat.le_refl _)

/-- Templates inherit along their lineages. A host runs a template with a context that supplies
neither `require` nor `include`, and to which nothing else refers. In the end the context is as it
was. The contexts that inclusions have made belong to lineages such that the run, with all its
inclusions, is the run out of lineages; and as long as no inclusion on a lineage sets `require` or
`include`, the template is run with the left fold of what was laid over the context, and with these
two, which see paths from its own directory. -/
theorem inherits_along_lineages (limit depth fuel : Nat) {base : Path}
    {ρ : Roles (Policy.inheriting base)} {m m' : Machine} {context : Ref} {entries : Entries}
    {path : Text} {options : Options.Given} {moves : List Move} {o : Outcome Unit}
    (hs : ρ.Sound m) (hroot : ρ context = some (.context (.given entries)))
    (ho : ∀ v, options = .value v → ρ.Fits v)
    (hrequire : entries.lacks "require") (hinclude : entries.lacks "include")
    (hc : (blocking (Interp.ofFuel grant limit depth fuel) path (.dict context) options m).Course
      Eq moves o m') :
    m'.heap.get? context = some (.dict entries) ∧
    (∃ labels : Ref → Option Lineage.Label, labels context = some (.given entries) ∧
      (Lineage.launch base (Interp.ofFuel (Lineage.grant base labels) limit depth fuel) path context
        entries options m).Course Eq moves o m') ∧
    ∀ c : Lineage, c.given = entries →
      (∀ es ∈ c.overrides, es.getText? "require" = none ∧ es.getText? "include" = none) →
      ∀ r, c.supplied base r =
        ((c.overrides.foldl Entries.merge entries).insert (.str "require")
          (.capability (.requirement (c.directory base)))).insert (.str "include")
          (.capability (.inclusion (c.directory base) r c.delimiters c.mode)) := by
  obtain ⟨-, ρ', hl, hs', -, hv⟩ :=
    Lineage.safe_launch base limit depth fuel hroot ho m hs moves o m' hc
  have hkept : ρ' context = some (.context (.given entries)) := hl.le hs.heap _ _ hroot
  have hagrees : (Policy.inheriting base).Agrees ρ' (some (Lineage.labelsOf ρ')) := by
    rintro labels hlabels r label hr
    exact Option.some.inj hlabels ▸ Lineage.labelsOf_of hr
  refine ⟨(hs'.heap.context hkept).1, ⟨Lineage.labelsOf ρ', ?_, hv _ hagrees⟩, ?_⟩
  · exact Lineage.labelsOf_of hkept
  · rintro c rfl hoverrides r
    have hr := Lineage.lacks_context hrequire fun es hes => (hoverrides es hes).1
    have hi := Lineage.lacks_context hinclude fun es hes => (hoverrides es hes).2
    rw [Lineage.supplied, if_pos hr, if_pos hi, ← c.context_eq_foldl]
    rfl

/-- A disk with a template that includes another one, which includes one that is missing. -/
def nested : Disk :=
  (Disk.empty.store ["t"] (Text.encode? "%\x7b include('d/u') \x7d%")).store ["d", "u"]
    (Text.encode? "%\x7b include('v') \x7d%")

/-- What a host gives that grants nothing but `write`. -/
def writer : Entries := Entries.ofPairs [(.str "write", Capability.named 0 .blocking "write")]

/-- On the disk `nested` the templates inherit along their lineages. -/
theorem inherits_along_lineages_of_nested : ∃ moves o m',
    (blocking Interp.standard "t" (.dict 0) (.value .none)
      ((Machine.fresh ⟨.single, []⟩).withDict writer)).Course Eq moves o m' ∧
    m'.heap.get? 0 = some (.dict writer) ∧
    ∃ labels : Ref → Option Lineage.Label, labels 0 = some (.given writer) ∧
      (Lineage.launch ⟨.single, []⟩
        (Interp.ofDepth (Lineage.grant ⟨.single, []⟩ labels) Interp.rounds Interp.maxDepth) "t" 0
        writer (.value .none) ((Machine.fresh ⟨.single, []⟩).withDict writer)).Course
          Eq moves o m' := by
  have hfresh : Roles.Sound (P := .inheriting ⟨.single, []⟩) (fun _ => none)
      (Machine.fresh ⟨.single, []⟩) := ⟨nofun, nofun, rfl⟩
  have hgranted (id : Text) : Roles.Fits (P := .inheriting ⟨.single, []⟩) (fun _ => none)
      (Capability.named 0 .blocking id) := by
    unfold Capability.named
    split <;> exact Roles.fits_value_capability.2 trivial
  have hloaded : (Datum.loadEntries (Capability.named 0 .blocking)
      [(.str "write", .granted "write")] (Machine.fresh ⟨.single, []⟩)).Course Eq []
      (.value [(.str "write", Capability.named 0 .blocking "write")])
      (Machine.fresh ⟨.single, []⟩) := .done _ _
  obtain ⟨ρ, -, hs, hroot⟩ := exists_sound_given hfresh hgranted hloaded
  obtain ⟨moves, hc, -⟩ := Step.exists_course_of_finish Disk.answer
    (blocking Interp.standard "t" (.dict 0) (.value .none)
      ((Machine.fresh ⟨.single, []⟩).withDict writer)) nested
  obtain ⟨hkept, hlabels, -⟩ := inherits_along_lineages Interp.rounds Interp.maxDepth
    (Interp.maxDepth + 1) hs hroot (by rintro v ⟨⟩; simp) rfl rfl hc
  exact ⟨moves, _, _, hc, hkept, hlabels⟩

end Run

end Stencil
