import Stencil.Proofs.Eval.Script

/-!
# Calls are safe

A function keeps to its scopes, and a capability does what a policy grants. If that is safe, then so
are all calls, by induction on how deep they may go.

## Main definitions

* `Policy.Safe` — what a policy grants is safe.

## Main results

* `Interp.safe_ofFuel` — evaluation is safe under a policy that is.
-/

namespace Stencil

open Script

variable {P : Policy} {R : Rights} {ρ : Roles P} {limit depth : Nat} {𝓘 : P.Variant → Interp}

/-- What a policy grants is safe if calls are. -/
def Policy.Safe (P : Policy) (R : Rights) : Prop :=
  ∀ {limit depth : Nat} {𝓘 : P.Variant → Interp}, Interp.Safe R limit depth 𝓘 →
    ∀ {ρ : Roles P} {caller : Caller} {c : Capability} {args : List Value},
      ρ.Fits caller → P.Admits ρ c → ρ.Fits args →
      Stencil.Safe R ρ (fun v => P.grant v (𝓘 v) caller c args) Roles.Fits

theorem Caller.fits_deeper {caller : Caller} (hc : ρ.Fits caller) (n : Nat) :
    ρ.Fits (caller.deeper n) := hc

namespace Closure

variable {c : Closure} {caller : Caller} {scope : Ref}

theorem safe_enter {args : List Value} {named : Names} (hc : ρ.Fits c) (ha : ρ.Fits args)
    (hn : ρ.Fits named) :
    Safe R ρ (fun _ => c.enter args named) fun ρ' r => ρ' r = some .scope :=
  (Arguments.safe_bind hc.1 ha hn).bind fun _ _ bound hb => Safe.alloc .scope (.scope _ bound) hb

theorem fits_frame (hc : ρ.Fits c) (hcaller : ρ.Fits caller) (hs : ρ scope = some .scope) :
    ρ.Fits (c.frame caller scope) := by
  refine ⟨fun s hs' => ?_, hc.2.2, hcaller⟩
  rcases List.mem_cons.1 hs' with rfl | hs'
  · exact hs
  · exact hc.2.1 s hs'

theorem safe_run (hI : Interp.Safe R limit depth 𝓘) (hc : ρ.Fits c) (hcaller : ρ.Fits caller)
    (hs : ρ scope = some .scope) :
    Safe R ρ (fun v => c.run (𝓘 v) caller scope) Roles.Fits :=
  (safe_execAll hI (fits_frame hc hcaller hs) c.body).bind fun _ _ flow hflow => by
    cases flow with
    | give v => exact .pure hflow
    | _ => exact .pure (by simp)

end Closure

namespace Capability

variable {c : Capability}

theorem fits_defaults (c : Capability) : ρ.Fits c.signature.defaults := by
  cases c <;> simp [signature]

theorem safe_arguments {args : List Value} {named : Names} (ha : ρ.Fits args)
    (hn : ρ.Fits named) : Safe R ρ (fun _ => c.arguments args named) Roles.Fits :=
  (Arguments.safe_bind c.fits_defaults ha hn).bind fun _ _ bound hb => .pure fun v hv => by
    obtain ⟨id, -, rfl⟩ := List.mem_map.1 hv
    exact (Names.fits_get? hb).getD (by simp)

end Capability

namespace Eval

variable {caller : Caller} {c : Capability} {args : List Value} {named : Names} {f : Value}

theorem safe_exercise (hP : P.Safe R) (hw : R.Writes) (hI : Interp.Safe R limit depth 𝓘)
    (hcaller : ρ.Fits caller) (hc : P.Admits ρ c) (ha : ρ.Fits args) :
    Safe R ρ (fun v => exercise (P.grant v) (𝓘 v) caller c args) Roles.Fits := by
  unfold exercise
  split
  · exact Safe.text.bind fun _ _ _ _ => (Safe.emit hw _).bind fun _ _ _ _ => .pure (by simp)
  · exact .heap_bind fun _ _ => (Safe.emit hw _).bind fun _ _ _ _ => .pure (by simp)
  · exact hP hI hcaller hc ha

theorem safe_suspend {p : Pending} (hp : ρ.Fits p) : Safe R ρ (fun _ => suspend p) Roles.Fits :=
  (Safe.alloc .coroutine (.coroutine p) hp).bind fun _ _ _ hr => .pure (by simpa using hr)

theorem safe_call (hP : P.Safe R) (hw : R.Writes) (hI : Interp.Safe R limit depth 𝓘)
    (hcaller : ρ.Fits caller) (hf : ρ.Fits f) (ha : ρ.Fits args) (hn : ρ.Fits named) :
    Safe R ρ (fun v => call (P.grant v) (𝓘 v) caller f args named) Roles.Fits := by
  cases f with
  | function r =>
    refine .heap_bind fun h hd => ?_
    obtain ⟨c, ho, hc⟩ := hd.function (by simpa using hf)
    simp only [ho]
    refine (Closure.safe_enter hc ha hn).bind fun ρ₁ h₁ scope hs => ?_
    cases c.mode with
    | blocking => exact Closure.safe_run hI (hc.mono h₁) (hcaller.mono h₁) hs
    | suspending => exact safe_suspend ⟨hc.mono h₁, hs⟩
  | native f => exact safe_native ha hn
  | method receiver m => exact safe_method (by simpa using hf) ha
  | unbound owner m => exact safe_unboundMethod ha
  | exceptionClass c => exact safe_instantiate ha hn
  | capability c =>
    refine (Capability.safe_arguments ha hn).bind fun ρ₁ h₁ values hv => ?_
    have hc : P.Admits ρ₁ c := by simpa using hf.mono h₁
    cases c.signature.mode with
    | blocking => exact safe_exercise hP hw hI (hcaller.mono h₁) hc hv
    | suspending => exact safe_suspend ⟨hc, hv⟩
  | _ => exact safe_typeName.bind fun _ _ _ _ => .error

theorem safe_guardIteration {F : P.Variant → Proc Value} (hF : Safe R ρ F Roles.Fits) :
    Safe R ρ (fun v => guardIteration (F v)) Roles.Fits :=
  hF.handle fun ρ₁ _ r hr => .heap_bind fun h hd => by
    split
    · exact .ite (fun _ => .error) fun _ => .throw hr
    · exact .throw hr

theorem safe_await (hP : P.Safe R) (hw : R.Writes) (hI : Interp.Safe R limit depth 𝓘)
    (hcaller : ρ.Fits caller) (hf : ρ.Fits f) :
    Safe R ρ (fun v => await (P.grant v) (𝓘 v) caller f) Roles.Fits := by
  cases f with
  | coroutine r =>
    have hr : ρ r = some .coroutine := by simpa using hf
    refine .heap_bind fun h hd => ?_
    obtain ⟨p, ho, hp⟩ := hd.coroutine hr
    simp only [ho]
    refine (Safe.put (o := .coroutine .finished) hr trivial).bind fun ρ₁ h₁ _ _ => ?_
    have hp₁ := hp.mono h₁
    cases p with
    | body c scope =>
      exact safe_guardIteration (Closure.safe_run hI hp₁.1 (hcaller.mono h₁) hp₁.2)
    | capability c args =>
      exact safe_guardIteration (safe_exercise hP hw hI (hcaller.mono h₁) hp₁.1 hp₁.2)
    | finished => exact .error
  | _ => exact safe_typeName.bind fun _ _ _ _ => .error

end Eval

namespace Interp

/-- Under a policy that is safe, calls are safe, however deep they may go. -/
theorem safe_ofFuel (hP : P.Safe R) (hw : R.Writes) (limit depth fuel : Nat) :
    Interp.Safe R limit depth fun v => ofFuel (P.grant v) limit depth fuel := by
  induction fuel with
  | zero => exact ⟨fun _ => rfl, fun _ => rfl, fun _ _ _ _ => .exhausted, fun _ _ => .exhausted⟩
  | succ fuel ih =>
    exact ⟨fun _ => rfl, fun _ => rfl,
      fun hc hf ha hn => ih.enter.bind fun ρ₁ h₁ _ _ =>
        Eval.safe_call hP hw ih (hc.mono h₁) (hf.mono h₁) (ha.mono h₁) (hn.mono h₁),
      fun hc hf => ih.enter.bind fun ρ₁ h₁ _ _ =>
        Eval.safe_await hP hw ih (hc.mono h₁) (hf.mono h₁)⟩

end Interp

end Stencil
