import Stencil.Machine.Datum
import Stencil.Proofs.Eval.Operator

/-!
# Data that come from a host are safe

Data are put on the heap as new objects. They refer to each other only, and to nothing that was
there before, apart from what the capabilities in them refer to.

## Main results

* `Datum.safe_load` — data as values.
-/

namespace Stencil.Datum

variable {P : Policy} {R : Rights} {granted : Text → Value}

mutual

/-- A datum as a value refers to what it should. -/
theorem safe_load {ρ : Roles P} (hg : ∀ id, ρ.Fits (granted id)) (d : Datum) :
    Safe R ρ (fun _ => d.load granted) Roles.Fits := by
  cases d with
  | none => exact .pure (by simp)
  | bool b => exact .pure (by simp)
  | int i => exact .pure (by simp)
  | float x => exact Numeral.safe_value (.float x)
  | str t => exact .pure (by simp)
  | list items =>
    exact (safe_loadAll hg items).bind fun _ _ _ hvs => Eval.safe_newList hvs
  | tuple items =>
    exact (safe_loadAll hg items).bind fun _ _ _ hvs => Eval.safe_newTuple hvs
  | dict entries =>
    exact (safe_loadEntries hg entries).bind fun _ _ _ hes =>
      Eval.safe_newDict (Entries.fits_update Roles.fits_nil hes)
  | granted id => exact .pure (hg id)
  | other type => exact .pure (by simp)

theorem safe_loadAll {ρ : Roles P} (hg : ∀ id, ρ.Fits (granted id)) (ds : List Datum) :
    Safe R ρ (fun _ => loadAll granted ds) Roles.Fits := by
  cases ds with
  | nil => exact .pure Roles.fits_nil
  | cons d ds =>
    exact (safe_load hg d).bind fun ρ₁ h₁ v hv =>
      (safe_loadAll (fun id => (hg id).mono h₁) ds).bind fun ρ₂ h₂ vs hvs =>
        .pure (Roles.fits_cons.2 ⟨hv.mono h₂, hvs⟩)

theorem safe_loadEntries {ρ : Roles P} (hg : ∀ id, ρ.Fits (granted id))
    (ps : List (Datum × Datum)) :
    Safe R ρ (fun _ => loadEntries granted ps) Roles.Fits := by
  match ps with
  | [] => exact .pure Roles.fits_nil
  | (key, value) :: rest =>
    exact (safe_load hg key).bind fun ρ₁ h₁ k hk =>
      (safe_load (fun id => (hg id).mono h₁) value).bind fun ρ₂ h₂ v hv =>
        Eval.safe_checkKey.bind fun ρ₃ h₃ _ _ =>
          (safe_loadEntries (fun id => (((hg id).mono h₁).mono h₂).mono h₃) rest).bind
            fun ρ₄ h₄ es hes => .pure (Roles.fits_cons.2
              ⟨Roles.fits_prod.2 ⟨((hk.mono h₂).mono h₃).mono h₄, (hv.mono h₃).mono h₄⟩, hes⟩)

end

end Stencil.Datum
