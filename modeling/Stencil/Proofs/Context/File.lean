import Stencil.Context.File
import Stencil.Proofs.Eval.Operator

/-!
# Contexts in files are safe

What a document spells is put on the heap node by node. The objects that come about refer to each
other only.

## Main definitions

* `Yaml.Loader.Safe` — a part of loading is safe.

## Main results

* `Yaml.safe_load` — the value of a document fits.
* `Context.safe_ofFile` — the context in a file fits.
-/

namespace Stencil

variable {P : Policy} {R : Rights} {ρ : Roles P} {α β : Type}

namespace Yaml

instance : Fitting Loading where
  Fits ρ l := (∀ o ∈ l.values, ρ.Fits o) ∧ ρ.Fits l.noNumber
  mono h hl := ⟨fun o ho => (hl.1 o ho).mono h, hl.2.mono h⟩

namespace Loader

/-- A part of loading is safe, and leaves values that fit. -/
def Safe (R : Rights) (ρ : Roles P) (x : Loader α) (Q : Roles P → α → Prop) : Prop :=
  ∀ l : Loading, ρ.Fits l →
    Stencil.Safe R ρ (fun _ => x.run l) fun ρ' p => Q ρ' p.1 ∧ ρ'.Fits p.2

namespace Safe

variable {Q : Roles P → α → Prop} {x : Loader α}

theorem pure {a : α} (h : Q ρ a) : Loader.Safe R ρ (Pure.pure a) Q := fun _ hl => .pure ⟨h, hl⟩

theorem bind {f : α → Loader β} {Q' : Roles P → β → Prop} (hx : Loader.Safe R ρ x Q)
    (hf : ∀ ρ', ρ ≤ ρ' → ∀ a, Q ρ' a → Loader.Safe R ρ' (f a) Q') :
    Loader.Safe R ρ (x >>= f) Q' := fun l hl =>
  (hx l hl).bind fun ρ₁ h₁ p hp => hf ρ₁ h₁ p.1 hp.1 p.2 hp.2

theorem imp (hx : Loader.Safe R ρ x Q) {Q' : Roles P → α → Prop}
    (hQ : ∀ ρ', ρ ≤ ρ' → ∀ a, Q ρ' a → Q' ρ' a) : Loader.Safe R ρ x Q' := fun l hl =>
  (hx l hl).imp fun ρ' h p hp => ⟨hQ ρ' h p.1 hp.1, hp.2⟩

theorem map {f : α → β} {Q' : Roles P → β → Prop} (hx : Loader.Safe R ρ x Q)
    (hf : ∀ (ρ' : Roles P) (a : α), Q ρ' a → Q' ρ' (f a)) : Loader.Safe R ρ (f <$> x) Q' := by
  rw [map_eq_pure_bind]
  exact hx.bind fun ρ₁ _ a ha => pure (hf ρ₁ a ha)

theorem lift {p : Proc α} (hp : Stencil.Safe R ρ (fun _ => p) Q) :
    Loader.Safe R ρ (StateT.lift p) Q := fun _ hl =>
  hp.bind fun _ h _ ha => .pure ⟨ha, hl.mono h⟩

theorem get_bind {f : Loading → Loader β} {Q' : Roles P → β → Prop}
    (hf : ∀ l, ρ.Fits l → Loader.Safe R ρ (f l) Q') :
    Loader.Safe R ρ (get >>= f) Q' := fun l hl => hf l hl l hl

theorem modify {f : Loading → Loading} (hf : ∀ l, ρ.Fits l → ρ.Fits (f l)) :
    Loader.Safe R ρ (modify f) fun _ _ => True := fun l hl => .pure ⟨trivial, hf l hl⟩

theorem ite {p : Prop} [Decidable p] {y : Loader α} (hx : p → Loader.Safe R ρ x Q)
    (hy : ¬ p → Loader.Safe R ρ y Q) : Loader.Safe R ρ (if p then x else y) Q := by
  split
  · next h => exact hx h
  · next h => exact hy h

theorem mapM [Fitting β] {f : α → Loader β} {as : List α}
    (hf : ∀ ρ', ρ ≤ ρ' → ∀ a ∈ as, Loader.Safe R ρ' (f a) Roles.Fits) :
    Loader.Safe R ρ (as.mapM f) Roles.Fits := by
  induction as generalizing ρ with
  | nil => exact pure Roles.fits_nil
  | cons a as ih =>
    simp only [List.mapM_cons]
    exact (hf ρ (Roles.le_refl ρ) a (List.mem_cons_self ..)).bind fun ρ₁ h₁ b hb =>
      (ih fun ρ' h' a ha => hf ρ' (Roles.le_trans h₁ h') a (List.mem_cons_of_mem _ ha)).bind
        fun ρ₂ h₂ bs hbs => pure (Roles.fits_cons.2 ⟨hb.mono h₂, hbs⟩)

theorem forM {f : α → Loader Unit} {as : List α}
    (hf : ∀ ρ', ρ ≤ ρ' → ∀ a ∈ as, Loader.Safe R ρ' (f a) fun _ _ => True) :
    Loader.Safe R ρ (as.forM f) fun _ _ => True := by
  induction as generalizing ρ with
  | nil => exact pure trivial
  | cons a as ih =>
    exact (hf ρ (Roles.le_refl ρ) a (List.mem_cons_self ..)).bind fun ρ₁ h₁ _ _ =>
      ih fun ρ' h' a ha => hf ρ' (Roles.le_trans h₁ h') a (List.mem_cons_of_mem _ ha)

theorem filterM {f : α → Loader Bool} {as : List α}
    (hf : ∀ (ρ' : Roles P) (a : α), Loader.Safe R ρ' (f a) fun _ _ => True) :
    Loader.Safe R ρ (as.filterM f) fun _ _ => True := by
  have aux (acc : List α) (ρ : Roles P) :
      Loader.Safe R ρ (as.filterAuxM f acc) fun _ _ => True := by
    induction as generalizing acc ρ with
    | nil => exact pure trivial
    | cons a as ih => exact (hf ρ a).bind fun ρ₁ _ b _ => ih _ _
  exact (aux [] ρ).bind fun _ _ _ _ => pure trivial

end Safe

variable {Q : Roles P → α → Prop}

theorem safe_fail {e : Fault} : Safe R ρ (fail e : Loader α) Q := .lift .error

theorem safe_ofExcept {x : Except Fault α} :
    Safe R ρ (ofExcept x) fun _ _ => True := by
  cases x with
  | ok a => exact .pure trivial
  | error e => exact safe_fail

theorem safe_shape {id : NodeId} : Safe R ρ (shape id) fun _ _ => True :=
  .get_bind fun _ _ => .pure trivial

theorem safe_reshape {id : NodeId} {s : Shape} : Safe R ρ (reshape id s) fun _ _ => True :=
  .modify fun _ hl => hl

theorem safe_unexpected {expected : Text} {s : Shape} :
    Safe R ρ (unexpected expected s : Loader α) Q := safe_fail

theorem safe_text {id : NodeId} {fuel : Nat} : Safe R ρ (text id fuel) fun _ _ => True := by
  induction fuel generalizing ρ id with
  | zero => exact .pure trivial
  | succ fuel ih =>
    refine safe_shape.bind fun _ _ s _ => ?_
    split
    · exact .pure trivial
    · refine (Safe.filterM fun _ _ => safe_shape.bind fun _ _ _ _ => .pure trivial).bind
        fun _ _ standIns _ => ?_
      split
      · exact ih
      · exact safe_unexpected
    · exact safe_unexpected

theorem safe_moment {t : Text} : Safe R ρ (moment t) Roles.Fits := by
  unfold moment
  split
  · exact safe_fail
  · split
    · exact safe_fail
    · exact .pure (by simp)

theorem safe_plainValue {tag : Tag} {id : NodeId} :
    Safe R ρ (plainValue tag id) Roles.Fits := by
  refine .get_bind fun l hl => ?_
  dsimp only
  split
  · exact safe_text.bind fun _ _ _ _ => .pure (by simp)
  · exact safe_text.bind fun _ _ _ _ => safe_ofExcept.bind fun _ _ _ _ => .pure (by simp)
  · exact safe_text.bind fun _ _ _ _ => safe_ofExcept.bind fun _ _ _ _ => .pure (by simp)
  · exact safe_text.bind fun _ _ _ _ => .ite
      (fun _ => .get_bind fun l hl => .pure hl.2)
      fun _ => safe_ofExcept.bind fun _ _ _ _ => .lift (Numeral.safe_value _)
  · exact safe_text.bind fun _ _ _ _ => safe_moment
  · exact safe_text.bind fun _ _ _ _ => .pure (by simp)
  · exact safe_fail

theorem safe_collection {id : NodeId} (role : Role P.Label) (o : Object)
    (ho : ∀ ρ' : Roles P, ρ'.Admits role o) :
    Safe R ρ (collection id o) fun ρ' r => ρ' r = some role :=
  .bind (.modify fun _ hl => hl) fun ρ₁ _ _ _ => .lift (.alloc role o (ho ρ₁))

theorem safe_value {id : NodeId} : Safe R ρ (value id) Roles.Fits := by
  have keep (ρ₁ : Roles P) (v : Value) (hv : ρ₁.Fits v) : Safe R ρ₁ (do
      modify fun l => { l with values := l.values.setIfInBounds id (some v) }
      return v) Roles.Fits := by
    refine .bind (.modify fun l hl => ⟨fun o ho => ?_, hl.2⟩) fun ρ₂ h₂ _ _ =>
      .pure (hv.mono h₂)
    rcases Array.mem_or_eq_of_mem_setIfInBounds ho with ho | rfl
    · exact hl.1 o ho
    · simpa using hv
  refine .get_bind fun l hl => ?_
  split
  · next v hv =>
    refine .pure ?_
    simp only [Array.getD_eq_getD_getElem?] at hv
    cases ho : l.values[id]? with
    | none => simp [ho] at hv
    | some o =>
      obtain rfl : o = some v := by simpa [ho] using hv
      simpa using hl.1 _ (Array.mem_of_getElem? ho)
  · refine safe_shape.bind fun ρ₁ h₁ s _ => ?_
    dsimp only
    split
    · exact (Safe.map (safe_collection .list (.list []) fun _ => Roles.fits_nil) fun _ _ h => by
        simpa using h).bind fun ρ₂ _ v hv => keep ρ₂ v hv
    · exact (Safe.map (safe_collection .dict (.dict []) fun _ => Roles.fits_nil) fun _ _ h => by
        simpa using h).bind fun ρ₂ _ v hv => keep ρ₂ v hv
    · exact safe_plainValue.bind fun ρ₂ _ v hv => keep ρ₂ v hv

theorem safe_entries {id : NodeId} : Safe R ρ (entries id) fun _ _ => True :=
  safe_shape.bind fun _ _ s _ => by
    split
    · exact .pure trivial
    · exact .pure trivial

theorem safe_setEntries {id : NodeId} {es : List (NodeId × NodeId)} :
    Safe R ρ (setEntries id es) fun _ _ => True := safe_shape.bind fun _ _ _ _ => safe_reshape

theorem safe_unmergeable : Safe R ρ (unmergeable : Loader α) Q := safe_fail

/-- A mapping takes in others, by induction on the fuel of both functions. -/
theorem safe_merging (fuel : Nat) :
    (∀ (ρ : Roles P) id, Safe R ρ (flatten id fuel) fun _ _ => True) ∧
    ∀ (ρ : Roles P) id index merged,
      Safe R ρ (gather id index merged fuel) fun _ _ => True := by
  induction fuel with
  | zero => exact ⟨fun _ _ => .pure trivial, fun _ _ _ _ => .pure trivial⟩
  | succ fuel ih =>
    obtain ⟨hflatten, hgather⟩ := ih
    refine ⟨fun ρ id => ?_, fun ρ id index merged => ?_⟩
    · exact (hgather ρ id 0 []).bind fun _ _ _ _ =>
        .ite (fun _ => safe_entries.bind fun _ _ _ _ => safe_setEntries) fun _ => .pure trivial
    · refine safe_entries.bind fun ρ₁ _ es _ => .get_bind fun l _ => ?_
      split
      · exact .pure trivial
      · exact safe_shape.bind fun _ _ _ _ => safe_reshape.bind fun ρ₂ _ _ _ => hgather ρ₂ _ _ _
      · refine safe_setEntries.bind fun _ _ _ _ => safe_shape.bind fun ρ₂ _ s _ => ?_
        split
        · exact (hflatten ρ₂ _).bind fun _ _ _ _ => safe_entries.bind fun ρ₃ _ _ _ =>
            hgather ρ₃ _ _ _
        · refine (Safe.mapM fun ρ₃ _ item _ => safe_shape.bind fun ρ₄ _ s _ => ?_).bind
            fun ρ₃ _ _ _ => hgather ρ₃ _ _ _
          split
          · exact (hflatten ρ₄ item).bind fun _ _ _ _ => safe_entries.imp
              fun _ _ _ _ => fun p _ => ⟨Roles.fits_nat _, Roles.fits_nat _⟩
          · exact safe_unmergeable
        · exact safe_unmergeable

theorem safe_entryValues {es : Entries} {nodes : List (NodeId × NodeId)} (he : ρ.Fits es) :
    Safe R ρ (entryValues es nodes) Roles.Fits := by
  induction nodes generalizing ρ es with
  | nil => exact .pure he
  | cons p rest ih =>
    exact safe_value.bind fun ρ₁ h₁ k hk => .ite (fun _ => safe_fail) fun _ =>
      safe_value.bind fun ρ₂ h₂ v hv =>
        ih (Entries.fits_insert ((he.mono h₁).mono h₂) (hk.mono h₂) hv)

theorem safe_entryCount : Safe R ρ entryCount fun _ _ => True := .get_bind fun _ _ => .pure trivial

theorem safe_fill {id : NodeId} : Safe R ρ (fill id) fun _ _ => True := by
  refine safe_value.bind fun ρ₁ _ place hplace => safe_shape.bind fun ρ₂ h₂ s _ => ?_
  split
  · next r =>
    have hr : ρ₂ r = some .list := by simpa using hplace.mono h₂
    exact (Safe.mapM fun _ _ _ _ => safe_value).bind fun ρ₃ h₃ vs hvs =>
      .lift ((Stencil.Safe.put (o := .list vs) (h₃ _ _ hr) hvs).imp fun _ _ _ _ => trivial)
  · next r =>
    have hr : ρ₂ r = some .dict := by simpa using hplace.mono h₂
    exact safe_entryCount.bind fun ρ₃ h₃ _ _ => ((safe_merging _).1 ρ₃ id).bind fun ρ₄ h₄ _ _ =>
      safe_entries.bind fun ρ₅ h₅ _ _ => (safe_entryValues Roles.fits_nil).bind
        fun ρ₆ h₆ es hes => .lift ((Stencil.Safe.put (o := .dict es)
          (h₆ _ _ (h₅ _ _ (h₄ _ _ (h₃ _ _ hr)))) hes).imp fun _ _ _ _ => trivial)
  · exact safe_unexpected
  · exact safe_unexpected

theorem safe_fillAll {fuel : Nat} : Safe R ρ (fillAll fuel) fun _ _ => True := by
  induction fuel generalizing ρ with
  | zero => exact .pure trivial
  | succ fuel ih =>
    exact .get_bind fun l _ => .ite (fun _ => .pure trivial) fun _ =>
      .bind (.modify fun _ hl => hl) fun _ _ _ _ => (Safe.forM fun _ _ _ _ => safe_fill).bind
        fun _ _ _ _ => ih

end Loader

/-- The value of a document fits. -/
theorem Document.safe_load {d : Document} : Safe R ρ (fun _ => d.load) Roles.Fits := by
  refine Safe.mark.bind fun ρ₁ _ r _ => ?_
  have hl : ρ₁.Fits (⟨d.nodes, Array.replicate d.nodes.size none, [], .nan r⟩ : Loading) :=
    ⟨fun o ho => (Array.mem_replicate.1 ho).2 ▸ Roles.fits_none, by simp⟩
  exact ((Loader.safe_value.bind fun ρ₂ h₂ v hv => Loader.safe_fillAll.bind
    fun ρ₃ h₃ _ _ => .pure (hv.mono h₃) : Loader.Safe R ρ₁ _ Roles.Fits) _ hl).bind
      fun _ _ p hp => .pure hp.1

/-- The value that a text spells fits. -/
theorem safe_load {t : Text} : Safe R ρ (fun _ => load t) Roles.Fits := by
  unfold load
  split
  · exact .error
  · exact .pure (by simp)
  · exact Document.safe_load

end Yaml

namespace Context

theorem safe_textOf {octets : Octets} : Safe R ρ (fun _ => textOf octets) fun _ _ => True := by
  unfold textOf
  split
  · exact .pure trivial
  · exact .error

/-- The context in a file is a dictionary, and it fits. -/
theorem safe_ofFile (hL : R.Looks) {path : Path} : Safe R ρ (fun _ => ofFile path) Roles.Fits := by
  refine .machine_bind fun m _ => (Safe.ask hL (q := .read _ _) trivial).bind fun _ _ reply _ => ?_
  cases reply with
  | error e => exact .error
  | ok octets =>
    refine safe_textOf.bind fun _ _ t _ => Yaml.safe_load.bind fun _ _ v hv => ?_
    split
    · exact Eval.safe_newDict Roles.fits_nil
    · exact .pure hv
    · exact .error

end Context

end Stencil
