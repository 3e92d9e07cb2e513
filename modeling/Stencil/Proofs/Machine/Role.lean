import Stencil.Eval.Call
import Stencil.Proofs.Machine.Course

/-!
# What is on a heap

A value refers to objects of the kind that it says, and to nothing else. Which kind of object stands
at a place is told by its role. Contexts have a role of their own: no value refers to them, so that
no script changes them. Objects without a role are out of the reach of scripts altogether.

## Main definitions

* `Role`, `Roles` — the roles of the places of a heap.
* `Policy` — the roles that contexts play, and the capabilities that scripts may have.
* `Fitting`, `Roles.Fits` — everything refers to places with the roles that it expects.
* `Roles.Sound` — a machine is as roles say.

## Main results

* `Roles.Fits.mono` — what fits some roles fits more of them.
-/

namespace Stencil

/-- What kind of object stands at a place. -/
inductive Role (Label : Type) where
  | list
  | dict
  | exception
  | module
  | function
  | scope
  | coroutine
  /-- The context of a run; its label tells its entries, which do not change. -/
  | context (label : Label)

/-- What scripts may do: which capabilities they may have, and what these do. What is granted may
vary; a variant that agrees with the roles that come about cannot be told from the standard. -/
structure Policy where
  /-- The labels of contexts. -/
  Label : Type
  /-- The entries of the context with a label. -/
  entries : Label → Entries
  /-- The directory of the machine. -/
  directory : Path
  /-- A script may have a capability. -/
  Admits : (Ref → Option (Role Label)) → Capability → Prop
  admits_mono : ∀ {ρ ρ' : Ref → Option (Role Label)} {c : Capability},
    (∀ r role, ρ r = some role → ρ' r = some role) → Admits ρ c → Admits ρ' c
  Variant : Type
  standard : Variant
  /-- What capabilities do. -/
  grant : Variant → Grant
  /-- A variant agrees with roles. -/
  Agrees : (Ref → Option (Role Label)) → Variant → Prop
  agrees_anti : ∀ {ρ ρ' : Ref → Option (Role Label)} {v : Variant},
    (∀ r role, ρ r = some role → ρ' r = some role) → Agrees ρ' v → Agrees ρ v

/-- The roles of the places of a heap. -/
def Roles (P : Policy) := Ref → Option (Role P.Label)

variable {P : Policy}

namespace Roles

instance : LE (Roles P) := ⟨fun ρ ρ' => ∀ r role, ρ r = some role → ρ' r = some role⟩

variable {ρ ρ' ρ'' : Roles P} {r : Ref} {role : Role P.Label}

theorem le_refl (ρ : Roles P) : ρ ≤ ρ := fun _ _ h => h

theorem le_trans (h : ρ ≤ ρ') (h' : ρ' ≤ ρ'') : ρ ≤ ρ'' := fun r role hr =>
  h' r role (h r role hr)

/-- The roles with one for a place. -/
def assign (ρ : Roles P) (r : Ref) (role : Role P.Label) : Roles P :=
  fun s => if s = r then some role else ρ s

theorem assign_self : ρ.assign r role r = some role := if_pos rfl

theorem assign_of_ne {s : Ref} (h : s ≠ r) : ρ.assign r role s = ρ s := if_neg h

theorem le_assign (h : ρ r = none) : ρ ≤ ρ.assign r role := fun s _ hs => by
  have hn : s ≠ r := by
    rintro rfl
    simp [h] at hs
  rwa [assign_of_ne hn]

end Roles

mutual

/-- A value refers to places with the roles that it expects. -/
def Value.Fits (ρ : Roles P) : Value → Prop
  | .list r => ρ r = some .list
  | .dict r | .entries r => ρ r = some .dict
  | .function r => ρ r = some .function
  | .exception r => ρ r = some .exception
  | .module r => ρ r = some .module
  | .coroutine r => ρ r = some .coroutine
  | .capability c => P.Admits ρ c
  | .tuple _ items => Value.AllFit ρ items
  | .slice lower upper step => lower.Fits ρ ∧ upper.Fits ρ ∧ step.Fits ρ
  | .method receiver _ => receiver.Fits ρ
  | .none | .bool _ | .int _ | .float _ | .nan _ | .str _ | .range .. | .native _ | .unbound ..
  | .exceptionClass _ | .foreign .. => True

/-- Values refer to places with the roles that they expect. -/
def Value.AllFit (ρ : Roles P) : List Value → Prop
  | [] => True
  | v :: vs => v.Fits ρ ∧ Value.AllFit ρ vs

end

namespace Value

theorem allFit_iff {ρ : Roles P} {vs : List Value} : AllFit ρ vs ↔ ∀ v ∈ vs, v.Fits ρ := by
  induction vs with
  | nil => simp [AllFit]
  | cons v vs ih => simp [AllFit, ih]

mutual

theorem Fits.mono {ρ ρ' : Roles P} (h : ρ ≤ ρ') (v : Value) (hv : v.Fits ρ) : v.Fits ρ' := by
  cases v with
  | list r | dict r | entries r | function r | exception r | module r | coroutine r =>
    exact h _ _ hv
  | capability c => exact P.admits_mono h hv
  | tuple id items => exact AllFit.mono h items hv
  | slice lower upper step =>
    exact ⟨Fits.mono h lower hv.1, Fits.mono h upper hv.2.1, Fits.mono h step hv.2.2⟩
  | method receiver m => exact Fits.mono h receiver hv
  | _ => trivial

theorem AllFit.mono {ρ ρ' : Roles P} (h : ρ ≤ ρ') (vs : List Value) (hvs : AllFit ρ vs) :
    AllFit ρ' vs := by
  cases vs with
  | nil => trivial
  | cons v vs => exact ⟨Fits.mono h v hvs.1, AllFit.mono h vs hvs.2⟩

end

end Value

/-! ## Data that refer to the heap -/

/-- Data of a type that may refer to the heap. -/
class Fitting (α : Type) where
  /-- The data refer to places with the roles that they expect. -/
  Fits : ∀ {P : Policy}, Roles P → α → Prop
  mono : ∀ {P : Policy} {ρ ρ' : Roles P} {a : α}, ρ ≤ ρ' → Fits ρ a → Fits ρ' a

namespace Roles

variable {α β : Type}

/-- Data refer to places with the roles that they expect. -/
def Fits [Fitting α] (ρ : Roles P) (a : α) : Prop := Fitting.Fits ρ a

theorem Fits.mono [Fitting α] {ρ ρ' : Roles P} {a : α} (ha : ρ.Fits a) (h : ρ ≤ ρ') : ρ'.Fits a :=
  Fitting.mono h ha

end Roles

namespace Fitting

variable {α β : Type}

/-- Data that do not refer to the heap. -/
abbrev plain (α : Type) : Fitting α := ⟨fun _ _ => True, fun _ h => h⟩

instance : Fitting Unit := plain Unit
instance : Fitting Bool := plain Bool
instance : Fitting Nat := plain Nat
instance : Fitting Int := plain Int
instance : Fitting Bounds := plain Bounds
instance : Fitting Path := plain Path

instance : Fitting Value := ⟨fun ρ v => v.Fits ρ, fun h hv => Value.Fits.mono h _ hv⟩

instance [Fitting α] : Fitting (List α) :=
  ⟨fun ρ as => ∀ a ∈ as, ρ.Fits a, fun h has a ha => (has a ha).mono h⟩

instance [Fitting α] : Fitting (Option α) :=
  ⟨fun ρ o => ∀ a, o = some a → ρ.Fits a, fun h ho a ha => (ho a ha).mono h⟩

instance [Fitting α] [Fitting β] : Fitting (α × β) :=
  ⟨fun ρ p => ρ.Fits p.1 ∧ ρ.Fits p.2, fun h hp => ⟨hp.1.mono h, hp.2.mono h⟩⟩

instance [Fitting α] [Fitting β] : Fitting (α ⊕ β) where
  Fits ρ
    | .inl a => ρ.Fits a
    | .inr b => ρ.Fits b
  mono {P ρ ρ' s} h hs := by
    cases s with
    | inl a => exact Roles.Fits.mono hs h
    | inr b => exact Roles.Fits.mono hs h

instance : Fitting Thrown :=
  ⟨fun ρ e => ρ.Fits e.args ∧ ρ.Fits e.fields, fun h he => ⟨he.1.mono h, he.2.mono h⟩⟩

instance : Fitting Closure where
  Fits ρ c := ρ.Fits c.defaults ∧ (∀ s ∈ c.scopes, ρ s = some .scope) ∧ ρ c.globals = some .module
  mono h hc := ⟨hc.1.mono h, fun s hs => h _ _ (hc.2.1 s hs), h _ _ hc.2.2⟩

instance : Fitting Pending where
  Fits {P} ρ
    | .body f scope => ρ.Fits f ∧ ρ scope = some .scope
    | .capability c args => P.Admits ρ c ∧ ρ.Fits args
    | .finished => True
  mono {P ρ ρ' p} h hp := by
    cases p with
    | body f scope => exact ⟨hp.1.mono h, h _ _ hp.2⟩
    | capability c args => exact ⟨P.admits_mono h hp.1, hp.2.mono h⟩
    | finished => trivial

instance : Fitting Caller where
  Fits ρ c := ∀ r, c.handling = some r → ρ r = some .exception
  mono h hc r hr := h _ _ (hc r hr)

instance : Fitting Frame where
  Fits ρ f := (∀ s ∈ f.scopes, ρ s = some .scope) ∧ ρ f.globals = some .module ∧
    ∀ r, f.handling = some r → ρ r = some .exception
  mono h hf := ⟨fun s hs => h _ _ (hf.1 s hs), h _ _ hf.2.1, fun r hr => h _ _ (hf.2.2 r hr)⟩

instance : Fitting Cursor where
  Fits ρ
    | .items left => ρ.Fits left
    | .list r _ => ρ r = some .list
    | .dict r _ _ _ => ρ r = some .dict
    | .range .. => True
  mono {P ρ ρ' c} h hc := by
    cases c with
    | items left => exact Roles.Fits.mono hc h
    | list r next => exact h _ _ hc
    | dict r next size pairs => exact h _ _ hc
    | range next step left => trivial

instance : Fitting Flow where
  Fits ρ
    | .give v => ρ.Fits v
    | _ => True
  mono {P ρ ρ' flow} h hf := by
    cases flow with
    | give v => exact Roles.Fits.mono hf h
    | _ => trivial

end Fitting

namespace Roles

variable {α β : Type} [Fitting α] [Fitting β] {ρ ρ' : Roles P} {h : Heap} {r : Ref}

@[simp] theorem fits_unit (u : Unit) : ρ.Fits u := trivial

@[simp] theorem fits_bool (b : Bool) : ρ.Fits b := trivial

@[simp] theorem fits_nat (n : Nat) : ρ.Fits n := trivial

@[simp] theorem fits_int (i : Int) : ρ.Fits i := trivial

@[simp] theorem fits_bounds (b : Bounds) : ρ.Fits b := trivial

@[simp] theorem fits_path (p : Path) : ρ.Fits p := trivial

@[simp] theorem fits_text (t : Text) : ρ.Fits t := fun _ _ => trivial

theorem fits_list {as : List α} : ρ.Fits as ↔ ∀ a ∈ as, ρ.Fits a := Iff.rfl

@[simp] theorem fits_nil : ρ.Fits ([] : List α) := fun _ h => nomatch h

@[simp] theorem fits_cons {a : α} {as : List α} :
    ρ.Fits (a :: as) ↔ ρ.Fits a ∧ ρ.Fits as := by
  simp [fits_list]

@[simp] theorem fits_append {as bs : List α} :
    ρ.Fits (as ++ bs) ↔ ρ.Fits as ∧ ρ.Fits bs := by
  simp only [fits_list, List.mem_append]
  exact ⟨fun h => ⟨fun a ha => h a (.inl ha), fun a ha => h a (.inr ha)⟩,
    fun h a ha => ha.elim (h.1 a) (h.2 a)⟩

@[simp] theorem fits_none : ρ.Fits (none : Option α) := fun _ h => nomatch h

@[simp] theorem fits_some {a : α} : ρ.Fits (some a) ↔ ρ.Fits a :=
  ⟨fun h => h a rfl, fun h _ hb => Option.some.inj hb ▸ h⟩

@[simp] theorem fits_prod {p : α × β} : ρ.Fits p ↔ ρ.Fits p.1 ∧ ρ.Fits p.2 := Iff.rfl

@[simp] theorem fits_inl {a : α} : ρ.Fits (.inl a : α ⊕ β) ↔ ρ.Fits a := Iff.rfl

@[simp] theorem fits_inr {b : β} : ρ.Fits (.inr b : α ⊕ β) ↔ ρ.Fits b := Iff.rfl

/-- Values that refer to nothing. -/
@[simp]
theorem fits_plain :
    ρ.Fits Value.none ∧ (∀ b, ρ.Fits (Value.bool b)) ∧ (∀ i, ρ.Fits (Value.int i)) ∧
      (∀ x, ρ.Fits (Value.float x)) ∧ (∀ r, ρ.Fits (Value.nan r)) ∧ (∀ t, ρ.Fits (Value.str t)) ∧
      (∀ a b c, ρ.Fits (Value.range a b c)) ∧ (∀ f, ρ.Fits (Value.native f)) ∧
      (∀ f m, ρ.Fits (Value.unbound f m)) ∧ (∀ c, ρ.Fits (Value.exceptionClass c)) ∧
      ∀ a b c, ρ.Fits (Value.foreign a b c) :=
  ⟨trivial, fun _ => trivial, fun _ => trivial, fun _ => trivial, fun _ => trivial,
    fun _ => trivial, fun _ _ _ => trivial, fun _ => trivial, fun _ _ => trivial, fun _ => trivial,
    fun _ _ _ => trivial⟩

@[simp] theorem fits_value_list : ρ.Fits (Value.list r) ↔ ρ r = some .list := Iff.rfl

@[simp] theorem fits_value_dict : ρ.Fits (Value.dict r) ↔ ρ r = some .dict := Iff.rfl

@[simp] theorem fits_value_entries : ρ.Fits (Value.entries r) ↔ ρ r = some .dict := Iff.rfl

@[simp] theorem fits_value_function : ρ.Fits (Value.function r) ↔ ρ r = some .function := Iff.rfl

@[simp] theorem fits_value_exception : ρ.Fits (Value.exception r) ↔ ρ r = some .exception := Iff.rfl

@[simp] theorem fits_value_module : ρ.Fits (Value.module r) ↔ ρ r = some .module := Iff.rfl

@[simp] theorem fits_value_coroutine : ρ.Fits (Value.coroutine r) ↔ ρ r = some .coroutine := Iff.rfl

@[simp] theorem fits_value_capability {c : Capability} :
    ρ.Fits (Value.capability c) ↔ P.Admits ρ c := Iff.rfl

@[simp] theorem fits_value_tuple {id : Option Ref} {vs : List Value} :
    ρ.Fits (Value.tuple id vs) ↔ ρ.Fits vs := Value.allFit_iff

@[simp] theorem fits_value_slice {lower upper step : Value} :
    ρ.Fits (Value.slice lower upper step) ↔ ρ.Fits lower ∧ ρ.Fits upper ∧ ρ.Fits step := Iff.rfl

@[simp] theorem fits_value_method {v : Value} {m : Method} :
    ρ.Fits (Value.method v m) ↔ ρ.Fits v := Iff.rfl

@[simp] theorem fits_cursor_items {vs : List Value} :
    ρ.Fits (Cursor.items vs) ↔ ρ.Fits vs := Iff.rfl

@[simp] theorem fits_cursor_list {n : Nat} : ρ.Fits (Cursor.list r n) ↔ ρ r = some .list := Iff.rfl

@[simp] theorem fits_cursor_dict {n size : Nat} {pairs : Bool} :
    ρ.Fits (Cursor.dict r n size pairs) ↔ ρ r = some .dict := Iff.rfl

@[simp] theorem fits_cursor_range {i step : Int} {n : Nat} :
    ρ.Fits (Cursor.range i step n) := trivial

@[simp] theorem fits_flow_give {v : Value} : ρ.Fits (Flow.give v) ↔ ρ.Fits v := Iff.rfl

/-- Flows without a value. -/
@[simp]
theorem fits_flow_plain : ρ.Fits Flow.normal ∧ ρ.Fits Flow.leave ∧ ρ.Fits Flow.again :=
  ⟨trivial, trivial, trivial⟩

theorem fits_thrown {e : Thrown} : ρ.Fits e ↔ ρ.Fits e.args ∧ ρ.Fits e.fields := Iff.rfl

@[simp] theorem fits_thrown_plain {c : ExceptionClass} {args : List Value} :
    ρ.Fits (Thrown.plain c args) ↔ ρ.Fits args :=
  fits_thrown.trans (and_iff_left fits_nil)

theorem Fits.of_subset {as bs : List α} (h : ρ.Fits as) (hs : ∀ b ∈ bs, b ∈ as) : ρ.Fits bs :=
  fun b hb => h b (hs b hb)

theorem Fits.head? {as : List α} (h : ρ.Fits as) : ρ.Fits as.head? :=
  fun a ha => h a (List.mem_of_mem_head? ha)

theorem Fits.getElem? {as : List α} (h : ρ.Fits as) (i : Nat) : ρ.Fits as[i]? :=
  fun a ha => h a (List.mem_of_getElem? ha)

theorem Fits.filter {o : Option α} (h : ρ.Fits o) (p : α → Bool) : ρ.Fits (o.filter p) :=
  fun a ha => h a (Option.filter_eq_some_iff.1 ha).1

theorem Fits.ite {p : Prop} [Decidable p] {a b : α} (ha : ρ.Fits a) (hb : ρ.Fits b) :
    ρ.Fits (if p then a else b) := by
  split
  · exact ha
  · exact hb

theorem Fits.getD {o : Option α} (h : ρ.Fits o) {a : α} (ha : ρ.Fits a) : ρ.Fits (o.getD a) := by
  cases o with
  | none => exact ha
  | some b => exact h b rfl

/-- An object is as a role says. -/
def Admits (ρ : Roles P) : Role P.Label → Object → Prop
  | .list, .list items => ρ.Fits items
  | .dict, .dict entries => ρ.Fits entries
  | .exception, .exception e => ρ.Fits e
  | .module, .module _ names => ρ.Fits names
  | .function, .function c => ρ.Fits c
  | .scope, .scope _ bound => ρ.Fits bound
  | .coroutine, .coroutine p => ρ.Fits p
  | .context label, .dict entries => entries = P.entries label ∧ ρ.Fits entries
  | _, _ => False

theorem Admits.mono {role : Role P.Label} {o : Object} (ho : ρ.Admits role o) (hle : ρ ≤ ρ') :
    ρ'.Admits role o := by
  cases role <;> cases o <;>
    first
      | exact Fits.mono ho hle
      | exact ⟨ho.1, ho.2.mono hle⟩
      | exact ho.elim

/-- A heap is as roles say. -/
def Describes (ρ : Roles P) (h : Heap) : Prop :=
  ∀ r role, ρ r = some role → ∃ o, h.get? r = some o ∧ ρ.Admits role o

/-- A machine is as roles say, and as a policy wants it. -/
structure Sound (ρ : Roles P) (m : Machine) : Prop where
  heap : ρ.Describes m.heap
  modules : ∀ p ∈ m.modules, ρ p.2 = some .module
  directory : m.directory = P.directory

namespace Describes

variable (hd : ρ.Describes h)
include hd

theorem lt {role : Role P.Label} (hr : ρ r = some role) : r < h.objects.size := by
  obtain ⟨o, ho, -⟩ := hd r role hr
  exact Heap.lt_of_get? ho

theorem eq_none_of_le (hr : h.objects.size ≤ r) : ρ r = none := by
  cases hρ : ρ r with
  | none => rfl
  | some role => exact absurd (hd.lt hρ) (Nat.not_lt.2 hr)

theorem list (hr : ρ r = some .list) : ∃ items, h.get? r = some (.list items) ∧ ρ.Fits items := by
  obtain ⟨o, ho, ha⟩ := hd r _ hr
  cases o <;> first | exact ha.elim | exact ⟨_, ho, ha⟩

theorem dict (hr : ρ r = some .dict) : ∃ es, h.get? r = some (.dict es) ∧ ρ.Fits es := by
  obtain ⟨o, ho, ha⟩ := hd r _ hr
  cases o <;> first | exact ha.elim | exact ⟨_, ho, ha⟩

theorem exception (hr : ρ r = some .exception) :
    ∃ e, h.get? r = some (.exception e) ∧ ρ.Fits e := by
  obtain ⟨o, ho, ha⟩ := hd r _ hr
  cases o <;> first | exact ha.elim | exact ⟨_, ho, ha⟩

theorem module (hr : ρ r = some .module) :
    ∃ id names, h.get? r = some (.module id names) ∧ ρ.Fits names := by
  obtain ⟨o, ho, ha⟩ := hd r _ hr
  cases o <;> first | exact ha.elim | exact ⟨_, _, ho, ha⟩

theorem function (hr : ρ r = some .function) :
    ∃ c, h.get? r = some (.function c) ∧ ρ.Fits c := by
  obtain ⟨o, ho, ha⟩ := hd r _ hr
  cases o <;> first | exact ha.elim | exact ⟨_, ho, ha⟩

theorem scope (hr : ρ r = some .scope) :
    ∃ owned bound, h.get? r = some (.scope owned bound) ∧ ρ.Fits bound := by
  obtain ⟨o, ho, ha⟩ := hd r _ hr
  cases o <;> first | exact ha.elim | exact ⟨_, _, ho, ha⟩

theorem coroutine (hr : ρ r = some .coroutine) :
    ∃ p, h.get? r = some (.coroutine p) ∧ ρ.Fits p := by
  obtain ⟨o, ho, ha⟩ := hd r _ hr
  cases o <;> first | exact ha.elim | exact ⟨_, ho, ha⟩

theorem context {label : P.Label} (hr : ρ r = some (.context label)) :
    h.get? r = some (.dict (P.entries label)) ∧ ρ.Fits (P.entries label) := by
  obtain ⟨o, ho, ha⟩ := hd r _ hr
  cases o <;> first | exact ha.elim | exact ⟨ha.1 ▸ ho, ha.1 ▸ ha.2⟩

theorem fits_items (hr : ρ r = some .list) : ρ.Fits (h.list r) := by
  obtain ⟨items, ho, hf⟩ := hd.list hr
  simpa [Heap.list, ho] using hf

theorem fits_entries (hr : ρ r = some .dict) : ρ.Fits (h.dict r) := by
  obtain ⟨es, ho, hf⟩ := hd.dict hr
  simpa [Heap.dict, ho] using hf

theorem dict_context {label : P.Label} (hr : ρ r = some (.context label)) :
    h.dict r = P.entries label := by
  simp [Heap.dict, hd.context hr]

theorem fits_thrown? (hr : ρ r = some .exception) : ρ.Fits (h.thrown? r) := by
  obtain ⟨e, ho, hf⟩ := hd.exception hr
  simpa [Heap.thrown?, ho] using hf

theorem fits_names (hr : ρ r = some .module) : ρ.Fits (h.namesOfModule r) := by
  obtain ⟨id, names, ho, hf⟩ := hd.module hr
  simpa [Heap.namesOfModule, ho] using hf

/-- An object is put where it plays the same role. -/
theorem set {role : Role P.Label} {o : Object} (hr : ρ r = some role) (ho : ρ.Admits role o) :
    ρ.Describes (h.set r o) := by
  intro s role' hs
  by_cases hn : r = s
  · subst hn
    obtain ⟨o', ho', -⟩ := hd r role hr
    obtain rfl : role' = role := Option.some.inj (hs.symm.trans hr)
    exact ⟨o, Heap.get?_set ho', ho⟩
  · rw [Heap.get?_set_of_ne hn]
    exact hd s role' hs

/-- An object is put where nothing plays a role. -/
theorem set_of_none {o : Object} (hr : ρ r = none) : ρ.Describes (h.set r o) := by
  intro s role hs
  have hn : r ≠ s := by
    rintro rfl
    simp [hr] at hs
  rw [Heap.get?_set_of_ne hn]
  exact hd s role hs

theorem alloc (o : Object) : ρ.Describes (h.alloc o).2 := by
  intro s role hs
  obtain ⟨o', ho', ha⟩ := hd s role hs
  exact ⟨o', Heap.get?_alloc_of_get? ho', ha⟩

/-- A new object is given a role. -/
theorem alloc_assign {role : Role P.Label} {o : Object} (ho : ρ.Admits role o) :
    (ρ.assign (h.alloc o).1 role).Describes (h.alloc o).2 := by
  have hle : ρ ≤ ρ.assign (h.alloc o).1 role := le_assign (hd.eq_none_of_le (Nat.le_refl _))
  intro s role' hs
  by_cases hn : s = (h.alloc o).1
  · subst hn
    obtain rfl : role' = role := Option.some.inj (hs.symm.trans assign_self)
    exact ⟨o, Heap.get?_alloc h o, ho.mono hle⟩
  · obtain ⟨o', ho', ha⟩ := hd s role' ((assign_of_ne hn).symm.trans hs)
    exact ⟨o', Heap.get?_alloc_of_get? ho', ha.mono hle⟩

end Describes

end Roles

end Stencil
