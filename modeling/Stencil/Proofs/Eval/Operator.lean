import Stencil.Proofs.Eval.Format
import Stencil.Proofs.Machine.Safe

/-!
# Operators are safe

Arithmetic, comparisons, items and iteration keep a machine as roles say: the values that they yield
are made of those that they are given, and of those that are on the heap already.

## Main results

* `Eval.safe_binary`, `Eval.safe_update`, `Eval.safe_unary`, `Eval.safe_compare` — operators.
* `Eval.safe_index`, `Eval.safe_setIndex` — items.
* `Eval.safe_start`, `Eval.safe_advance`, `Eval.safe_unpack` — iteration.
-/

namespace Stencil

open Script

variable {P : Policy} {R : Rights} {ρ : Roles P} {α : Type} {h : Heap}

namespace Safe

variable {Q : Roles P → α → Prop}

theorem ofWriting [Fitting α] {t : Except WritingFault α} (ht : ∀ a, t = .ok a → ρ.Fits a) :
    Safe R ρ (fun _ => Proc.ofWriting t) Roles.Fits := by
  unfold Proc.ofWriting
  split
  · exact pure (ht _ rfl)
  · exact error
  · exact error

theorem text {v : Value} : Safe R ρ (fun _ => Proc.text v) Roles.Fits :=
  heap_bind fun _ _ => ofWriting fun t _ => Roles.fits_text t

theorem quoted {v : Value} : Safe R ρ (fun _ => Proc.quoted v) Roles.Fits :=
  heap_bind fun _ _ => ofWriting fun t _ => Roles.fits_text t

end Safe

theorem Numeral.safe_value (n : Numeral) : Safe R ρ (fun _ => n.value) Roles.Fits := by
  cases n with
  | int i => exact .pure (by simp)
  | float x =>
    exact .ite (fun _ => Safe.mark.bind fun _ _ _ _ => .pure (by simp)) fun _ => .pure (by simp)

namespace Value

theorem fits_map_int (as : List α) (f : α → Int) :
    ρ.Fits (as.map fun a => Value.int (f a)) := by
  simp only [Roles.fits_list, List.mem_map]
  rintro _ ⟨a, -, rfl⟩
  simp

/-- What a value holds fits if the value does. -/
theorem fits_items? (hd : ρ.Describes h) {v : Value} (hv : ρ.Fits v) : ρ.Fits (v.items? h) := by
  cases v with
  | str t => simp [items?, Roles.fits_list]
  | tuple id vs => simpa [items?] using hv
  | list r => simpa [items?] using hd.fits_items (by simpa using hv)
  | dict r =>
    have he := hd.fits_entries (by simpa using hv)
    simp only [items?, Roles.fits_some, Roles.fits_list, List.mem_map]
    rintro _ ⟨p, hp, rfl⟩
    exact (he p hp).1
  | entries r =>
    have he := hd.fits_entries (by simpa using hv)
    simp only [items?, Roles.fits_some, Roles.fits_list, List.mem_map]
    rintro _ ⟨p, hp, rfl⟩
    simpa using he p hp
  | range a b c => exact Roles.fits_some.mpr (fits_map_int _ _)
  | _ => simp [items?]

theorem fits_itemsBeyond? (hd : ρ.Describes h) {v : Value} (hv : ρ.Fits v) (count : Nat) :
    ρ.Fits (v.itemsBeyond? h count) := by
  unfold itemsBeyond?
  split
  · exact Roles.fits_some.mpr (fits_map_int _ _)
  · exact fits_items? hd hv

end Value

namespace Eval

theorem safe_typeName {v : Value} : Safe R ρ (fun _ => typeName v) Roles.Fits :=
  .heap_bind fun _ _ => .pure (Roles.fits_text _)

theorem safe_newList {vs : List Value} (hvs : ρ.Fits vs) :
    Safe R ρ (fun _ => newList vs) Roles.Fits :=
  (Safe.alloc .list (.list vs) hvs).bind fun _ _ _ hr => .pure (by simpa using hr)

theorem safe_newDict {es : Entries} (hes : ρ.Fits es) :
    Safe R ρ (fun _ => newDict es) Roles.Fits :=
  (Safe.alloc .dict (.dict es) hes).bind fun _ _ _ hr => .pure (by simpa using hr)

theorem safe_newTuple {vs : List Value} (hvs : ρ.Fits vs) :
    Safe R ρ (fun _ => newTuple vs) Roles.Fits :=
  Safe.mark.bind fun _ h _ _ => .pure (by simpa using hvs.mono h)

theorem safe_unsupported {sign : Text} {x y : Value} {Q : Roles P → α → Prop} :
    Safe R ρ (fun _ => (unsupported sign x y : Proc α)) Q :=
  safe_typeName.bind fun _ _ _ _ => safe_typeName.bind fun _ _ _ _ => .error

theorem safe_arithmetic {op : BinaryOp} {a b : Numeral} :
    Safe R ρ (fun _ => arithmetic op a b) Roles.Fits := by
  unfold arithmetic
  split
  · exact Numeral.safe_value _
  · exact .error
  · exact .error

theorem safe_position {type : ExceptionClass} {i : Int} :
    Safe R ρ (fun _ => position type i) Roles.Fits :=
  .ite (fun _ => .error) fun _ => .pure (by simp)

theorem safe_checkRoom {isText : Bool} {length : Nat} {n : Int} :
    Safe R ρ (fun _ => checkRoom isText length n) Roles.Fits :=
  .ite (fun _ => .error) fun _ => .ite (fun _ => .raise (by simp)) fun _ => .pure (by simp)

theorem fits_replicate [Fitting α] {n : Int} {items : List α} (hi : ρ.Fits items) :
    ρ.Fits (replicate n items) := by
  unfold replicate
  split
  · simp
  · refine hi.of_subset fun a ha => ?_
    obtain ⟨l, hl, ha⟩ := List.mem_flatten.1 ha
    exact (List.mem_replicate.1 hl).2 ▸ ha

theorem safe_repeated? (hd : ρ.Describes h) {v : Value} (hv : ρ.Fits v) {n : Int}
    {p : Proc Value} (hp : repeated? h v n = some p) : Safe R ρ (fun _ => p) Roles.Fits := by
  unfold repeated? at hp
  split at hp <;> simp only [Option.some.injEq, reduceCtorEq] at hp <;> subst hp
  · exact safe_checkRoom.bind fun _ _ _ _ => .pure (by simp)
  · exact safe_checkRoom.bind fun _ h _ _ =>
      safe_newTuple ((fits_replicate (Roles.fits_value_tuple.1 hv)).mono h)
  · exact safe_checkRoom.bind fun _ h _ _ =>
      safe_newList ((fits_replicate (hd.fits_items (Roles.fits_value_list.1 hv))).mono h)

theorem safe_repetition {sequence times : Value} (hs : ρ.Fits sequence) :
    Safe R ρ (fun _ => repetition sequence times) Roles.Fits := by
  unfold repetition
  split
  · refine safe_position.bind fun _ h₁ _ _ => .heap_bind fun h hd => ?_
    split
    · next hp => exact safe_repeated? hd (hs.mono h₁) hp
    · exact .pure (hs.mono h₁)
  · exact safe_typeName.bind fun _ _ _ _ => .error

theorem safe_cannotConcatenate {type : Text} {y : Value} :
    Safe R ρ (fun _ => cannotConcatenate type y) Roles.Fits :=
  safe_typeName.bind fun _ _ _ _ => .error

theorem safe_notIterable {v : Value} {Q : Roles P → α → Prop} :
    Safe R ρ (fun _ => (notIterable v : Proc α)) Q :=
  safe_typeName.bind fun _ _ _ _ => .error

theorem safe_items {v : Value} (hv : ρ.Fits v) : Safe R ρ (fun _ => items v) Roles.Fits :=
  .heap_bind fun h hd => by
    have hi := Value.fits_items? hd hv
    split
    · next hvs => exact .pure (hi _ hvs)
    · exact safe_notIterable

theorem safe_formatted {t : Text} {v : Value} :
    Safe R ρ (fun _ => formatted t v) Roles.Fits :=
  .heap_bind fun h _ => by
    split
    · exact .pure (by simp)
    · next e he =>
      obtain ⟨c, t, rfl⟩ := Format.tells_fill h _ _ e he
      exact .raise (by simp)

theorem safe_binaryAs {sign : Text} {op : BinaryOp} {x y : Value} (hx : ρ.Fits x)
    (hy : ρ.Fits y) : Safe R ρ (fun _ => binaryAs sign op x y) Roles.Fits := by
  unfold binaryAs
  split
  · exact safe_arithmetic
  · split
    · exact .pure (by simp)
    · exact safe_newTuple (by simp_all)
    · refine .heap_bind fun h hd => safe_newList ?_
      simp only [Roles.fits_value_list] at hx hy
      simpa using ⟨hd.fits_items hx, hd.fits_items hy⟩
    · exact safe_cannotConcatenate
    · exact safe_cannotConcatenate
    · exact safe_cannotConcatenate
    · exact safe_formatted
    · exact .ite (fun _ => safe_repetition hx) fun _ =>
        .ite (fun _ => safe_repetition hy) fun _ => safe_unsupported
    · exact safe_unsupported

theorem safe_binary {op : BinaryOp} {x y : Value} (hx : ρ.Fits x) (hy : ρ.Fits y) :
    Safe R ρ (fun _ => binary op x y) Roles.Fits := safe_binaryAs hx hy

theorem safe_update {op : BinaryOp} {x y : Value} (hx : ρ.Fits x) (hy : ρ.Fits y) :
    Safe R ρ (fun _ => update op x y) Roles.Fits := by
  unfold update
  split
  · next r =>
    have hr : ρ r = some .list := by simpa using hx
    refine (safe_items hy).bind fun ρ₁ h₁ added ha => .heap_bind fun h hd => ?_
    exact (Safe.setItems (h₁ _ _ hr)
      (Roles.fits_append.2 ⟨hd.fits_items (h₁ _ _ hr), ha⟩)).bind
      fun _ h₂ _ _ => .pure ((hx.mono h₁).mono h₂)
  · next r =>
    have hr : ρ r = some .list := by simpa using hx
    split
    · next n _ =>
      refine safe_position.bind fun ρ₁ h₁ n _ => .heap_bind fun _ _ =>
        safe_checkRoom.bind fun ρ₂ h₂ _ _ => .heap_bind fun h hd => ?_
      have hr₂ := h₂ _ _ (h₁ _ _ hr)
      exact (Safe.setItems hr₂
        (fits_replicate (hd.fits_items hr₂))).bind
        fun _ h₃ _ _ => .pure (((hx.mono h₁).mono h₂).mono h₃)
    · exact safe_binaryAs hx hy
  · exact safe_binaryAs hx hy

theorem safe_unary {op : UnaryOp} {v : Value} :
    Safe R ρ (fun _ => unary op v) Roles.Fits := by
  unfold unary
  split
  · exact .heap_bind fun _ _ => .pure (by simp)
  · exact .pure (by simp)
  · split <;> exact Numeral.safe_value _
  · split <;> exact Numeral.safe_value _
  · exact safe_typeName.bind fun _ _ _ _ => .error
  · exact safe_typeName.bind fun _ _ _ _ => .error

theorem safe_checkKey {v : Value} : Safe R ρ (fun _ => checkKey v) Roles.Fits := by
  unfold checkKey
  split
  · exact .error
  · exact .pure (by simp)

theorem safe_decided {answer : Option Bool} : Safe R ρ (fun _ => decided answer) Roles.Fits := by
  unfold decided
  split
  · exact .pure (by simp)
  · exact .error

theorem safe_member {x collection : Value} :
    Safe R ρ (fun _ => member x collection) Roles.Fits := by
  refine .heap_bind fun h _ => ?_
  split
  · split
    · exact .pure (by simp)
    · exact .error
  · exact safe_checkKey.bind fun _ _ _ _ => .pure (by simp)
  · split
    · refine safe_checkKey.bind fun _ _ _ _ => ?_
      split
      · exact safe_decided
      · exact .pure (by simp)
    · exact .pure (by simp)
  · split
    · exact .pure (by simp)
    · split
      · exact .pure (by simp)
      · exact .pure (by simp)
    · exact .pure (by simp)
  · split
    · exact safe_decided
    · exact .error

theorem safe_compare {op : CompareOp} {x y : Value} :
    Safe R ρ (fun _ => compare op x y) Roles.Fits := by
  refine .heap_bind fun h _ => ?_
  split
  · exact safe_decided
  · exact safe_decided.bind fun _ _ _ _ => .pure (by simp)
  · exact .pure (by simp)
  · exact .pure (by simp)
  · exact safe_member
  · exact safe_member.bind fun _ _ _ _ => .pure (by simp)
  · split
    · exact .pure (by simp)
    · exact .error
    · exact .error

/-! ## Items -/

theorem safe_notSubscriptable {v : Value} {Q : Roles P → α → Prop} :
    Safe R ρ (fun _ => (notSubscriptable v : Proc α)) Q :=
  safe_typeName.bind fun _ _ _ _ => by
    split
    · exact .ite (fun _ => .error) fun _ => .error
    · exact .error
    · exact .error

theorem safe_itemOr {kind : Text} {item : Option Value} (hi : ρ.Fits item) :
    Safe R ρ (fun _ => match item with
      | some v => (return v : Proc Value)
      | none => Proc.error .indexError (kind ++ " index out of range")) Roles.Fits := by
  cases item with
  | some v => exact .pure (hi v rfl)
  | none => exact .error

theorem safe_itemAt {kind : Text} {length : Nat} {item? : Nat → Option Value} {key : Value}
    (hi : ∀ i, ρ.Fits (item? i)) :
    Safe R ρ (fun _ => itemAt kind length item? key) Roles.Fits := by
  have found (i : Int) : ρ.Fits ((place? length i).bind item?) := fun v hv => by
    obtain ⟨j, -, hj⟩ := Option.bind_eq_some_iff.1 hv
    exact hi j v hj
  unfold itemAt
  split
  · split
    · exact (Safe.pure (Q := Roles.Fits) (by simp)).bind fun _ h₁ i _ =>
        safe_itemOr ((found i).mono h₁)
    · exact safe_position.bind fun _ h₁ i _ => safe_itemOr ((found i).mono h₁)
  · exact safe_typeName.bind fun _ _ _ _ => .ite (fun _ => .error) fun _ => .error

theorem safe_bound {v : Value} : Safe R ρ (fun _ => bound v) Roles.Fits := by
  unfold bound
  split
  · exact .pure (by simp)
  · split
    · exact .pure (by simp)
    · exact .error

theorem safe_bounds {length : Nat} {lower upper step : Value} :
    Safe R ρ (fun _ => bounds length lower upper step) Roles.Fits :=
  safe_bound.bind fun _ _ _ _ => .ite (fun _ => .error) fun _ =>
    safe_bound.bind fun _ _ _ _ => safe_bound.bind fun _ _ _ _ => .pure (by simp)

theorem fits_pick [Fitting α] {b : Bounds} {items : List α} (hi : ρ.Fits items) :
    ρ.Fits (b.pick items) := by
  refine hi.of_subset fun a ha => ?_
  obtain ⟨i, -, hi⟩ := List.mem_filterMap.1 ha
  exact List.mem_of_getElem? (by simpa using hi)

theorem safe_run {base lower upper step : Value} (hb : ρ.Fits base) :
    Safe R ρ (fun _ => run base lower upper step) Roles.Fits := by
  refine .heap_bind fun h hd => ?_
  split
  · refine safe_bounds.bind fun _ h₁ _ _ => safe_newList (fits_pick ?_)
    exact (hd.fits_items (by simpa using hb)).mono h₁
  · refine safe_bounds.bind fun _ h₁ _ _ => .ite (fun _ => .pure (hb.mono h₁)) fun _ => ?_
    exact safe_newTuple (fits_pick (Roles.fits_value_tuple.1 (hb.mono h₁)))
  · exact safe_bounds.bind fun _ _ _ _ => .pure (by simp)
  · exact safe_bounds.bind fun _ _ _ _ => .pure (by simp)
  · exact .error
  · exact safe_notSubscriptable

end Eval

namespace Entries

variable {es others : Entries} {k v : Value}

theorem fits_get? (he : ρ.Fits es) : ρ.Fits (es.get? k) := by
  intro w hw
  obtain ⟨p, hp, rfl⟩ := Option.map_eq_some_iff.1 hw
  exact (he p (List.mem_of_find?_eq_some hp)).2

theorem fits_insert (he : ρ.Fits es) (hk : ρ.Fits k) (hv : ρ.Fits v) :
    ρ.Fits (es.insert k v) := by
  induction es with
  | nil => simp [insert, hk, hv]
  | cons p rest ih =>
    simp only [Roles.fits_cons, Roles.fits_prod] at he
    simp only [insert]
    split
    · simp [he, hv]
    · simp [he, ih he.2]

theorem fits_update (he : ρ.Fits es) (ho : ρ.Fits others) : ρ.Fits (es.update others) := by
  induction others generalizing es with
  | nil => exact he
  | cons p rest ih =>
    simp only [Roles.fits_cons, Roles.fits_prod] at ho
    exact ih (fits_insert he ho.1.1 ho.1.2) ho.2

end Entries

namespace Eval

theorem safe_index {base key : Value} (hb : ρ.Fits base) (hk : ρ.Fits key) :
    Safe R ρ (fun _ => index base key) Roles.Fits := by
  refine .heap_bind fun h hd => ?_
  split
  · exact safe_run hb
  · split
    · next r =>
      have hi := hd.fits_items (Roles.fits_value_list.1 hb)
      exact safe_itemAt hi.getElem?
    · exact safe_itemAt (Roles.fits_value_tuple.1 hb).getElem?
    · refine safe_itemAt fun i v hv => ?_
      obtain ⟨c, -, rfl⟩ := Option.map_eq_some_iff.1 hv
      simp
    · exact safe_itemAt fun i => by simp
    · refine safe_checkKey.bind fun _ h₁ _ _ => ?_
      have he := Entries.fits_get? (k := key) (hd.fits_entries (Roles.fits_value_dict.1 hb))
      split
      · next v hv => exact .pure ((he v hv).mono h₁)
      · exact .raise (by simpa using hk.mono h₁)
    · exact safe_notSubscriptable

theorem fits_foldl_set {places : List (Nat × Value)} {items : List Value} (hi : ρ.Fits items)
    (hp : ∀ p ∈ places, ρ.Fits p.2) :
    ρ.Fits (places.foldl (fun items (i, v) => items.set i v) items) := by
  induction places generalizing items with
  | nil => exact hi
  | cons p places ih =>
    refine ih (fun v hv => ?_) fun q hq => hp q (List.mem_cons_of_mem _ hq)
    rcases List.mem_or_eq_of_mem_set hv with hv | rfl
    · exact hi v hv
    · exact hp p (List.mem_cons_self ..)

theorem safe_withRun {b : Bounds} {items added : List Value} (hi : ρ.Fits items)
    (ha : ρ.Fits added) : Safe R ρ (fun _ => withRun b items added) Roles.Fits := by
  refine .ite (fun _ => .pure ?_) fun _ => .ite (fun _ => .pure ?_) fun _ => .error
  · simp only [Roles.fits_append]
    exact ⟨⟨hi.of_subset fun _ => List.mem_of_mem_take, ha⟩,
      hi.of_subset fun _ => List.mem_of_mem_drop⟩
  · exact fits_foldl_set hi fun p hp => ha _ (List.of_mem_zip hp).2

theorem safe_assignable {v : Value} {b : Bounds} (hv : ρ.Fits v) :
    Safe R ρ (fun _ => assignable v b) Roles.Fits :=
  .heap_bind fun h hd => by
    have hi := Value.fits_items? hd hv
    split
    · next hvs => exact .pure (hi _ hvs)
    · exact .error

theorem safe_setIndex {base key v : Value} (hb : ρ.Fits base) (hk : ρ.Fits key)
    (hv : ρ.Fits v) : Safe R ρ (fun _ => setIndex base key v) Roles.Fits := by
  refine .heap_bind fun h hd => ?_
  split
  · next r _ _ _ =>
    have hr : ρ r = some .list := by simpa using hb
    have hi := hd.fits_items hr
    refine safe_bounds.bind fun ρ₁ h₁ b _ => (safe_assignable (hv.mono h₁)).bind
      fun ρ₂ h₂ vs hvs => (safe_withRun ((hi.mono h₁).mono h₂) hvs).bind fun ρ₃ h₃ ws hws => ?_
    exact .setItems (h₃ _ _ (h₂ _ _ (h₁ _ _ hr))) hws
  · next r _ =>
    have hr : ρ r = some .list := by simpa using hb
    have hi := hd.fits_items hr
    split
    · refine safe_position.bind fun ρ₁ h₁ i _ => ?_
      split
      · next j _ =>
        refine .setItems (h₁ _ _ hr) fun w hw => ?_
        rcases List.mem_or_eq_of_mem_set hw with hw | rfl
        · exact (hi w hw).mono h₁
        · exact hv.mono h₁
      · exact .error
    · exact .error
  · next r =>
    have hr : ρ r = some .dict := by simpa using hb
    refine safe_checkKey.bind fun ρ₁ h₁ _ _ => ?_
    exact .setEntries (h₁ _ _ hr)
      ((Entries.fits_insert (hd.fits_entries hr) hk hv).mono h₁)
  · exact .error

/-! ## Iteration -/

theorem safe_start {v : Value} (hv : ρ.Fits v) : Safe R ρ (fun _ => start v) Roles.Fits :=
  .heap_bind fun h hd => by
    split
    · next c hc =>
      refine .pure ?_
      unfold Cursor.of? at hc
      split at hc
      case h_5 =>
        obtain ⟨vs, hvs, rfl⟩ := Option.map_eq_some_iff.1 hc
        exact Value.fits_items? hd hv vs hvs
      all_goals
        obtain rfl := Option.some.inj hc
        simp_all
    · exact safe_notIterable

theorem safe_advance {c : Cursor} (hc : ρ.Fits c) : Safe R ρ (fun _ => advance c) Roles.Fits := by
  unfold advance
  split
  · exact .pure (by simp)
  · exact .pure (by simpa using hc)
  · next r next =>
    refine .heap_bind fun h hd => .pure fun p hp => ?_
    obtain ⟨v, hv, rfl⟩ := Option.map_eq_some_iff.1 hp
    have hr : ρ r = some .list := by simpa using hc
    simpa [hr] using (hd.fits_items hr).getElem? next v hv
  · next r next size pairs =>
    refine .heap_bind fun h hd => .ite (fun _ => .pure fun p hp => ?_) fun _ => .error
    obtain ⟨⟨k, v⟩, hv, rfl⟩ := Option.map_eq_some_iff.1 hp
    have hr : ρ r = some .dict := by simpa using hc
    have hkv := (hd.fits_entries hr).getElem? next _ hv
    cases pairs <;> simp_all
  · exact .pure (by simp)
  · exact .pure (by simp)

theorem safe_unpack {count : Nat} {v : Value} (hv : ρ.Fits v) :
    Safe R ρ (fun _ => unpack count v) Roles.Fits :=
  .heap_bind fun h hd => by
    have hi := Value.fits_itemsBeyond? hd hv count
    split
    · exact safe_typeName.bind fun _ _ _ _ => .error
    · next vs hvs =>
      exact .ite (fun _ => .pure (hi vs hvs)) fun _ => .ite (fun _ => .error) fun _ => .error

end Eval

end Stencil
