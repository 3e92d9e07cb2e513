import Stencil.Eval.Call
import Stencil.Proofs.Eval.Operator

/-!
# Names, arguments and built-in functions are safe

Frames find and bind names, arguments reach parameters, and built-in functions, methods, attributes
and new exceptions are made of the values that they are given.

## Main results

* `Frame.safe_lookup`, `Frame.safe_bind`, `Frame.safe_locate` — frames.
* `Arguments.safe_bind` — arguments.
* `Eval.safe_native`, `Eval.safe_method`, `Eval.safe_attr`, `Eval.safe_setAttr` — what is built in.
* `Eval.safe_instantiate` — new exceptions.
-/

namespace Stencil

open Script

variable {P : Policy} {R : Rights} {ρ : Roles P} {α : Type} {h : Heap}

/-! ## Names -/

namespace Names

variable {ns : Names} {id : Text} {v : Value}

theorem fits_get? (hn : ρ.Fits ns) : ρ.Fits (ns.get? id) := by
  intro v hv
  obtain ⟨p, hp, rfl⟩ := Option.map_eq_some_iff.1 hv
  exact (hn p (List.mem_of_find?_eq_some hp)).2

theorem fits_set (hn : ρ.Fits ns) (hv : ρ.Fits v) : ρ.Fits (ns.set id v) := by
  induction ns with
  | nil => simp [set, hv]
  | cons p rest ih =>
    simp only [Roles.fits_cons, Roles.fits_prod] at hn
    simp only [set]
    split
    · simp [hn, hv]
    · simp [hn, ih hn.2]

theorem fits_erase (hn : ρ.Fits ns) : ρ.Fits (ns.erase id) :=
  hn.of_subset fun _ hp => (List.mem_filter.1 hp).1

end Names

theorem fits_builtin? (id : Text) : ρ.Fits (builtin? id) := by
  intro v hv
  unfold builtin? at hv
  split at hv
  · obtain rfl := Option.some.inj hv
    simp
  · rcases Option.or_eq_some_iff.1 hv with hv | ⟨-, hv⟩
    · obtain ⟨c, -, rfl⟩ := Option.map_eq_some_iff.1 hv
      simp
    · obtain ⟨p, hp, rfl⟩ := Option.map_eq_some_iff.1 hv
      have := List.mem_of_find?_eq_some hp
      simp only [constants, List.mem_cons, List.not_mem_nil, or_false] at this
      rcases this with rfl | rfl | rfl | rfl <;> simp

namespace Heap

/-- A value that is found in scopes fits. -/
theorem fits_inScopes (hd : ρ.Describes h) {id : Text} {scopes : List Ref}
    (hs : ∀ s ∈ scopes, ρ s = some .scope) {own : Bool} {v : Value}
    (hv : h.inScopes id own scopes = .value v) : ρ.Fits v := by
  induction scopes generalizing own with
  | nil => simp [inScopes] at hv
  | cons r rest ih =>
    obtain ⟨owned, bound, ho, hb⟩ := hd.scope (hs r (List.mem_cons_self ..))
    simp only [inScopes, ho] at hv
    split at hv
    · split at hv
      · next w hw =>
        obtain rfl := Lookup.value.inj hv
        exact Names.fits_get? hb _ hw
      · nomatch hv
    · exact ih (fun s hs' => hs s (List.mem_cons_of_mem _ hs')) hv

end Heap

namespace Frame

variable {f : Frame} {id : Text} {v : Value}

theorem fits_own (hf : ρ.Fits f) : ρ f.own = some .scope ∨ ρ f.own = some .module := by
  unfold own
  cases hs : f.scopes with
  | nil => exact .inr hf.2.1
  | cons s rest => exact .inl (hf.1 s (hs ▸ List.mem_cons_self ..))

theorem fits_caller (hf : ρ.Fits f) : ρ.Fits f.caller := hf.2.2

theorem fits_handling {r : Ref} (hf : ρ.Fits f) (hr : ρ r = some .exception) :
    ρ.Fits { f with handling := some r } :=
  ⟨hf.1, hf.2.1, fun _ hs => Option.some.inj hs ▸ hr⟩

theorem safe_undefined {id message : Text} :
    Safe R ρ (fun _ => undefined id message) Roles.Fits :=
  .raise (by simp [Roles.fits_thrown, Thrown.plain])

theorem safe_lookup (hf : ρ.Fits f) : Safe R ρ (fun _ => f.lookup id) Roles.Fits := by
  refine .heap_bind fun h hd => ?_
  split
  · next v hv => exact .pure (Heap.fits_inScopes hd hf.1 hv)
  · exact .error
  · exact safe_undefined
  · split
    · next v hv => exact .pure (Names.fits_get? (hd.fits_names hf.2.1) v hv)
    · split
      · next v hv => exact .pure (fits_builtin? id v hv)
      · exact safe_undefined

theorem safe_bind (hf : ρ.Fits f) (hv : ρ.Fits v) :
    Safe R ρ (fun _ => f.bind id v) Roles.Fits :=
  .updateNames (fits_own hf) fun _ hn => Names.fits_set hn hv

theorem safe_unbind (hf : ρ.Fits f) : Safe R ρ (fun _ => f.unbind id) Roles.Fits :=
  .updateNames (fits_own hf) fun _ hn => Names.fits_erase hn

theorem safe_locate {F : P.Variant → Proc α} {row : Nat} {Q : Roles P → α → Prop}
    (hF : Safe R ρ F Q) : Safe R ρ (fun v => f.locate row (F v)) Q :=
  hF.handle fun ρ₁ _ r hr => (Safe.modify fun m hs => by
    obtain ⟨e, ho, he⟩ := hs.heap.exception hr
    simp only [Heap.locate, ho]
    refine ⟨.of_heap (by simp [Heap.set]) fun s hρ => Heap.get?_set_of_ne ?_,
      hs.of_heap (hs.heap.set hr he)⟩
    rintro rfl
    simp [hr] at hρ).bind fun _ h₂ _ _ => .throw (h₂ _ _ hr)

end Frame

/-! ## Arguments -/

namespace Arguments

variable {title : Text} {p : Params}

theorem safe_bindNamed {all named bound extra : Names} (hn : ρ.Fits named) (hb : ρ.Fits bound)
    (he : ρ.Fits extra) :
    Safe R ρ (fun _ => bindNamed title p all named bound extra) Roles.Fits := by
  induction named generalizing bound extra with
  | nil => exact .pure (by simpa using ⟨hb, he⟩)
  | cons q rest ih =>
    obtain ⟨id, v⟩ := q
    simp only [Roles.fits_cons, Roles.fits_prod] at hn
    refine .ite (fun _ => .ite (fun _ => .error) fun _ =>
      ih hn.2 (Names.fits_set hb hn.1.2) he) fun _ => ?_
    refine .ite (fun _ => ih hn.2 hb ?_) fun _ => .ite (fun _ => .error) fun _ => .error
    simp [he, hn]

theorem fits_supply {defaults bound : Names} (params : List Param) (hd : ρ.Fits defaults)
    (hb : ρ.Fits bound) : ρ.Fits (supply defaults bound params).1 := by
  induction params generalizing bound with
  | nil => exact hb
  | cons q rest ih =>
    simp only [supply]
    split
    · exact ih hb
    · split
      · next v hv => exact ih (Names.fits_set hb (Names.fits_get? hd v hv))
      · exact ih hb

theorem safe_bind {defaults named : Names} {args : List Value} (hd : ρ.Fits defaults)
    (ha : ρ.Fits args) (hn : ρ.Fits named) :
    Safe R ρ (fun _ => bind title p defaults args named) Roles.Fits := by
  have hz : ρ.Fits ((ids (p.positional ++ p.plain)).zip args : Names) := fun q hq =>
    ⟨Roles.fits_text _, ha _ (List.of_mem_zip hq).2⟩
  refine (safe_bindNamed hn hz Roles.fits_nil).bind fun ρ₁ h₁ x hx => ?_
  obtain ⟨bound, extra⟩ := x
  simp only [Roles.fits_prod] at hx
  refine .ite (fun _ => .error) fun _ => .ite (fun _ => .error) fun _ =>
    .ite (fun _ => .error) fun _ => ?_
  have hb := fits_supply p.named (hd.mono h₁)
    (fits_supply (p.positional ++ p.plain) (hd.mono h₁) hx.1)
  have ht : ρ₁.Fits (Value.tuple none (args.drop (p.positional ++ p.plain).length)) := by
    simpa using (ha.mono h₁).of_subset fun _ => List.mem_of_mem_drop
  dsimp only
  split
  · have hx₂ : ρ₁.Fits (extra.map fun q => (Value.str q.1, q.2)) := fun q hq => by
      obtain ⟨n, hn, rfl⟩ := List.mem_map.1 hq
      simpa using (hx.2 n hn).2
    refine (Eval.safe_newDict hx₂).bind fun ρ₂ h₂ d hd => .pure (Names.fits_set (.mono ?_ h₂) hd)
    split
    · exact Names.fits_set hb ht
    · exact hb
  · refine .pure ?_
    split
    · exact Names.fits_set hb ht
    · exact hb

end Arguments

namespace Eval

/-! ## New exceptions -/

theorem fits_fieldsOf {fields : List (String × Option Value)} (hf : ∀ p ∈ fields, ρ.Fits p.2) :
    ρ.Fits (fieldsOf fields) := by
  intro q hq
  obtain ⟨p, hp, hq⟩ := List.mem_filterMap.1 hq
  obtain ⟨v, hv, rfl⟩ := Option.map_eq_some_iff.1 hq
  exact ⟨Roles.fits_text _, hf p hp v hv⟩

theorem fits_something? {o : Option Value} (ho : ρ.Fits o) : ρ.Fits (something? o) := by
  intro v hv
  obtain ⟨w, hw, hv⟩ := Option.bind_eq_some_iff.1 hv
  cases w <;> simp only [reduceCtorEq, Option.some.injEq] at hv <;> exact hv ▸ ho _ hw

theorem fits_systemError {c : ExceptionClass} {args : List Value} (ha : ρ.Fits args) :
    ρ.Fits (systemError c args) := by
  unfold systemError
  split
  · next number reason paths =>
    simp only [Roles.fits_cons] at ha
    split
    · simpa using ha
    · have hp := fits_something? ha.2.2.head?
      refine ⟨Roles.Fits.ite (by simp [ha]) (by simp [ha]), fits_fieldsOf ?_⟩
      simp only [List.forall_mem_cons, Roles.fits_some]
      refine ⟨ha.1, ha.2.1, Roles.Fits.ite Roles.fits_none hp, Roles.Fits.ite
        (fits_something? (ha.2.2.getElem? 2)) Roles.fits_none, Roles.Fits.ite (hp.filter _)
        Roles.fits_none, ?_⟩
      simp
  · simpa using ha

theorem safe_scriptError {c : ExceptionClass} {args : List Value} (ha : ρ.Fits args) :
    Safe R ρ (fun _ => scriptError c args) Roles.Fits := by
  have hown : ρ.Fits (fieldsOf [("msg", args.head?)]) :=
    fits_fieldsOf (by simpa using ha.head?)
  unfold scriptError
  dsimp only
  split
  · next place =>
    have hplace : ρ.Fits place := (by simpa using ha : _ ∧ _).2
    refine (safe_items hplace).bind fun ρ₁ h₁ info hi => .ite (fun _ => .error) fun _ =>
      .ite (fun _ => .error) fun _ => .ite (fun _ => .error) fun _ => .pure ?_
    refine ⟨ha.mono h₁, Roles.fits_append.2 ⟨hown.mono h₁, ?_⟩⟩
    intro q hq
    obtain ⟨p, hp, rfl⟩ := List.mem_map.1 hq
    exact ⟨Roles.fits_text _, hi _ (List.of_mem_zip hp).2⟩
  · exact .pure ⟨ha, hown⟩

theorem safe_checkArgument {index : Nat} {kind : ArgumentKind} {v : Value} :
    Safe R ρ (fun _ => checkArgument index kind v) Roles.Fits := by
  unfold checkArgument
  split
  · exact .pure (by simp)
  · exact safe_typeName.bind fun _ _ _ _ => .error
  · exact .pure (by simp)
  · split
    · exact safe_position.bind fun _ _ _ _ => .pure (by simp)
    · exact safe_typeName.bind fun _ _ _ _ => .error

theorem safe_checkArguments {index : Nat} {args : List (ArgumentKind × Value)} :
    Safe R ρ (fun _ => checkArguments index args) Roles.Fits := by
  induction args generalizing ρ index with
  | nil => exact .pure (by simp)
  | cons p rest ih => exact safe_checkArgument.bind fun _ _ _ _ => ih

theorem safe_unicodeFault {c : ExceptionClass} {slots : List (String × ArgumentKind)}
    {args : List Value} (ha : ρ.Fits args) :
    Safe R ρ (fun _ => unicodeFault c slots args) Roles.Fits := by
  refine .ite (fun _ => .error) fun _ => safe_checkArguments.bind fun ρ₁ h₁ _ _ => ?_
  split
  · exact safe_typeName.bind fun _ _ _ _ => .error
  · refine .pure ⟨ha.mono h₁, fun q hq => ?_⟩
    obtain ⟨p, hp, rfl⟩ := List.mem_map.1 hq
    exact ⟨Roles.fits_text _, (ha _ (List.of_mem_zip hp).2).mono h₁⟩

theorem safe_checkGroup {index : Nat} {vs : List Value} :
    Safe R ρ (fun _ => checkGroup h index vs) Roles.Fits := by
  induction vs generalizing ρ index with
  | nil => exact .pure (by simp)
  | cons v vs ih =>
    unfold checkGroup
    split
    · exact ih.bind fun _ _ _ _ => .pure (by simp)
    · exact .error

theorem safe_exceptionGroup {c : ExceptionClass} {args : List Value} (ha : ρ.Fits args) :
    Safe R ρ (fun _ => exceptionGroup c args) Roles.Fits := by
  unfold exceptionGroup
  dsimp only
  split
  · next message members =>
    refine .heap_bind fun h hd => ?_
    have hmembers : ρ.Fits members := (by simpa using ha : ρ.Fits members)
    have hm := Value.fits_items? hd hmembers
    split
    · exact .error
    · exact .error
    · next vs _ hvs =>
      have hvs : ρ.Fits vs := by
        split at hvs
        · nomatch hvs
        · nomatch hvs
        · exact hm _ hvs
      refine safe_checkGroup.bind fun ρ₁ h₁ _ _ => .ite (fun _ => .error) fun _ => .pure ?_
      refine ⟨ha.mono h₁, fits_fieldsOf ?_⟩
      simpa using hvs.mono h₁
  · exact safe_typeName.bind fun _ _ _ _ => .error
  · exact .error

theorem safe_checkKeywords {c : ExceptionClass} {named : Names} :
    Safe R ρ (fun _ => checkKeywords c named) Roles.Fits := by
  unfold checkKeywords
  split
  · exact .ite (fun _ => .pure (by simp)) fun _ => .error
  · split
    · exact .pure (by simp)
    · exact .error

theorem safe_thrownOf {c : ExceptionClass} {args : List Value} {named : Names}
    (ha : ρ.Fits args) (hn : ρ.Fits named) :
    Safe R ρ (fun _ => thrownOf c args named) Roles.Fits := by
  refine .ite (fun _ => .pure (fits_systemError ha)) fun _ => ?_
  refine .ite (fun _ => safe_scriptError ha) fun _ => ?_
  refine .ite (fun _ => safe_exceptionGroup ha) fun _ => ?_
  refine .ite (fun _ => safe_unicodeFault ha) fun _ => ?_
  refine .ite (fun _ => safe_unicodeFault ha) fun _ => ?_
  refine .ite (fun _ => safe_unicodeFault ha) fun _ => ?_
  refine .ite (fun _ => .pure ⟨ha, ?_⟩) fun _ => .ite (fun _ => .pure ⟨ha, ?_⟩) fun _ =>
    .ite (fun _ => .pure ⟨ha, ?_⟩) fun _ => .pure ⟨ha, hn⟩
  · refine Roles.fits_append.2 ⟨fits_fieldsOf ?_, hn⟩
    split <;> simp_all
  · refine fits_fieldsOf ?_
    split <;> simp_all
  · exact fits_fieldsOf (by simpa using ha.head?)

theorem safe_instantiate {c : ExceptionClass} {args : List Value} {named : Names}
    (ha : ρ.Fits args) (hn : ρ.Fits named) :
    Safe R ρ (fun _ => instantiate c args named) Roles.Fits :=
  safe_checkKeywords.bind fun _ h₁ _ _ => (safe_thrownOf (ha.mono h₁) (hn.mono h₁)).bind
    fun _ _ e he => (Safe.alloc .exception (.exception e) he).bind
      fun _ _ _ hr => .pure (by simpa using hr)

/-! ## Functions, methods and attributes -/

theorem safe_textToInt {base : Nat} {t : Text} :
    Safe R ρ (fun _ => textToInt base t) Roles.Fits := by
  unfold textToInt
  split
  · exact .pure (by simp)
  · exact .error
  · exact .error

theorem safe_toInt {v : Value} : Safe R ρ (fun _ => toInt v) Roles.Fits := by
  unfold toInt
  split
  · exact safe_textToInt
  · split
    · exact .pure (by simp)
    · split
      · exact .pure (by simp)
      · exact .ite (fun _ => .error) fun _ => .error
    · exact safe_typeName.bind fun _ _ _ _ => .error

theorem safe_whole {v : Value} : Safe R ρ (fun _ => whole v) Roles.Fits := by
  unfold whole
  split
  · exact .pure (by simp)
  · exact safe_typeName.bind fun _ _ _ _ => .error

theorem safe_slots {title : Text} {positional : Nat} {ids : List String} {args : List Value}
    {named : Names} (ha : ρ.Fits args) (hn : ρ.Fits named) :
    Safe R ρ (fun _ => slots title positional ids args named) Roles.Fits := by
  refine .ite (fun _ => .error) fun _ => ?_
  dsimp only
  split
  · exact .error
  · split
    · exact .error
    · refine .pure fun o ho => ?_
      obtain ⟨p, -, rfl⟩ := List.mem_map.1 ho
      intro v hv
      rcases Option.or_eq_some_iff.1 hv with hv | ⟨-, hv⟩
      · exact ha.getElem? _ v hv
      · exact Names.fits_get? hn v hv

theorem safe_toText {args : List Value} {named : Names} (ha : ρ.Fits args)
    (hn : ρ.Fits named) : Safe R ρ (fun _ => toText args named) Roles.Fits := by
  unfold toText
  dsimp only
  refine (safe_slots ha hn).bind fun ρ₁ h₁ slots _ => ?_
  split
  · refine (Safe.forM fun ρ₂ _ p _ => ?_).bind fun _ _ _ _ => ?_
    · split
      · exact .pure (by simp)
      · exact .pure (by simp)
      · exact safe_typeName.bind fun _ _ _ _ => .error
    · split
      · exact .pure (by simp)
      · refine .ite (fun _ => Safe.text.bind fun _ _ _ _ => .pure (by simp)) fun _ => ?_
        split
        · exact .error
        · exact safe_typeName.bind fun _ _ _ _ => .error
  · exact .pure (by simp)

theorem safe_toWhole {args : List Value} {named : Names} (ha : ρ.Fits args)
    (hn : ρ.Fits named) : Safe R ρ (fun _ => toWhole args named) Roles.Fits := by
  refine (safe_slots ha hn).bind fun ρ₁ h₁ slots _ => ?_
  split
  · exact .pure (by simp)
  · exact .error
  · exact safe_toInt
  · refine safe_whole.bind fun _ _ _ _ => .ite (fun _ => .error) fun _ => ?_
    split
    · exact safe_textToInt
    · exact .error
  · exact .pure (by simp)

theorem safe_positionalOnly {title : Text} {named : Names} :
    Safe R ρ (fun _ => positionalOnly title named) Roles.Fits :=
  .ite (fun _ => .pure (by simp)) fun _ => .error

theorem safe_native {f : Native} {args : List Value} {named : Names} (ha : ρ.Fits args)
    (hn : ρ.Fits named) : Safe R ρ (fun _ => native f args named) Roles.Fits := by
  unfold native
  split
  · exact safe_toText ha hn
  · exact safe_toWhole ha hn
  · refine safe_positionalOnly.bind fun _ _ _ _ => ?_
    split
    · refine .heap_bind fun _ _ => ?_
      split
      · exact .ite (fun _ => .error) fun _ => .pure (by simp)
      · exact safe_typeName.bind fun _ _ _ _ => .error
    · exact .error
    · exact .error
    · exact safe_whole.bind fun _ _ _ _ => .pure (by simp)
    · exact safe_whole.bind fun _ _ _ _ => safe_whole.bind fun _ _ _ _ => .pure (by simp)
    · exact safe_whole.bind fun _ _ _ _ => safe_whole.bind fun _ _ _ _ =>
        safe_whole.bind fun _ _ _ _ => .ite (fun _ => .error) fun _ => .pure (by simp)
    · exact .error
    · exact .pure (by simp)

theorem safe_joinTexts {separator : Text} {index : Nat} {vs : List Value} :
    Safe R ρ (fun _ => joinTexts separator index vs) Roles.Fits := by
  induction vs generalizing ρ index with
  | nil => exact .pure (by simp)
  | cons v vs ih =>
    unfold joinTexts
    split
    · next h => exact nomatch h
    · next t vs' h =>
      obtain ⟨rfl, rfl⟩ := List.cons.inj h
      exact ih.bind fun _ _ _ h => .pure (by simpa using h)
    · exact safe_typeName.bind fun _ _ _ _ => .error

theorem safe_method {receiver : Value} {m : Method} {args : List Value} {named : Names}
    (hr : ρ.Fits receiver) (ha : ρ.Fits args) :
    Safe R ρ (fun _ => method receiver m args named) Roles.Fits := by
  refine .heap_bind fun h hd => safe_positionalOnly.bind fun ρ₁ h₁ _ _ => ?_
  split
  · exact .pure (by simp)
  · split
    · exact safe_joinTexts.bind fun _ _ _ _ => .pure (by simp)
    · exact .error
  · next r v =>
    have hr : ρ r = some .list := by simpa using hr
    refine (Safe.setItems (h₁ _ _ hr) ?_).bind
      fun _ _ _ _ => .pure (by simp)
    exact Roles.fits_append.2 ⟨(hd.fits_items hr).mono h₁, ha.mono h₁⟩
  · exact .pure (by simpa using hr.mono h₁)
  · next r key rest =>
    have he (key : Value) : ρ.Fits ((h.dict r).get? key) :=
      Entries.fits_get? (hd.fits_entries (by simpa using hr))
    split
    · exact safe_checkKey.bind fun _ h₂ _ _ =>
        .pure ((((he _).mono h₁).mono h₂).getD (by simp))
    · next default =>
      have hdef : ρ.Fits default := (by simpa using ha : _ ∧ _).2
      exact safe_checkKey.bind fun _ h₂ _ _ =>
        .pure ((((he _).mono h₁).mono h₂).getD ((hdef.mono h₁).mono h₂))
    · exact .error
  · exact .error
  · exact .error
  · exact .error
  · exact .error
  · exact .error

theorem safe_unboundMethod {owner : Native} {m : Method} {args : List Value} {named : Names}
    (ha : ρ.Fits args) : Safe R ρ (fun _ => unboundMethod owner m args named) Roles.Fits := by
  unfold unboundMethod
  dsimp only
  split
  · exact .error
  · simp only [Roles.fits_cons] at ha
    refine safe_typeName.bind fun ρ₁ h₁ _ _ => .ite (fun _ => ?_) fun _ => ?_
    · exact safe_method (ha.1.mono h₁) (ha.2.mono h₁)
    · exact safe_typeName.bind fun _ _ _ _ => .error

theorem safe_noAttribute {v : Value} {id : Text} {Q : Roles P → α → Prop} (hv : ρ.Fits v) :
    Safe R ρ (fun _ => (noAttribute v id : Proc α)) Q :=
  .heap_bind fun _ _ => .raise (by simp [Roles.fits_thrown, Thrown.plain, hv])

end Eval

namespace Thrown

variable {e : Thrown} {id : Text}

theorem fits_attribute? (he : ρ.Fits e) : ρ.Fits (e.attribute? id) := by
  unfold attribute?
  split
  · next v hv =>
    obtain ⟨p, hp, rfl⟩ := Option.map_eq_some_iff.1 hv
    simpa using (he.2 p (List.mem_of_find?_eq_some hp)).2
  · refine .ite (by simpa using he.1) (.ite (by simp) (.ite (by simp) ?_))
    split
    · exact .ite (by simp) (by simp)
    · simp

theorem fits_setField {v : Value} (he : ρ.Fits e) (hv : ρ.Fits v) : ρ.Fits (e.setField id v) :=
  ⟨he.1, Roles.fits_cons.2 ⟨⟨Roles.fits_text _, hv⟩,
    he.2.of_subset fun _ hp => (List.mem_filter.1 hp).1⟩⟩

end Thrown

namespace Eval

theorem safe_attr {v : Value} {id : Text} (hv : ρ.Fits v) :
    Safe R ρ (fun _ => attr v id) Roles.Fits := by
  unfold attr
  split
  · exact .pure (by simpa using hv)
  · refine .heap_bind fun h hd => ?_
    dsimp only
    split
    · next w hw =>
      refine .pure ?_
      rcases Option.or_eq_some_iff.1 hw with hw | ⟨-, hw⟩
      · split at hw
        · exact Names.fits_get? (hd.fits_names (by simpa using hv)) _ hw
        · obtain ⟨e, he, hw⟩ := Option.bind_eq_some_iff.1 hw
          exact Thrown.fits_attribute? (hd.fits_thrown? (by simpa using hv) _ he) _ hw
        · obtain ⟨m, -, rfl⟩ := Option.map_eq_some_iff.1 hw
          simp
        · nomatch hw
      · split at hw
        · obtain ⟨t, -, rfl⟩ := Option.map_eq_some_iff.1 hw
          simp
        · nomatch hw
    · exact safe_noAttribute hv

theorem safe_setAttr {base : Value} {id : Text} {v : Value} (hb : ρ.Fits base)
    (hv : ρ.Fits v) : Safe R ρ (fun _ => setAttr base id v) Roles.Fits := by
  unfold setAttr
  split
  · exact .updateNames (.inr (by simpa using hb)) fun _ hn => Names.fits_set hn hv
  · next r =>
    have hr : ρ r = some .exception := by simpa using hb
    refine .heap_bind fun h hd => ?_
    have ht := hd.fits_thrown? hr
    split
    · next e he =>
      have put (ρ₁ : Roles P) (h₁ : ρ ≤ ρ₁) (e : Thrown) (he : ρ₁.Fits e) :
          Safe R ρ₁ (fun _ => Proc.put r (.exception e)) Roles.Fits := .put (h₁ _ _ hr) he
      split
      · refine (safe_items hv).bind fun ρ₁ h₁ vs hvs => Safe.bind (Q := Roles.Fits) (.pure ?_)
          fun ρ₂ h₂ e he => put ρ₂ (Roles.le_trans h₁ h₂) e he
        exact ⟨hvs, (ht e he).2.mono h₁⟩
      · exact (Safe.pure (Q := Roles.Fits) (Thrown.fits_setField (ht e he) hv)).bind put
    · exact safe_noAttribute hb
  · exact safe_noAttribute hb

end Eval

end Stencil
