import Stencil.Eval.Call
import Stencil.Proofs.Eval.Format
import Stencil.Proofs.Machine.Calm

/-!
# What is built in is calm

Operators, built-in functions, methods, attributes, new exceptions, names and arguments: all of them
go on in one go, and an exception that one of them raises is a new one.

## Main results

* `Eval.calm_binary`, `Eval.calm_compare`, `Eval.calm_index`, `Eval.calm_setIndex` — operators and
  items.
* `Eval.calm_native`, `Eval.calm_method`, `Eval.calm_attr`, `Eval.calm_setAttr` — what is built in.
* `Eval.calm_instantiate` — new exceptions.
* `Frame.calm_lookup`, `Frame.calm_bind`, `Arguments.calm_bind` — names and arguments.
-/

namespace Stencil

open Script Proc

variable {K : Code → Prop} {α : Type}

theorem Numeral.calm_value (n : Numeral) : n.value.Calm K := by
  cases n with
  | int i => exact .pure
  | float x => exact .ite (.bind .mark fun _ => .pure) .pure

namespace Eval

/-! ## Operators -/

theorem calm_typeName {v : Value} : (typeName v).Calm K := .heap fun _ => .pure

theorem calm_newList {vs : List Value} : (newList vs).Calm K :=
  .bind (.allocPlain rfl fun _ h => nomatch h) fun _ => .pure

theorem quiet_newList {vs : List Value} : (newList vs).Quiet := .bind .alloc fun _ => .pure

theorem calm_newDict {es : Entries} : (newDict es).Calm K :=
  .bind (.allocPlain rfl fun _ h => nomatch h) fun _ => .pure

theorem quiet_newDict {es : Entries} : (newDict es).Quiet := .bind .alloc fun _ => .pure

theorem calm_newTuple {vs : List Value} : (newTuple vs).Calm K := .bind .mark fun _ => .pure

theorem quiet_newTuple {vs : List Value} : (newTuple vs).Quiet := .bind .alloc fun _ => .pure

theorem calm_unsupported {sign : Text} {x y : Value} : (unsupported sign x y : Proc α).Calm K :=
  .bind calm_typeName fun _ => .bind calm_typeName fun _ => .error

theorem calm_arithmetic {op : BinaryOp} {a b : Numeral} : (arithmetic op a b).Calm K := by
  unfold arithmetic
  split
  · exact Numeral.calm_value _
  · exact .error
  · exact .error

theorem calm_position {type : ExceptionClass} {i : Int} : (position type i).Calm K :=
  .ite .error .pure

theorem calm_checkRoom {isText : Bool} {length : Nat} {n : Int} :
    (checkRoom isText length n).Calm K := .ite .error (.ite (.raise rfl) .pure)

theorem calm_repeated? {h : Heap} {v : Value} {n : Int} {p : Proc Value}
    (hp : repeated? h v n = some p) : p.Calm K := by
  unfold repeated? at hp
  split at hp <;> simp only [Option.some.injEq, reduceCtorEq] at hp <;> subst hp
  · exact calm_checkRoom.bind fun _ => .pure
  · exact calm_checkRoom.bind fun _ => calm_newTuple
  · exact calm_checkRoom.bind fun _ => calm_newList

theorem calm_repetition {sequence times : Value} : (repetition sequence times).Calm K := by
  unfold repetition
  split
  · refine calm_position.bind fun _ => .heap fun h => ?_
    split
    · next hp => exact calm_repeated? hp
    · exact .pure
  · exact calm_typeName.bind fun _ => .error

theorem calm_cannotConcatenate {type : Text} {y : Value} : (cannotConcatenate type y).Calm K :=
  calm_typeName.bind fun _ => .error

theorem calm_notIterable {v : Value} : (notIterable v : Proc α).Calm K :=
  calm_typeName.bind fun _ => .error

theorem calm_items {v : Value} : (items v).Calm K := .heap fun h => by
  split
  · exact .pure
  · exact calm_notIterable

theorem calm_formatted {t : Text} {v : Value} : (formatted t v).Calm K := .heap fun h => by
  split
  · exact .pure
  · next e he =>
    obtain ⟨c, t, rfl⟩ := Format.tells_fill h _ _ e he
    exact .raise rfl

theorem calm_binaryAs {sign : Text} {op : BinaryOp} {x y : Value} :
    (binaryAs sign op x y).Calm K := by
  unfold binaryAs
  split
  · exact calm_arithmetic
  · split
    · exact .pure
    · exact calm_newTuple
    · exact .heap fun _ => calm_newList
    · exact calm_cannotConcatenate
    · exact calm_cannotConcatenate
    · exact calm_cannotConcatenate
    · exact calm_formatted
    · exact .ite calm_repetition (.ite calm_repetition calm_unsupported)
    · exact calm_unsupported

theorem calm_binary {op : BinaryOp} {x y : Value} : (binary op x y).Calm K := calm_binaryAs

theorem calm_update {op : BinaryOp} {x y : Value} : (update op x y).Calm K := by
  unfold update
  split
  · exact calm_items.bind fun _ => .heap fun _ => Calm.setItems.bind fun _ => .pure
  · split
    · exact calm_position.bind fun _ => .heap fun _ => calm_checkRoom.bind fun _ =>
        .heap fun _ => Calm.setItems.bind fun _ => .pure
    · exact calm_binaryAs
  · exact calm_binaryAs

theorem calm_unary {op : UnaryOp} {v : Value} : (unary op v).Calm K := by
  unfold unary
  split
  · exact .heap fun _ => .pure
  · exact .pure
  · split
    · exact Numeral.calm_value _
    · exact Numeral.calm_value _
  · split
    · exact Numeral.calm_value _
    · exact Numeral.calm_value _
  · exact calm_typeName.bind fun _ => .error
  · exact calm_typeName.bind fun _ => .error

theorem calm_checkKey {v : Value} : (checkKey v).Calm K := by
  unfold checkKey
  split
  · exact .error
  · exact .pure

theorem calm_decided {answer : Option Bool} : (decided answer).Calm K := by
  unfold decided
  split
  · exact .pure
  · exact .error

theorem calm_member {x collection : Value} : (member x collection).Calm K := .heap fun h => by
  split
  · split
    · exact .pure
    · exact .error
  · exact calm_checkKey.bind fun _ => .pure
  · split
    · refine calm_checkKey.bind fun _ => ?_
      split
      · exact calm_decided
      · exact .pure
    · exact .pure
  · split
    · exact .pure
    · split
      · exact .pure
      · exact .pure
    · exact .pure
  · split
    · exact calm_decided
    · exact .error

theorem calm_compare {op : CompareOp} {x y : Value} : (compare op x y).Calm K := .heap fun h => by
  split
  · exact calm_decided
  · exact calm_decided.bind fun _ => .pure
  · exact .pure
  · exact .pure
  · exact calm_member
  · exact calm_member.bind fun _ => .pure
  · split
    · exact .pure
    · exact .error
    · exact .error

/-! ## Items -/

theorem calm_notSubscriptable {v : Value} : (notSubscriptable v : Proc α).Calm K :=
  calm_typeName.bind fun _ => by
    split
    · exact .ite .error .error
    · exact .error
    · exact .error

theorem calm_itemOr {o : Option Value} {message : Text} :
    Calm K (match o with
      | some v => return v
      | none => Proc.error .indexError message : Proc Value) := by
  split
  · exact .pure
  · exact .error

theorem calm_itemAt {kind : Text} {length : Nat} {item? : Nat → Option Value} {key : Value} :
    (itemAt kind length item? key).Calm K := by
  unfold itemAt
  split
  · exact .ite (.bind .pure fun _ => calm_itemOr) (calm_position.bind fun _ => calm_itemOr)
  · exact calm_typeName.bind fun _ => .ite .error .error

theorem calm_bound {v : Value} : (bound v).Calm K := by
  unfold bound
  split
  · exact .pure
  · split
    · exact .pure
    · exact .error

theorem calm_bounds {length : Nat} {lower upper step : Value} :
    (bounds length lower upper step).Calm K :=
  calm_bound.bind fun _ => .ite .error (calm_bound.bind fun _ => calm_bound.bind fun _ => .pure)

theorem calm_run {base lower upper step : Value} : (run base lower upper step).Calm K :=
  .heap fun h => by
    split
    · exact calm_bounds.bind fun _ => calm_newList
    · exact calm_bounds.bind fun _ => .ite .pure calm_newTuple
    · exact calm_bounds.bind fun _ => .pure
    · exact calm_bounds.bind fun _ => .pure
    · exact .error
    · exact calm_notSubscriptable

theorem calm_index {base key : Value} : (index base key).Calm K := .heap fun h => by
  split
  · exact calm_run
  · split
    · exact calm_itemAt
    · exact calm_itemAt
    · exact calm_itemAt
    · exact calm_itemAt
    · refine calm_checkKey.bind fun _ => ?_
      split
      · exact .pure
      · exact .raise rfl
    · exact calm_notSubscriptable

theorem calm_withRun {b : Bounds} {items added : List Value} : (withRun b items added).Calm K :=
  .ite .pure (.ite .pure .error)

theorem calm_assignable {v : Value} {b : Bounds} : (assignable v b).Calm K := .heap fun h => by
  split
  · exact .pure
  · exact .error

theorem calm_setIndex {base key v : Value} : (setIndex base key v).Calm K := .heap fun h => by
  split
  · exact calm_bounds.bind fun _ => calm_assignable.bind fun _ => calm_withRun.bind fun _ =>
      Calm.setItems
  · split
    · refine calm_position.bind fun _ => ?_
      split
      · exact Calm.setItems
      · exact .error
    · exact .error
  · exact calm_checkKey.bind fun _ => .setEntries
  · exact .error

/-! ## Iteration -/

theorem calm_start {v : Value} : (start v).Calm K := .heap fun h => by
  split
  · exact .pure
  · exact calm_notIterable

theorem calm_advance {c : Cursor} : (advance c).Calm K := by
  unfold advance
  split
  · exact .pure
  · exact .pure
  · exact .heap fun _ => .pure
  · exact .heap fun _ => .ite .pure .error
  · exact .pure
  · exact .pure

theorem calm_unpack {count : Nat} {v : Value} : (unpack count v).Calm K := .heap fun h => by
  split
  · exact calm_typeName.bind fun _ => .error
  · exact .ite .pure (.ite .error .error)

end Eval

/-! ## Names and arguments -/

namespace Frame

variable {f : Frame} {id : Text} {v : Value}

theorem calm_undefined {message : Text} : (undefined id message).Calm K := .raise rfl

theorem calm_lookup : (f.lookup id).Calm K := .heap fun h => by
  split
  · exact .pure
  · exact .error
  · exact calm_undefined
  · split
    · exact .pure
    · split
      · exact .pure
      · exact calm_undefined

theorem calm_bind : (f.bind id v).Calm K := .updateNames

theorem quiet_bind : (f.bind id v).Quiet := .modify

end Frame

namespace Arguments

variable {title : Text} {p : Params}

theorem calm_bindNamed {all named bound extra : Names} :
    (bindNamed title p all named bound extra).Calm K := by
  induction named generalizing bound extra with
  | nil => exact .pure
  | cons q rest ih => exact .ite (.ite .error ih) (.ite ih (.ite .error .error))

theorem calm_bind {defaults named : Names} {args : List Value} :
    (bind title p defaults args named).Calm K := by
  refine calm_bindNamed.bind fun _ => .ite .error (.ite .error (.ite .error ?_))
  dsimp only
  split
  · exact Eval.calm_newDict.bind fun _ => .pure
  · exact .pure

end Arguments

theorem Closure.calm_enter {c : Closure} {args : List Value} {named : Names} :
    (c.enter args named).Calm K :=
  Arguments.calm_bind.bind fun _ => .allocPlain rfl fun _ h => nomatch h

theorem Capability.calm_arguments {c : Capability} {args : List Value} {named : Names} :
    (c.arguments args named).Calm K := Arguments.calm_bind.bind fun _ => .pure

theorem Interp.calm_enter {I : Interp} {caller : Caller} : (I.enter caller).Calm K :=
  .ite .error .pure

namespace Eval

/-! ## New exceptions -/

theorem traceback_systemError {c : ExceptionClass} {args : List Value} :
    (systemError c args).traceback = [] := by
  unfold systemError
  split
  · split <;> rfl
  · rfl

theorem calm_scriptError {c : ExceptionClass} {args : List Value} :
    (scriptError c args).Calm K := by
  unfold scriptError
  dsimp only
  split
  · exact calm_items.bind fun _ => .ite .error (.ite .error (.ite .error .pure))
  · exact .pure

theorem calm_checkArgument {index : Nat} {kind : ArgumentKind} {v : Value} :
    (checkArgument index kind v).Calm K := by
  unfold checkArgument
  split
  · exact .pure
  · exact calm_typeName.bind fun _ => .error
  · exact .pure
  · split
    · exact calm_position.bind fun _ => .pure
    · exact calm_typeName.bind fun _ => .error

theorem calm_checkArguments {index : Nat} {args : List (ArgumentKind × Value)} :
    (checkArguments index args).Calm K := by
  induction args generalizing index with
  | nil => exact .pure
  | cons p rest ih => exact calm_checkArgument.bind fun _ => ih

theorem calm_unicodeFault {c : ExceptionClass} {slots : List (String × ArgumentKind)}
    {args : List Value} : (unicodeFault c slots args).Calm K := by
  refine .ite .error (calm_checkArguments.bind fun _ => ?_)
  split
  · exact calm_typeName.bind fun _ => .error
  · exact .pure

theorem calm_checkGroup {h : Heap} {index : Nat} {vs : List Value} :
    (checkGroup h index vs).Calm K := by
  induction vs generalizing index with
  | nil => exact .pure
  | cons v vs ih =>
    unfold checkGroup
    split
    · exact ih.bind fun _ => .pure
    · exact .error

theorem calm_exceptionGroup {c : ExceptionClass} {args : List Value} :
    (exceptionGroup c args).Calm K := by
  unfold exceptionGroup
  dsimp only
  split
  · refine .heap fun h => ?_
    split
    · exact .error
    · exact .error
    · exact calm_checkGroup.bind fun _ => .ite .error .pure
  · exact calm_typeName.bind fun _ => .error
  · exact .error

theorem calm_checkKeywords {c : ExceptionClass} {named : Names} :
    (checkKeywords c named).Calm K := by
  unfold checkKeywords
  split
  · exact .ite .pure .error
  · split
    · exact .pure
    · exact .error

theorem calm_thrownOf {c : ExceptionClass} {args : List Value} {named : Names} :
    (thrownOf c args named).Calm K :=
  .ite .pure <| .ite calm_scriptError <| .ite calm_exceptionGroup <| .ite calm_unicodeFault <|
    .ite calm_unicodeFault <| .ite calm_unicodeFault <| .ite .pure <| .ite .pure <| .ite .pure .pure

/-- What an exception of a class makes of its arguments has not been anywhere. -/
theorem ensures_thrownOf {c : ExceptionClass} {args : List Value} {named : Names} :
    (thrownOf c args named).Ensures fun e _ => e.traceback = [] := by
  unfold thrownOf
  dsimp only
  refine .ite (.pure fun _ => traceback_systemError) (.ite ?_ (.ite ?_ ?_))
  · unfold scriptError
    dsimp only
    split
    · exact ensures_bind fun _ => .ite ensures_error (.ite ensures_error (.ite ensures_error
        (.pure fun _ => rfl)))
    · exact .pure fun _ => rfl
  · unfold exceptionGroup
    dsimp only
    split
    · refine ensures_bind fun h => ?_
      split
      · exact ensures_error
      · exact ensures_error
      · exact ensures_bind fun _ => .ite ensures_error (.pure fun _ => rfl)
    · exact ensures_bind fun _ => ensures_error
    · exact ensures_error
  · have fault {slots : List (String × ArgumentKind)} :
        (unicodeFault c slots args).Ensures fun e _ => e.traceback = [] := by
      refine .ite ensures_error (ensures_bind fun _ => ?_)
      split
      · exact ensures_bind fun _ => ensures_error
      · exact .pure fun _ => rfl
    exact .ite fault (.ite fault (.ite fault (.ite (.pure fun _ => rfl) (.ite (.pure fun _ => rfl)
      (.ite (.pure fun _ => rfl) (.pure fun _ => rfl))))))

theorem calm_instantiate {c : ExceptionClass} {args : List Value} {named : Names} :
    (instantiate c args named).Calm K :=
  calm_checkKeywords.bind fun _ => fun m => (calm_thrownOf m).bind (ensures_thrownOf m) fun _ m' he =>
    Calm.bind (.allocThrown he) (fun _ => .pure) m'

/-! ## Functions, methods and attributes -/

theorem calm_textToInt {base : Nat} {t : Text} : (textToInt base t).Calm K := by
  unfold textToInt
  split
  · exact .pure
  · exact .error
  · exact .error

theorem calm_toInt {v : Value} : (toInt v).Calm K := by
  unfold toInt
  split
  · exact calm_textToInt
  · split
    · exact .pure
    · split
      · exact .pure
      · exact .ite .error .error
    · exact calm_typeName.bind fun _ => .error

theorem calm_whole {v : Value} : (whole v).Calm K := by
  unfold whole
  split
  · exact .pure
  · exact calm_typeName.bind fun _ => .error

theorem calm_slots {title : Text} {positional : Nat} {ids : List String} {args : List Value}
    {named : Names} : (slots title positional ids args named).Calm K := by
  refine .ite .error ?_
  dsimp only
  split
  · exact .error
  · split
    · exact .error
    · exact .pure

theorem calm_toText {args : List Value} {named : Names} : (toText args named).Calm K := by
  unfold toText
  dsimp only
  refine calm_slots.bind fun slots => ?_
  split
  · refine (Calm.forM fun p => ?_).bind fun _ => ?_
    · split
      · exact .pure
      · exact .pure
      · exact calm_typeName.bind fun _ => .error
    · split
      · exact .pure
      · refine .ite (Calm.text.bind fun _ => .pure) ?_
        split
        · exact .error
        · exact calm_typeName.bind fun _ => .error
  · exact .pure

theorem calm_toWhole {args : List Value} {named : Names} : (toWhole args named).Calm K := by
  refine calm_slots.bind fun slots => ?_
  split
  · exact .pure
  · exact .error
  · exact calm_toInt
  · refine calm_whole.bind fun _ => .ite .error ?_
    split
    · exact calm_textToInt
    · exact .error
  · exact .pure

theorem calm_positionalOnly {title : Text} {named : Names} : (positionalOnly title named).Calm K :=
  .ite .pure .error

theorem calm_native {f : Native} {args : List Value} {named : Names} :
    (native f args named).Calm K := by
  unfold native
  split
  · exact calm_toText
  · exact calm_toWhole
  · refine calm_positionalOnly.bind fun _ => ?_
    split
    · refine .heap fun _ => ?_
      split
      · exact .ite .error .pure
      · exact calm_typeName.bind fun _ => .error
    · exact .error
    · exact .error
    · exact calm_whole.bind fun _ => .pure
    · exact calm_whole.bind fun _ => calm_whole.bind fun _ => .pure
    · exact calm_whole.bind fun _ => calm_whole.bind fun _ => calm_whole.bind fun _ =>
        .ite .error .pure
    · exact .error
    · exact .pure

theorem calm_joinTexts {separator : Text} {index : Nat} {vs : List Value} :
    (joinTexts separator index vs).Calm K := by
  induction index, vs using joinTexts.induct with
  | case1 index => exact .pure
  | case2 index t vs ih => exact ih.bind fun _ => .pure
  | case3 index v vs hv =>
    rw [joinTexts]
    · exact calm_typeName.bind fun _ => .error
    · exact hv

theorem calm_method {receiver : Value} {m : Method} {args : List Value} {named : Names} :
    (method receiver m args named).Calm K := .heap fun h => calm_positionalOnly.bind fun _ => by
  split
  · exact .pure
  · split
    · exact calm_joinTexts.bind fun _ => .pure
    · exact .error
  · exact Calm.setItems.bind fun _ => .pure
  · exact .pure
  · split
    · exact calm_checkKey.bind fun _ => .pure
    · exact calm_checkKey.bind fun _ => .pure
    · exact .error
  · exact .error
  · exact .error
  · exact .error
  · exact .error
  · exact .error

theorem calm_unboundMethod {owner : Native} {m : Method} {args : List Value} {named : Names} :
    (unboundMethod owner m args named).Calm K := by
  unfold unboundMethod
  dsimp only
  split
  · exact .error
  · exact calm_typeName.bind fun _ => .ite calm_method (calm_typeName.bind fun _ => .error)

theorem calm_noAttribute {v : Value} {id : Text} : (noAttribute v id : Proc α).Calm K :=
  .heap fun _ => .raise rfl

theorem calm_attr {v : Value} {id : Text} : (attr v id).Calm K := by
  unfold attr
  split
  · exact .pure
  · refine .heap fun h => ?_
    dsimp only
    split
    · exact .pure
    · exact calm_noAttribute

/-- What goes into an exception comes from its own state: neither its class nor its traceback
changes. -/
theorem calm_setAttr {base : Value} {id : Text} {v : Value} : (setAttr base id v).Calm K := by
  have changed {m : Machine} {r : Ref} {e e' : Thrown} (he : m.heap.thrown? r = some e)
      (ht : e'.type = e.type) (htb : e'.traceback = e.traceback) :
      (Proc.put r (.exception e')).CalmAt K m := by
    intro A o m' h
    obtain ⟨rfl, rfl⟩ := (goes_of_done rfl).1 h
    refine ⟨.set (fun _ h => nomatch h) ?_ fun _ => ⟨e', rfl⟩, fun _ h => nomatch h⟩
    rintro _ ⟨⟩
    exact ⟨e, he, ht, htb⟩
  have looks (m : Machine) : (items v m).Ensures fun _ m' => m' = m := by
    cases hv : v.items? m.heap <;> simp only [items, bind_eq, Proc.heap, Step.bind, hv]
    · trivial
    · rfl
  unfold setAttr
  split
  · exact .updateNames
  · next r =>
    refine fun m => .heap ?_
    cases he : m.heap.thrown? r with
    | none => exact calm_noAttribute m
    | some e =>
      dsimp only
      split
      · refine (calm_items m).bind (looks m) fun vs m' hm => ?_
        subst hm
        exact changed he rfl rfl
      · exact changed he rfl rfl
  · exact calm_noAttribute

/-! ## What statements and calls need -/

theorem calm_catches {r : Ref} {v : Value} : (catches r v).Calm K := .heap fun h => by
  split
  · exact .pure
  · exact .pure
  · exact .error

/-- A call that waits to be awaited is an object whose code is known. -/
theorem calm_suspend {p : Pending} (hp : ∀ f s, p = .body f s → f.IsKnown K) :
    (suspend p).Calm K := by
  refine .bind (.alloc ⟨fun f hf => ?_, fun _ h => nomatch h⟩) fun _ => .pure
  cases p with
  | body g s =>
    obtain rfl := Option.some.inj hf
    exact hp g s rfl
  | capability c args => nomatch hf
  | finished => nomatch hf

end Eval

namespace Script

theorem calm_conversion {c : Conversion} {v : Value} : (c.apply v).Calm K := by
  cases c with
  | plain => exact .text
  | quoted => exact .quoted
  | ascii => exact Calm.quoted.bind fun _ => .pure

theorem calm_putEntries {es added : Entries} : (putEntries es added).Calm K :=
  (Calm.forM fun _ => Eval.calm_checkKey).bind fun _ => .pure

end Script

end Stencil
