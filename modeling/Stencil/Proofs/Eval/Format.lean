import Stencil.Value.Format

/-!
# What goes wrong while values are put into a text

Whatever goes wrong is told by an exception with a text and nothing else.

## Main results

* `Format.tells_fill` — the exceptions of `Format.fill`.
-/

namespace Stencil

namespace Filling

variable {α β : Type}

/-- What goes wrong is told by a text. -/
def Tells (x : Filling α) : Prop := ∀ e, x = .error e → ∃ c t, e = Thrown.plain c [.str t]

theorem tells_ok (a : α) : Tells (.ok a) := fun _ h => nomatch h

theorem tells_pure (a : α) : Tells (pure a) := tells_ok a

theorem tells_refuse (c : ExceptionClass) (t : Text) : Tells (refuse c t : Filling α) :=
  fun _ h => ⟨c, t, (Except.error.inj h).symm⟩

theorem Tells.bind {x : Filling α} {f : α → Filling β} (hx : Tells x) (hf : ∀ a, Tells (f a)) :
    Tells (x >>= f) := by
  cases x with
  | error e => exact fun _ h => hx _ (congrArg _ (Except.error.inj h))
  | ok a => exact hf a

theorem tells_ite {p : Prop} [Decidable p] {x y : Filling α} (hx : Tells x) (hy : Tells y) :
    Tells (if p then x else y) := by
  split
  · exact hx
  · exact hy

theorem tells_ofWriting (t : Except WritingFault α) : Tells (ofWriting t) := by
  unfold ofWriting
  split
  · exact tells_ok _
  · exact tells_refuse _ _
  · exact tells_refuse _ _

end Filling

open Filling

namespace Supply

theorem tells_next (s : Supply) : Tells s.next := by
  unfold next
  split
  · exact tells_ok _
  · exact tells_refuse _ _

theorem tells_seek (h : Heap) (key : Text) (s : Supply) : Tells (s.seek h key) := by
  unfold seek
  split
  · exact tells_refuse _ _
  · split
    · exact tells_ok _
    · exact tells_refuse .keyError key
  · exact tells_refuse _ _

end Supply

namespace Mark

variable {h : Heap} {m : Mark} {p : Place} {s : Supply} {v : Value}

theorem tells_measure (limit : Nat) (s : Supply) : Tells (measure limit s) := by
  refine (Supply.tells_next s).bind fun x => ?_
  have bounded (i : Int) (s : Supply) (message : Text) :
      Tells (if (limit : Int) < i ∨ i < -(limit : Int) - 1 then
        Filling.refuse .overflowError message else .ok (i, s)) :=
    tells_ite (tells_refuse _ _) (tells_ok _)
  obtain ⟨v, s⟩ := x
  cases v <;> first | exact bounded _ s _ | exact tells_refuse _ _

theorem tells_readWidth : Tells (readWidth m p s) := by
  unfold readWidth
  split
  · split
    · exact (tells_measure _ _).bind fun _ => tells_pure _
    · split
      · split
        · exact tells_pure _
        · exact tells_refuse _ _
      · exact tells_pure _
  · exact tells_pure _

theorem tells_readPrecision : Tells (readPrecision m p s) := by
  unfold readPrecision
  split
  · split
    · split
      · exact (tells_measure _ _).bind fun _ => tells_pure _
      · split
        · exact tells_pure _
        · exact tells_refuse _ _
    · exact tells_pure _
  · exact tells_pure _

theorem tells_read : Tells (read h p s) := by
  unfold read
  -- What follows the name of a key, if there is one.
  extract_lets rest
  have hrest (x : Place × Supply) : Tells (rest x) := by
    refine tells_readWidth.bind fun y => tells_readPrecision.bind fun z => ?_
    dsimp only
    split
    · exact tells_pure _
    · exact tells_refuse _ _
  split
  · split
    · split
      · exact (Supply.tells_seek _ _ _).bind fun _ => (tells_pure _).bind hrest
      · exact (tells_refuse _ _).bind hrest
    · exact (tells_pure _).bind hrest
  · exact (tells_pure _).bind hrest

theorem tells_wholeOf (exact : Bool) : Tells (wholeOf h m exact v) := by
  unfold wholeOf
  dsimp only
  split
  · exact tells_ok _
  · split
    · exact tells_refuse _ _
    · split
      · exact tells_ok _
      · exact tells_ite (tells_refuse _ _) (tells_refuse _ _)
  · exact tells_refuse _ _

theorem tells_doubleOf : Tells (doubleOf h v) := by
  unfold doubleOf
  split
  · exact tells_ok _
  · exact tells_ite (tells_refuse _ _) (tells_ok _)
  · exact tells_refuse _ _

theorem tells_pointOf : Tells (pointOf v) := by
  unfold pointOf
  split
  · exact tells_ok _
  · exact tells_refuse _ _
  · split
    · exact tells_ite (tells_ok _) (tells_refuse _ _)
    · exact tells_refuse _ _

theorem tells_write {index : Nat} : Tells (m.write h index v) := by
  unfold write
  dsimp only
  refine tells_ite ((tells_ofWriting _).bind fun _ => tells_pure _) ?_
  refine tells_ite ((tells_ofWriting _).bind fun _ => tells_pure _) ?_
  refine tells_ite ((tells_ofWriting _).bind fun _ => tells_pure _) ?_
  refine tells_ite ((tells_wholeOf _).bind fun _ => (tells_ofWriting _).bind fun _ =>
    tells_pure _) ?_
  refine tells_ite ((tells_wholeOf _).bind fun _ => tells_pure _) ?_
  refine tells_ite (tells_pointOf.bind fun _ => tells_pure _) ?_
  split
  · exact tells_doubleOf.bind fun _ => tells_pure _
  · exact tells_refuse _ _

end Mark

namespace Format

theorem tells_fillFrom (h : Heap) (fuel : Nat) (p : Mark.Place) (s : Supply) :
    Tells (fillFrom h fuel p s) := by
  induction fuel generalizing p s with
  | zero => exact tells_refuse _ _
  | succ fuel ih =>
    unfold fillFrom
    split
    · exact tells_ite (tells_refuse _ _) (tells_ok _)
    · refine tells_ite ((ih _ _).bind fun _ => tells_pure _) ?_
      refine tells_ite ((ih _ _).bind fun _ => tells_pure _) ?_
      refine Mark.tells_read.bind fun x => ?_
      refine tells_ite ((ih _ _).bind fun _ => tells_pure _) ?_
      exact (Supply.tells_next _).bind fun _ => Mark.tells_write.bind fun _ =>
        (ih _ _).bind fun _ => tells_pure _

/-- Whatever goes wrong while values are put into a text is told by a text. -/
theorem tells_fill (h : Heap) (t : Text) (v : Value) : Tells (fill h t v) := tells_fillFrom _ _ _ _

end Format

end Stencil
