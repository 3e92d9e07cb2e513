import Mathlib
import Stencil.Value.Key

/-!
# Doubles as whole numbers of units

Every finite double is a whole number of units of two to the power -1074, and so is every whole
number. Two numbers are equal, whatever their types are, if they are the same number of units.

## Main definitions

* `Amount`, `Numeral.amount?` — how much a number is; what is no number has no amount.

## Main results

* `Double.view_eq` — the bits of a double say what it stands for.
* `Double.beq_iff` — doubles are equal if their amounts are.
* `Numeral.same_iff` — numbers are equal if their amounts are.
-/

namespace Stencil

open Float.Model (UnpackedFloat)
open Float.Model.UnpackedFloat (Sign unpackSign unpackExponent unpackMantissa)

/-- How much a number is. -/
inductive Amount where
  /-- A whole number of units of two to the power -1074. -/
  | units (n : Int)
  | infinite (negative : Bool)
  deriving DecidableEq

namespace Dyadic

/-- A whole number with a sign. -/
def signed (negative : Bool) (m : Nat) : Int := if negative then -(m : Int) else m

/-- How much a double is; what is no number has no amount. -/
def amount? : Dyadic → Option Amount
  | nan => none
  | infinite negative => some (.infinite negative)
  | finite negative m q => some (.units (signed negative (m * Double.exp2 (q + 1074).toNat)))

theorem signed_inj {b c : Bool} {m n : Nat} (hm : 0 < m) :
    signed b m = signed c n ↔ b = c ∧ m = n := by
  cases b <;> cases c <;> simp [signed] <;> omega

@[simp]
theorem signed_eq_zero {b : Bool} {m : Nat} : signed b m = 0 ↔ m = 0 := by
  cases b <;> simp [signed]

@[simp]
theorem signed_zero (b : Bool) : signed b 0 = 0 := signed_eq_zero.2 rfl

theorem signed_mul (b : Bool) (m n : Nat) : signed b (m * n) = signed b m * n := by
  cases b <;> simp [signed]

/-- A double has one form: its whole number has 53 bits unless its power of two is the least. -/
def Canonical : Dyadic → Prop
  | finite _ m q => m < Double.exp2 53 ∧ -1074 ≤ q ∧ (q = -1074 ∨ Double.exp2 52 ≤ m)
  | _ => True

end Dyadic

namespace Double

theorem exp2_pos (n : Nat) : 0 < exp2 n := Nat.pow_pos (by decide)

theorem exp2_add (m n : Nat) : exp2 (m + n) = exp2 m * exp2 n := Nat.pow_add 2 m n

/-- A sign is that of a number below zero. -/
def isNegative : Sign → Bool
  | .negative => true
  | .positive => false

/-- What an unpacked double stands for. -/
def ofUnpacked : UnpackedFloat → Dyadic
  | .notANumber => .nan
  | .infinity s => .infinite (isNegative s)
  | .zero s => .finite (isNegative s) 0 (-1074)
  | .finite s m e _ => .finite (isNegative s) m e

theorem toNat_unpackSign (b : BitVec Float.Model.Format.binary64.numBits) :
    (unpackSign b).toNat = b.toNat / exp2 63 % 2 := by
  simp only [unpackSign, BitVec.toNat_cast, BitVec.extractLsb_toNat, Nat.shiftRight_eq_div_pow]
  rfl

theorem toNat_unpackExponent (b : BitVec Float.Model.Format.binary64.numBits) :
    (unpackExponent b).toNat = b.toNat / exp2 52 % exp2 11 := by
  simp only [unpackExponent, BitVec.toNat_cast, BitVec.extractLsb_toNat,
    Nat.shiftRight_eq_div_pow]
  rfl

theorem toNat_unpackMantissa (b : BitVec Float.Model.Format.binary64.numBits) :
    (unpackMantissa b).toNat = b.toNat % exp2 52 := by
  simp only [unpackMantissa, BitVec.toNat_cast, BitVec.extractLsb_toNat, Nat.shiftRight_zero]
  rfl

theorem isNegative_ofBitVec (v : BitVec 1) : isNegative (Sign.ofBitVec v) = (v.toNat == 1) := by
  obtain rfl | rfl : v = 0#1 ∨ v = 1#1 := by
    have := v.isLt
    rcases Nat.lt_or_ge v.toNat 1 with h | h
    · exact .inl (BitVec.eq_of_toNat_eq (by simp; omega))
    · exact .inr (BitVec.eq_of_toNat_eq (by simp; omega))
  · rfl
  · rfl

theorem toNat_one_append (v : BitVec 52) : (1#1 ++ v).toNat = v.toNat + exp2 52 := by
  rw [BitVec.toNat_append, ← Nat.shiftLeft_add_eq_or_of_lt v.isLt]
  exact Nat.add_comm ..

theorem viewBits_eq (b : BitVec Float.Model.Format.binary64.numBits) :
    viewBits b.toNat = ofUnpacked (UnpackedFloat.unpack .binary64 b) := by
  have ones : unpackExponent b = -1#11 ↔ (unpackExponent b).toNat = 2047 := BitVec.toNat_eq
  have noExponent : unpackExponent b = 0#11 ↔ (unpackExponent b).toNat = 0 := BitVec.toNat_eq
  have noMantissa : unpackMantissa b = 0#52 ↔ (unpackMantissa b).toNat = 0 := BitVec.toNat_eq
  have bias : ((Float.Model.Format.binary64.exponentBias : Nat) : Int) = 1023 := rfl
  rw [viewBits, UnpackedFloat.unpack, ← toNat_unpackMantissa, ← toNat_unpackExponent,
    ← toNat_unpackSign]
  simp only [ones, noExponent, noMantissa]
  split
  · split
    · simp [ofUnpacked, isNegative_ofBitVec]
    · simp [ofUnpacked]
  · split
    · split
      · simp [ofUnpacked, isNegative_ofBitVec, *]
      · simp [ofUnpacked, isNegative_ofBitVec, *]
    · simp only [ofUnpacked, isNegative_ofBitVec, toNat_one_append, Dyadic.finite.injEq, true_and]
      omega

/-- The bits of a double say what it stands for. -/
theorem view_eq (x : Float) : view x = ofUnpacked x.toModel.unpack :=
  viewBits_eq x.toModel.toBits.toBitVec

theorem canonical_viewBits (bits : Nat) : (viewBits bits).Canonical := by
  have fraction : bits % exp2 52 < exp2 52 := Nat.mod_lt _ (exp2_pos 52)
  have double : exp2 53 = exp2 52 + exp2 52 := rfl
  simp only [viewBits]
  split
  · split <;> trivial
  · split
    · exact ⟨by omega, Int.le_refl _, .inl rfl⟩
    · exact ⟨by omega, by omega, .inr (Nat.le_add_left ..)⟩

theorem canonical_view (x : Float) : (view x).Canonical := canonical_viewBits _

/-- The form of a double is settled by how much it is. -/
theorem eq_of_amount {m n : Nat} {q r : Int} (hq : -1074 ≤ q) (hr : -1074 ≤ r)
    (hm : m < exp2 53) (hn : r = -1074 ∨ exp2 52 ≤ n)
    (h : m * exp2 (q + 1074).toNat = n * exp2 (r + 1074).toNat) : r ≤ q := by
  rcases hn with rfl | hn
  · exact hq
  · by_contra hlt
    obtain ⟨k, hk⟩ : ∃ k, (r + 1074).toNat = (q + 1074).toNat + 1 + k :=
      ⟨(r - q - 1).toNat, by omega⟩
    rw [hk, exp2_add, exp2_add] at h
    have less : exp2 53 * exp2 (q + 1074).toNat ≤ n * (exp2 (q + 1074).toNat * exp2 1 * exp2 k) :=
      calc exp2 53 * exp2 (q + 1074).toNat
        _ = exp2 52 * (exp2 (q + 1074).toNat * exp2 1 * 1) := by
          rw [exp2_add 52 1]; ring
        _ ≤ n * (exp2 (q + 1074).toNat * exp2 1 * exp2 k) :=
          Nat.mul_le_mul hn (Nat.mul_le_mul_left _ (exp2_pos k))
    have more := Nat.mul_lt_mul_of_pos_right hm (exp2_pos (q + 1074).toNat)
    omega

theorem beq_finite {s t : Sign} {m n : Nat} {q r : Int} (hm : 0 < m) (hn : 0 < n) :
    (UnpackedFloat.finite s m q hm).beq (.finite t n r hn) ↔ s = t ∧ m = n ∧ q = r := by
  cases s <;> cases t <;>
    simp [UnpackedFloat.beq, UnpackedFloat.compare, Ordering.then_eq_eq, and_comm,
      Ordering.swap_eq_eq]

theorem amount_finite {s t : Sign} {m n : Nat} {q r : Int} (hm : 0 < m)
    (hq : Dyadic.Canonical (.finite (isNegative s) m q))
    (hr : Dyadic.Canonical (.finite (isNegative t) n r)) :
    Dyadic.signed (isNegative s) (m * exp2 (q + 1074).toNat) =
      Dyadic.signed (isNegative t) (n * exp2 (r + 1074).toNat) ↔ s = t ∧ m = n ∧ q = r := by
  have sign : isNegative s = isNegative t ↔ s = t := by cases s <;> cases t <;> simp [isNegative]
  rw [Dyadic.signed_inj (Nat.mul_pos hm (exp2_pos _)), sign]
  refine and_congr_right fun _ => ⟨fun h => ?_, fun ⟨hm, hq⟩ => by rw [hm, hq]⟩
  obtain rfl : q = r := Int.le_antisymm (eq_of_amount hr.2.1 hq.2.1 hr.1 hq.2.2 h.symm)
    (eq_of_amount hq.2.1 hr.2.1 hq.1 hr.2.2 h)
  exact ⟨Nat.eq_of_mul_eq_mul_right (exp2_pos _) h, rfl⟩

/-- Doubles are compared by what they are. -/
theorem beq_unpacked {a b : UnpackedFloat} (ha : (ofUnpacked a).Canonical)
    (hb : (ofUnpacked b).Canonical) :
    a.beq b ↔ ∃ k, (ofUnpacked a).amount? = some k ∧ (ofUnpacked b).amount? = some k := by
  have infinite (s t : Sign) : compare s t = .eq ↔ isNegative t = isNegative s := by
    cases s <;> cases t <;> decide
  cases a with
  | notANumber => simp [UnpackedFloat.beq, UnpackedFloat.compare, ofUnpacked, Dyadic.amount?]
  | infinity s =>
    cases b with
    | infinity t =>
      simp [UnpackedFloat.beq, UnpackedFloat.compare, ofUnpacked, Dyadic.amount?, infinite]
    | _ => cases s <;> simp [UnpackedFloat.beq, UnpackedFloat.compare, ofUnpacked, Dyadic.amount?]
  | zero s =>
    cases b with
    | notANumber => simp [UnpackedFloat.beq, UnpackedFloat.compare, ofUnpacked, Dyadic.amount?]
    | infinity t =>
      cases t <;> simp [UnpackedFloat.beq, UnpackedFloat.compare, ofUnpacked, Dyadic.amount?]
    | zero t =>
      simp [UnpackedFloat.beq, UnpackedFloat.compare, ofUnpacked, Dyadic.amount?]
    | finite t n r hn =>
      have some_ := Nat.ne_of_gt (Nat.mul_pos hn (exp2_pos (r + 1074).toNat))
      cases t <;>
        simp [UnpackedFloat.beq, UnpackedFloat.compare, ofUnpacked, Dyadic.amount?, some_]
  | finite s m q hm =>
    cases b with
    | notANumber => simp [UnpackedFloat.beq, UnpackedFloat.compare, ofUnpacked, Dyadic.amount?]
    | infinity t =>
      cases t <;> simp [UnpackedFloat.beq, UnpackedFloat.compare, ofUnpacked, Dyadic.amount?]
    | zero t =>
      have some_ := Nat.ne_of_gt (Nat.mul_pos hm (exp2_pos (q + 1074).toNat))
      cases s <;>
        simp [UnpackedFloat.beq, UnpackedFloat.compare, ofUnpacked, Dyadic.amount?, some_,
          eq_comm (a := (0 : Int))]
    | finite t n r hn =>
      rw [beq_finite, ← amount_finite hm ha hb]
      simp [ofUnpacked, Dyadic.amount?, eq_comm]

/-- Doubles are equal if they are the same number. -/
theorem beq_iff {x y : Float} :
    x == y ↔ ∃ k, (view x).amount? = some k ∧ (view y).amount? = some k := by
  have canonical (x : Float) : (ofUnpacked x.toModel.unpack).Canonical :=
    view_eq x ▸ canonical_view x
  rw [view_eq, view_eq]
  exact beq_unpacked (canonical x) (canonical y)

/-- A whole number equals a double if it is the same number. -/
theorem compareInt_eq_iff {i : Int} {x : Float} :
    compareInt i x = some .eq ↔ (view x).amount? = some (.units (i * exp2 1074)) := by
  have canonical := canonical_view x
  rw [compareInt]
  cases hx : view x with
  | nan => exact iff_of_false (fun h => by cases h) fun h => by cases h
  | infinite negative =>
    cases negative <;> exact iff_of_false (fun h => by cases h) fun h => by cases h
  | finite negative m q =>
    rw [hx] at canonical
    have unit (n : Nat) : (exp2 n : Int) ≠ 0 := by exact_mod_cast Nat.ne_of_gt (exp2_pos n)
    have amount : Dyadic.amount? (.finite negative m q) = some (.units (i * exp2 1074)) ↔
        i * exp2 1074 = Dyadic.signed negative m * exp2 (q + 1074).toNat := by
      rw [Dyadic.amount?, Dyadic.signed_mul, Option.some.injEq, Amount.units.injEq, eq_comm]
    rw [amount]
    change (if 0 ≤ q then some (compare i (Dyadic.signed negative m * exp2 q.toNat))
      else some (compare (i * exp2 (-q).toNat) (Dyadic.signed negative m))) = some .eq ↔ _
    split
    · next hq =>
      have split_ : exp2 (q + 1074).toNat = exp2 q.toNat * exp2 1074 := by
        rw [← exp2_add]
        congr 1
        omega
      rw [split_, Option.some.injEq, Int.compare_eq_eq, Nat.cast_mul, ← mul_assoc,
        mul_left_inj' (unit 1074)]
    · next hq =>
      have split_ : exp2 1074 = exp2 (-q).toNat * exp2 (q + 1074).toNat := by
        have := canonical.2.1
        rw [← exp2_add]
        congr 1
        omega
      rw [split_, Option.some.injEq, Int.compare_eq_eq, Nat.cast_mul, ← mul_assoc,
        mul_left_inj' (unit _)]

end Double

namespace Numeral

/-- How much a number is; what is no number has no amount. -/
def amount? : Numeral → Option Amount
  | int i => some (.units (i * Double.exp2 1074))
  | float x => (Double.view x).amount?

/-- Numbers are equal if they are the same number, whatever types they have. -/
theorem same_iff {a b : Numeral} : a.same b ↔ ∃ k, a.amount? = some k ∧ b.amount? = some k := by
  have unit : (Double.exp2 1074 : Int) ≠ 0 := by
    exact_mod_cast Nat.ne_of_gt (Double.exp2_pos 1074)
  cases a with
  | int i =>
    cases b with
    | int j =>
      simp only [same, beq_iff_eq, amount?, Option.some.injEq, exists_eq_left', Amount.units.injEq,
        mul_left_inj' unit]
      exact eq_comm
    | float y => simp only [same, beq_iff_eq, amount?, Double.compareInt_eq_iff, Option.some.injEq,
        exists_eq_left']
  | float x =>
    cases b with
    | int j =>
      simp only [same, beq_iff_eq, amount?, Double.compareInt_eq_iff, Option.some.injEq,
        exists_eq_right']
    | float y => exact Double.beq_iff

end Numeral

end Stencil
