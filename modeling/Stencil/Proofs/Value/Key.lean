import Stencil.Proofs.Number.Double

/-!
# Keys

Two values are one key if they are one object or equal. This is symmetric and transitive, over all
types that values have: a number is the same key as every other number that is as much, and tuples
go item by item.

## Main definitions

* `Value.atom?` — what a value that holds no others is as a key.

## Main results

* `Value.sameKey_iff` — values that hold no others are one key if they are one atom.
* `Value.sameKey_symm`, `Value.sameKey_trans` — being one key.
-/

namespace Stencil

/-- What a value that holds no others is as a key. -/
inductive Atom where
  | number (amount : Amount)
  /-- An arithmetic progression: how many items, the first one, and how far apart they are. -/
  | progression (length : Nat) (start step : Option Int)
  | object (v : Value)

namespace Value

/-- What a value that holds no others is as a key; a double that is no number is none. -/
def atom? : Value → Option Atom
  | .tuple .. | .slice .. | .method .. => Option.none
  | .bool b => (Numeral.int (if b then 1 else 0)).amount?.map .number
  | .int i => (Numeral.int i).amount?.map .number
  | .float x => (Numeral.float x).amount?.map .number
  | .range a b c =>
    let n := rangeLength a b c
    some (.progression n (if n = 0 then Option.none else some a)
      (if n ≤ 1 then Option.none else some c))
  | v => some (.object v)

/-- A value holds no others by which it is compared. -/
def isAtomic : Value → Bool
  | .tuple .. | .slice .. | .method .. => false
  | _ => true

theorem amount_nan : (Numeral.float (0.0 / 0.0)).amount? = Option.none := by
  have view : Double.view (0.0 / 0.0) = .nan := by decide +kernel
  rw [Numeral.amount?, view, Dyadic.amount?]

/-- Values that hold no others are one key if they are one atom. -/
theorem sameKey_iff {x y : Value} (hx : x.isAtomic) :
    x.sameKey y ↔ ∃ a, x.atom? = some a ∧ y.atom? = some a := by
  suffices h : x.sameKey y ↔ ∃ a, y.atom? = some a ∧ x.atom? = some a from
    h.trans (exists_congr fun _ => and_comm)
  cases x <;> cases y <;>
    simp [sameKey, atom?, numeral?, isAtomic, Numeral.same_iff, amount_nan, and_assoc] at hx ⊢
  case range.range => grind
  -- what is left are numbers
  all_goals exact exists_congr fun _ => and_comm

theorem isAtomic_of_atom? {x : Value} {a : Atom} (h : x.atom? = some a) : x.isAtomic := by
  cases x <;> first | rfl | nomatch h

theorem tuple_sameKey {id : Option Ref} {xs : List Value} {y : Value} :
    (tuple id xs).sameKey y ↔ ∃ id' ys, y = tuple id' ys ∧ sameKeys xs ys := by
  cases y <;> simp [sameKey]

theorem slice_sameKey {a b c y : Value} : (slice a b c).sameKey y ↔
    ∃ d e f, y = slice d e f ∧ a.sameKey d ∧ b.sameKey e ∧ c.sameKey f := by
  cases y <;> simp [sameKey, and_assoc]

theorem method_sameKey {v y : Value} {m : Method} :
    (method v m).sameKey y ↔ ∃ w, y = method w m ∧ v.sameKey w := by
  cases y <;> simp [sameKey]
  exact fun _ => eq_comm

theorem sameKeys_cons {x : Value} {xs ys : List Value} :
    sameKeys (x :: xs) ys ↔ ∃ y ys', ys = y :: ys' ∧ x.sameKey y ∧ sameKeys xs ys' := by
  cases ys <;> simp [sameKeys]

mutual

/-- Being one key is symmetric. -/
theorem sameKey_symm : ∀ {x y : Value}, x.sameKey y → y.sameKey x
  | .tuple _ xs, y, h => by
    obtain ⟨_, ys, rfl, hs⟩ := tuple_sameKey.1 h
    exact tuple_sameKey.2 ⟨_, _, rfl, sameKeys_symm hs⟩
  | .slice a b c, y, h => by
    obtain ⟨d, e, f, rfl, ha, hb, hc⟩ := slice_sameKey.1 h
    exact slice_sameKey.2 ⟨a, b, c, rfl, sameKey_symm ha, sameKey_symm hb, sameKey_symm hc⟩
  | .method v m, y, h => by
    obtain ⟨w, rfl, hv⟩ := method_sameKey.1 h
    exact method_sameKey.2 ⟨v, rfl, sameKey_symm hv⟩
  | .none, y, h | .bool _, y, h | .int _, y, h | .float _, y, h | .nan _, y, h | .str _, y, h
  | .list _, y, h | .dict _, y, h | .range .., y, h | .entries _, y, h | .function _, y, h
  | .native _, y, h | .unbound .., y, h | .exceptionClass _, y, h | .exception _, y, h
  | .module _, y, h | .coroutine _, y, h | .capability _, y, h | .foreign .., y, h => by
    obtain ⟨a, hx, hy⟩ := (sameKey_iff rfl).1 h
    exact (sameKey_iff (isAtomic_of_atom? hy)).2 ⟨a, hy, hx⟩

theorem sameKeys_symm : ∀ {xs ys : List Value}, sameKeys xs ys → sameKeys ys xs
  | [], ys, h => by
    cases ys with
    | nil => rfl
    | cons y ys => nomatch h
  | x :: xs, ys, h => by
    obtain ⟨y, ys, rfl, h, hs⟩ := sameKeys_cons.1 h
    exact sameKeys_cons.2 ⟨x, xs, rfl, sameKey_symm h, sameKeys_symm hs⟩

end

mutual

/-- Being one key is transitive. -/
theorem sameKey_trans : ∀ {x y z : Value}, x.sameKey y → y.sameKey z → x.sameKey z
  | .tuple _ xs, y, z, h, h' => by
    obtain ⟨_, ys, rfl, hs⟩ := tuple_sameKey.1 h
    obtain ⟨_, zs, rfl, hs'⟩ := tuple_sameKey.1 h'
    exact tuple_sameKey.2 ⟨_, _, rfl, sameKeys_trans hs hs'⟩
  | .slice a b c, y, z, h, h' => by
    obtain ⟨_, _, _, rfl, ha, hb, hc⟩ := slice_sameKey.1 h
    obtain ⟨_, _, _, rfl, ha', hb', hc'⟩ := slice_sameKey.1 h'
    exact slice_sameKey.2
      ⟨_, _, _, rfl, sameKey_trans ha ha', sameKey_trans hb hb', sameKey_trans hc hc'⟩
  | .method v m, y, z, h, h' => by
    obtain ⟨_, rfl, hv⟩ := method_sameKey.1 h
    obtain ⟨_, rfl, hv'⟩ := method_sameKey.1 h'
    exact method_sameKey.2 ⟨_, rfl, sameKey_trans hv hv'⟩
  | .none, y, z, h, h' | .bool _, y, z, h, h' | .int _, y, z, h, h' | .float _, y, z, h, h'
  | .nan _, y, z, h, h' | .str _, y, z, h, h' | .list _, y, z, h, h' | .dict _, y, z, h, h'
  | .range .., y, z, h, h' | .entries _, y, z, h, h' | .function _, y, z, h, h'
  | .native _, y, z, h, h' | .unbound .., y, z, h, h' | .exceptionClass _, y, z, h, h'
  | .exception _, y, z, h, h' | .module _, y, z, h, h' | .coroutine _, y, z, h, h'
  | .capability _, y, z, h, h' | .foreign .., y, z, h, h' => by
    obtain ⟨a, hx, hy⟩ := (sameKey_iff rfl).1 h
    obtain ⟨b, hy', hz⟩ := (sameKey_iff (isAtomic_of_atom? hy)).1 h'
    exact (sameKey_iff rfl).2 ⟨a, hx, (hy.symm.trans hy') ▸ hz⟩

theorem sameKeys_trans : ∀ {xs ys zs : List Value},
    sameKeys xs ys → sameKeys ys zs → sameKeys xs zs
  | [], ys, zs, h, h' => by
    cases ys with
    | nil => exact h'
    | cons y ys => nomatch h
  | x :: xs, ys, zs, h, h' => by
    obtain ⟨_, _, rfl, h, hs⟩ := sameKeys_cons.1 h
    obtain ⟨_, _, rfl, h', hs'⟩ := sameKeys_cons.1 h'
    exact sameKeys_cons.2 ⟨_, _, rfl, sameKey_trans h h', sameKeys_trans hs hs'⟩

end

/-- A text is the same key as nothing but itself. -/
theorem sameKey_str {v : Value} {t : Text} : v.sameKey (.str t) ↔ v = .str t := by
  cases v <;> simp [sameKey, numeral?]

end Value

end Stencil
