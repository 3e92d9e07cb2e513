import Stencil.Context.Basic
import Stencil.Proofs.Value.Key

/-!
# Entries with distinct keys

No two keys of a dictionary are one key. What becomes of such entries when others are laid over
them can be said without going through the others one by one: the entries that were there stay, each
with the others' value if they have one, and behind them come the others that are new.

## Main definitions

* `Entries.Distinct` — no two keys are one key.

## Main results

* `Entries.merge_eq` — entries with others laid over them.
* `Entries.get?_merge`, `Entries.keys_merge` — what is found there, and in which order.
* `Entries.merge_assoc` — laying over is associative.
-/

namespace Stencil.Entries

variable {es others rest : Entries} {p q : Value × Value} {j k v : Value}

/-- No two keys are one key. -/
def Distinct (es : Entries) : Prop := es.Pairwise fun p q => ¬ p.1.sameKey q.1

instance : Decidable es.Distinct := inferInstanceAs (Decidable (List.Pairwise _ _))

theorem distinct_nil : Distinct [] := List.Pairwise.nil

theorem distinct_cons : Distinct (p :: es) ↔ (∀ q ∈ es, ¬ p.1.sameKey q.1) ∧ es.Distinct :=
  List.pairwise_cons

/-! ## What is found -/

@[simp]
theorem get?_nil : get? [] k = none := rfl

theorem get?_cons : get? (p :: es) k = if p.1.sameKey k then some p.2 else es.get? k := by
  simp only [get?, List.find?_cons]
  split <;> simp_all

theorem get?_eq_none : es.get? k = none ↔ ∀ p ∈ es, ¬ p.1.sameKey k := by
  simp [get?, List.find?_eq_none]

/-- One key finds what another one finds that is the same. -/
theorem get?_congr (h : j.sameKey k) : es.get? j = es.get? k := by
  induction es with
  | nil => rfl
  | cons p es ih =>
    have same : p.1.sameKey j ↔ p.1.sameKey k :=
      ⟨fun hj => Value.sameKey_trans hj h, fun hk => Value.sameKey_trans hk (Value.sameKey_symm h)⟩
    simp only [get?_cons, same, ih]

/-- A key is not found among entries that it is distinct from. -/
theorem get?_of_distinct (h : Distinct (p :: es)) : es.get? p.1 = none :=
  get?_eq_none.2 fun q hq hs => (distinct_cons.1 h).1 q hq (Value.sameKey_symm hs)

/-- Of distinct keys each is found with its own value. -/
theorem get?_of_mem (hd : es.Distinct) (hp : p ∈ es) (hk : p.1.sameKey k) :
    es.get? k = some p.2 := by
  induction es with
  | nil => nomatch hp
  | cons q es ih =>
    obtain ⟨apart, hd'⟩ := distinct_cons.1 hd
    rw [get?_cons]
    rcases List.mem_cons.1 hp with rfl | hp
    · rw [if_pos hk]
    · rw [if_neg fun hq => apart p hp (Value.sameKey_trans hq (Value.sameKey_symm hk)), ih hd' hp]

theorem mapValues_eq_self {f : Value × Value → Value} (h : ∀ p ∈ es, f p = p.2) :
    es.map (fun p => (p.1, f p)) = es := by
  refine (List.map_congr_left fun p hp => ?_).trans (List.map_id es)
  rw [h p hp]
  rfl

theorem Distinct.mapValues (h : es.Distinct) (f : Value × Value → Value) :
    Distinct (es.map fun p => (p.1, f p)) := List.pairwise_map.2 h

theorem Distinct.append (h : es.Distinct) (ho : others.Distinct)
    (hd : ∀ q ∈ others, es.get? q.1 = none) : Distinct (es ++ others) :=
  List.pairwise_append.2 ⟨h, ho, fun p hp q hq => get?_eq_none.1 (hd q hq) p hp⟩

/-! ## One entry put in -/

theorem insert_of_lacks (h : es.get? k = none) : es.insert k v = es ++ [(k, v)] := by
  induction es with
  | nil => rfl
  | cons p es ih =>
    rw [get?_cons] at h
    split at h
    · nomatch h
    · next hp => rw [insert, if_neg hp, ih h, List.cons_append]

/-- A value put in for a key that is there takes the place of the other. -/
theorem insert_of_has (hd : es.Distinct) (h : es.get? k ≠ none) :
    es.insert k v = es.map fun p => (p.1, if p.1.sameKey k then v else p.2) := by
  induction es with
  | nil => exact absurd rfl h
  | cons p es ih =>
    obtain ⟨apart, hd'⟩ := distinct_cons.1 hd
    rw [get?_cons] at h
    rw [insert, List.map_cons]
    split
    · next hp =>
      -- no other key is the same
      have others : es.map (fun q => (q.1, if q.1.sameKey k then v else q.2)) = es :=
        mapValues_eq_self fun q hq =>
          if_neg fun hs => apart q hq (Value.sameKey_trans hp (Value.sameKey_symm hs))
      rw [others]
    · next hp =>
      rw [if_neg hp] at h
      rw [ih hd' h]

theorem distinct_insert (hd : es.Distinct) : (es.insert k v).Distinct := by
  by_cases h : es.get? k = none
  · rw [insert_of_lacks h]
    refine hd.append (List.pairwise_singleton _ _) fun q hq => ?_
    obtain rfl := List.mem_singleton.1 hq
    exact h
  · rw [insert_of_has hd h]
    exact hd.mapValues _

theorem get?_insert : (es.insert k v).get? j = if k.sameKey j then some v else es.get? j := by
  induction es with
  | nil => simp [insert, get?_cons]
  | cons p es ih =>
    rw [insert]
    split
    · next hp =>
      have same : p.1.sameKey j ↔ k.sameKey j :=
        ⟨Value.sameKey_trans (Value.sameKey_symm hp), Value.sameKey_trans hp⟩
      simp only [get?_cons, same]
      split <;> rfl
    · next hp =>
      rw [get?_cons, get?_cons, ih]
      split
      · next hj =>
        rw [if_neg fun hk => hp (Value.sameKey_trans hj (Value.sameKey_symm hk))]
      · rfl

/-! ## Others laid over -/

/-- Entries with others laid over them: those that were there, each with the others' value if they
have one, and then the others that are new. -/
theorem merge_eq (hd : es.Distinct) (ho : others.Distinct) :
    es.merge others = es.map (fun p => (p.1, (others.get? p.1).getD p.2)) ++
      others.filter fun q => (es.get? q.1).isNone := by
  induction others generalizing es with
  | nil => simp [merge, update]
  | cons q rest ih =>
    obtain ⟨apart, ho'⟩ := distinct_cons.1 ho
    have none_ : get? rest q.1 = none := get?_of_distinct ho
    have step : es.merge (q :: rest) = (es.insert q.1 q.2).merge rest := rfl
    have filter_ : rest.filter (fun r => (get? (es.insert q.1 q.2) r.1).isNone) =
        rest.filter fun r => (es.get? r.1).isNone :=
      List.filter_congr fun r hr => by rw [get?_insert, if_neg (apart r hr)]
    rw [step, ih (distinct_insert hd) ho', filter_]
    by_cases h : es.get? q.1 = none
    · have values : es.map (fun p => (p.1, (get? (q :: rest) p.1).getD p.2)) =
          es.map fun p => (p.1, (get? rest p.1).getD p.2) := by
        refine List.map_congr_left fun p hp => ?_
        rw [get?_cons, if_neg fun hs => get?_eq_none.1 h p hp (Value.sameKey_symm hs)]
      rw [insert_of_lacks h, values, List.filter_cons_of_pos (by simp [h]), List.map_append,
        List.append_assoc]
      simp [none_]
    · have values : (es.insert q.1 q.2).map (fun p => (p.1, (get? rest p.1).getD p.2)) =
          es.map fun p => (p.1, (get? (q :: rest) p.1).getD p.2) := by
        rw [insert_of_has hd h, List.map_map]
        refine List.map_congr_left fun p _ => ?_
        simp only [Function.comp, get?_cons]
        by_cases hp : p.1.sameKey q.1
        · rw [if_pos hp, if_pos (Value.sameKey_symm hp), get?_congr hp, none_]
          rfl
        · rw [if_neg hp, if_neg fun hs => hp (Value.sameKey_symm hs)]
      rw [values, List.filter_cons_of_neg (by simpa using h)]

/-- The others' value wins. -/
theorem get?_merge (ho : others.Distinct) :
    (es.merge others).get? k = (others.get? k).or (es.get? k) := by
  induction others generalizing es with
  | nil => rfl
  | cons q rest ih =>
    have step : es.merge (q :: rest) = (es.insert q.1 q.2).merge rest := rfl
    rw [step, ih (distinct_cons.1 ho).2, get?_insert, get?_cons]
    by_cases h : q.1.sameKey k
    · rw [if_pos h, if_pos h, ← get?_congr h, get?_of_distinct ho]
      rfl
    · rw [if_neg h, if_neg h]

/-- The keys that were there keep their places and are the same objects; those that are new follow
in their own order. -/
theorem keys_merge (hd : es.Distinct) (ho : others.Distinct) :
    (es.merge others).map (·.1) =
      es.map (·.1) ++ (others.filter fun q => (es.get? q.1).isNone).map (·.1) := by
  rw [merge_eq hd ho, List.map_append, List.map_map]
  rfl

theorem distinct_merge (hd : es.Distinct) : (es.merge others).Distinct := by
  induction others generalizing es with
  | nil => exact hd
  | cons q rest ih => exact ih (distinct_insert hd)

/-- Pairs with distinct keys make up themselves. -/
theorem ofPairs_eq (hd : es.Distinct) : ofPairs es = es := by
  refine (merge_eq distinct_nil hd).trans ?_
  simp

/-- Laying entries over others and the outcome over a third is laying one after another. -/
theorem merge_assoc (hd : es.Distinct) (ho : others.Distinct) (hr : rest.Distinct) :
    (es.merge others).merge rest = es.merge (others.merge rest) := by
  rw [merge_eq (distinct_merge hd) hr, merge_eq hd (distinct_merge ho), merge_eq hd ho,
    List.map_append, List.map_map, List.append_assoc]
  congr 1
  · refine List.map_congr_left fun p _ => ?_
    rw [get?_merge hr, Function.comp]
    cases rest.get? p.1 <;> rfl
  · rw [merge_eq ho hr, List.filter_append, List.filter_map, ← merge_eq hd ho, List.filter_filter]
    congr 1
    refine List.filter_congr fun q _ => ?_
    rw [get?_merge ho]
    cases others.get? q.1 <;> simp

end Stencil.Entries
