import Stencil.Proofs.Run.Refusal
import Stencil.Proofs.Value.Entries

/-!
# What contexts bind, and what inclusions inherit

A template is run with the entries of its context in their order. What the context lacks of
`require` and `include` is filled in where the name stands without a value, and stands behind all
others where the name is missing. An inclusion inherits a new dictionary; the dictionaries that it is
made of stay as they are.

## Main definitions

* `Entries.supply` — entries with a value for a name that they lack.
* `Context.Binds` — what a template is run with, as names and as values.
* `Context.overriding?` — what an inclusion is given of its own.
* `Context.Merging` — the laws of laying contexts over each other.

## Main results

* `Context.build_binds` — what is bound for a context.
* `Context.inherit_merges` — what is inherited is an associative merge in which the right side wins.
-/

namespace Stencil

namespace Entries

variable {es : Entries} {id : Text} {k v : Value}

/-- Entries with a value for a name that they lack: in place of none, or behind all others. -/
def supply (es : Entries) (id : Text) (v : Value) : Entries :=
  es.map (fun p => (p.1, if p.1.sameKey (.str id) && p.2.isNone then v else p.2)) ++
    if (es.getText? id).isNone then [(.str id, v)] else []

theorem supply_eq (hd : es.Distinct) :
    (if es.lacks id then es.insert (.str id) v else es) = es.supply id v := by
  rw [supply]
  cases hw : es.getText? id with
  | none =>
    have apart := get?_eq_none.1 hw
    rw [if_pos (by simp [lacks, hw]), insert_of_lacks hw,
      mapValues_eq_self fun p hp => by simp [apart p hp]]
    rfl
  | some w =>
    -- the one value that the name has
    have value {p : Value × Value} (hp : p ∈ es) (hk : p.1.sameKey (.str id)) : p.2 = w :=
      Option.some.inj ((get?_of_mem hd hp hk).symm.trans hw)
    rw [if_neg (show ¬(some w).isNone from Bool.false_ne_true), List.append_nil]
    by_cases hn : w.isNone
    · have found : es.get? (.str id) ≠ none := fun h => nomatch hw.symm.trans h
      rw [if_pos (by simp [lacks, hw, hn]), insert_of_has hd found]
      refine List.map_congr_left fun p hp => ?_
      by_cases hk : p.1.sameKey (.str id)
      · simp [hk, value hp hk, hn]
      · simp [hk]
    · rw [if_neg (by simp [lacks, hw, hn])]
      refine (mapValues_eq_self fun p hp => if_neg fun h => ?_).symm
      obtain ⟨hk, hv⟩ := Bool.and_eq_true_iff.1 h
      exact hn (value hp hk ▸ hv)

theorem distinct_supply (hd : es.Distinct) : (es.supply id v).Distinct := by
  rw [← supply_eq hd]
  split
  · exact distinct_insert hd
  · exact hd

theorem get?_supply (hd : es.Distinct) (h : ¬ (Value.str id).sameKey k) :
    (es.supply id v).get? k = es.get? k := by
  rw [← supply_eq hd]
  split
  · rw [get?_insert, if_neg h]
  · rfl

theorem getText?_supply (hd : es.Distinct) (h : es.lacks id) :
    (es.supply id v).getText? id = some v := by
  rw [← supply_eq hd, if_pos h, getText?, get?_insert, if_pos (Value.sameKey_str.2 rfl)]

theorem names_supply : (es.supply id v).map (·.1) =
    es.map (·.1) ++ if (es.getText? id).isNone then [.str id] else [] := by
  rw [supply, List.map_append, List.map_map]
  split <;> rfl

theorem lacks_supply {j : Text} (hd : es.Distinct) (h : ¬ (Value.str id).sameKey (.str j)) :
    (es.supply id v).lacks j = es.lacks j := by
  rw [lacks, getText?, get?_supply hd h]
  rfl

/-- Entries that have been supplied with something do not lack it. -/
theorem not_lacks_supply (hd : es.Distinct) (hv : es.lacks id → ¬ v.isNone) :
    ¬ (es.supply id v).lacks id := by
  by_cases h : es.lacks id
  · simpa [lacks, getText?_supply hd h] using hv h
  · rwa [← supply_eq hd, if_neg h]

end Entries

namespace Context

variable {es : Entries} {directory : Path} {v : Value} {m : Machine} {r : Ref}

theorem apart : ¬ (Value.str "require").sameKey (.str "include") := by decide

theorem completed_eq (hd : es.Distinct) : completed es directory v =
    (es.supply "require" (.capability (.requirement directory))).supply "include" v := by
  rw [← Entries.supply_eq (Entries.distinct_supply hd), Entries.lacks_supply hd apart,
    ← Entries.supply_eq hd, completed]
  cases es.lacks "require" <;> cases es.lacks "include" <;> rfl

/-- What a name of a context is bound to: what the context gives, unless that is none and can be
supplied. -/
def binding (require include_ : Value) (p : Value × Value) : Value :=
  if p.2.isNone then
    if p.1.sameKey (.str "require") then require
    else if p.1.sameKey (.str "include") then include_
    else p.2
  else p.2

/-- What a template is run with, given what is supplied if it is missing. -/
structure Binds (es : Entries) (require include_ : Value) (bound : Entries) : Prop where
  /-- The names of the context come first, in their order. -/
  names : bound.map (·.1) = es.map (·.1) ++
    (if (es.getText? "require").isNone then [.str "require"] else []) ++
    if (es.getText? "include").isNone then [.str "include"] else []
  distinct : bound.Distinct
  /-- The values stand where their names stand. -/
  values : bound.map (·.2) = es.map (binding require include_) ++
    (if (es.getText? "require").isNone then [require] else []) ++
    if (es.getText? "include").isNone then [include_] else []

theorem binds_completed (hd : es.Distinct) :
    Binds es (.capability (.requirement directory)) v (completed es directory v) := by
  have missing (w : Value) : (es.supply "require" w).getText? "include" = es.getText? "include" :=
    Entries.get?_supply hd apart
  rw [completed_eq hd]
  refine ⟨?_, Entries.distinct_supply (Entries.distinct_supply hd), ?_⟩
  · rw [Entries.names_supply, Entries.names_supply, missing]
  · rw [Entries.supply, missing, Entries.supply, List.map_append, List.map_append, List.map_append,
      List.map_map, List.map_map]
    congr 1
    · congr 1
      · refine List.map_congr_left fun p _ => ?_
        by_cases hp : p.1.sameKey (.str "require")
        · have other : ¬ p.1.sameKey (.str "include") := by
            rw [Value.sameKey_str.1 hp]
            exact apart
          by_cases hn : p.2.isNone <;> simp [binding, hp, hn, other]
        · by_cases hn : p.2.isNone <;> simp [binding, hp, hn]
      · split
        · simp [apart]
        · rfl
    · split <;> rfl

/-- A context that grants `write` still does so when it has been completed. -/
theorem grantsWrite_completed (hd : es.Distinct) (h : grantsWrite es) :
    grantsWrite (completed es directory v) := by
  rw [completed_eq hd, grantsWrite, Entries.getText?,
    Entries.get?_supply (Entries.distinct_supply hd) (by decide), Entries.get?_supply hd (by decide)]
  exact h

/-- A completed context lacks nothing, if what includes other templates is something. -/
theorem not_lacks_completed (hd : es.Distinct) (hv : es.lacks "include" → ¬ v.isNone) :
    ¬ (completed es directory v).lacks "require" ∧ ¬ (completed es directory v).lacks "include" := by
  have hd' : (es.supply "require" (.capability (.requirement directory))).Distinct :=
    Entries.distinct_supply hd
  rw [completed_eq hd, Entries.lacks_supply hd' (by decide)]
  refine ⟨Entries.not_lacks_supply hd fun _ => Bool.false_ne_true,
    Entries.not_lacks_supply hd' fun h => hv ?_⟩
  rwa [Entries.lacks_supply hd apart] at h

/-- What is bound for a context. What it lacks is logged; what includes other templates is made if it
is lacking, once and for this directory and this context, and nothing else happens to the machine. The
names and the values are those of the context, in their places, and what it lacks. What has been bound
binds itself as it is, and nothing is made for it. -/
theorem build_binds (hr : m.heap.get? r = some (.dict es)) (distinct : es.Distinct)
    (grants : grantsWrite es) (directory : Path) (factory : Path → Ref → Proc Value) :
    build (.dict r) directory factory m =
      (if es.lacks "include" then completed es directory <$> factory directory r
        else pure (completed es directory .none) : Proc Entries)
        { m with log := m.log ++ (notices es directory).toArray } ∧
    ∀ v, Binds es (.capability (.requirement directory)) v (completed es directory v) ∧
      ((es.lacks "include" → ¬ v.isNone) → ∀ m' r',
        m'.heap.get? r' = some (.dict (Entries.ofPairs (completed es directory v))) →
        ∀ directory' factory', build (.dict r') directory' factory' m' =
          .done (.value (completed es directory v)) m') := by
  have dict {m : Machine} {r : Ref} {es : Entries} (hr : m.heap.get? r = some (.dict es)) :
      m.heap.dict r = es := by rw [Heap.dict, hr]
  refine ⟨?_, fun v => ⟨binds_completed distinct, fun hv m' r' hr' directory' factory' => ?_⟩⟩
  · have accepts : Accepts m.heap (.dict r) r := ⟨rfl, (dict hr).symm ▸ grants⟩
    rw [build_eq accepts, dict hr]
  · rw [Entries.ofPairs_eq (binds_completed distinct).distinct] at hr'
    obtain ⟨hrequire, hinclude⟩ : ¬ (completed es directory v).lacks "require" ∧
        ¬ (completed es directory v).lacks "include" := not_lacks_completed distinct hv
    have accepts : Accepts m'.heap (.dict r') r' :=
      ⟨rfl, (dict hr').symm ▸ grantsWrite_completed distinct grants⟩
    rw [build_eq accepts, dict hr', if_neg hinclude, notices, if_neg hrequire, if_neg hinclude,
      completed, if_neg hrequire, if_neg hinclude]
    exact congrArg (fun log => Step.done _ { m' with log }) (Array.ext' (by simp))

/-- A machine with these dictionaries. -/
def holding (dicts : List Entries) : Machine :=
  { Machine.fresh Path.here with heap := ⟨(dicts.map Object.dict).toArray⟩ }

/-- A context in which `include` has no value and `require` is missing. -/
def gapped : Entries :=
  [(.str "include", .none), (.str "write", .capability (.write 0 "write")), (.int 1, .str "a")]

/-- In that context `include` is supplied where it stands, and `require` behind all others. -/
theorem build_binds_gapped :
    build (.dict 0) Path.here (fun _ _ => pure (.native .len)) (holding [gapped]) =
      .done (.value [(.str "include", .native .len),
        (.str "write", .capability (.write 0 "write")), (.int 1, .str "a"),
        (.str "require", .capability (.requirement Path.here))])
        { holding [gapped] with
          log := #[.injected "require" Path.here, .injected "include" Path.here] } ∧
    ∀ m', m'.heap.get? 1 = some (.dict (Entries.ofPairs (completed gapped Path.here (.native .len)))) →
      ∀ directory' factory', build (.dict 1) directory' factory' m' =
        .done (.value (completed gapped Path.here (.native .len))) m' :=
  have given : (holding [gapped]).heap.get? 0 = some (.dict gapped) := rfl
  have bound := build_binds given (by decide) (by decide) Path.here fun _ _ => pure (.native .len)
  ⟨bound.1, fun m' => (bound.2 (.native .len)).2 (fun _ => Bool.false_ne_true) m' 1⟩

/-! ## What inclusions inherit -/

/-- What says that a value cannot be laid over a context. -/
def notAMapping (h : Heap) (override : Value) : Thrown :=
  .plain .contextError
    [.str ("include context must be a mapping, got " ++ override.typeName h)]

/-- An override that is none or a dictionary is laid over a context, in a new dictionary. -/
def overriding? (h : Heap) : Value → Option Entries
  | .none => some []
  | .dict r => some (h.dict r)
  | _ => none

theorem inherit_of_overriding {override : Value} {above : Entries}
    (hr : m.heap.get? r = some (.dict es)) (h : overriding? m.heap override = some above) :
    inherit r override m = .done (.value (.dict m.next)) (m.withDict (es.merge above)) := by
  have dict : m.heap.dict r = es := by rw [Heap.dict, hr]
  cases override with
  | none =>
    obtain rfl := Option.some.inj h
    rw [← dict]
    rfl
  | dict a =>
    obtain rfl := Option.some.inj h
    rw [← dict]
    rfl
  | _ => cases h

theorem inherit_of_not {override : Value} (h : overriding? m.heap override = none) :
    inherit r override m = .done (.raised m.next) (m.threw (notAMapping m.heap override)) := by
  cases override with
  | none => cases h
  | dict => cases h
  | _ => rfl

/-- The laws of laying contexts over each other. Whatever comes of it, nothing that is on the heap
changes: the machine gets a new dictionary, or a new exception. -/
structure Merging (m : Machine) (p a b : Ref) (ps as bs : Entries) : Prop where
  /-- The side that is laid over wins. The keys below stay, and those that are new follow. -/
  biased : ∃ es : Entries,
    inherit p (.dict a) m = .done (.value (.dict m.next)) (m.withDict es) ∧
    (∀ k, es.get? k = (as.get? k).or (ps.get? k)) ∧
    es.map (·.1) = ps.map (·.1) ++ (as.filter fun q => (ps.get? q.1).isNone).map (·.1) ∧
    es.Distinct
  /-- The two ways to lay two contexts over a third end with the same entries. -/
  associative : ∃ left right es : Entries,
    inherit p (.dict a) m = .done (.value (.dict m.next)) (m.withDict left) ∧
    inherit m.next (.dict b) (m.withDict left) =
      .done (.value (.dict (m.next + 1))) ((m.withDict left).withDict es) ∧
    inherit a (.dict b) m = .done (.value (.dict m.next)) (m.withDict right) ∧
    inherit p (.dict m.next) (m.withDict right) =
      .done (.value (.dict (m.next + 1))) ((m.withDict right).withDict es)
  /-- Where there is nothing on one side, the other side is copied. -/
  neutral : inherit p .none m = .done (.value (.dict m.next)) (m.withDict ps) ∧
    ∀ e, m.heap.get? e = some (.dict []) →
      inherit p (.dict e) m = .done (.value (.dict m.next)) (m.withDict ps) ∧
      inherit e (.dict p) m = .done (.value (.dict m.next)) (m.withDict ps)
  /-- What is no mapping is not laid over anything. -/
  refused : ∀ override : Value, override.isNone = false → (∀ r, override ≠ .dict r) →
    inherit p override m = .done (.raised m.next) (m.threw (notAMapping m.heap override))

theorem inherit_merges {p a b : Ref} {ps as bs : Entries} (hp : m.heap.get? p = some (.dict ps))
    (ha : m.heap.get? a = some (.dict as)) (hb : m.heap.get? b = some (.dict bs))
    (distinctp : ps.Distinct) (distincta : as.Distinct) (distinctb : bs.Distinct) :
    Merging m p a b ps as bs ∧
      ∀ r o, m.heap.get? r = some o →
        (∀ es, (m.withDict es).heap.get? r = some o) ∧ ∀ e, (m.threw e).heap.get? r = some o := by
  have above {m : Machine} {r : Ref} {es : Entries} (h : m.heap.get? r = some (.dict es)) :
      overriding? m.heap (.dict r) = some es := by rw [overriding?, Heap.dict, h]
  refine ⟨⟨?_, ?_, ?_, ?_⟩, fun r o h => ⟨fun es => Machine.get?_withDict_of_get? h,
    fun e => Machine.get?_threw_of_get? h⟩⟩
  · exact ⟨ps.merge as, inherit_of_overriding hp (above ha), fun k => Entries.get?_merge distincta,
      Entries.keys_merge distinctp distincta, Entries.distinct_merge distinctp⟩
  · have next (es : Entries) : (m.withDict es).next = m.next + 1 := Array.size_push _
    refine ⟨ps.merge as, as.merge bs, ps.merge (as.merge bs), inherit_of_overriding hp (above ha), ?_,
      inherit_of_overriding ha (above hb), ?_⟩
    · rw [← Entries.merge_assoc distinctp distincta distinctb, ← next]
      exact inherit_of_overriding Machine.get?_withDict_next
        (above (Machine.get?_withDict_of_get? hb))
    · rw [← next]
      exact inherit_of_overriding (Machine.get?_withDict_of_get? hp)
        (above Machine.get?_withDict_next)
  · have copied {v : Value} (h : overriding? m.heap v = some []) :
        inherit p v m = .done (.value (.dict m.next)) (m.withDict (ps.merge [])) :=
      inherit_of_overriding hp h
    refine ⟨copied rfl, fun e he => ⟨copied (above he), ?_⟩⟩
    exact Entries.ofPairs_eq distinctp ▸ inherit_of_overriding he (above hp)
  · intro override hn hd
    refine inherit_of_not ?_
    cases override with
    | none => cases hn
    | dict r => exact absurd rfl (hd r)
    | _ => rfl

/-- A number, the truth value that equals it and the double that equals it are one key. -/
theorem inherit_merges_one_key :
    let ps : Entries := [(.int 1, .str "p")]
    let as : Entries := [(.bool true, .str "a"), (.str "x", .none)]
    let bs : Entries := [(.float (Double.ofInt 1), .str "b")]
    let m := holding [ps, as, bs]
    Merging m 0 1 2 ps as bs ∧
      (ps.merge as).merge bs = [(.int 1, .str "b"), (.str "x", .none)] := by
  intro ps as bs m
  exact ⟨(inherit_merges (m := m) rfl rfl rfl (by decide +kernel) (by decide +kernel)
    (by decide +kernel)).1, rfl⟩

end Context

end Stencil
