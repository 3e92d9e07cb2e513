import Stencil.Proofs.Context.Basic
import Stencil.Proofs.Machine.Goes

/-!
# Inclusions one after another

What a template includes may change the context that it is given, and it may raise. Templates that
are included later by the same template do not see any of it: each is given a dictionary of its own,
made from the contexts as they were before the first one was included.

## Main definitions

* `Run.Local` — a runner changes no dictionary but the one that it is given.
* `Run.inTurn` — inclusions one after another, whatever becomes of each.
* `Run.Served`, `Run.AllServed` — what becomes of inclusions that do not see each other.

## Main results

* `Run.siblings_apart` — inclusions one after another do not see each other.
-/

namespace Stencil

/-- The dictionaries of a heap are as they were. -/
def Heap.KeepsDicts (h h' : Heap) : Prop :=
  ∀ r es, h.get? r = some (.dict es) → h'.get? r = some (.dict es)

theorem Heap.KeepsDicts.trans {h h' h'' : Heap} (k : h.KeepsDicts h') (k' : h'.KeepsDicts h'') :
    h.KeepsDicts h'' := fun r es hr => k' r es (k r es hr)

namespace Run

/-- Says that a value names no path. -/
def notAPath (h : Heap) (target : Value) : Thrown :=
  .plain .typeError
    [.str ("expected str, bytes or os.PathLike object, not " ++ target.typeName h)]

/-- What is to be included, and what it is given of its own. -/
structure Inclusion where
  target : Value
  override : Value

variable {A : Replies} {run : Path → Value → Proc Unit} {directory : Path} {parent : Ref} {mode : Mode}
  {given : Heap} {es above : Entries} {c : Inclusion} {calls : List Inclusion} {m m' : Machine}
  {path : Path} {t : Text} {target override : Value} {result : Except Ref Value}

/-- A runner changes no dictionary but the one that it is given. -/
def Local (A : Replies) (run : Path → Value → Proc Unit) : Prop :=
  ∀ path r m o m', (run path (.dict r)).Goes A m o m' → ∀ s es, s ≠ r →
    m.heap.get? s = some (.dict es) → m'.heap.get? s = some (.dict es)

/-- Inclusions one after another, whatever becomes of each. -/
def inTurn (run : Path → Value → Proc Unit) (directory : Path) (parent : Ref) (mode : Mode)
    (calls : List Inclusion) : Proc (List (Except Ref Value)) :=
  calls.mapM fun c => (includeBy run directory parent mode c.target c.override).attempt

/-- The machine on which a path is about to be included. -/
def including (m : Machine) (path : Path) (mode : Mode) : Machine :=
  { m with log := m.log.push (.including path mode) }

/-- What becomes of an inclusion, as far as it depends on dictionaries that are as given. -/
inductive Served (A : Replies) (run : Path → Value → Proc Unit) (directory : Path) (mode : Mode)
    (given : Heap) (es : Entries) : Inclusion → Machine → Except Ref Value → Machine → Prop
  /-- It is run once, with a new dictionary. What it raises is raised. -/
  | ran {t : Text} {override : Value} {above : Entries} {m m' : Machine} {result : Except Ref Unit}
      (laid : Context.overriding? given override = some above)
      (goes : (run (directory.join (Path.ofText t)) (.dict m.next)).Goes A
        ((including m (directory.join (Path.ofText t)) mode).withDict (es.merge above))
        (.ofResult result) m') :
      Served A run directory mode given es ⟨.str t, override⟩ m (result.map fun _ => .none) m'
  /-- It is not run, since what it is given of its own is no mapping. -/
  | refused {t : Text} {override : Value} {m : Machine}
      (laid : Context.overriding? given override = none) :
      Served A run directory mode given es ⟨.str t, override⟩ m (.error m.next)
        ((including m (directory.join (Path.ofText t)) mode).threw
          (Context.notAMapping m.heap override))
  /-- It is not run, since it has no path. -/
  | pathless {target override : Value} {m : Machine} (no : ∀ t, target ≠ .str t) :
      Served A run directory mode given es ⟨target, override⟩ m (.error m.next)
        (m.threw (notAPath m.heap target))

/-- What becomes of inclusions one after another. After each of them the dictionaries are as they
were given. -/
inductive AllServed (A : Replies) (run : Path → Value → Proc Unit) (directory : Path) (mode : Mode)
    (given : Heap) (es : Entries) :
    List Inclusion → Machine → List (Except Ref Value) → Machine → Prop
  | nil {m : Machine} : AllServed A run directory mode given es [] m [] m
  | cons {c : Inclusion} {calls : List Inclusion} {m m₁ m' : Machine} {result : Except Ref Value}
      {results : List (Except Ref Value)}
      (served : Served A run directory mode given es c m result m₁)
      (kept : given.KeepsDicts m₁.heap)
      (rest : AllServed A run directory mode given es calls m₁ results m') :
      AllServed A run directory mode given es (c :: calls) m (result :: results) m'

/-! ## One inclusion -/

theorem includeBy_of_overriding (hp : m.heap.get? parent = some (.dict es))
    (h : Context.overriding? m.heap override = some above) :
    includeBy run directory parent mode (.str t) override m =
      (run (directory.join (Path.ofText t)) (.dict m.next) >>= fun _ => pure .none)
        ((including m (directory.join (Path.ofText t)) mode).withDict (es.merge above)) := by
  have inherited := Context.inherit_of_overriding
    (m := including m (directory.join (Path.ofText t)) mode) hp h
  exact Proc.bind_of_done (p := Context.inherit parent override) inherited

theorem includeBy_of_not (h : Context.overriding? m.heap override = none) :
    includeBy run directory parent mode (.str t) override m =
      .done (.raised m.next) ((including m (directory.join (Path.ofText t)) mode).threw
        (Context.notAMapping m.heap override)) := by
  have inherited := Context.inherit_of_not (r := parent)
    (m := including m (directory.join (Path.ofText t)) mode) h
  change (Context.inherit parent override >>= _) (including m _ mode) = _
  rw [Proc.bind_eq, inherited]
  rfl

theorem includeBy_of_pathless (no : ∀ t, target ≠ .str t) :
    includeBy run directory parent mode target override m =
      .done (.raised m.next) (m.threw (notAPath m.heap target)) := by
  cases target with
  | str t => exact absurd rfl (no t)
  | _ => rfl

theorem overriding?_eq (kept : given.KeepsDicts m.heap)
    (ho : ∀ r, override = .dict r → ∃ bs, given.get? r = some (.dict bs)) :
    Context.overriding? m.heap override = Context.overriding? given override := by
  cases override with
  | dict r =>
    obtain ⟨bs, hr⟩ := ho r rfl
    simp only [Context.overriding?, Heap.dict, hr, kept r bs hr]
  | _ => rfl

/-- An inclusion goes as if the dictionaries were those that were given, since they are as given. -/
theorem goes_includeBy (kept : given.KeepsDicts m.heap) (hp : given.get? parent = some (.dict es))
    (ho : ∀ r, c.override = .dict r → ∃ bs, given.get? r = some (.dict bs)) :
    (includeBy run directory parent mode c.target c.override).Goes A m (.ofResult result) m' ↔
      Served A run directory mode given es c m result m' := by
  obtain ⟨target, override⟩ := c
  -- what is turned away at once
  have away {r : Ref} {m₁ : Machine}
      (h : includeBy run directory parent mode target override m = .done (.raised r) m₁) :
      (includeBy run directory parent mode target override).Goes A m (.ofResult result) m' ↔
        result = .error r ∧ m' = m₁ := by
    rw [Proc.goes_of_done h]
    cases result <;> simp [Outcome.ofResult]
  have same := overriding?_eq kept ho
  by_cases hs : ∃ t, target = .str t
  · obtain ⟨t, rfl⟩ := hs
    cases laid : Context.overriding? given override with
    | some above =>
      rw [Proc.Goes, includeBy_of_overriding (kept parent es hp) (same.trans laid)]
      refine Proc.goes_bind_pure.trans ⟨?_, fun h => ?_⟩
      · rintro ⟨result, goes, rfl⟩
        exact .ran laid goes
      · cases h with
        | ran laid' goes =>
          obtain rfl := Option.some.inj (laid.symm.trans laid')
          exact ⟨_, goes, rfl⟩
        | refused laid' => cases laid.symm.trans laid'
        | pathless no => exact absurd rfl (no t)
    | none =>
      rw [away (includeBy_of_not (same.trans laid))]
      constructor
      · rintro ⟨rfl, rfl⟩
        exact .refused laid
      · intro h
        cases h with
        | ran laid' => cases laid.symm.trans laid'
        | refused => exact ⟨rfl, rfl⟩
        | pathless no => exact absurd rfl (no t)
  · have no : ∀ t, target ≠ .str t := fun t ht => hs ⟨t, ht⟩
    rw [away (includeBy_of_pathless no)]
    constructor
    · rintro ⟨rfl, rfl⟩
      exact .pathless no
    · intro h
      cases h with
      | ran => exact absurd rfl (no _)
      | refused => exact absurd rfl (no _)
      | pathless => exact ⟨rfl, rfl⟩

/-- However an inclusion ends, the dictionaries are as they were. -/
theorem keepsDicts_includeBy {o : Outcome Value} (loc : Local A run)
    (hp : m.heap.get? parent = some (.dict es))
    (h : (includeBy run directory parent mode target override).Goes A m o m') :
    m.heap.KeepsDicts m'.heap := by
  by_cases hs : ∃ t, target = .str t
  · obtain ⟨t, rfl⟩ := hs
    cases laid : Context.overriding? m.heap override with
    | some above =>
      rw [Proc.Goes, includeBy_of_overriding hp laid] at h
      have ran : ∃ o, (run (directory.join (Path.ofText t)) (.dict m.next)).Goes A
          ((including m (directory.join (Path.ofText t)) mode).withDict (es.merge above)) o m' := by
        rcases Proc.goes_bind.1 h with ⟨a, m₁, goes, hv⟩ | ⟨r, goes, -⟩ | ⟨goes, -⟩
        · obtain ⟨-, rfl⟩ := Proc.goes_pure.1 hv
          exact ⟨_, goes⟩
        · exact ⟨_, goes⟩
        · exact ⟨_, goes⟩
      obtain ⟨o, goes⟩ := ran
      intro r bs hr
      -- what is there already is not the new dictionary
      exact loc _ _ _ _ _ goes r bs (Nat.ne_of_lt (Heap.lt_of_get? hr))
        (Machine.get?_withDict_of_get? hr)
    | none =>
      obtain ⟨-, rfl⟩ := (Proc.goes_of_done (includeBy_of_not laid)).1 h
      exact fun r bs hr => Machine.get?_threw_of_get? hr
  · obtain ⟨-, rfl⟩ := (Proc.goes_of_done (includeBy_of_pathless fun t ht => hs ⟨t, ht⟩)).1 h
    exact fun r bs hr => Machine.get?_threw_of_get? hr

/-! ## Inclusions one after another -/

theorem inTurn_cons : inTurn run directory parent mode (c :: calls) = (do
    let result ← (includeBy run directory parent mode c.target c.override).attempt
    let results ← inTurn run directory parent mode calls
    return result :: results) := List.mapM_cons

/-- The first inclusion ends, and the others go on from there; or it has no end. -/
theorem goes_inTurn_cons {o : Outcome (List (Except Ref Value))} :
    (inTurn run directory parent mode (c :: calls)).Goes A m o m' ↔
      (∃ result m₁, (includeBy run directory parent mode c.target c.override).Goes A m
          (.ofResult result) m₁ ∧
        ((inTurn run directory parent mode calls).Goes A m₁ .exhausted m' ∧ o = .exhausted ∨
          (∃ r, (inTurn run directory parent mode calls).Goes A m₁ (.raised r) m' ∧ o = .raised r) ∨
          ∃ results, (inTurn run directory parent mode calls).Goes A m₁ (.value results) m' ∧
            o = .value (result :: results))) ∨
        (includeBy run directory parent mode c.target c.override).Goes A m .exhausted m' ∧
          o = .exhausted := by
  rw [inTurn_cons, Proc.goes_bind]
  constructor
  · rintro (⟨result, m₁, h, hs⟩ | ⟨r, h, -⟩ | ⟨h, rfl⟩)
    · refine .inl ⟨result, m₁, Proc.goes_attempt_value.1 h, ?_⟩
      rcases Proc.goes_bind.1 hs with ⟨results, m₂, h, hr⟩ | h | h
      · obtain ⟨rfl, rfl⟩ := Proc.goes_pure.1 hr
        exact .inr (.inr ⟨results, h, rfl⟩)
      · exact .inr (.inl h)
      · exact .inl h
    · rcases Proc.goes_attempt.1 h with ⟨_, -, he⟩ | ⟨-, he⟩ <;> cases he
    · rcases Proc.goes_attempt.1 h with ⟨_, -, he⟩ | ⟨h, -⟩
      · cases he
      · exact .inr ⟨h, rfl⟩
  · rintro (⟨result, m₁, h, hs⟩ | ⟨h, rfl⟩)
    · refine .inl ⟨result, m₁, Proc.goes_attempt_value.2 h, Proc.goes_bind.2 ?_⟩
      rcases hs with hs | hs | ⟨results, hs, rfl⟩
      · exact .inr (.inr hs)
      · exact .inr (.inl hs)
      · exact .inl ⟨results, m', hs, Proc.goes_pure.2 ⟨rfl, rfl⟩⟩
    · exact .inr (.inr ⟨Proc.goes_attempt.2 (.inr ⟨h, rfl⟩), rfl⟩)

/-- The calls are served one after another. The induction is on the calls, and what it carries is
that the dictionaries are still as they were given. -/
theorem goes_inTurn (loc : Local A run) (hp : given.get? parent = some (.dict es))
    (ho : ∀ c ∈ calls, ∀ r, c.override = .dict r → ∃ bs, given.get? r = some (.dict bs))
    (kept : given.KeepsDicts m.heap) {results : List (Except Ref Value)} :
    (inTurn run directory parent mode calls).Goes A m (.value results) m' ↔
      AllServed A run directory mode given es calls m results m' := by
  induction calls generalizing m results with
  | nil =>
    refine Proc.goes_pure.trans ⟨?_, fun h => ?_⟩
    · rintro ⟨he, rfl⟩
      exact Outcome.value.inj he ▸ .nil
    · cases h
      exact ⟨rfl, rfl⟩
  | cons c calls ih =>
    have hc := ho c List.mem_cons_self
    have hcs := fun c h => ho c (List.mem_cons_of_mem _ h)
    rw [goes_inTurn_cons]
    constructor
    · rintro (⟨result, m₁, h, ⟨-, he⟩ | ⟨r, -, he⟩ | ⟨rest, hs, he⟩⟩ | ⟨-, he⟩)
      · cases he
      · cases he
      · obtain rfl := Outcome.value.inj he
        have kept₁ := kept.trans (keepsDicts_includeBy loc (kept _ _ hp) h)
        exact .cons ((goes_includeBy kept hp hc).1 h) kept₁ ((ih hcs kept₁).1 hs)
      · cases he
    · intro h
      cases h with
      | cons served kept₁ rest =>
        exact .inl ⟨_, _, (goes_includeBy kept hp hc).2 served,
          .inr (.inr ⟨_, (ih hcs kept₁).2 rest, rfl⟩)⟩

theorem keepsDicts_inTurn {o : Outcome (List (Except Ref Value))} (loc : Local A run)
    (hp : m.heap.get? parent = some (.dict es))
    (h : (inTurn run directory parent mode calls).Goes A m o m') :
    m.heap.KeepsDicts m'.heap ∧ ∀ r, o ≠ .raised r := by
  induction calls generalizing m o with
  | nil =>
    obtain ⟨rfl, rfl⟩ := Proc.goes_pure.1 h
    exact ⟨fun _ _ hr => hr, fun r hr => nomatch hr⟩
  | cons c calls ih =>
    rcases goes_inTurn_cons.1 h with ⟨result, m₁, first, hs⟩ | ⟨first, rfl⟩
    · have kept := keepsDicts_includeBy loc hp first
      rcases hs with ⟨hs, rfl⟩ | ⟨r, hs, rfl⟩ | ⟨results, hs, rfl⟩
      · exact ⟨kept.trans (ih (kept _ _ hp) hs).1, fun r hr => nomatch hr⟩
      · exact absurd rfl ((ih (kept _ _ hp) hs).2 r)
      · exact ⟨kept.trans (ih (kept _ _ hp) hs).1, fun r hr => nomatch hr⟩
    · exact ⟨keepsDicts_includeBy loc hp first, fun r hr => nomatch hr⟩

/-- Where every run has an end, inclusions have one. -/
theorem exists_goes_inTurn (loc : Local A run) (hp : m.heap.get? parent = some (.dict es))
    (total : ∀ path r m, ∃ end_ m', (run path (.dict r)).Goes A m (.ofResult end_) m') :
    ∃ results m', (inTurn run directory parent mode calls).Goes A m (.value results) m' := by
  have once (c : Inclusion) {m : Machine} (hp : m.heap.get? parent = some (.dict es)) :
      ∃ result m', (includeBy run directory parent mode c.target c.override).Goes A m
        (.ofResult result) m' := by
    obtain ⟨target, override⟩ := c
    by_cases hs : ∃ t, target = .str t
    · obtain ⟨t, rfl⟩ := hs
      cases laid : Context.overriding? m.heap override with
      | some above =>
        obtain ⟨end_, m', goes⟩ := total (directory.join (Path.ofText t)) m.next
          ((including m (directory.join (Path.ofText t)) mode).withDict (es.merge above))
        refine ⟨end_.map fun _ => .none, m', ?_⟩
        rw [Proc.Goes, includeBy_of_overriding hp laid]
        exact Proc.goes_bind_pure.2 ⟨end_, goes, rfl⟩
      | none =>
        exact ⟨.error _, _, (Proc.goes_of_done (includeBy_of_not laid)).2 ⟨rfl, rfl⟩⟩
    · exact ⟨.error _, _, (Proc.goes_of_done
        (includeBy_of_pathless fun t ht => hs ⟨t, ht⟩)).2 ⟨rfl, rfl⟩⟩
  induction calls generalizing m with
  | nil => exact ⟨[], m, Proc.goes_pure.2 ⟨rfl, rfl⟩⟩
  | cons c calls ih =>
    obtain ⟨result, m₁, h⟩ := once c hp
    obtain ⟨results, m', hs⟩ := ih (keepsDicts_includeBy loc hp h parent es hp)
    exact ⟨_, m', goes_inTurn_cons.2 (.inl ⟨result, m₁, h, .inr (.inr ⟨results, hs, rfl⟩)⟩)⟩

/-- Inclusions by one template do not see each other, whatever the runner does with the dictionaries
that it is given. Each is served as if it were the only one, with the contexts as they were before the
first one; after each of them, however it ends, they are still so. -/
theorem siblings_apart {A : Replies} {run : Path → Value → Proc Unit} (loc : Local A run)
    (directory : Path) (mode : Mode) {m : Machine} {parent : Ref} {es : Entries}
    (hp : m.heap.get? parent = some (.dict es)) {calls : List Inclusion}
    (ho : ∀ c ∈ calls, ∀ r, c.override = .dict r → ∃ bs, m.heap.get? r = some (.dict bs)) :
    (∀ results m', (inTurn run directory parent mode calls).Goes A m (.value results) m' ↔
      AllServed A run directory mode m.heap es calls m results m') ∧
    (∀ o m', (inTurn run directory parent mode calls).Goes A m o m' →
      m.heap.KeepsDicts m'.heap ∧ ∀ r, o ≠ .raised r) ∧
    ((∀ path r m, ∃ end_ m', (run path (.dict r)).Goes A m (.ofResult end_) m') →
      ∃ results m', (inTurn run directory parent mode calls).Goes A m (.value results) m') :=
  ⟨fun _ _ => goes_inTurn loc hp ho fun _ _ hr => hr, fun _ _ h => keepsDicts_inTurn loc hp h,
    exists_goes_inTurn loc hp⟩

/-- A runner that empties what it is given, and raises for one path. -/
def emptying (path : Path) (v : Value) : Proc Unit := do
  match v with
  | .dict r =>
    Proc.put r (.dict [])
    if path = Path.ofText "b" then Proc.error .valueError "b"
  | _ => return ()

theorem local_emptying : Local A emptying := by
  intro path r m o m' goes s es hs hg
  have kept : (m.heap.set r (.dict [])).get? s = some (.dict es) :=
    (Heap.get?_set_of_ne (Ne.symm hs)).trans hg
  by_cases hb : path = Path.ofText "b"
  · have raises : emptying path (.dict r) m =
        (Proc.error .valueError "b" : Proc Unit) { m with heap := m.heap.set r (.dict []) } := by
      rw [emptying, hb]
      rfl
    obtain ⟨-, rfl⟩ := (Proc.goes_of_done raises).1 goes
    exact Machine.get?_threw_of_get? kept
  · have ends : emptying path (.dict r) m =
        .done (.value ()) { m with heap := m.heap.set r (.dict []) } := by
      simp only [emptying, if_neg hb]
      rfl
    obtain ⟨-, rfl⟩ := (Proc.goes_of_done ends).1 goes
    exact kept

/-- Four inclusions, of which the second one raises, and the third one is given a number. -/
theorem siblings_apart_emptying :
    let parent : Entries := [(.str "x", .int 1)]
    let override : Entries := [(.str "x", .int 2), (.str "y", .int 3)]
    let m := Context.holding [parent, override]
    let calls : List Inclusion :=
      [⟨.str "a", .none⟩, ⟨.str "b", .dict 1⟩, ⟨.str "c", .int 5⟩, ⟨.str "d", .dict 1⟩]
    ∃ m', AllServed (fun _ _ => True) emptying Path.here .suspending m.heap parent calls m
      [.ok .none, .error 4, .error 5, .ok .none] m' ∧ m.heap.KeepsDicts m'.heap := by
  intro parent override m calls
  have ends : inTurn emptying Path.here 0 .suspending calls m =
    .done (.value [.ok .none, .error 4, .error 5, .ok .none]) _ := rfl
  have hp : m.heap.get? 0 = some (.dict parent) := rfl
  have ho : ∀ c ∈ calls, ∀ r, c.override = .dict r → ∃ bs, m.heap.get? r = some (.dict bs) := by
    intro c hc r hr
    simp only [calls, List.mem_cons, List.not_mem_nil, or_false] at hc
    rcases hc with rfl | rfl | rfl | rfl <;> cases hr <;> exact ⟨override, rfl⟩
  have apart := siblings_apart (A := fun _ _ => True) local_emptying Path.here .suspending hp ho
  have goes := (Proc.goes_of_done (A := fun _ _ => True) ends).2 ⟨rfl, rfl⟩
  exact ⟨_, (apart.1 _ _).1 goes, (apart.2.1 _ _ goes).1⟩

end Run

end Stencil
