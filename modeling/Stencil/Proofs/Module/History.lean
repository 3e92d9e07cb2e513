import Mathlib.Data.Nat.Find
import Stencil.Proofs.Module.Visit

/-!
# Modules that are loaded once

Over a whole history, in which files come, change and go between the calls, the code of a file runs
to its end once: in the first call for it that goes well. From then on every call for the file
yields the module of that call, whatever has become of the file. A call that fails leaves nothing
behind, so that the next one begins anew.

The module is kept while its code runs, and the modules that are kept are looked through before the
file is. What carries the proofs is that between calls they are those of the calls that went well.

## Main definitions

* `Module.Happening` — the disk changes, or there is a call.
* `Module.visits` — the calls of a history, with the disk and the machine that each of them finds.
* `Module.Keeps` — the modules that are kept are those of the calls that went well.

## Main results

* `Module.keeps_visits` — this holds before and after every call of a history.
* `Module.loads_once` — the code of a file runs to its end once.
-/

namespace Stencil.Module

/-- What happens in a history. -/
inductive Happening where
  /-- Files are created, changed and deleted, by which the disk becomes another one. -/
  | change (d : Disk)
  | call (q : Requirement)

/-- The calls of a history, in their order; nothing follows on one that does not come to an end. -/
def visits (I : Interp) (m : Machine) (d : Disk) : List Happening → List Visit
  | [] => []
  | .change d' :: hs => visits I m d' hs
  | .call q :: hs =>
    let v : Visit := ⟨q, d, m⟩
    v :: match v.outcome I with
      | .exhausted => []
      | _ => visits I (v.after I) (v.left I) hs

variable {I : Interp} {past : List Visit} {v w : Visit} {m m' : Machine} {d : Disk}
  {file : Text} {r : Ref}

/-- The modules that are kept are those of the calls that went well. -/
structure Keeps (I : Interp) (past : List Visit) (m : Machine) : Prop where
  known : ∀ file r, m.loaded? file = some r →
    ∃ v ∈ past, v.file? = some file ∧ v.outcome I = .value (.module r)
  found : ∀ v ∈ past, ∀ x, v.outcome I = .value x →
    ∃ file r, v.file? = some file ∧ x = .module r ∧ m.loaded? file = some r
  apart : ∀ file file' r, m.loaded? file = some r → m.loaded? file' = some r → file = file'
  old : ∀ file r, m.loaded? file = some r → r < m.next

namespace Keeps

/-- A file is not loaded if no call for it went well. -/
theorem loaded?_eq_none (h : Keeps I past m) :
    m.loaded? file = none ↔ ∀ v ∈ past, v.file? = some file → ∀ x, v.outcome I ≠ .value x := by
  constructor
  · intro hn v hv hf x hx
    obtain ⟨file', r, hf', -, hr⟩ := h.found v hv x hx
    obtain rfl := Option.some.inj (hf.symm.trans hf')
    nomatch hn.symm.trans hr
  · intro hno
    cases hr : m.loaded? file with
    | none => rfl
    | some r =>
      obtain ⟨v, hv, hf, ho⟩ := h.known file r hr
      exact absurd ho (hno v hv hf _)

/-- Nothing new has been loaded. -/
theorem of_modules (h : Keeps I past v.before) (hm : m'.modules = v.before.modules)
    (hn : v.before.next ≤ m'.next) (hv : ∀ x, v.outcome I = .value x →
      ∃ file r, v.file? = some file ∧ x = .module r ∧ v.before.loaded? file = some r) :
    Keeps I (past ++ [v]) m' := by
  have same (file : Text) : m'.loaded? file = v.before.loaded? file := by
    rw [Machine.loaded?, hm, Machine.loaded?]
  refine ⟨fun file r hr => ?_, fun w hw x hx => ?_, fun file file' r hr hr' => ?_,
    fun file r hr => ?_⟩
  · obtain ⟨w, hw, hf, ho⟩ := h.known file r (by rwa [← same])
    exact ⟨w, List.mem_append_left _ hw, hf, ho⟩
  · simp only [same]
    rcases List.mem_append.1 hw with hw | hw
    · exact h.found w hw x hx
    · obtain rfl := List.mem_singleton.1 hw
      exact hv x hx
  · exact h.apart file file' r (by rwa [← same]) (by rwa [← same])
  · exact Nat.lt_of_lt_of_le (h.old file r (by rwa [← same])) hn

/-- A new module has been loaded. -/
theorem of_new (h : Keeps I past v.before) (hf : v.file? = some file)
    (new : v.before.loaded? file = none) (ho : v.outcome I = .value (.module v.before.next))
    (hm : m'.modules = (file, v.before.next) :: v.before.modules) (hn : v.before.next < m'.next) :
    Keeps I (past ++ [v]) m' := by
  have here : m'.loaded? file = some v.before.next := by simp [Machine.loaded?, hm]
  have other (file' : Text) (hne : file ≠ file') :
      m'.loaded? file' = v.before.loaded? file' := by
    simp [Machine.loaded?, hm, hne]
  have cases (file' : Text) (r : Ref) (hr : m'.loaded? file' = some r) :
      file' = file ∧ r = v.before.next ∨ file ≠ file' ∧ v.before.loaded? file' = some r := by
    by_cases hne : file = file'
    · subst hne
      exact .inl ⟨rfl, Option.some.inj (hr.symm.trans here)⟩
    · exact .inr ⟨hne, by rwa [← other file' hne]⟩
  refine ⟨fun file' r hr => ?_, fun w hw x hx => ?_, fun file₁ file₂ r h₁ h₂ => ?_,
    fun file' r hr => ?_⟩
  · obtain ⟨rfl, rfl⟩ | ⟨-, hr⟩ := cases file' r hr
    · exact ⟨v, by simp, hf, ho⟩
    · obtain ⟨w, hw, hf, ho⟩ := h.known file' r hr
      exact ⟨w, List.mem_append_left _ hw, hf, ho⟩
  · rcases List.mem_append.1 hw with hw | hw
    · obtain ⟨file', r, hf', rfl, hr⟩ := h.found w hw x hx
      have hne : file ≠ file' := by
        rintro rfl
        cases new.symm.trans hr
      exact ⟨file', r, hf', rfl, (other file' hne).trans hr⟩
    · obtain rfl := List.mem_singleton.1 hw
      obtain rfl := Outcome.value.inj (ho.symm.trans hx)
      exact ⟨file, _, hf, rfl, here⟩
  · obtain ⟨rfl, rfl⟩ | ⟨-, h₁⟩ := cases file₁ r h₁
    · obtain ⟨rfl, -⟩ | ⟨-, h₂⟩ := cases file₂ _ h₂
      · rfl
      · exact absurd (h.old _ _ h₂) (Nat.lt_irrefl _)
    · obtain ⟨rfl, rfl⟩ | ⟨-, h₂⟩ := cases file₂ r h₂
      · exact absurd (h.old _ _ h₁) (Nat.lt_irrefl _)
      · exact h.apart _ _ r h₁ h₂
  · obtain ⟨-, rfl⟩ | ⟨-, hr⟩ := cases file' r hr
    · exact hn
    · exact Nat.lt_trans (h.old _ _ hr) hn

variable {limit depth fuel : Nat} {cwd : Path} {ρ : Roles (Policy.bare cwd)}

/-- What one call preserves. -/
theorem after (hI : I = Interp.ofFuel Run.grant limit depth fuel) (hs : ρ.Sound v.before)
    (h : Keeps I past v.before) (ended : v.outcome I ≠ .exhausted) :
    Keeps I (past ++ [v]) (v.after I) := by
  have ends : v.Ends I (v.outcome I) (v.after I) (v.reads I) := hI ▸ Visit.ends hs
  generalize ho : v.outcome I = o at ends ended
  generalize v.after I = m, v.reads I = ps at ends ⊢
  cases ends with
  | lost nowhere =>
    exact h.of_modules rfl (Machine.next_le_threw _ _) fun x hx => nomatch ho.symm.trans hx
  | found place loaded =>
    refine h.of_modules rfl (Nat.le_refl _) fun x hx => ?_
    obtain rfl := Outcome.value.inj (ho.symm.trans hx)
    exact ⟨_, _, place, rfl, loaded⟩
  | refused place new script =>
    exact h.of_modules rfl (Machine.next_le_threw _ _) fun x hx => nomatch ho.symm.trans hx
  | completed place new script runs modules size =>
    exact h.of_new (Visit.file?_of_place place) new ho modules size
  | failed place new script runs size =>
    exact h.of_modules rfl size fun x hx => nomatch ho.symm.trans hx
  | endless => exact absurd rfl ended

end Keeps

variable {limit depth fuel : Nat} {cwd : Path} {ρ : Roles (Policy.bare cwd)}

/-- What a history preserves: before each of its calls, and after it if it comes to an end, the
modules that are kept are those of the calls that went well until then. -/
theorem keeps_visits (hI : I = Interp.ofFuel Run.grant limit depth fuel) (hs : ρ.Sound m)
    (h : Keeps I past m) (happenings : List Happening) {i : Nat}
    (hv : (visits I m d happenings)[i]? = some v) :
    (∃ ρ : Roles (Policy.bare cwd), ρ.Sound v.before) ∧
      Keeps I (past ++ (visits I m d happenings).take i) v.before := by
  induction happenings generalizing past m d i ρ with
  | nil => nomatch hv
  | cons happening happenings ih =>
    cases happening with
    | change d' => exact ih hs h hv
    | call q =>
      simp only [visits] at hv ⊢
      generalize hw : (⟨q, d, m⟩ : Visit) = w at hv ⊢
      obtain rfl : w.before = m := hw ▸ rfl
      cases i with
      | zero =>
        obtain rfl := Option.some.inj hv
        exact ⟨⟨ρ, hs⟩, by simpa using h⟩
      | succ i =>
        rw [List.getElem?_cons_succ] at hv
        by_cases ended : w.outcome I = .exhausted
        · rw [ended] at hv
          nomatch hv
        · have rest : (match w.outcome I with
              | .exhausted => []
              | _ => visits I (w.after I) (w.left I) happenings) =
                visits I (w.after I) (w.left I) happenings := by
            split
            · next he => exact absurd he ended
            · rfl
          rw [rest] at hv ⊢
          obtain ⟨ρ', hs'⟩ : ∃ ρ' : Roles (Policy.bare cwd), ρ'.Sound (w.after I) :=
            hI ▸ Visit.sound_after hs
          have kept := ih hs' (h.after hI hs ended) hv
          rwa [List.append_assoc] at kept

/-! ## What a history comes to -/

/-- A call leads to a file, and goes well. -/
def Visit.Serves (I : Interp) (v : Visit) (file : Text) : Prop :=
  v.file? = some file ∧ ∃ x, v.outcome I = .value x

/-- How a call ends in which code has come to an outcome. -/
def Visit.result (v : Visit) : Outcome Unit → Outcome Value
  | .value () => .value (.module v.before.next)
  | .raised r => .raised r
  | .exhausted => .exhausted

/-- Of the calls for a file the one at a place is the first that goes well, and loads its module. -/
structure LoadsAt (I : Interp) (vs : List Visit) (file : Text) (x : Value) (j : Nat) : Prop where
  first : ∀ (k : Nat) (u : Visit), k < j → vs[k]? = some u → ¬ u.Serves I file
  /-- The code runs to its end, with the octets that the file has then. -/
  loads : ∃ w, vs[j]? = some w ∧ w.Executes I file (.value ()) ∧ w.outcome I = .value x
  /-- The code runs to its end in no other call. -/
  only : ∀ (k : Nat) (u : Visit), vs[k]? = some u → u.Executes I file (.value ()) → k = j
  /-- Later calls for the file yield the same module, read nothing and change nothing. -/
  later : ∀ (k : Nat) (u : Visit), j < k → vs[k]? = some u → u.file? = some file →
    u.outcome I = .value x ∧ u.reads I = [] ∧ u.after I = u.before

/-- The modules of calls are loaded once. -/
structure LoadsOnce (I : Interp) (vs : List Visit) : Prop where
  /-- Two calls that go well yield the same module if and only if they lead to the same file. -/
  same : ∀ v ∈ vs, ∀ w ∈ vs, ∀ x y, v.outcome I = .value x → w.outcome I = .value y →
    (x = y ↔ v.file? = w.file?)
  /-- The module that a call yields has been loaded in this call or an earlier one, from the file
  that the call leads to. -/
  once : ∀ (i : Nat) (v : Visit) (x : Value), vs[i]? = some v → v.outcome I = .value x →
    ∃ file, v.file? = some file ∧ ∃ j ≤ i, LoadsAt I vs file x j
  /-- A call that fails leaves the modules as they were. -/
  failed : ∀ v ∈ vs, ∀ r, v.outcome I = .raised r → (v.after I).modules = v.before.modules
  /-- A call for a script executes what the file holds then, if no call for it went well before. -/
  afresh : ∀ (i : Nat) (v : Visit) (file : Text), vs[i]? = some v → v.file? = some file →
    v.HasScript → (∀ (k : Nat) (u : Visit), k < i → vs[k]? = some u → ¬ u.Serves I file) →
    ∃ o, v.Executes I file o ∧ v.outcome I = v.result o

theorem mem_take_iff {vs : List Visit} {i : Nat} :
    v ∈ vs.take i ↔ ∃ k < i, vs[k]? = some v := by
  rw [List.mem_iff_getElem?]
  refine exists_congr fun k => ?_
  rw [List.getElem?_take]
  split
  · next hk => simp [hk]
  · next hk => simp [hk]

/-- Two calls that went well. -/
theorem Keeps.same (h : Keeps I past m) (hv : v ∈ past) (hw : w ∈ past) {x y : Value}
    (hx : v.outcome I = .value x) (hy : w.outcome I = .value y) :
    x = y ↔ v.file? = w.file? := by
  obtain ⟨file, r, hf, rfl, hr⟩ := h.found v hv x hx
  obtain ⟨file', r', hf', rfl, hr'⟩ := h.found w hw y hy
  rw [hf, hf', Option.some.injEq]
  constructor
  · rintro ⟨⟩
    exact h.apart _ _ r hr hr'
  · rintro rfl
    rw [Option.some.inj (hr.symm.trans hr')]

namespace Visit

/-- Code comes to one outcome. -/
theorem Runs.outcome_eq {p : Path} {o o' : Outcome Unit} (h : v.Runs I p o m)
    (h' : v.Runs I p o' m') : o = o' := by
  obtain ⟨octets, hr, hc⟩ := h
  obtain ⟨octets', hr', hc'⟩ := h'
  obtain rfl := Except.ok.inj (hr.symm.trans hr')
  exact (Step.done.inj (hc.symm.trans hc')).1

/-- Code that is executed to its end is that of a file which has not been loaded, and the call goes
well. -/
theorem Ends.of_executes (h : v.Ends I (v.outcome I) (v.after I) (v.reads I))
    (he : v.Executes I file (.value ())) :
    v.Serves I file ∧ v.before.loaded? file = none := by
  obtain ⟨p, m, hp, rfl, runs⟩ := he
  rw [hp] at h
  generalize ho : v.outcome I = o at h
  generalize v.after I = m at h
  cases h with
  | completed place new => exact ⟨⟨file?_of_place place, _, ho⟩, new⟩
  | failed place new script raises => nomatch runs.outcome_eq raises
  | endless place new script stops => nomatch runs.outcome_eq stops

/-- A call for a file that is loaded. -/
theorem Ends.of_loaded (h : v.Ends I (v.outcome I) (v.after I) (v.reads I))
    (hf : v.file? = some file) (hr : v.before.loaded? file = some r) :
    v.outcome I = .value (.module r) ∧ v.reads I = [] ∧ v.after I = v.before := by
  generalize v.outcome I = o, v.after I = m, v.reads I = ps at h ⊢
  have known {p : Path} (place : v.place? = some p) : v.before.loaded? p.text = some r := by
    rwa [← Option.some.inj (hf.symm.trans (file?_of_place place))]
  cases h with
  | lost nowhere => nomatch hf.symm.trans nowhere
  | found place loaded =>
    obtain rfl := Option.some.inj (hf.symm.trans place)
    obtain rfl := Option.some.inj (hr.symm.trans loaded)
    exact ⟨rfl, rfl, rfl⟩
  | refused place new =>
    obtain rfl := Option.some.inj (hf.symm.trans place)
    nomatch hr.symm.trans new
  | completed place new | failed place new | endless place new =>
    nomatch (known place).symm.trans new

/-- A call for a script that is not loaded. -/
theorem Ends.of_new (h : v.Ends I (v.outcome I) (v.after I) (v.reads I))
    (hf : v.file? = some file) (new : v.before.loaded? file = none) (script : v.HasScript) :
    ∃ o, v.Executes I file o ∧ v.outcome I = v.result o := by
  unfold Executes
  generalize v.outcome I = o, v.after I = m, v.reads I = ps at h ⊢
  have text {p : Path} (place : v.place? = some p) : p.text = file :=
    Option.some.inj ((file?_of_place place).symm.trans hf)
  cases h with
  | lost nowhere => nomatch hf.symm.trans nowhere
  | found place loaded =>
    obtain rfl := Option.some.inj (hf.symm.trans place)
    nomatch new.symm.trans loaded
  | refused place new none => exact absurd script none
  | completed place _ _ runs => exact ⟨.value (), ⟨_, _, rfl, text place, runs⟩, rfl⟩
  | failed place _ _ runs => exact ⟨.raised _, ⟨_, _, rfl, text place, runs⟩, rfl⟩
  | endless place _ _ runs => exact ⟨.exhausted, ⟨_, _, rfl, text place, runs⟩, rfl⟩

/-- A call that fails leaves the modules as they were. -/
theorem Ends.of_raised (h : v.Ends I (v.outcome I) (v.after I) (v.reads I))
    (ho : v.outcome I = .raised r) : (v.after I).modules = v.before.modules := by
  rw [ho] at h
  generalize v.after I = m, v.reads I = ps at h ⊢
  cases h <;> rfl

end Visit

/-- What is known about a call at a place in a history. -/
structure Tracked (I : Interp) (vs : List Visit) (i : Nat) (v : Visit) : Prop where
  ends : v.Ends I (v.outcome I) (v.after I) (v.reads I)
  before : Keeps I (vs.take i) v.before
  after : v.outcome I ≠ .exhausted → Keeps I (vs.take (i + 1)) (v.after I)

variable {vs : List Visit} {happenings : List Happening} {i j k : Nat} {x y : Value}

theorem tracked_visits (hI : I = Interp.ofFuel Run.grant limit depth fuel)
    (hvs : visits I (Machine.fresh cwd) d happenings = vs) (hv : vs[i]? = some v) :
    Tracked I vs i v := by
  have fresh : Roles.Sound (P := .bare cwd) (fun _ => none) (Machine.fresh cwd) :=
    ⟨nofun, nofun, rfl⟩
  have nothing : Keeps I [] (Machine.fresh cwd) := ⟨nofun, nofun, nofun, nofun⟩
  subst hvs
  obtain ⟨⟨ρ, hs⟩, kept⟩ := keeps_visits hI fresh nothing happenings hv
  refine ⟨hI ▸ Visit.ends hs, kept, fun ended => ?_⟩
  rw [List.take_add_one, hv]
  exact kept.after hI hs ended

namespace Tracked

/-- A file that no call has served before is not loaded yet. -/
theorem loaded?_eq_none (h : Tracked I vs i v)
    (first : ∀ (k : Nat) (u : Visit), k < i → vs[k]? = some u → ¬ u.Serves I file) :
    v.before.loaded? file = none := by
  refine h.before.loaded?_eq_none.2 fun u hu hf x hx => ?_
  obtain ⟨k, hk, hu⟩ := mem_take_iff.1 hu
  exact first k u hk hu ⟨hf, x, hx⟩

/-- A file that a call has served before is loaded, as the module of that call. -/
theorem exists_loaded (h : Tracked I vs i v) (hw : vs[k]? = some w) (hk : k < i)
    (hf : w.file? = some file) (hx : w.outcome I = .value x) :
    ∃ r, x = .module r ∧ v.before.loaded? file = some r := by
  obtain ⟨file', r, hf', rfl, hr⟩ := h.before.found w (mem_take_iff.2 ⟨k, hk, hw⟩) x hx
  obtain rfl := Option.some.inj (hf.symm.trans hf')
  exact ⟨r, rfl, hr⟩

/-- Two calls that go well, the later of which is given. -/
theorem same (h : Tracked I vs i v) (hv : vs[i]? = some v) (hw : vs[k]? = some w) (hk : k ≤ i)
    (hx : v.outcome I = .value x) (hy : w.outcome I = .value y) :
    x = y ↔ v.file? = w.file? :=
  (h.after fun he => nomatch hx.symm.trans he).same (mem_take_iff.2 ⟨i, Nat.lt_succ_self i, hv⟩)
    (mem_take_iff.2 ⟨k, Nat.lt_succ_of_le hk, hw⟩) hx hy

/-- The first call that serves a file executes its code. -/
theorem executes (h : Tracked I vs i v) (hf : v.file? = some file)
    (first : ∀ (k : Nat) (u : Visit), k < i → vs[k]? = some u → ¬ u.Serves I file)
    (hx : v.outcome I = .value x) : v.Executes I file (.value ()) := by
  have new := h.loaded?_eq_none first
  have ends := h.ends
  unfold Visit.Executes
  rw [hx] at ends
  generalize v.after I = m, v.reads I = ps at ends ⊢
  cases ends with
  | found place loaded =>
    obtain rfl := Option.some.inj (hf.symm.trans place)
    nomatch new.symm.trans loaded
  | completed place _ _ runs =>
    exact ⟨_, _, rfl, Option.some.inj ((Visit.file?_of_place place).symm.trans hf), runs⟩

end Tracked

/-- A file that a call serves has been loaded in the first call that serves it. -/
theorem exists_loadsAt (tracked : ∀ {i v}, vs[i]? = some v → Tracked I vs i v)
    (hv : vs[i]? = some v) (hf : v.file? = some file) (hx : v.outcome I = .value x) :
    ∃ j ≤ i, LoadsAt I vs file x j := by
  classical
  have served : ∃ (j : Nat) (w : Visit), vs[j]? = some w ∧ w.Serves I file := ⟨i, v, hv, hf, x, hx⟩
  obtain ⟨w, hw, hfile, y, hy⟩ := Nat.find_spec served
  have hle : Nat.find served ≤ i := Nat.find_min' served ⟨v, hv, hf, x, hx⟩
  have first (k : Nat) (u : Visit) (hk : k < Nat.find served) (hu : vs[k]? = some u) :
      ¬ u.Serves I file := fun hs => Nat.find_min served hk ⟨u, hu, hs⟩
  obtain rfl : x = y := ((tracked hv).same hv hw hle hx hy).2 (hf.trans hfile.symm)
  refine ⟨Nat.find served, hle, first, ⟨w, hw, (tracked hw).executes hfile first hy, hy⟩,
    fun k u hu he => ?_, fun k u hk hu hfu => ?_⟩
  · obtain ⟨hs, new⟩ := (tracked hu).ends.of_executes he
    refine Nat.le_antisymm (Nat.le_of_not_lt fun hk => ?_) (Nat.find_min' served ⟨u, hu, hs⟩)
    obtain ⟨r, -, hr⟩ := (tracked hu).exists_loaded hw hk hfile hy
    nomatch new.symm.trans hr
  · obtain ⟨r, rfl, hr⟩ := (tracked hu).exists_loaded hw hk hfile hy
    exact (tracked hu).ends.of_loaded hfu hr

/-- A file is not there, is created and loaded, and is deleted again; its module stays. -/
example :
    let there : Disk := ⟨[(["t"], none), (["t", "m.py"], some [120, 32, 61, 32, 49, 10])]⟩
    let stem : Requirement := ⟨Path.ofText "/t", "./m", .inl rfl, 0⟩
    let whole : Requirement := ⟨Path.ofText "/t", "../t/m.py", .inr rfl, 0⟩
    (visits Interp.standard (Machine.fresh (Path.ofText "/")) Disk.empty
      [.call stem, .change there, .call stem, .change Disk.empty, .call whole]).map
        (fun v => v.outcome Interp.standard matches .value (.module 1)) = [false, true, true] := by
  decide +kernel

end Stencil.Module
