import Stencil.Disk.Basic
import Stencil.Proofs.Machine.Safe

/-!
# What becomes of a disk

Directories that are made leave all files as they are. A file can only be where its directory is,
so that a file that could not be reached before its directory was refused cannot be reached after.

## Main definitions

* `Disk.Extends` — a disk with more directories.
* `Disk.HasDirectory` — a path leads to a directory.

## Main results

* `Disk.extends_makeDirectories`, `Disk.not_hasDirectory_of_makeDirectories` — directories are made.
* `Disk.read_write`, `Disk.not_read_of_write` — a file is written.
* `Disk.replay_answer` — requests that are quiet leave a disk as it is.
-/

namespace Stencil

/-! ## Texts of paths -/

namespace Text

theorem surrogates?_of_append {excused : CodePoint → Bool} {t u : Text} {n : Nat}
    (h : surrogates? excused n (t ++ u) = none) : surrogates? excused n t = none := by
  induction t generalizing n with
  | nil => rfl
  | cons c t ih =>
    simp only [List.cons_append, surrogates?] at h ⊢
    split at h
    · nomatch h
    · next hc => rw [if_neg hc]; exact ih h

/-- Pieces are joined with the last one at the end. -/
theorem join_concat (separator : Text) (ts : List Text) (t : Text) :
    join separator ts <+: join separator (ts ++ [t]) := by
  induction ts with
  | nil => exact List.nil_prefix
  | cons u ts ih =>
    cases ts with
    | nil => exact ⟨separator ++ t, (List.append_assoc ..).symm⟩
    | cons v ts => exact List.prefix_append_right_inj _ |>.2 ih

end Text

namespace Disk

variable {d d' d'' : Disk} {place q : List Text} {node : Option Octets} {p : Path}
  {octets : Octets}

theorem width_le_append (t u : Text) : width t ≤ width (t ++ u) := by
  induction t with
  | nil => exact Nat.zero_le _
  | cons c t ih => exact Nat.add_le_add_left ih _

theorem fault?_of_append {t u : Text} (h : fault? (t ++ u) = none) : fault? t = none := by
  unfold fault? at h ⊢
  split at h
  · nomatch h
  · next hs =>
    rw [Text.surrogates?_of_append hs]
    have := width_le_append t u
    split at h
    · nomatch h
    · next h0 =>
      rw [if_neg fun hm => h0 (List.mem_append_left _ hm)]
      split at h
      · nomatch h
      · rw [if_neg (by omega)]

/-- What leads to a path leads to the path above it. -/
theorem fault?_parent (h : fault? p.text = none) : fault? p.parent.text = none := by
  obtain ⟨root, parts⟩ := p
  obtain rfl | ⟨init, last, rfl⟩ := List.eq_nil_or_concat parts
  · exact h
  · rw [List.concat_eq_append] at h ⊢
    obtain ⟨rest, hrest⟩ := Text.join_concat "/" init last
    have htext : (⟨root, init ++ [last]⟩ : Path).text =
        root.text ++ Text.join "/" (init ++ [last]) := by
      unfold Path.text
      split
      · next hparts => exact absurd hparts (by simp)
      · rfl
    simp only [Path.parent, List.dropLast_concat]
    unfold Path.text
    split
    · decide
    · rw [htext, ← hrest, ← List.append_assoc] at h
      exact fault?_of_append h

/-! ## What is at a place -/

theorem find?_put (hp : place ≠ []) : (d.put place node).find? place = some node := by
  have he : place.isEmpty = false := by simpa using hp
  simp only [put, find?, he]
  cases hf : d.nodes.find? (·.1 == place) with
  | none => simp [List.find?_append, hf]
  | some n =>
    have hn : n.1 = place := by simpa using List.find?_some hf
    have hcomp : ((·.1 == place) ∘ fun x : List Text × Option Octets =>
        if x.1 = place then (x.1, node) else (x.1, x.2)) = (·.1 == place) := by
      funext x
      by_cases hx : x.1 = place <;> simp [hx]
    simp only [hf, Option.map_some, Option.isSome_some, if_true, Bool.false_eq_true, if_false,
      List.find?_map, hcomp, hn]

theorem find?_put_of_ne (hq : q ≠ place) : (d.put place node).find? q = d.find? q := by
  unfold put
  split
  · rfl
  · split
    · have hcomp : ((·.1 == q) ∘ fun x : List Text × Option Octets =>
          if x.1 = place then (x.1, node) else (x.1, x.2)) = (·.1 == q) := by
        funext x
        by_cases hx : x.1 = place <;> simp [hx]
      have hsnd (x : List Text × Option Octets) (hx : x.1 = q) :
          (if x.1 = place then (x.1, node) else (x.1, x.2)).2 = x.2 := by
        rw [if_neg (hx ▸ hq)]
      simp only [find?, List.find?_map, hcomp]
      cases hf : d.nodes.find? (·.1 == q) with
      | none => rfl
      | some n =>
        have hn : n.1 = q := by simpa using List.find?_some hf
        simp [hn, hq]
    · have hne : ¬ place = q := fun e => hq e.symm
      simp [find?, List.find?_append, hne]

theorem ne_nil_of_file (h : d.find? place = some (some octets)) : place ≠ [] := by
  rintro rfl
  simp [find?] at h

/-- Where a component leads to from a directory. -/
def enter (place : List Text) (part : Text) : List Text :=
  if part = ".." then place.dropLast else place ++ [part]

/-- A way goes on from a directory, by a name that is not too long. -/
theorem follow_cons {part : Text} {parts : List Text} :
    d.follow place (part :: parts) = .ok q ↔ d.find? place = some none ∧
      (part = ".." ∨ width part ≤ maxName) ∧ d.follow (enter place part) parts = .ok q := by
  rw [follow]
  split
  · next hp => simp [hp]
  · next hp => simp [hp]
  · next hp =>
    rw [hp, enter]
    split
    · next hpart => simp [hpart]
    · next hpart =>
      split
      · next hw => simp [hpart, Nat.not_le.2 hw]
      · next hw => simp [hpart, Nat.not_lt.1 hw]

/-- A disk has all that another one has, and no other files. -/
structure Extends (d d' : Disk) : Prop where
  kept : ∀ {place node}, d.find? place = some node → d'.find? place = some node
  files : ∀ {place octets}, d'.find? place = some (some octets) →
    d.find? place = some (some octets)

namespace Extends

theorem refl (d : Disk) : Extends d d := ⟨id, id⟩

theorem trans (h : Extends d d') (h' : Extends d' d'') : Extends d d'' :=
  ⟨fun hn => h'.kept (h.kept hn), fun ho => h.files (h'.files ho)⟩

theorem follow {parts : List Text} (h : Extends d d') (hq : d.follow place parts = .ok q) :
    d'.follow place parts = .ok q := by
  induction parts generalizing place with
  | nil => exact hq
  | cons part parts ih =>
    obtain ⟨hp, hpart, hrest⟩ := follow_cons.1 hq
    exact follow_cons.2 ⟨h.kept hp, hpart, ih hrest⟩

theorem walk (h : Extends d d') (hq : d.walk p = .ok q) : d'.walk p = .ok q := by
  unfold Disk.walk at hq ⊢
  split at hq
  · nomatch hq
  · next hf => exact h.follow hq

end Extends

/-! ## Directories -/

/-- A path leads to a directory. -/
def HasDirectory (d : Disk) (p : Path) : Prop := ∃ q, d.walk p = .ok q ∧ d.find? q = some none

theorem follow_append {init rest : List Text} (h : d.follow place (init ++ rest) = .ok q) :
    ∃ q', d.follow place init = .ok q' ∧ d.follow q' rest = .ok q := by
  induction init generalizing place with
  | nil => exact ⟨place, rfl, h⟩
  | cons part init ih =>
    obtain ⟨hp, hpart, hrest⟩ := follow_cons.1 h
    obtain ⟨q', hq', hlast⟩ := ih hrest
    exact ⟨q', follow_cons.2 ⟨hp, hpart, hq'⟩, hlast⟩

/-- Whatever a path leads to is in a directory. -/
theorem hasDirectory_parent {last : Text} {init : List Text} (hp : p.parts = init ++ [last])
    (h : d.walk p = .ok q) : d.HasDirectory p.parent := by
  unfold walk at h
  split at h
  · nomatch h
  · next hf =>
    rw [hp] at h
    obtain ⟨q', hq', hlast⟩ := follow_append h
    refine ⟨q', ?_, ?_⟩
    · rw [walk, fault?_parent hf]
      simpa only [Path.parent, hp, List.dropLast_concat] using hq'
    · exact (follow_cons.1 hlast).1

theorem HasDirectory.parent (h : d.HasDirectory p) : d.HasDirectory p.parent := by
  obtain ⟨q, hq, hn⟩ := h
  obtain hp | ⟨init, last, hp⟩ := List.eq_nil_or_concat p.parts
  · have : p.parent = p := by
      obtain ⟨root, parts⟩ := p
      obtain rfl : parts = [] := hp
      rfl
    rw [this]
    exact ⟨q, hq, hn⟩
  · exact hasDirectory_parent (hp.trans List.concat_eq_append) hq

theorem HasDirectory.isDirectory (h : d.HasDirectory p) : d.isDirectory p := by
  obtain ⟨q, hq, hn⟩ := h
  simp [Disk.isDirectory, probe, get, hq, hn]

theorem extends_makeDirectory (h : d.makeDirectory p = .ok d') : Extends d d' := by
  unfold makeDirectory at h
  split at h
  · nomatch h
  · next q hq =>
    split at h
    · nomatch h
    · next hn =>
      obtain rfl : d.put q none = d' := Except.ok.inj h
      have hn : d.find? q = none := by simpa using hn
      have hne : q ≠ [] := by
        rintro rfl
        simp [find?] at hn
      refine ⟨fun {place node} hp => ?_, fun {place octets} hp => ?_⟩
      · rwa [find?_put_of_ne fun e => nomatch (e ▸ hp).symm.trans hn]
      · rwa [find?_put_of_ne] at hp
        rintro rfl
        simp [find?_put hne] at hp

theorem extends_settleDirectory (d : Disk) (p : Path) (climbed : Nat) :
    Extends d (d.settleDirectory p climbed).2 := by
  unfold settleDirectory
  split
  · next d' h => exact extends_makeDirectory h
  · split <;> exact .refl d

/-- Where no directory can be settled there is none. -/
theorem not_hasDirectory_of_settleDirectory {climbed : Nat} {e : FileError × Nat}
    (h : (d.settleDirectory p climbed).1 = .error e) :
    ¬ (d.settleDirectory p climbed).2.HasDirectory p := by
  unfold settleDirectory at h ⊢
  split at h
  · nomatch h
  · next e' he =>
    split at h
    · nomatch h
    · next hcond =>
      rw [if_neg hcond]
      intro hd
      obtain ⟨q, hq, hn⟩ := id hd
      obtain rfl : e' = .exists_ := by simpa [makeDirectory, hq, hn] using he.symm
      exact hcond ⟨rfl, nofun, hd.isDirectory⟩

/-- Directories are made, and files stay as they are. -/
theorem extends_makeDirectories (d : Disk) (p : Path) (climbed above : Nat) :
    Extends d (d.makeDirectories p climbed above).2 := by
  induction above generalizing p climbed with
  | zero => exact extends_settleDirectory d p climbed
  | succ above ih =>
    unfold makeDirectories
    split
    · have hup := ih p.parent (climbed + 1)
      split
      · next d' he =>
        rw [he] at hup
        exact hup.trans (extends_settleDirectory d' p climbed)
      · next e d' he => rwa [he] at hup
    · exact extends_settleDirectory d p climbed

/-- Where directories are refused there is none. -/
theorem not_hasDirectory_of_makeDirectories {climbed above : Nat} {e : FileError × Nat}
    (h : (d.makeDirectories p climbed above).1 = .error e) :
    ¬ (d.makeDirectories p climbed above).2.HasDirectory p := by
  induction above generalizing p climbed with
  | zero => exact not_hasDirectory_of_settleDirectory h
  | succ above ih =>
    unfold makeDirectories at h ⊢
    split
    · next hm =>
      simp only [hm] at h
      split
      · next d' he =>
        simp only [he] at h
        exact not_hasDirectory_of_settleDirectory h
      · next e' d' he =>
        have hup : ¬ (d.makeDirectories p.parent (climbed + 1) above).2.HasDirectory p.parent :=
          ih (by rw [he]; simpa [he] using h)
        rw [he] at hup
        exact fun hd => hup hd.parent
    · next hm =>
      split at h
      · next hm' => exact absurd hm' hm
      · exact not_hasDirectory_of_settleDirectory h

/-! ## Files -/

/-- What can be read of a file, if anything. -/
theorem read_eq_ok : d.read p = .ok octets ↔
    ∃ q, d.walk p = .ok q ∧ d.find? q = some (some octets) := by
  unfold read get
  cases hw : d.walk p with
  | error e => simp
  | ok q =>
    cases hf : d.find? q with
    | none => simp [hf]
    | some node => cases node <;> simp [hf]

theorem Extends.read (h : Extends d d') (hr : d.read p = .ok octets) : d'.read p = .ok octets := by
  obtain ⟨q, hq, hf⟩ := read_eq_ok.1 hr
  exact read_eq_ok.2 ⟨q, h.walk hq, h.kept hf⟩

/-- A file is in a directory. -/
theorem hasDirectory_of_read (h : d.read p = .ok octets) : d.HasDirectory p.parent := by
  obtain ⟨q, hq, hf⟩ := read_eq_ok.1 h
  obtain hp | ⟨init, last, hp⟩ := List.eq_nil_or_concat p.parts
  · refine absurd rfl (?_ : ([] : List Text) ≠ [])
    have hnil : q = [] := by
      unfold walk at hq
      split at hq
      · nomatch hq
      · rw [hp] at hq
        exact (Except.ok.inj hq).symm
    exact hnil ▸ ne_nil_of_file hf
  · exact hasDirectory_parent (hp.trans List.concat_eq_append) hq

/-- What is put where no directory is leaves all ways as they are. -/
theorem follow_put {target parts : List Text} (ht : d.find? target ≠ some none)
    (h : d.follow place parts = .ok q) : (d.put target node).follow place parts = .ok q := by
  induction parts generalizing place with
  | nil => exact h
  | cons part parts ih =>
    obtain ⟨hp, hpart, hrest⟩ := follow_cons.1 h
    have hne : place ≠ target := fun e => ht (e ▸ hp)
    exact follow_cons.2 ⟨(find?_put_of_ne hne).trans hp, hpart, ih hrest⟩

/-- A file that has been written can be read. -/
theorem read_write (h : (d.write p octets).1 = .ok ()) :
    (d.write p octets).2.read p = .ok octets := by
  unfold write at h ⊢
  split at h
  · nomatch h
  · next q hq =>
    split at h
    · nomatch h
    · next hn =>
      have hne : q ≠ [] := by
        rintro rfl
        exact hn rfl
      refine read_eq_ok.2 ⟨q, ?_, find?_put hne⟩
      unfold walk at hq ⊢
      split at hq
      · nomatch hq
      · exact follow_put hn hq

/-- Where a file cannot be written there is none. -/
theorem not_read_of_write {e : FileError} (h : (d.write p octets).1 = .error e) :
    (d.write p octets).2 = d ∧ ∀ before, d.read p ≠ .ok before := by
  unfold write at h ⊢
  split at h
  · next hw => exact ⟨rfl, fun before hr => by simp [read_eq_ok, hw] at hr⟩
  · next q hq =>
    split at h
    · next hf => exact ⟨rfl, fun before hr => by simp [read_eq_ok, hq, hf] at hr⟩
    · nomatch h

/-! ## Requests -/

theorem answer_of_isQuiet {q : Request} (hq : q.IsQuiet) : (answer q d).2 = d := by
  cases q <;> first | rfl | exact hq.elim

/-- Requests that are quiet leave a disk as it is. -/
theorem replay_answer {moves : List Move} (h : ∀ move ∈ moves, move.request.IsQuiet) :
    Step.replay answer d moves = d := by
  induction moves with
  | nil => rfl
  | cons move moves ih =>
    simp only [Step.replay, List.foldl_cons, answer_of_isQuiet (h move (List.mem_cons_self ..))]
    exact ih fun move hm => h move (List.mem_cons_of_mem _ hm)

end Disk

end Stencil
