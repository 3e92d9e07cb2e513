import Stencil.Proofs.Path.Basic

/-!
# Paths seen from other paths

To see a path from another one is associative, and it does not matter whether the texts are put
together first or read first. No component gets lost on the way, double dots in particular: what they
mean depends on what is linked where.

## Main definitions

* `Path.onward` — the text of a path that goes on from another one.
* `Path.Resolution` — what a text names that is seen from another one.

## Main results

* `Path.ofText_onward` — what is put together in writing is read as what is seen.
* `Path.resolves` — the laws of seeing one text from another.
-/

namespace Stencil.Path

variable {p q r : Path} {t u d a : Text}

/-! ## Joins -/

theorem join_of_isAbsolute (h : q.isAbsolute) : p.join q = q := by
  cases q with
  | mk root parts => cases root <;> first | rfl | nomatch h

theorem join_of_relative (h : q.root = .relative) : p.join q = ⟨p.root, p.parts ++ q.parts⟩ := by
  rw [join, h]

theorem join_assoc : (p.join q).join r = p.join (q.join r) := by
  obtain ⟨root, parts⟩ := r
  cases root with
  | relative =>
    obtain ⟨root', parts'⟩ := q
    cases root' with
    | relative => simp [join]
    | single => rfl
    | double => rfl
  | single => rfl
  | double => rfl

@[simp]
theorem here_join : here.join p = p := by
  obtain ⟨root, parts⟩ := p
  cases root <;> rfl

@[simp]
theorem join_here : p.join here = p := by
  rw [join_of_relative rfl]
  exact congrArg (Path.mk p.root) (List.append_nil _)

theorem isAbsolute_join : (p.join q).isAbsolute = (p.isAbsolute || q.isAbsolute) := by
  obtain ⟨root, parts⟩ := q
  obtain ⟨root', parts'⟩ := p
  cases root <;> cases root' <;> rfl

theorem Plain.join (hp : p.Plain) (hq : q.Plain) : (p.join q).Plain := by
  by_cases h : q.isAbsolute
  · rwa [join_of_isAbsolute h]
  · rw [join_of_relative (by simpa [isAbsolute] using h)]
    intro part hm
    exact (List.mem_append.1 hm).elim (hp part) (hq part)

/-! ## Roots of texts -/

/-- What stands between components, and in front of an absolute path. -/
def slash : CodePoint := '/'

/-- The slashes in front of a text. -/
def slashes (t : Text) : Text := t.takeWhile fun c => c = slash

theorem root_congr (h : slashes t = slashes u) : (ofText t).root = (ofText u).root := by
  have length : (t.takeWhile fun (c : CodePoint) => c = '/').length =
      (u.takeWhile fun (c : CodePoint) => c = '/').length := congrArg List.length h
  simp only [ofText, Root.ofText, length]

theorem root_eq_relative : (ofText t).root = .relative ↔ slashes t = [] := by
  rw [← List.length_eq_zero_iff, show (ofText t).root = Root.ofText t from rfl, Root.ofText]
  rw [show (t.takeWhile fun (c : CodePoint) => c = '/') = slashes t from rfl]
  split <;> simp_all

theorem slashes_eq_nil : slashes t = [] ↔ t.head? ≠ some slash := by
  cases t with
  | nil => simp [slashes]
  | cons c t => simp [slashes, List.takeWhile_cons]

theorem isAbsolute_ofText : (ofText t).isAbsolute ↔ t.head? = some slash := by
  rw [isAbsolute, decide_eq_true_iff, ne_eq, root_eq_relative, slashes_eq_nil]
  exact Decidable.not_not

/-- What follows does not count as long as it does not begin with a slash. -/
theorem slashes_append (h : slashes u = []) : slashes (t ++ u) = slashes t := by
  rw [slashes, List.takeWhile_append, show u.takeWhile _ = [] from h, List.append_nil]
  split
  · next all => exact ((List.takeWhile_prefix _).eq_of_length all).symm
  · rfl

/-- Nor does it count behind something that does not end with a slash. -/
theorem slashes_append_of_last (hn : t ≠ []) (h : t.getLast? ≠ some slash) :
    slashes (t ++ u) = slashes t := by
  rw [slashes, List.takeWhile_append, if_neg]
  · rfl
  · intro all
    have whole := (List.takeWhile_prefix _).eq_of_length all
    have counted := List.all_takeWhile (l := t) (p := fun c => decide (c = slash))
    rw [whole] at counted
    have last := of_decide_eq_true (List.all_eq_true.1 counted _ (List.getLast_mem hn))
    exact h (last ▸ List.getLast?_eq_some_getLast hn)

/-! ## Joins of texts -/

/-- The text of a path that goes on from another one: with a slash between them, if there is none
and there is something that it goes on from. -/
def onward (d a : Text) : Text :=
  if a.head? = some slash then a
  else if d = [] ∨ d.getLast? = some slash then d ++ a
  else d ++ slash :: a

theorem parts_separated : (ofText (d ++ slash :: a)).parts = (ofText d).parts ++ (ofText a).parts := by
  change (Text.splitOn slash _).filter isComponent = _
  rw [Text.splitOn_append, List.filter_append]
  rfl

/-- What is put together in writing is read as what is seen. -/
theorem ofText_onward : ofText (onward d a) = (ofText d).join (ofText a) := by
  unfold onward
  split
  · next h => exact (join_of_isAbsolute (isAbsolute_ofText.2 h)).symm
  · next h =>
    have relative : slashes a = [] := slashes_eq_nil.2 h
    rw [join_of_relative (root_eq_relative.2 relative)]
    split
    · next hd =>
      rcases hd with rfl | hd
      · exact congrArg (Path.mk · _) (root_eq_relative.2 relative)
      · -- the slash is the one that is there
        obtain ⟨d, rfl⟩ := List.getLast?_eq_some_iff.1 hd
        have root := root_congr (slashes_append (t := d ++ [slash]) relative)
        have parts : (ofText (d ++ slash :: a)).parts =
            (ofText (d ++ [slash])).parts ++ (ofText a).parts := by
          rw [parts_separated, parts_separated]
          exact congrArg (· ++ _) (List.append_nil _).symm
        rw [← root, ← parts, List.append_assoc]
        rfl
    · next hd =>
      obtain ⟨hn, hl⟩ := not_or.1 hd
      rw [← root_congr (slashes_append_of_last (u := slash :: a) hn hl), ← parts_separated]

/-- The laws of seeing one text from another. -/
structure Resolution (d a b : Text) : Prop where
  assoc : ((ofText d).join (ofText a)).join (ofText b) = (ofText d).join ((ofText a).join (ofText b))
  /-- A dot and the empty text lead nowhere else, and nothing else is seen from there. -/
  identity : ∀ dot : Text, dot = "." ∨ dot = [] →
    (ofText dot).join (ofText a) = ofText a ∧ (ofText d).join (ofText dot) = ofText d
  isAbsolute : ((ofText d).join (ofText a)).isAbsolute ↔ d.head? = some slash ∨ a.head? = some slash
  /-- From everywhere an absolute path is seen as the same. -/
  independent : a.head? = some slash → ∀ p : Path, p.join (ofText a) = ofText a
  /-- Of the pieces between slashes all stay but the empty ones and the single dots. -/
  parts : ((ofText d).join (ofText a)).parts =
    ((if a.head? = some slash then [] else Text.splitOn slash d) ++ Text.splitOn slash a).filter
      fun part => part ≠ [] ∧ part ≠ "."
  /-- It is the same to put the texts together first. -/
  written : (ofText d).join (ofText a) = ofText (onward d a)
  reread : ofText ((ofText d).join (ofText a)).text = (ofText d).join (ofText a)

theorem resolves (d a b : Text) : Resolution d a b where
  assoc := join_assoc
  identity dot h := by
    have nowhere : ofText dot = here := by rcases h with rfl | rfl <;> rfl
    exact nowhere ▸ ⟨here_join, join_here⟩
  isAbsolute := by
    rw [isAbsolute_join, Bool.or_eq_true, isAbsolute_ofText, isAbsolute_ofText]
  independent h p := join_of_isAbsolute (isAbsolute_ofText.2 h)
  parts := by
    rw [List.filter_append]
    split
    · next h => rw [join_of_isAbsolute (isAbsolute_ofText.2 h)]; rfl
    · next h => rw [join_of_relative (root_eq_relative.2 (slashes_eq_nil.2 h))]; rfl
  written := ofText_onward.symm
  reread := ofText_text ((plain_ofText d).join (plain_ofText a))

/-- Two slashes in front are kept, and three are one; double dots stay where they are. -/
example : ((ofText "//a/../").join (ofText "./../b//")).text = ("//a/../../b" : Text) ∧
    (ofText (ofText "///").text).text = ("/" : Text) := by
  decide

end Stencil.Path
