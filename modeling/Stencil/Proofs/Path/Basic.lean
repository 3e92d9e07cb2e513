import Stencil.Command.Arguments

/-!
# Paths in writing

A path that has been read from a text is read again from its own text as what it is.

## Main definitions

* `Path.Plain` — the components of a path are what a text can name.

## Main results

* `Path.ofText_text` — the text of a plain path names it.
* `Command.Order.ofText_template` — the template of a command is named by its own text.
-/

namespace Stencil

namespace Text

variable {c : CodePoint} {t u : Text} {ts : List Text}

theorem splitOn_of_notMem (h : c ∉ t) : splitOn c t = [t] := by
  induction t with
  | nil => rfl
  | cons b t ih =>
    simp only [List.mem_cons, not_or] at h
    rw [splitOn, if_neg (Ne.symm h.1), ih h.2]

/-- The pieces on one side of a separator are those of that side. -/
theorem splitOn_append : splitOn c (t ++ c :: u) = splitOn c t ++ splitOn c u := by
  induction t with
  | nil => simp [splitOn]
  | cons b t ih =>
    rw [List.cons_append, splitOn, splitOn, ih]
    split
    · rfl
    · cases hs : splitOn c t with
      | nil => exact absurd hs (splitOn_ne_nil c t)
      | cons piece pieces => rfl

/-- Pieces that are put together with a separator that none of them holds are found again. -/
theorem splitOn_join (h : ∀ t ∈ ts, c ∉ t) (hn : ts ≠ []) : splitOn c (join [c] ts) = ts := by
  induction ts with
  | nil => exact absurd rfl hn
  | cons t ts ih =>
    have ht := h t List.mem_cons_self
    cases ts with
    | nil => exact splitOn_of_notMem ht
    | cons u ts =>
      have rest := ih (fun v hv => h v (List.mem_cons_of_mem _ hv)) (List.cons_ne_nil _ _)
      have joined : join [c] (t :: u :: ts) = t ++ c :: join [c] (u :: ts) := by
        simp [join]
      rw [joined, splitOn_append, splitOn_of_notMem ht, rest]
      rfl

theorem notMem_of_mem_splitOn (h : u ∈ splitOn c t) : c ∉ u := by
  induction t generalizing u with
  | nil =>
    obtain rfl := List.mem_singleton.1 h
    exact List.not_mem_nil
  | cons b t ih =>
    rw [splitOn] at h
    split at h
    · rcases List.mem_cons.1 h with rfl | h
      · exact List.not_mem_nil
      · exact ih h
    · next hb =>
      split at h
      · next hs => exact absurd hs (splitOn_ne_nil c t)
      · next piece pieces hs =>
        rw [hs] at ih
        rcases List.mem_cons.1 h with rfl | h
        · intro hc
          rcases List.mem_cons.1 hc with rfl | hc
          · exact hb rfl
          · exact ih List.mem_cons_self hc
        · exact ih (List.mem_cons_of_mem _ h)

end Text

namespace Path

/-- The components of a path are what a text can name: not empty, no single dots, and without
slashes. -/
def Plain (p : Path) : Prop := ∀ part ∈ p.parts, isComponent part = true ∧ (47 : CodePoint) ∉ part

theorem plain_ofText (t : Text) : (ofText t).Plain := fun part hp => by
  obtain ⟨hs, hc⟩ := List.mem_filter.1 hp
  exact ⟨hc, Text.notMem_of_mem_splitOn hs⟩

variable {p : Path}

/-- The components in writing, between slashes. -/
theorem splitOn_parts (h : p.Plain) :
    (Text.splitOn '/' (Text.join "/" p.parts)).filter isComponent = p.parts := by
  obtain ⟨root, parts⟩ := p
  cases parts with
  | nil => rfl
  | cons part parts =>
    have pieces : Text.splitOn '/' (Text.join "/" (part :: parts)) = part :: parts :=
      Text.splitOn_join (fun t ht => (h t ht).2) (List.cons_ne_nil _ _)
    rw [pieces, List.filter_eq_self]
    exact fun t ht => (h t ht).1

/-- The components in writing do not begin with a slash. -/
theorem takeWhile_parts (h : p.Plain) :
    (Text.join "/" p.parts).takeWhile (fun (c : CodePoint) => decide (c = '/')) = [] := by
  obtain ⟨root, parts⟩ := p
  cases parts with
  | nil => rfl
  | cons part parts =>
    obtain ⟨hc, hs⟩ := h part List.mem_cons_self
    cases part with
    | nil => simp [isComponent] at hc
    | cons c part =>
      have first : decide (c = ('/' : CodePoint)) = false :=
        decide_eq_false fun he => hs (he ▸ List.mem_cons_self)
      cases parts <;> exact List.takeWhile_cons_of_neg (by rw [first]; exact Bool.false_ne_true)

/-- The text of a plain path names it. -/
theorem ofText_text (h : p.Plain) : ofText p.text = p := by
  have parts := splitOn_parts h
  have root := takeWhile_parts h
  have separator : Text.splitOn '/' ((47 : CodePoint) :: Text.join "/" p.parts) =
      [] :: Text.splitOn '/' (Text.join "/" p.parts) := rfl
  obtain ⟨r, ps⟩ := p
  cases r with
  | relative =>
    cases ps with
    | nil => rfl
    | cons part ps =>
      simp only [text, Root.text, List.nil_append, ofText, Root.ofText, parts, root]
      rfl
  | single =>
    have slashes : Root.ofText ((47 : CodePoint) :: Text.join "/" ps) = .single := by
      have one : (47 : CodePoint) = '/' := rfl
      simp only [Root.ofText, List.takeWhile_cons, one, decide_true, root, if_true,
        List.length_cons, List.length_nil]
    have whole : (Path.mk .single ps).text = (47 : CodePoint) :: Text.join "/" ps := rfl
    rw [whole, ofText, slashes, separator, List.filter_cons_of_neg (by decide), parts]
  | double =>
    have slashes : Root.ofText ((47 : CodePoint) :: 47 :: Text.join "/" ps) = .double := by
      have one : (47 : CodePoint) = '/' := rfl
      simp only [Root.ofText, List.takeWhile_cons, one, decide_true, root, if_true,
        List.length_cons, List.length_nil]
    have whole : (Path.mk .double ps).text = (47 : CodePoint) :: 47 :: Text.join "/" ps := rfl
    have separators : Text.splitOn '/' ((47 : CodePoint) :: 47 :: Text.join "/" ps) =
        [] :: [] :: Text.splitOn '/' (Text.join "/" ps) := rfl
    rw [whole, ofText, slashes, separators, List.filter_cons_of_neg (by decide),
      List.filter_cons_of_neg (by decide), parts]

end Path

namespace Command.Order

/-- The template of a command is named by its own text. -/
theorem ofText_template {arguments : List Text} {j : Job}
    (h : ofArguments? arguments = some (.job j)) : Path.ofText j.template.text = j.template := by
  have named : ∃ t, j.template = Path.ofText t := by
    obtain ⟨items, -, h⟩ := Option.bind_eq_some_iff.1 h
    split at h
    · next order he =>
      obtain ⟨item, -, hi⟩ := List.exists_of_findSome?_eq_some he
      obtain rfl := Option.some.inj h
      unfold eager? at hi
      split at hi <;> nomatch hi
    · next template output he hp =>
      obtain ⟨-, -, h⟩ := Option.bind_eq_some_iff.1 h
      simp only [Option.pure_def, Option.some.injEq, job.injEq] at h
      exact ⟨template, by rw [← h]⟩
    · nomatch h
  obtain ⟨t, ht⟩ := named
  rw [ht, Path.ofText_text (Path.plain_ofText t)]

end Command.Order

end Stencil
