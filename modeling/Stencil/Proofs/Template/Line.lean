import Stencil.Proofs.Template.Origin

/-!
# Lines of templates without carriage returns

Where a template has no carriage returns its line map is exact: a row of its body has the line on which
the piece of the template begins that the row is made of. Rows beyond the ends of the body count as
those at its ends.

## Main definitions

* `Template.bodyRow` — the place of a row in the body of a template.

## Main results

* `Template.line_exact` — the line of a row.
-/

namespace Stencil

open Script

variable {d : Delimiters} {mode : Mode} {text before : Text} {o : Origin}

namespace Origin

/-- A row that does not end in a carriage return alone leaves their number as it is. -/
theorem returns_along {returns : Nat} {rs : List (Text × Text)} (h : ∀ r ∈ rs, r.2 ≠ [13]) :
    ∀ o ∈ along before returns rs, o.returns = returns := by
  induction rs generalizing before with
  | nil => exact fun o ho => absurd ho List.not_mem_nil
  | cons r rs ih =>
    obtain ⟨row, ending⟩ := r
    obtain ⟨hr, hrs⟩ := List.forall_mem_cons.1 h
    rw [along, if_neg hr]
    exact List.forall_mem_cons.2 ⟨rfl, ih hrs⟩

theorem returns_ofLiteral {literal : Text} (h : o ∈ ofLiteral before literal) : o.returns = 0 := by
  have feeds (rs : List Text) : ∀ r ∈ Text.withFeeds rs, r.2 ≠ [13] := by
    induction rs with
    | nil => exact fun r hr => absurd hr List.not_mem_nil
    | cons row rs ih =>
      cases rs with
      | nil => exact List.forall_mem_singleton.2 (List.cons_ne_nil _ _).symm
      | cons next rs => exact List.forall_mem_cons.2 ⟨by simp, ih⟩
  exact returns_along (feeds _) o h

theorem returns_laid {code : Text} {column : Nat} (hc : (13 : CodePoint) ∉ code)
    (h : o ∈ laid before code column) : o.returns = 0 := by
  have ended : ∀ r ∈ Text.endedRows code, r.2 ≠ [13] := by
    intro r hr hr2
    refine hc (Text.flatMap_endedRows code ▸ List.mem_flatMap.2 ⟨r, hr, ?_⟩)
    rw [hr2]
    exact List.mem_append_right _ (List.mem_singleton_self _)
  have all : ∀ o ∈ along before 0 (Text.endedRows code), o.returns = 0 := returns_along ended
  unfold laid at h
  split at h
  · exact absurd h List.not_mem_nil
  · next first others hrows =>
    rw [hrows] at all
    obtain rfl | h := List.mem_cons.1 h
    · exact all first List.mem_cons_self
    · obtain ⟨o', ho', rfl⟩ := List.mem_map.1 h
      exact all o' (List.mem_cons_of_mem _ ho')

theorem returns_ofSection {code : Text} (hc : (13 : CodePoint) ∉ code)
    (h : o ∈ ofSection before code) : o.returns = 0 := by
  unfold ofSection at h
  generalize (Place.first.after before).column = column at h
  simp only at h
  split at h
  · exact returns_laid hc (List.mem_of_mem_drop (List.mem_of_mem_take h))
  all_goals exact absurd h List.not_mem_nil

end Origin

namespace Template

theorem returns_originsFrom {segments : Segments} (hs : (13 : CodePoint) ∉ segments.text d)
    (h : o ∈ originsFrom d before segments) : o.returns = 0 := by
  induction segments generalizing before with
  | last literal => exact Origin.returns_ofLiteral h
  | unclosed literal code => exact absurd h List.not_mem_nil
  | next literal code rest ih =>
    simp only [Segments.text, List.mem_append, not_or] at hs
    rw [originsFrom, List.mem_append, List.mem_append] at h
    obtain h | h | h := h
    · exact Origin.returns_ofLiteral h
    · exact Origin.returns_ofSection (by tauto) h
    · exact ih (by tauto) h

/-- Where a template has no carriage returns, none ends a row of its body. -/
theorem returns_origins (ht : (13 : CodePoint) ∉ text) (h : o ∈ origins d text) : o.returns = 0 := by
  refine returns_originsFrom ?_ h
  rwa [Segments.ofText, Segments.text_scan]

/-- The place of a row among so many rows; rows beyond the ends count as those at the ends. -/
def rowIn (count row : Nat) : Nat := max 1 (min row count) - 1

theorem rowIn_lt {count row : Nat} (h : 0 < count) : rowIn count row < count := by
  unfold rowIn
  omega

theorem rows_ne_nil {s : Source} (h : compile d mode text = .ok s) : s.rows ≠ [] := by
  unfold compile at h
  cases hp : parts d mode text with
  | error e => simp [hp, Except.map] at h
  | ok ps =>
    rw [hp] at h
    obtain rfl := Except.ok.inj h
    have some_ := partsFrom_ne_nil hp
    rw [rows_ofParts some_]
    cases ps with
    | nil => exact absurd rfl some_
    | cons part ps =>
      rw [List.flatMap_cons]
      exact List.append_ne_nil_of_left_ne_nil (Text.splitOn_ne_nil '\n' _) _

/-- The line of a row of the body of a template without carriage returns is that on which the piece of
the template begins that the row is made of. -/
theorem line_exact {s : Source} (h : compile d mode text = .ok s) (ht : (13 : CodePoint) ∉ text)
    (row : Nat) : ∃ o made, (origins d text)[rowIn s.rows.length row]? = some o ∧
      s.rows[rowIn s.rows.length row]? = some made ∧ o.before ++ o.piece <+: text ∧
      Origin.Makes o.piece made ∧
      LineMap.line (s.lines.map Int.ofNat) row = 1 + o.before.lineFeeds := by
  obtain ⟨-, made, within, lines, -, -⟩ := lines_exact h fun o => returns_origins ht
  have count : (origins d text).length = s.rows.length := made.length_eq
  have size : (s.lines.map Int.ofNat).length = s.rows.length := by
    rw [List.length_map, lines, List.length_map, count]
  have hlt : rowIn s.rows.length row < s.rows.length := rowIn_lt (List.length_pos_iff.2 (rows_ne_nil h))
  have hlt' : rowIn s.rows.length row < (origins d text).length := count ▸ hlt
  refine ⟨_, _, List.getElem?_eq_getElem hlt', List.getElem?_eq_getElem hlt,
    within _ (List.getElem_mem hlt'), made.get hlt' hlt, ?_⟩
  have some_ : (s.lines.map Int.ofNat).isEmpty = false :=
    List.isEmpty_eq_false_iff.2 (List.ne_nil_of_length_pos (size ▸ Nat.zero_lt_of_lt hlt))
  have here : max 1 (min row s.rows.length) - 1 = rowIn s.rows.length row := rfl
  rw [LineMap.line, some_, if_neg Bool.false_ne_true, size, here, List.getD_eq_getElem?_getD, lines]
  simp only [List.map_map, List.getElem?_map, List.getElem?_eq_getElem hlt', Option.map_some,
    Option.getD_some, Function.comp]
  rfl

end Template

end Stencil
