import Stencil.Proofs.Script.Past
import Stencil.Script.Parse.Field

/-!
# Where the fields of a text stand

The expression in a field of a text with values begins after as many line feeds as the field says,
and lies within the text.

## Main results

* `Field.within_of_split?` — the fields of a body.
* `StringToken.body_infix` — the body of a string.
-/

namespace Stencil.Script

namespace Field

variable {raw : Bool} {t source : Text} {fields : List Field} {fuel first offset n : Nat}
  {conversion : Conversion}

/-- The expression of a field begins where the text behind the brace does. -/
theorem within_of_field? (h : field? first t = some (fields, n))
    (hm : value source offset conversion ∈ fields) : offset = first ∧ source <+: t := by
  unfold field? at h
  obtain ⟨k, -, h⟩ := Option.bind_eq_some_iff.1 h
  extract_lets whole shows blanks m label close found at h
  have closed {letter : Conversion} {taken : Nat} (hc : close letter taken = some (fields, n)) :
      offset = first ∧ source <+: t := by
    obtain ⟨-, hc⟩ := Option.ite_none_right_eq_some.1 hc
    obtain ⟨rfl, -⟩ := Prod.mk.inj (Option.some.inj hc)
    rcases List.mem_append.1 hm with hm | hm
    · rw [show label = if shows then [shown (t.take m)] else [] from rfl] at hm
      split at hm <;> simp at hm
    · obtain ⟨rfl, rfl, -⟩ := Field.value.inj (List.mem_singleton.1 hm)
      exact ⟨rfl, List.take_prefix k t⟩
  obtain ⟨-, h⟩ := Option.ite_none_left_eq_some.1 h
  simp only [found] at h
  clear_value close
  split at h
  · split at h
    · split at h
      · exact closed h
      · split at h
        · exact closed h
        · split at h
          · exact closed h
          · cases h
    · exact closed h
  · exact closed h

/-- The expression of a field begins after the line feeds before it and lies within the body. -/
theorem within_of_split? (h : split? raw fuel first t = some fields)
    (hm : value source offset conversion ∈ fields) :
    first ≤ offset ∧ offset + source.lineFeeds ≤ first + t.lineFeeds ∧ source <:+: t := by
  have cut (t : Text) (n : Nat) :
      t.lineFeeds = Text.lineFeeds (t.take n) + Text.lineFeeds (t.drop n) := by
    rw [← Text.lineFeeds_append, List.take_append_drop]
  have text {t : Text} {n : Nat} (h : value source offset conversion ∈
      (if n = 0 then [] else [Field.text (t.take n)])) : False := by
    split at h <;> simp at h
  induction fuel generalizing first t fields with
  | zero =>
    simp only [split?, Option.ite_none_right_eq_some, Option.some.injEq] at h
    rw [← h.2] at hm
    cases hm
  | succ fuel ih =>
    simp only [split?] at h
    split at h
    · cases h
    · rename_i n _
      obtain ⟨others, hothers, rfl⟩ := Option.map_eq_some_iff.1 h
      have more := cut t n
      have feed : Text.lineFeeds (t.drop (n + 1)) ≤ Text.lineFeeds (t.drop n) := by
        rw [← List.drop_drop]
        exact ((List.drop_suffix 1 _).sublist).count_le _
      rcases List.mem_append.1 hm with hm | hm
      · exact (text hm).elim
      · obtain ⟨le, inside, part⟩ := ih hothers hm
        exact ⟨by omega, by omega, part.trans (List.drop_suffix _ t).isInfix⟩
    · rename_i n _
      have more := cut t n
      split at h
      · obtain rfl := Option.some.inj h
        exact (text hm).elim
      · rename_i brace rest hd
        obtain ⟨⟨found, taken⟩, hfield, h⟩ := Option.bind_eq_some_iff.1 h
        obtain ⟨others, hothers, h⟩ := Option.bind_eq_some_iff.1 h
        obtain rfl := Option.some.inj h
        have feed : Text.lineFeeds rest ≤ Text.lineFeeds (t.drop n) := by
          rw [hd]
          exact (List.sublist_cons_self brace rest).count_le _
        have behind := cut rest taken
        have part : rest <:+: t :=
          (List.suffix_cons brace rest).isInfix.trans (hd ▸ (List.drop_suffix n t).isInfix)
        rcases List.mem_append.1 hm with hm | hm
        · rcases List.mem_append.1 hm with hm | hm
          · exact (text hm).elim
          · obtain ⟨rfl, hp⟩ := within_of_field? hfield hm
            have inside : source.lineFeeds ≤ Text.lineFeeds rest := hp.sublist.count_le _
            exact ⟨by omega, by omega, hp.isInfix.trans part⟩
        · obtain ⟨le, inside, deeper⟩ := ih hothers hm
          simp only at le inside
          exact ⟨by omega, by omega,
            deeper.trans ((List.drop_suffix _ rest).isInfix.trans part)⟩

end Field

/-- The body of a string is part of it. -/
theorem StringToken.body_infix {t : Text} {s : StringToken} (h : ofText? t = some s) :
    s.body <:+: t := by
  obtain ⟨⟨n, q⟩, -, rfl⟩ := Option.map_eq_some_iff.1 h
  exact (List.take_prefix _ _).isInfix.trans (List.drop_suffix _ _).isInfix

end Stencil.Script
