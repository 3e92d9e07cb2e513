import Stencil.Proofs.Script.Locality

/-!
# The scan of a script, step by step

The scan of a script is bounded by a number of steps that it never reaches: every step takes a code
point or settles the indentation of a row. So the terminals of a script are those of its first step
followed by those of the place that the step leads to.

## Main definitions

* `Scan.all` — the terminals from a place on.
* `Scan.Leads` — some steps lead from a place to another and find terminals on the way.

## Main results

* `Scan.all_of_leads` — the terminals from a place on begin with those found on the way.
* `ofText_eq` — the terminals of a script are those from its beginning on.
-/

namespace Stencil.Script.Terminals

/-- The terminals with others before them. -/
def preceded (ts : List Terminal) (t : Terminals) : Terminals := ⟨ts ++ t.list, t.ending⟩

@[simp] theorem preceded_nil (t : Terminals) : preceded [] t = t := rfl

theorem preceded_append (ts us : List Terminal) (t : Terminals) :
    preceded (ts ++ us) t = preceded ts (preceded us t) := by
  simp [preceded]

theorem fromRowEnd_length_le (t : Text) : (fromRowEnd t).length ≤ t.length :=
  (List.dropWhile_suffix _).length_le

/-- A comment ends at the end of its row. -/
theorem fromRowEnd_row {u v : Text} (hu : (10 : CodePoint) ∉ u) :
    fromRowEnd (u ++ 10 :: v) = 10 :: v := by
  induction u with
  | nil => rfl
  | cons c u ih =>
    simp only [List.mem_cons, not_or] at hu
    have hc : (c != 10) = true := bne_iff_ne.2 (Ne.symm hu.1)
    exact (List.dropWhile_cons_of_pos (p := fun d => d != 10) hc).trans (ih hu.2)

namespace Scan

variable {s s' m : Scan} {ts us : List Terminal} {e : Ending}

/-- What is left to do from a place on: every code point, and the indentation of the row. -/
def work (s : Scan) : Nat := 2 * s.rest.length + (if s.fresh then 1 else 0)

theorem margin_length_le {fuel : Nat} {m : Margin} {next : Margin × Scan}
    (h : s.margin fuel m = .ok next) : next.2.rest.length ≤ s.rest.length := by
  induction fuel generalizing s m with
  | zero =>
    simp only [margin, Except.ok.injEq] at h
    exact h ▸ Nat.le_refl _
  | succ fuel ih =>
    unfold margin at h
    split at h
    · simp only [Except.ok.injEq] at h
      exact h ▸ Nat.le_refl _
    · rename_i c rest hr
      rw [hr, List.length_cons]
      split at h
      · have := ih h
        simp only [pass] at this
        omega
      · split at h
        · split at h
          · split at h
            · simp at h
            · split at h
              · simp at h
              · have := ih h
                simp only [nextRow] at this
                simp only [List.length_cons]
                omega
          · simp at h
        · simp only [Except.ok.injEq] at h
          exact Nat.le_of_eq (by rw [← h, ← List.length_cons, ← hr])

theorem indent_work {m : Margin} (h : s.indent m = .ok (ts, s')) : s'.work = s.work := by
  simp only [indent] at h
  split at h
  · split at h
    · simp at h
    · simp only [Except.ok.injEq, Prod.mk.injEq] at h
      exact h.2 ▸ rfl
  · split at h
    · simp only [Except.ok.injEq, Prod.mk.injEq] at h
      exact h.2 ▸ rfl
    · simp at h

theorem begin_work_lt (hf : s.fresh = true) (h : s.begin = .ok (ts, s')) : s'.work < s.work := by
  simp only [begin, bind, Except.bind] at h
  split at h
  · simp at h
  · rename_i next hm
    obtain ⟨m, s₁⟩ := next
    have hl : s₁.rest.length ≤ s.rest.length := margin_length_le hm
    have hs : s.work = 2 * s.rest.length + 1 := by simp [work, hf]
    have hw : ({ s₁ with fresh := false } : Scan).work < s.work := by
      rw [hs]
      simp only [work, Bool.false_eq_true, ↓reduceIte]
      omega
    simp only at h
    split at h
    · rename_i c rest hr
      split at h
      · simp only [pure, Except.pure, Except.ok.injEq, Prod.mk.injEq] at h
        have htail := fromRowEnd_length_le s₁.rest
        rw [hr, List.length_cons] at hl
        rw [← h.2, hs]
        simp only [work, nextRow, ↓reduceIte, List.length_tail]
        rw [hr, List.length_cons] at htail
        rw [hr]
        omega
      · split at h
        · exact indent_work h ▸ hw
        · simp only [pure, Except.pure, Except.ok.injEq, Prod.mk.injEq] at h
          exact h.2 ▸ hw
    · split at h
      · exact indent_work h ▸ hw
      · simp only [pure, Except.pure, Except.ok.injEq, Prod.mk.injEq] at h
        exact h.2 ▸ hw

/-- Every step leaves less to do. -/
theorem step_work_lt (h : s.step = .ok (ts, s')) : s'.work < s.work := by
  unfold step at h
  cases hf : s.fresh with
  | true =>
    rw [hf, if_pos rfl] at h
    cases hb : s.begin with
    | error e =>
      rw [hb] at h
      exact nomatch h
    | ok next =>
      rw [hb] at h
      obtain rfl := Except.ok.inj h
      exact begin_work_lt hf hb
  | false =>
    have hs : s.work = 2 * s.rest.length := by simp [work, hf]
    simp only [hf, Bool.false_eq_true, ↓reduceIte] at h
    split at h
    · split at h <;> simp at h
    · rename_i c rest hr
      rw [hs, hr, List.length_cons]
      split at h
      · simp only [Except.ok.injEq, Prod.mk.injEq] at h
        simp only [← h.2, work, pass, hf, Bool.false_eq_true, ↓reduceIte]
        omega
      · split at h
        · rename_i hc
          subst hc
          have hle := fromRowEnd_length_le rest
          have hcons : fromRowEnd (35 :: rest) = fromRowEnd rest := rfl
          simp only [Except.ok.injEq, Prod.mk.injEq] at h
          have hd : s'.rest = fromRowEnd rest := by rw [← h.2, pass, hr]; exact hcons
          have hf' : s'.fresh = false := by rw [← h.2]; exact hf
          simp only [work, hd, hf', Bool.false_eq_true, ↓reduceIte]
          omega
        · split at h
          · simp only [Except.ok.injEq, Prod.mk.injEq] at h
            simp only [← h.2, work, nextRow, ↓reduceIte]
            omega
          · split at h
            · split at h
              · split at h
                · simp at h
                · split at h
                  · simp at h
                  · simp only [Except.ok.injEq, Prod.mk.injEq] at h
                    simp only [← h.2, work, nextRow, hf, Bool.false_eq_true, ↓reduceIte,
                      List.length_cons]
                    omega
              · simp at h
            · split at h
              · simp at h
              · rename_i kind n hv
                have hn := visible?_pos hv
                split at h
                · simp at h
                · simp only [Except.ok.injEq, Prod.mk.injEq] at h
                  simp only [← h.2, work, Scan.after, Bool.false_eq_true, ↓reduceIte,
                    List.length_drop, hr, List.length_cons]
                  omega

/-- The terminals from a place on. -/
def all (s : Scan) : Terminals := s.run (s.work + 1) []

/-- A scan with steps enough finds all terminals. -/
theorem run_eq {fuel : Nat} (found : List Terminal) (h : s.work < fuel) :
    s.run fuel found = preceded found.reverse s.all := by
  induction fuel using Nat.strongRecOn generalizing s found with
  | ind fuel ih =>
    obtain ⟨fuel, rfl⟩ : ∃ n, fuel = n + 1 := ⟨fuel - 1, by omega⟩
    unfold all
    unfold run
    cases hs : s.step with
    | error stop =>
      obtain ⟨ts, e⟩ := stop
      simp [preceded]
    | ok next =>
      obtain ⟨ts, s'⟩ := next
      have hw := step_work_lt hs
      simp only
      rw [ih fuel (by omega) _ (by omega), ih s.work h _ hw]
      simp [preceded]

theorem all_of_ok (h : s.step = .ok (ts, s')) : s.all = preceded ts s'.all := by
  have hw := step_work_lt h
  unfold all
  rw [run, h]
  simp only
  rw [run_eq _ hw]
  simp [all]

theorem all_of_error (h : s.step = .error (ts, e)) : s.all = ⟨ts, e⟩ := by
  unfold all
  rw [run, h]
  simp

/-- Steps lead from a place to another and find terminals on the way. -/
inductive Leads : Scan → List Terminal → Scan → Prop where
  | refl (s : Scan) : Leads s [] s
  | step {s m s' : Scan} {ts us : List Terminal} (first : s.step = .ok (ts, m))
      (others : Leads m us s') : Leads s (ts ++ us) s'

theorem leads_of_ok (h : s.step = .ok (ts, s')) : Leads s ts s' := by
  simpa using Leads.step h (Leads.refl s')

theorem Leads.trans (h : Leads s ts m) (k : Leads m us s') : Leads s (ts ++ us) s' := by
  induction h with
  | refl => exact k
  | step first _ ih => simpa using Leads.step first (ih k)

/-- The terminals from a place on begin with those that are found on the way to another. -/
theorem all_of_leads (h : Leads s ts s') : s.all = preceded ts s'.all := by
  induction h with
  | refl => rfl
  | step first _ ih => rw [all_of_ok first, ih, preceded_append]

/-- The scan at the beginning of a script. -/
def start (t : Text) : Scan := ⟨t, 1, 0, true, [], []⟩

end Scan

/-- The terminals of a script are those from its beginning on. -/
theorem ofText_eq (source : Text) : ofText source = (Scan.start (lines source)).all := by
  have h : (Scan.start (lines source)).work < 2 * (lines source).length + 2 := by
    simp [Scan.work, Scan.start]
  exact (Scan.run_eq [] h).trans (preceded_nil _)

end Stencil.Script.Terminals
