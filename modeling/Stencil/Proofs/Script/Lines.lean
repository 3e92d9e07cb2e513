import Stencil.Proofs.Script.Abreast
import Stencil.Proofs.Script.Items

/-!
# The lines of a script

The terminals of a complete script are lines, each with an end; blocks begin and end between them,
and every block holds a line. What an outlook tells of terminals is then what it tells of their
lines.

## Main definitions

* `Scan.Steps` — what one step of a scan does.
* `Phase` — where terminals stand: before a line, at the beginning of a block, or inside a line.

## Main results

* `Scan.step_cases` — every step is one of these.
* `Scan.Stays.run` — the terminals of a complete script go through the phases.
* `Phase.cut_of_run` — terminals that go through the phases are cut into lines.
-/

namespace Stencil.Script

namespace Terminals.Scan

variable {c : CodePoint} {t u v : Text} {s s' : Scan} {ts us : List Terminal} {fuel : Nat}
  {m m' : Margin}

/-! ## Steps -/

/-- What one step does. -/
inductive Steps (s : Scan) : List Terminal → Scan → Prop where
  /-- A row with a comment at most is passed over. -/
  | quiet {m : Margin} {s₁ : Scan} {c : CodePoint} {u : Text} (fresh : s.fresh = true)
      (margin : s.margin s.rest.length ⟨0, 0, 0⟩ = .ok (m, s₁)) (rest : s₁.rest = c :: u)
      (nothing : c = ('#' : CodePoint) ∨ c = ('\n' : CodePoint)) :
      Steps s [] { (s₁.nextRow (fromRowEnd s₁.rest).tail) with fresh := true }
  /-- A row goes on inside brackets. -/
  | inside {m : Margin} {s₁ : Scan} (fresh : s.fresh = true)
      (margin : s.margin s.rest.length ⟨0, 0, 0⟩ = .ok (m, s₁)) (brackets : s₁.brackets ≠ []) :
      Steps s [] { s₁ with fresh := false }
  /-- Blocks begin or end before a statement. -/
  | layout {m : Margin} {s₁ s' : Scan} {ts : List Terminal} (fresh : s.fresh = true)
      (margin : s.margin s.rest.length ⟨0, 0, 0⟩ = .ok (m, s₁)) (brackets : s₁.brackets = [])
      (more : ∀ c u, s₁.rest = c :: u → c ≠ ('#' : CodePoint) ∧ c ≠ ('\n' : CodePoint))
      (indent : { s₁ with fresh := false }.indent m = .ok (ts, s')) : Steps s ts s'
  | blank {c : CodePoint} {u : Text} (fresh : s.fresh = false) (rest : s.rest = c :: u)
      (blank : isBlank c = true) : Steps s [] (s.pass [c] u)
  | comment {u : Text} (fresh : s.fresh = false) (rest : s.rest = ('#' : CodePoint) :: u) :
      Steps s [] (s.pass [] (fromRowEnd s.rest))
  | lineEnd {u : Text} (fresh : s.fresh = false) (rest : s.rest = 10 :: u) :
      Steps s (if s.brackets.isEmpty then [s.empty .newline] else [])
        { (s.nextRow u) with fresh := true }
  /-- A backslash joins the next row. -/
  | joint {u : Text} (fresh : s.fresh = false) (rest : s.rest = ('\\' : CodePoint) :: 10 :: u)
      (ne : u ≠ []) : Steps s [] (s.nextRow u)
  | visible {c : CodePoint} {u : Text} {kind : Kind} {n : Nat} {brackets : List (CodePoint × Nat)}
      (fresh : s.fresh = false) (rest : s.rest = c :: u) (begins : Begins c)
      (found : visible? s.rest = some (kind, n))
      (beyond : bracketsBeyond kind (s.rest.take n) s.row s.brackets = some brackets) :
      Steps s [s.terminal { s.after n with brackets } kind (s.rest.take n)]
        { s.after n with brackets }

theorem step_cases (h : s.step = .ok (ts, s')) : Steps s ts s' := by
  cases hf : s.fresh with
  | true =>
    rw [step, if_pos hf] at h
    cases hb : s.begin with
    | error e => simp [hb, Except.mapError] at h
    | ok found =>
      rw [hb] at h
      obtain rfl := Except.ok.inj h
      cases hm : s.margin s.rest.length ⟨0, 0, 0⟩ with
      | error e => simp [begin, hm, bind, Except.bind] at hb
      | ok next =>
        obtain ⟨m, s₁⟩ := next
        simp only [begin, hm, bind, Except.bind] at hb
        split at hb
        · rename_i c u hr
          split at hb
          · rename_i hc
            obtain ⟨rfl, rfl⟩ := Prod.mk.inj (Except.ok.inj hb)
            have quiet : Steps s [] { (s₁.nextRow (fromRowEnd s₁.rest).tail) with fresh := true } :=
              .quiet hf hm hr hc
            exact quiet
          · rename_i hc
            split at hb
            · rename_i he
              refine .layout hf hm (List.isEmpty_iff.1 he) (fun d w hd => ?_) hb
              rw [hr] at hd
              obtain ⟨rfl, rfl⟩ := List.cons.inj hd
              exact not_or.1 hc
            · rename_i he
              obtain ⟨rfl, rfl⟩ := Prod.mk.inj (Except.ok.inj hb)
              exact .inside hf hm fun hn => he (List.isEmpty_iff.2 hn)
        · rename_i hr
          split at hb
          · rename_i he
            refine .layout hf hm (List.isEmpty_iff.1 he) (fun d w hd => ?_) hb
            rw [hr] at hd
            cases hd
          · rename_i he
            obtain ⟨rfl, rfl⟩ := Prod.mk.inj (Except.ok.inj hb)
            exact .inside hf hm fun hn => he (List.isEmpty_iff.2 hn)
  | false =>
    cases hr : s.rest with
    | nil =>
      simp only [step, hf, hr, Bool.false_eq_true, ↓reduceIte] at h
      split at h <;> simp at h
    | cons c u =>
      by_cases hblank : isBlank c = true
      · rw [step_blank hf hr hblank] at h
        obtain ⟨rfl, rfl⟩ := Prod.mk.inj (Except.ok.inj h)
        exact .blank hf hr hblank
      by_cases hh : c = ('#' : CodePoint)
      · subst hh
        rw [step_comment hf hr] at h
        obtain ⟨rfl, rfl⟩ := Prod.mk.inj (Except.ok.inj h)
        exact .comment hf hr
      by_cases hl : c = ('\n' : CodePoint)
      · subst hl
        rw [step_lineFeed hf hr] at h
        obtain ⟨rfl, rfl⟩ := Prod.mk.inj (Except.ok.inj h)
        exact .lineEnd hf hr
      by_cases hj : c = ('\\' : CodePoint)
      · subst hj
        simp only [step, hf, hr, hblank, hh, hl, Bool.false_eq_true, ↓reduceIte] at h
        split at h
        · rename_i d after
          split at h
          · simp at h
          · rename_i hd
            split at h
            · simp at h
            · rename_i he
              obtain ⟨rfl, rfl⟩ := Prod.mk.inj (Except.ok.inj h)
              obtain rfl : d = 10 := not_not.1 hd
              exact .joint hf hr fun hn => he (List.isEmpty_iff.2 hn)
        · simp at h
      · have begins : Begins c := ⟨by simpa using hblank, hh, hl, hj⟩
        rw [step_begins hf hr begins] at h
        split at h
        · simp at h
        · rename_i kind n hv
          split at h
          · simp at h
          · rename_i brackets hk
            obtain ⟨rfl, rfl⟩ := Prod.mk.inj (Except.ok.inj h)
            exact .visible hf hr begins hv hk

theorem margin_error {e : Ending} (h : s.margin fuel m = .error e) : e ≠ .complete := by
  induction fuel generalizing s m with
  | zero => simp [margin] at h
  | succ fuel ih =>
    unfold margin at h
    split at h
    · simp at h
    · split at h
      · exact ih h
      · split at h
        · split at h
          · split at h
            · exact Except.error.inj h ▸ stop_ne_complete.1
            · split at h
              · exact Except.error.inj h ▸ stop_ne_complete.2.2
              · exact ih h
          · exact Except.error.inj h ▸ stop_ne_complete.1
        · simp at h

/-- The scan is complete where nothing is left and nothing is open. -/
theorem step_complete (h : s.step = .error (ts, .complete)) :
    ts = [s.empty .endMarker] ∧ s.fresh = false ∧ s.rest = [] ∧ s.brackets = [] := by
  cases hf : s.fresh with
  | true =>
    rw [step, if_pos hf] at h
    cases hb : s.begin with
    | ok next => simp [hb, Except.mapError] at h
    | error e =>
      rw [hb] at h
      obtain ⟨-, rfl⟩ := Prod.mk.inj (Except.error.inj h)
      simp only [begin, bind, Except.bind] at hb
      split at hb
      · rename_i hm
        exact absurd (Except.error.inj hb) (margin_error hm)
      · split at hb
        · split at hb
          · simp [pure, Except.pure] at hb
          · split at hb
            · exact absurd rfl (indent_error hb)
            · simp [pure, Except.pure] at hb
        · split at hb
          · exact absurd rfl (indent_error hb)
          · simp [pure, Except.pure] at hb
  | false =>
    cases hr : s.rest with
    | nil =>
      simp only [step, hf, hr, Bool.false_eq_true, ↓reduceIte] at h
      split at h
      · rename_i hb
        exact ⟨(Prod.mk.inj (Except.error.inj h)).1.symm, rfl, rfl, List.isEmpty_iff.1 hb⟩
      · exact absurd (Prod.mk.inj (Except.error.inj h)).2 stop_ne_complete.2.2
    | cons c u =>
      by_cases hblank : isBlank c = true
      · simp [step_blank hf hr hblank] at h
      by_cases hh : c = ('#' : CodePoint)
      · subst hh
        simp [step_comment hf hr] at h
      by_cases hl : c = ('\n' : CodePoint)
      · subst hl
        simp [step_lineFeed hf hr] at h
      by_cases hj : c = ('\\' : CodePoint)
      · subst hj
        simp only [step, hf, hr, hblank, hh, hl, Bool.false_eq_true, ↓reduceIte] at h
        split at h
        · split at h
          · exact absurd (Prod.mk.inj (Except.error.inj h)).2 stop_ne_complete.1
          · split at h
            · exact absurd (Prod.mk.inj (Except.error.inj h)).2 stop_ne_complete.2.2
            · simp at h
        · exact absurd (Prod.mk.inj (Except.error.inj h)).2 stop_ne_complete.1
      · have begins : Begins c := ⟨by simpa using hblank, hh, hl, hj⟩
        rw [step_begins hf hr begins] at h
        split at h
        · exact absurd (Prod.mk.inj (Except.error.inj h)).2 stop_ne_complete.2.1
        · split at h
          · exact absurd (Prod.mk.inj (Except.error.inj h)).2 stop_ne_complete.2.1
          · simp at h

/-! ## Phases -/

/-- Nothing is left, or rows with their ends. -/
def Whole (t : Text) : Prop := t = [] ∨ t.getLast? = some 10

theorem whole_tail (h : Whole (c :: t)) : Whole t := by
  cases t with
  | nil => exact .inl rfl
  | cons d t =>
    rcases h with h | h
    · cases h
    · exact .inr (by rwa [List.getLast?_cons_cons] at h)

theorem Whole.tail_ne_nil (h : Whole (c :: t)) (hc : c ≠ 10) : t ≠ [] := by
  rintro rfl
  rcases h with h | h
  · cases h
  · exact hc (Option.some.inj h)

theorem ne_lineFeed_of_isBlank (h : isBlank c = true) : c ≠ 10 := by
  rintro rfl
  exact absurd h (by decide)

/-- What a margin leaves begins with a sign. -/
theorem margin_spec (h : s.margin fuel m = .ok (m', s')) (hf : s.rest.length ≤ fuel)
    (hw : Whole s.rest) :
    s' = { s with rest := s'.rest, row := s'.row, column := s'.column } ∧ Whole s'.rest ∧
      (s.rest ≠ [] → s'.rest ≠ []) ∧ (s.rest = [] → m' = m) ∧
      ∀ c u, s'.rest = c :: u → isBlank c = false ∧ c ≠ ('\\' : CodePoint) := by
  induction fuel generalizing s m with
  | zero =>
    obtain ⟨rfl, rfl⟩ := Prod.mk.inj (Except.ok.inj h)
    have none_ : s.rest = [] := List.length_eq_zero_iff.1 (Nat.le_zero.1 hf)
    refine ⟨rfl, hw, fun hn => absurd none_ hn, fun _ => rfl, fun c u hr => ?_⟩
    rw [none_] at hr
    cases hr
  | succ fuel ih =>
    unfold margin at h
    split at h
    · rename_i hr
      obtain ⟨rfl, rfl⟩ := Prod.mk.inj (Except.ok.inj h)
      refine ⟨rfl, hw, fun hn => absurd hr hn, fun _ => rfl, fun c u hr' => ?_⟩
      rw [hr] at hr'
      cases hr'
    · rename_i c rest hr
      rw [hr] at hw hf
      split at h
      · rename_i hb
        have ne := hw.tail_ne_nil (ne_lineFeed_of_isBlank hb)
        obtain ⟨same, whole, more, -, first⟩ := ih h (Nat.le_of_succ_le_succ hf) (whole_tail hw)
        exact ⟨same, whole, fun _ => more ne, fun hn => by simp [hr] at hn, first⟩
      · rename_i hb
        split at h
        · split at h
          · rename_i d after
            split at h
            · simp at h
            · split at h
              · simp at h
              · rename_i he
                have shorter : after.length ≤ fuel := by
                  simp only [List.length_cons] at hf
                  omega
                obtain ⟨same, whole, more, -, first⟩ := ih h shorter (whole_tail (whole_tail hw))
                exact ⟨same, whole, fun _ => more fun hn => he (List.isEmpty_iff.2 hn),
                  fun hn => by simp [hr] at hn, first⟩
          · simp at h
        · rename_i hj
          obtain ⟨rfl, rfl⟩ := Prod.mk.inj (Except.ok.inj h)
          refine ⟨rfl, by rwa [hr], fun hn => hn, fun hn => by simp [hr] at hn, fun d u hd => ?_⟩
          rw [hr] at hd
          obtain ⟨rfl, rfl⟩ := List.cons.inj hd
          exact ⟨by simpa using hb, hj⟩

end Terminals.Scan

/-- Where terminals stand. -/
inductive Phase where
  /-- Before a line. -/
  | start
  /-- Where blocks have ended. -/
  | ended
  /-- Where a block has begun. -/
  | begun
  /-- Inside a line. -/
  | line
  /-- At the end of the script. -/
  | done
  deriving DecidableEq

namespace Phase

/-- Where terminals stand after one more of them. -/
def next (p : Phase) (t : Terminal) : Option Phase :=
  match p, t.kind with
  | .start, .indent => some .begun
  | .start, .dedent | .ended, .dedent => some .ended
  | .start, .endMarker | .ended, .endMarker => some .done
  | .line, .newline => some .start
  | .done, _ => none
  | _, _ => if t.isVisible then some .line else none

/-- Where terminals stand after others. -/
def run (p : Phase) (ts : List Terminal) : Option Phase := ts.foldlM next p

theorem run_append (p : Phase) (ts us : List Terminal) :
    p.run (ts ++ us) = (p.run ts).bind fun q => q.run us := by
  simp [run, List.foldlM_append]

theorem next_visible {p : Phase} {t : Terminal} (hp : p ≠ .done) (h : t.isVisible = true) :
    p.next t = some .line := by
  have kinds : t.kind = .name ∨ t.kind = .number ∨ t.kind = .string ∨ t.kind = .op := by
    unfold Terminal.isVisible at h
    split at h <;> simp_all
  rcases kinds with hk | hk | hk | hk <;> cases p <;> simp_all [next]

theorem run_dedents {n : Nat} {t : Terminal} (h : t.kind = .dedent) {p : Phase}
    (hp : p = .start ∨ p = .ended) :
    ∃ q, p.run (List.replicate n t) = some q ∧ (q = .ended ∨ n = 0 ∧ q = p) := by
  induction n generalizing p with
  | zero => exact ⟨p, rfl, .inr ⟨rfl, rfl⟩⟩
  | succ n ih =>
    have step : p.next t = some .ended := by rcases hp with rfl | rfl <;> simp [next, h]
    obtain ⟨q, hq, hcases⟩ := ih (.inr rfl)
    refine ⟨q, ?_, .inl ?_⟩
    · rw [List.replicate_succ, run, List.foldlM_cons, step]
      exact hq
    · rcases hcases with he | ⟨-, he⟩ <;> exact he

end Phase

namespace Terminals.Scan

variable {c : CodePoint} {t u v : Text} {s s' : Scan} {ts us : List Terminal} {p : Phase} {m : Margin}

/-- The scan stands where a terminal may begin. -/
def AtTerminal (s : Scan) : Prop := s.fresh = false ∧ ∃ c u, s.rest = c :: u ∧ Begins c

/-- Where a scan may stand in a phase. -/
def Stays (s : Scan) : Phase → Prop
  | .start => s.brackets = [] ∧ (s.fresh = true ∨ s.rest = [] ∨ s.AtTerminal)
  | .ended => s.brackets = [] ∧ s.fresh = false ∧ (s.rest = [] ∨ s.AtTerminal)
  | .begun => s.brackets = [] ∧ s.AtTerminal
  | .line => s.fresh = true ∨ s.rest = [] → s.brackets ≠ []
  | .done => False

/-- The layout before a statement. -/
theorem indent_stays (h : s.indent m = .ok (ts, s')) (hb : s.brackets = []) (hf : s.fresh = false)
    (hm : s.rest = [] → m = ⟨0, 0, 0⟩) (hs : ∀ c u, s.rest = c :: u → Begins c) :
    ∃ q, Phase.run .start ts = some q ∧ s'.Stays q := by
  have place := indent_place h
  have brackets : s'.brackets = [] := by rw [place]; exact hb
  have fresh : s'.fresh = false := by rw [place]; exact hf
  have rest : s'.rest = s.rest := by rw [place]
  have at_ (hne : s.rest ≠ []) : s'.AtTerminal := by
    obtain ⟨c, u, hr⟩ := List.exists_cons_of_ne_nil hne
    exact ⟨fresh, c, u, rest.trans hr, hs c u hr⟩
  simp only [indent] at h
  split at h
  · rename_i hwide
    have hne : s.rest ≠ [] := fun hn => by
      rw [hm hn] at hwide
      exact absurd hwide (Nat.not_lt_zero _)
    split at h
    · simp at h
    · obtain ⟨rfl, -⟩ := Prod.mk.inj (Except.ok.inj h)
      exact ⟨.begun, rfl, brackets, at_ hne⟩
  · split at h
    · obtain ⟨rfl, -⟩ := Prod.mk.inj (Except.ok.inj h)
      obtain ⟨q, hq, hcases⟩ := Phase.run_dedents (n := _) (t := s.empty .dedent) rfl (.inl rfl)
      have stands : s'.rest = [] ∨ s'.AtTerminal := by
        by_cases hne : s.rest = []
        · exact .inl (rest.trans hne)
        · exact .inr (at_ hne)
      refine ⟨q, hq, ?_⟩
      rcases hcases with rfl | ⟨-, rfl⟩
      · exact ⟨brackets, fresh, stands⟩
      · exact ⟨brackets, .inr stands⟩
    · simp at h

/-- A row begins before a line, or inside brackets. -/
theorem Stays.of_fresh (hp : s.Stays p) (hf : s.fresh = true) :
    p = .start ∧ s.brackets = [] ∨ p = .line ∧ s.brackets ≠ [] := by
  cases p with
  | start => exact .inl ⟨rfl, hp.1⟩
  | ended => exact absurd hf (by simp [hp.2.1])
  | begun => exact absurd hf (by simp [hp.2.1])
  | line => exact .inr ⟨rfl, hp (.inl hf)⟩
  | done => exact hp.elim

/-- What begins no terminal stands inside a line. -/
theorem Stays.line_of (hp : s.Stays p) (hf : s.fresh = false) (hr : s.rest = c :: u)
    (hc : ¬Begins c) : p = .line := by
  have never (ha : s.AtTerminal) : False := by
    obtain ⟨-, d, w, hd, hb⟩ := ha
    obtain ⟨rfl, -⟩ := List.cons.inj (hd.symm.trans hr)
    exact hc hb
  cases p with
  | start =>
    rcases hp.2 with h | h | h
    · simp [hf] at h
    · simp [hr] at h
    · exact (never h).elim
  | ended =>
    rcases hp.2.2 with h | h
    · simp [hr] at h
    · exact (never h).elim
  | begun => exact (never hp.2).elim
  | line => rfl
  | done => exact hp.elim

theorem Stays.ne_done (hp : s.Stays p) : p ≠ .done := by
  rintro rfl
  exact hp

theorem stays_line (hf : s.fresh = false) (hr : s.rest ≠ []) : s.Stays .line := fun h =>
  (h.elim (by simp [hf]) hr).elim

theorem whole_suffix (h : Whole t) (hu : u <:+ t) : Whole u := by
  obtain ⟨w, rfl⟩ := hu
  rcases h with h | h
  · exact .inl (List.append_eq_nil_iff.1 h).2
  · cases u with
    | nil => exact .inl rfl
    | cons c u =>
      rw [List.getLast?_append, List.getLast?_eq_some_getLast (List.cons_ne_nil c u)] at h
      exact .inr (by rw [List.getLast?_eq_some_getLast (List.cons_ne_nil c u)]; exact h)

theorem fromRowEnd_ne_nil (h : Whole t) (ht : t ≠ []) : fromRowEnd t ≠ [] := by
  intro hn
  have last := h.resolve_left ht
  have whole := List.takeWhile_append_dropWhile (p := fun c : CodePoint => c != '\n') (l := t)
  rw [show t.dropWhile _ = [] from hn, List.append_nil] at whole
  have mem : (10 : CodePoint) ∈ t.takeWhile fun c : CodePoint => c != '\n' :=
    whole.symm ▸ List.mem_of_getLast? last
  exact absurd (mem_takeWhile mem) (by decide)

/-- A step goes from one phase to another. -/
theorem Stays.step (hp : s.Stays p) (hw : Whole s.rest) (h : s.step = .ok (ts, s')) :
    Whole s'.rest ∧ ∃ q, p.run ts = some q ∧ s'.Stays q := by
  cases step_cases h with
  | @quiet m s₁ c u fresh margin rest nothing =>
    obtain ⟨same, whole, -⟩ := margin_spec margin (Nat.le_refl _) hw
    have brackets : s₁.brackets = s.brackets := by rw [same]
    refine ⟨whole_suffix whole ((List.tail_suffix _).trans (List.dropWhile_suffix _)), ?_⟩
    rcases hp.of_fresh fresh with ⟨rfl, hb⟩ | ⟨rfl, hb⟩
    · exact ⟨.start, rfl, brackets.trans hb, .inl rfl⟩
    · exact ⟨.line, rfl, fun _ => brackets ▸ hb⟩
  | @inside m s₁ fresh margin nonempty =>
    obtain ⟨same, whole, -⟩ := margin_spec margin (Nat.le_refl _) hw
    have brackets : s₁.brackets = s.brackets := by rw [same]
    rcases hp.of_fresh fresh with ⟨rfl, hb⟩ | ⟨rfl, hb⟩
    · exact absurd (brackets.trans hb) nonempty
    · exact ⟨whole, .line, rfl, fun _ => nonempty⟩
  | @layout m s₁ _ _ fresh margin empty more indent =>
    obtain ⟨same, whole, rest, zero, first⟩ := margin_spec margin (Nat.le_refl _) hw
    have brackets : s₁.brackets = s.brackets := by rw [same]
    have kept : s'.rest = s₁.rest := by rw [indent_place indent]
    rcases hp.of_fresh fresh with ⟨rfl, hb⟩ | ⟨rfl, hb⟩
    · refine ⟨by rwa [kept], indent_stays indent empty rfl (fun hn => zero ?_) fun c u hr => ?_⟩
      · exact Decidable.byContradiction fun hne => rest hne hn
      · exact ⟨(first c u hr).1, (more c u hr).1, (more c u hr).2, (first c u hr).2⟩
    · exact absurd (brackets.symm.trans empty) hb
  | @blank c u fresh rest blank =>
    obtain rfl := hp.line_of fresh rest fun hb => by simp [hb.1] at blank
    rw [rest] at hw
    exact ⟨whole_tail hw, .line, rfl,
      stays_line fresh (hw.tail_ne_nil (ne_lineFeed_of_isBlank blank))⟩
  | comment fresh rest =>
    obtain rfl := hp.line_of fresh rest (by decide)
    exact ⟨whole_suffix hw (List.dropWhile_suffix _), .line, rfl,
      stays_line fresh (fromRowEnd_ne_nil hw (by simp [rest]))⟩
  | lineEnd fresh rest =>
    obtain rfl := hp.line_of fresh rest (by decide)
    rw [rest] at hw
    refine ⟨whole_tail hw, ?_⟩
    by_cases hb : s.brackets = []
    · simp only [hb, List.isEmpty_nil, ↓reduceIte]
      exact ⟨.start, rfl, hb, .inl rfl⟩
    · have open_ : s.brackets.isEmpty = false := by simpa using hb
      simp only [open_, Bool.false_eq_true, ↓reduceIte]
      exact ⟨.line, rfl, fun _ => hb⟩
  | joint fresh rest ne =>
    obtain rfl := hp.line_of fresh rest (by decide)
    rw [rest] at hw
    exact ⟨whole_tail (whole_tail hw), .line, rfl, stays_line fresh ne⟩
  | @visible c u kind n brackets fresh rest begins found beyond =>
    obtain ⟨w, hwhole⟩ : ∃ w, s.rest = w ++ [10] :=
      List.getLast?_eq_some_iff.1 (hw.resolve_left (by simp [rest]))
    rw [hwhole] at found
    have inside := (visible?_row (v := []) found).2
    have dropped : s.rest.drop n = w.drop n ++ [10] := by
      rw [hwhole, List.drop_append_of_le_length inside]
    refine ⟨.inr ?_, .line, ?_, stays_line rfl ?_⟩
    · have rest' : ({ s.after n with brackets } : Scan).rest = s.rest.drop n := rfl
      rw [rest', dropped, List.getLast?_concat]
    · have visible : (s.terminal { s.after n with brackets } kind (s.rest.take n)).isVisible = true :=
        visible?_kind found _ _ _
      rw [Phase.run, List.foldlM_cons, Phase.next_visible hp.ne_done visible]
      rfl
    · have rest' : ({ s.after n with brackets } : Scan).rest = s.rest.drop n := rfl
      rw [rest', dropped]
      simp

/-- The terminals of a complete script go through the phases. -/
theorem Stays.run (hp : s.Stays p) (hw : Whole s.rest) (h : s.all.ending = .complete) :
    p.run s.all.list = some .done := by
  induction hn : s.work using Nat.strongRecOn generalizing s p with
  | ind n ih =>
    subst hn
    cases hs : s.step with
    | ok next =>
      obtain ⟨ts, s'⟩ := next
      obtain ⟨whole, q, hq, stays⟩ := hp.step hw hs
      rw [all_of_ok hs] at h ⊢
      have rest := ih s'.work (step_work_lt hs) stays whole h rfl
      rw [preceded, Phase.run_append, hq]
      exact rest
    | error stop =>
      obtain ⟨ts, e⟩ := stop
      rw [all_of_error hs] at h ⊢
      obtain rfl : e = .complete := h
      obtain ⟨rfl, fresh, rest, brackets⟩ := step_complete hs
      cases p with
      | start => rfl
      | ended => rfl
      | begun =>
        obtain ⟨-, c, u, hr, -⟩ := hp.2
        simp [rest] at hr
      | line => exact absurd brackets (hp (.inr rest))
      | done => exact hp.elim

/-- Steps go from one phase to another. -/
theorem Stays.leads (h : Leads s ts s') (hp : s.Stays p) (hw : Whole s.rest) :
    ∃ q, p.run ts = some q ∧ s'.Stays q := by
  induction h generalizing p with
  | refl => exact ⟨p, rfl, hp⟩
  | step first _ ih =>
    obtain ⟨whole, q, hq, stays⟩ := hp.step hw first
    obtain ⟨r, hr, stays'⟩ := ih stays whole
    exact ⟨r, by rw [Phase.run_append, hq]; exact hr, stays'⟩

/-! ## The end -/

theorem cut_of_open (hf : s.fresh = false) (hr : s.rest = []) (hb : s.brackets ≠ []) :
    s.all.ending ≠ .complete := by
  have open_ : s.brackets.isEmpty = false := by simpa using hb
  have stop : s.step = .error ([], s.cut) := by
    simp only [step, hf, hr, open_, Bool.false_eq_true, ↓reduceIte]
  rw [all_of_error stop]
  exact stop_ne_complete.2.2

/-- At the end of a complete script nothing is open but blocks. -/
theorem Stands.idle_of_complete {joined : Bool} {within : Option Quote}
    (h : Stands [] s joined within) (hall : s.all.ending = .complete) :
    joined = false ∧ within = none ∧ s.Idle ∧ s.rest = [] := by
  cases h with
  | fresh bs blank fresh column rest ne padded =>
    obtain rfl : bs = [] := Decidable.byContradiction fun hn => ne hn rfl
    refine ⟨padded, rfl, ⟨fresh, ?_⟩, rest⟩
    cases hs : s.step with
    | error stop =>
      obtain ⟨ts, e⟩ := stop
      rw [all_of_error hs] at hall
      obtain rfl : e = .complete := hall
      exact (step_complete hs).2.2.2
    | ok next =>
      obtain ⟨ts, s'⟩ := next
      have at_ {m : Margin} {s₁ : Scan} (margin : s.margin s.rest.length ⟨0, 0, 0⟩ = .ok (m, s₁)) :
          s₁ = s := by
        rw [rest] at margin
        exact (Prod.mk.inj (Except.ok.inj margin)).2.symm
      cases step_cases hs with
      | quiet _ margin rest' =>
        rw [at_ margin, rest] at rest'
        cases rest'
      | inside _ margin nonempty =>
        rw [all_of_ok hs] at hall
        have same := at_ margin
        exact absurd hall (cut_of_open rfl (by rw [same]; exact rest) nonempty)
      | layout _ margin brackets => exact at_ margin ▸ brackets
      | blank notFresh => simp [fresh] at notFresh
      | comment notFresh => simp [fresh] at notFresh
      | lineEnd notFresh => simp [fresh] at notFresh
      | joint notFresh => simp [fresh] at notFresh
      | visible notFresh => simp [fresh] at notFresh
  | joined _ _ ne => exact absurd rfl ne
  | within n fresh string rest => exact absurd rest (string.rest_ne_nil fresh hall)

/-- At the end of a complete script all blocks end. -/
theorem all_of_idle (hi : s.Idle) (hr : s.rest = []) (hall : s.all.ending = .complete) :
    ∃ n kept t u, dedent? 0 0 s.indents = some (n, kept) ∧ t.kind = .dedent ∧ u.kind = .endMarker ∧
      s.all.list = List.replicate n t ++ [u] := by
  have margin : s.margin s.rest.length ⟨0, 0, 0⟩ = .ok (⟨0, 0, 0⟩, s) := by rw [hr]; rfl
  have step : s.step = ({ s with fresh := false }.indent ⟨0, 0, 0⟩).mapError fun e => ([], e) := by
    rw [step, if_pos hi.1, begin, margin]
    simp only [bind, Except.bind, hr, hi.2, List.isEmpty_nil, ↓reduceIte]
  have shallow : ¬(s.indents.headD (0, 0)).1 < 0 := Nat.not_lt_zero _
  simp only [indent, Margin.measures, ↓reduceIte, shallow] at step
  cases hd : dedent? 0 0 s.indents with
  | none =>
    rw [hd] at step
    rw [all_of_error step] at hall
    exact absurd hall stop_ne_complete.1
  | some found =>
    obtain ⟨n, kept⟩ := found
    rw [hd] at step
    have stop : ({ s with fresh := false, indents := kept } : Scan).step =
        .error ([({ s with fresh := false, indents := kept } : Scan).empty .endMarker], .complete) := by
      simp only [Scan.step, hr, hi.2, List.isEmpty_nil, Bool.false_eq_true, ↓reduceIte]
    refine ⟨n, kept, s.empty .dedent, s.empty .endMarker, rfl, rfl, rfl, ?_⟩
    rw [all_of_ok step, all_of_error stop]
    rfl

end Terminals.Scan

/-! ## Items -/

namespace Item

variable {t first : Terminal} {ts others taken : List Terminal} {items : List Item} {p q : Phase}
  {o : Outlook}

/-- A line comes first. -/
def LineFirst : List Item → Prop
  | .line .. :: _ => True
  | _ => False

/-- Every block begins with a line, and nothing comes after the end of the script. -/
def Laid : List Item → Prop
  | [] => True
  | .indent _ :: items => LineFirst items ∧ Laid items
  | .stop _ :: items => items = []
  | _ :: items => Laid items

theorem ofTerminals_layout (ts : List Terminal) :
    (t.kind = .indent → ofTerminals [] (t :: ts) = .indent t.span :: ofTerminals [] ts) ∧
      (t.kind = .dedent → ofTerminals [] (t :: ts) = .dedent t.span :: ofTerminals [] ts) ∧
      (t.kind = .endMarker → ofTerminals [] (t :: ts) = .stop t.span :: ofTerminals [] ts) := by
  refine ⟨?_, ?_, ?_⟩ <;> intro h <;> rw [ofTerminals] <;> simp only [h] <;> rfl

end Item

/-- An item comes. -/
def Outlook.item (o : Outlook) : Item → Outlook
  | .line first others =>
    ⟨some first.span.column, (first :: others).getLast?.any (·.isOp ":"), true⟩
  | .indent _ | .dedent _ | .stop _ => o

/-- The terminals of a line and its end are an item. -/
theorem Outlook.foldl_line {first t : Terminal} {others : List Terminal} {o : Outlook}
    (visible : ∀ u ∈ first :: others, u.isVisible = true) (newline : t.kind = .newline)
    (ho : o.fresh = true) :
    (first :: others ++ [t]).foldl Outlook.terminal o = o.item (.line first others) := by
  have final := List.getLast?_eq_some_getLast (List.cons_ne_nil first others)
  rw [List.foldl_append, Terminals.Scan.foldl_terminal visible]
  simp only [List.head?_cons, final, List.foldl_cons, List.foldl_nil, Outlook.terminal, newline,
    ↓reduceIte, Outlook.sign, ho, Outlook.item, Option.any_some]

namespace Phase

variable {t first : Terminal} {ts others : List Terminal} {p q : Phase} {o : Outlook}

/-- What a terminal does in each phase. -/
theorem next_cases (h : p.next t = some q) :
    t.isVisible = true ∧ p ≠ .done ∧ q = .line ∨
      t.kind = .newline ∧ p = .line ∧ q = .start ∨
      t.kind = .indent ∧ p = .start ∧ q = .begun ∨
      t.kind = .dedent ∧ (p = .start ∨ p = .ended) ∧ q = .ended ∨
      t.kind = .endMarker ∧ (p = .start ∨ p = .ended) ∧ q = .done := by
  by_cases hv : t.isVisible = true
  · by_cases hp : p = .done
    · subst hp
      simp [next] at h
    · rw [next_visible hp hv] at h
      exact .inl ⟨hv, hp, (Option.some.inj h).symm⟩
  · unfold next at h
    split at h <;> simp_all

theorem run_cons (h : p.run (t :: ts) = some q) : ∃ r, p.next t = some r ∧ r.run ts = some q := by
  rw [run, List.foldlM_cons] at h
  exact Option.bind_eq_some_iff.1 h

/-- A line has an end. -/
theorem exists_of_run_line (h : run .line ts = some q) (hq : q ≠ .line) :
    ∃ others t ts', ts = others ++ t :: ts' ∧ (∀ u ∈ others, u.isVisible = true) ∧
      t.kind = .newline ∧ run .start ts' = some q := by
  induction ts with
  | nil => exact absurd (Option.some.inj h).symm hq
  | cons t ts ih =>
    obtain ⟨r, hr, h⟩ := run_cons h
    rcases next_cases hr with ⟨hv, -, rfl⟩ | ⟨hk, -, rfl⟩ | ⟨-, hp, -⟩ | ⟨-, hp, -⟩ | ⟨-, hp, -⟩
    · obtain ⟨others, u, ts', rfl, visible, newline, run⟩ := ih h
      exact ⟨t :: others, u, ts', rfl, List.forall_mem_cons.2 ⟨hv, visible⟩, newline, run⟩
    · exact ⟨[], t, ts, rfl, nofun, hk, h⟩
    · cases hp
    · rcases hp with hp | hp <;> cases hp
    · rcases hp with hp | hp <;> cases hp

/-- Terminals that go from one phase to another, and the items that they are. -/
inductive Cut : Phase → List Terminal → List Item → Phase → Prop where
  | nil {p : Phase} : Cut p [] [] p
  | line {p q : Phase} {first t : Terminal} {others ts : List Terminal} {items : List Item}
      (phase : p ≠ .done) (visible : ∀ u ∈ first :: others, u.isVisible = true)
      (newline : t.kind = .newline) (after : Cut .start ts items q) :
      Cut p (first :: others ++ t :: ts) (.line first others :: items) q
  | indent {q : Phase} {t : Terminal} {ts : List Terminal} {items : List Item}
      (kind : t.kind = .indent) (after : Cut .begun ts items q) :
      Cut .start (t :: ts) (.indent t.span :: items) q
  | dedent {p q : Phase} {t : Terminal} {ts : List Terminal} {items : List Item}
      (kind : t.kind = .dedent) (phase : p = .start ∨ p = .ended) (after : Cut .ended ts items q) :
      Cut p (t :: ts) (.dedent t.span :: items) q
  | stop {p : Phase} {t : Terminal} (kind : t.kind = .endMarker) (phase : p = .start ∨ p = .ended) :
      Cut p [t] [.stop t.span] .done

theorem cut_of_run (h : p.run ts = some q) (hp : p ≠ .line) (hq : q ≠ .line) :
    Cut p ts (Item.ofTerminals [] ts) q := by
  induction hn : ts.length using Nat.strongRecOn generalizing ts p with
  | ind n ih =>
    subst hn
    cases ts with
    | nil =>
      obtain rfl := Option.some.inj h
      exact .nil
    | cons t ts =>
      obtain ⟨r, hr, h⟩ := run_cons h
      rcases next_cases hr with ⟨hv, hd, rfl⟩ | ⟨-, rfl, -⟩ | ⟨hk, rfl, rfl⟩ | ⟨hk, hs, rfl⟩ |
        ⟨hk, hs, rfl⟩
      · obtain ⟨others, u, ts', rfl, visible, newline, run⟩ := exists_of_run_line h hq
        have visible : ∀ u ∈ t :: others, u.isVisible = true := List.forall_mem_cons.2 ⟨hv, visible⟩
        rw [← List.cons_append, Item.ofTerminals_line visible newline]
        refine .line hd visible newline (ih _ ?_ run nofun rfl)
        simp only [List.length_cons, List.length_append]
        omega
      · exact absurd rfl hp
      · rw [(Item.ofTerminals_layout ts).1 hk]
        exact .indent hk (ih _ (by simp) h nofun rfl)
      · rw [(Item.ofTerminals_layout ts).2.1 hk]
        exact .dedent hk hs (ih _ (by simp) h nofun rfl)
      · cases ts with
        | nil =>
          obtain rfl := Option.some.inj h
          rw [(Item.ofTerminals_layout []).2.2 hk]
          exact .stop hk hs
        | cons u ts =>
          obtain ⟨r, hr, -⟩ := run_cons h
          simp [next] at hr

namespace Cut

/-- The outlook after terminals is that after their items. -/
theorem looks {items : List Item} (h : Cut p ts items q) (ho : o.fresh = true) :
    ts.foldl Outlook.terminal o = items.foldl Outlook.item o := by
  have silent {t : Terminal} (hv : t.isVisible = false) (hn : t.kind ≠ .newline) :
      o.terminal t = o := by
    rw [Outlook.terminal, if_neg hn, if_neg (by simp [hv])]
  induction h generalizing o with
  | nil => rfl
  | @line p q first t others ts items _ visible newline after ih =>
    have split : first :: others ++ t :: ts = first :: others ++ [t] ++ ts := by simp
    rw [split, List.foldl_append, Outlook.foldl_line visible newline ho, List.foldl_cons,
      ih rfl fun {t} hv hn => ?_]
    rw [Outlook.terminal, if_neg hn, if_neg (by simp [hv])]
  | indent kind _ ih =>
    rw [List.foldl_cons, silent (by simp [Terminal.isVisible, kind]) (by simp [kind])]
    exact ih ho silent
  | dedent kind _ _ ih =>
    rw [List.foldl_cons, silent (by simp [Terminal.isVisible, kind]) (by simp [kind])]
    exact ih ho silent
  | stop kind => exact silent (by simp [Terminal.isVisible, kind]) (by simp [kind])

theorem laid {items : List Item} (h : Cut p ts items q) (hq : q = .start ∨ q = .done) :
    Item.Laid items ∧ (p = .begun → Item.LineFirst items) := by
  induction h with
  | @nil p =>
    refine ⟨trivial, ?_⟩
    rintro rfl
    simp at hq
  | line _ _ _ _ ih => exact ⟨(ih hq).1, fun _ => trivial⟩
  | indent _ _ ih => exact ⟨⟨(ih hq).2 rfl, (ih hq).1⟩, nofun⟩
  | dedent _ phase _ ih =>
    refine ⟨(ih hq).1, ?_⟩
    rintro rfl
    simp at phase
  | stop _ phase =>
    refine ⟨rfl, ?_⟩
    rintro rfl
    simp at phase

/-- Terminals after a line are items of their own. -/
theorem append {items : List Item} (h : Cut p ts items q) (hq : q = .start) (rest : List Terminal) :
    Item.ofTerminals [] (ts ++ rest) = items ++ Item.ofTerminals [] rest := by
  induction h with
  | nil => rfl
  | @line p q first t others ts items _ visible newline _ ih =>
    have line := Item.ofTerminals_line visible newline (ts ++ rest)
    rw [ih hq] at line
    rw [List.append_assoc]
    exact line
  | indent kind _ ih =>
    rw [List.cons_append, (Item.ofTerminals_layout _).1 kind, ih hq]
    rfl
  | dedent kind _ _ ih =>
    rw [List.cons_append, (Item.ofTerminals_layout _).2.1 kind, ih hq]
    rfl
  | stop => cases hq

/-- Before a line there is another one, if anything. -/
theorem last {items : List Item} (h : Cut p ts items q) (hq : q = .start) :
    items = [] ∧ p = .start ∨ ∃ before first others, items = before ++ [.line first others] := by
  have further {item : Item} {items : List Item}
      (hi : ∃ before first others, items = before ++ [.line first others]) :
      ∃ before first others, item :: items = before ++ [.line first others] := by
    obtain ⟨before, first, others, rfl⟩ := hi
    exact ⟨item :: before, first, others, rfl⟩
  induction h with
  | nil => exact .inl ⟨rfl, hq⟩
  | @line p q first t others ts items _ _ _ _ ih =>
    rcases ih hq with ⟨rfl, -⟩ | hi
    · exact .inr ⟨[], first, others, rfl⟩
    · exact .inr (further hi)
  | indent _ _ ih =>
    rcases ih hq with ⟨-, he⟩ | hi
    · cases he
    · exact .inr (further hi)
  | dedent _ _ _ ih =>
    rcases ih hq with ⟨-, he⟩ | hi
    · cases he
    · exact .inr (further hi)
  | stop => cases hq

/-- Terminals whose last item is a line end in that line. -/
theorem of_last {items before : List Item} (h : Cut p ts items q)
    (he : items = before ++ [.line first others]) :
    ∃ us t r, ts = us ++ (first :: others ++ [t]) ∧ t.kind = .newline ∧
      (∀ u ∈ first :: others, u.isVisible = true) ∧ Cut p us before r := by
  induction h generalizing before with
  | nil => simp at he
  | @line p q f t o ts items phase visible newline after ih =>
    rcases before with _ | ⟨item, before⟩
    · obtain ⟨line, rfl⟩ := List.cons.inj he
      obtain ⟨rfl, rfl⟩ := Item.line.inj line
      cases after
      exact ⟨[], t, p, rfl, newline, visible, .nil⟩
    · obtain ⟨rfl, further⟩ := List.cons.inj he
      obtain ⟨us, t', r, rfl, kind, lines, cut⟩ := ih further
      exact ⟨f :: o ++ t :: us, t', r, by simp, kind, lines, .line phase visible newline cut⟩
  | @indent q t ts items kind after ih =>
    rcases before with _ | ⟨item, before⟩
    · simp at he
    · obtain ⟨rfl, further⟩ := List.cons.inj he
      obtain ⟨us, t', r, rfl, newline, lines, cut⟩ := ih further
      exact ⟨t :: us, t', r, rfl, newline, lines, .indent kind cut⟩
  | @dedent p q t ts items kind phase after ih =>
    rcases before with _ | ⟨item, before⟩
    · simp at he
    · obtain ⟨rfl, further⟩ := List.cons.inj he
      obtain ⟨us, t', r, rfl, newline, lines, cut⟩ := ih further
      exact ⟨t :: us, t', r, rfl, newline, lines, .dedent kind phase cut⟩
  | stop =>
    rcases before with _ | ⟨item, before⟩ <;> simp at he

end Cut

end Phase

/-- The terminals between two places before statements are cut into lines. -/
theorem Terminals.Scan.Leads.cut {s s' : Terminals.Scan} {ts : List Terminal}
    (h : Terminals.Scan.Leads s ts s') (hi : s.Idle) (hi' : s'.Idle)
    (hw : Terminals.Scan.Whole s.rest) : Phase.Cut .start ts (Item.ofTerminals [] ts) .start := by
  obtain ⟨q, run, stays⟩ := Terminals.Scan.Stays.leads (p := .start) h ⟨hi.2, .inl hi.1⟩ hw
  obtain ⟨rfl, -⟩ | ⟨-, open_⟩ := stays.of_fresh hi'.1
  · exact Phase.cut_of_run run (by decide) (by decide)
  · exact absurd hi'.2 open_

end Stencil.Script
