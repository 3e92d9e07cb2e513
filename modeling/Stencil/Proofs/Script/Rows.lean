import Stencil.Proofs.Script.Complete
import Stencil.Proofs.Script.Shift

/-!
# The scan of a script, row by row

Between the rows of a script a scan stands before a statement or inside brackets, behind a backslash
that joins two rows, or at a string that is still open. A row that is passed then has a survey, and
the survey says where the scan stands next. Blank rows that end in a backslash are passed together
with the row that they are joined to.

## Main definitions

* `Scan.Stands` — where a scan stands at the beginning of a row.
* `Scan.Passes` — what becomes of a row.

## Main results

* `Scan.Stands.passes_outside`, `Scan.Stands.passes_inside` — what becomes of a row of a complete
  script.
-/

namespace Stencil.Script.Terminals.Scan

variable {c : CodePoint} {t u v blanks : Text} {s s' : Scan} {ts : List Terminal} {sv : Survey}
  {bs : List Text} {n : Nat}

/-! ## The beginning of a row -/

/-- Blank rows that backslashes join to what comes after them. -/
def padding (bs : List Text) : Text := bs.flatMap (· ++ ['\\', '\n'].map Char.toNat)

theorem padding_cons (b : Text) (bs : List Text) :
    padding (b :: bs) = b ++ ('\\' : CodePoint) :: 10 :: padding bs := by
  simp [padding]

theorem padding_concat (bs : List Text) (b : Text) :
    padding (bs ++ [b]) = padding bs ++ (b ++ [('\\' : CodePoint), 10]) := by
  simp [padding]

/-- A margin goes on over blanks. -/
theorem margin_pass (fuel : Nat) (m : Margin) (hall : ∀ b ∈ blanks, isBlank b = true)
    (hr : s.rest = blanks ++ t) :
    s.margin (blanks.length + fuel) m =
      { s with rest := t, column := s.column + blanks.length }.margin fuel
        (blanks.foldl Margin.blank m) := by
  induction blanks generalizing s m with
  | nil =>
    rw [List.nil_append] at hr
    rw [List.length_nil, Nat.zero_add, ← hr]
    rfl
  | cons b blanks ih =>
    obtain ⟨hb, hall⟩ := List.forall_mem_cons.1 hall
    have step : s.margin (blanks.length + fuel + 1) m =
        (s.pass [b] (blanks ++ t)).margin (blanks.length + fuel) (m.blank b) := by
      simp only [margin, hr, List.cons_append, hb, ↓reduceIte]
    rw [List.length_cons, Nat.add_right_comm, step, ih _ hall rfl, List.foldl_cons]
    simp only [pass, octetCount_blank hb, Nat.add_assoc, Nat.add_comm 1]

theorem margin_joint (fuel : Nat) (m : Margin) (hr : s.rest = ('\\' : CodePoint) :: 10 :: t)
    (ht : t ≠ []) : s.margin (fuel + 1) m = (s.nextRow t).margin fuel m.join := by
  have hb : isBlank ('\\' : CodePoint) = false := by decide
  have hl : ¬(10 : CodePoint) ≠ ('\n' : CodePoint) := by decide
  simp only [margin, hr, hb, hl, List.isEmpty_eq_false_iff.2 ht, Bool.false_eq_true, ↓reduceIte]

/-- A margin goes on over blank rows that are joined to the next one. -/
theorem margin_padding (fuel : Nat) (m : Margin) (hall : ∀ b ∈ bs, ∀ c ∈ b, isBlank c = true)
    (hr : s.rest = padding bs ++ t) (ht : t ≠ []) :
    ∃ fuel' m', fuel ≤ fuel' ∧ (bs = [] → m' = m) ∧
      s.margin ((padding bs).length + fuel) m =
        { s with
          rest := t
          row := s.row + bs.length
          column := if bs.isEmpty then s.column else 0 }.margin fuel' m' := by
  induction bs generalizing s m fuel with
  | nil =>
    refine ⟨fuel, m, Nat.le_refl _, fun _ => rfl, ?_⟩
    have rest : s.rest = t := hr
    simp [padding, ← rest]
  | cons b bs ih =>
    obtain ⟨hb, hall⟩ := List.forall_mem_cons.1 hall
    rw [padding_cons, List.append_assoc, List.cons_append, List.cons_append] at hr
    have more : padding bs ++ t ≠ [] := List.append_ne_nil_of_right_ne_nil _ ht
    have length : (padding (b :: bs)).length + fuel =
        b.length + ((padding bs).length + (fuel + 1) + 1) := by
      rw [padding_cons, List.length_append, List.length_cons, List.length_cons]
      omega
    let next : Scan := { s with rest := padding bs ++ t, row := s.row + 1, column := 0 }
    obtain ⟨fuel', m', hle, -, hm⟩ := ih (s := next) (fuel + 1) (b.foldl Margin.blank m).join hall rfl
    refine ⟨fuel', m', by omega, by simp, ?_⟩
    rw [length, margin_pass _ m hb hr, margin_joint _ _ rfl more]
    have step : ({ s with
        rest := ('\\' : CodePoint) :: 10 :: (padding bs ++ t)
        column := s.column + b.length } : Scan).nextRow (padding bs ++ t) = next := by
      simp [nextRow, next, List.isEmpty_eq_false_iff.2 more]
    rw [step, hm]
    simp only [next, ite_self, List.isEmpty_cons, Bool.false_eq_true, ↓reduceIte, List.length_cons,
      Nat.add_assoc, Nat.add_comm 1]

/-- Where the first step at a row stands after the blanks of the row. -/
theorem margin_row (hb : ∀ b ∈ bs, ∀ c ∈ b, isBlank c = true) (hall : ∀ b ∈ blanks, isBlank b = true)
    (hr : s.rest = padding bs ++ (blanks ++ t)) (ht : t ≠ []) (hc : s.column = 0) :
    ∃ fuel m, (bs = [] → m = blanks.foldl Margin.blank ⟨0, 0, 0⟩) ∧
      s.margin s.rest.length ⟨0, 0, 0⟩ =
        { s with rest := t, row := s.row + bs.length, column := blanks.length }.margin (fuel + 1) m := by
  have hpos := List.length_pos_iff.2 ht
  have length : s.rest.length = (padding bs).length + (blanks.length + t.length) := by
    rw [hr, List.length_append, List.length_append]
  obtain ⟨fuel', m', hle, hm, he⟩ := margin_padding (blanks.length + t.length) ⟨0, 0, 0⟩ hb hr
    (List.append_ne_nil_of_right_ne_nil _ ht)
  obtain ⟨fuel, rfl⟩ : ∃ fuel, fuel' = blanks.length + (fuel + 1) :=
    ⟨fuel' - blanks.length - 1, by omega⟩
  refine ⟨fuel, blanks.foldl Margin.blank m', fun h => by rw [hm h], ?_⟩
  rw [length, he, margin_pass _ _ hall rfl]
  cases bs <;> simp [hc]

/-- What the first step at a row does. Blank rows in `bs` are joined to the row, which begins with
`blanks`; what stands after them is no blank. -/
inductive Starts (v : Text) (s : Scan) (bs : List Text) (blanks : Text) : (u : Text) → Prop where
  /-- The row holds a comment at most, and is passed over. -/
  | quiet {u : Text} (s' : Scan) (nothing : u = [] ∨ ∃ w, u = ('#' : CodePoint) :: w)
      (step : s.step = .ok ([], s')) (fresh : s'.fresh = true) (rest : s'.rest = v)
      (column : s'.column = 0) (brackets : s'.brackets = s.brackets)
      (indents : s'.indents = s.indents) : Starts v s bs blanks u
  /-- The row is blank and joined to the next one, so that the step has not come to its end. -/
  | joint (ne : v ≠ []) : Starts v s bs blanks ['\\']
  /-- A line begins or goes on. -/
  | line {c : CodePoint} {u : Text} {ls : List Terminal} (s' : Scan) (begins : Begins c)
      (step : s.step = .ok (ls, s')) (fresh : s'.fresh = false) (rest : s'.rest = c :: u ++ 10 :: v)
      (column : s'.column = blanks.length) (brackets : s'.brackets = s.brackets)
      (inside : s.brackets ≠ [] → ls = [] ∧ s'.indents = s.indents)
      (outside : s.brackets = [] → ∃ m, (bs = [] → m = blanks.foldl Margin.blank ⟨0, 0, 0⟩) ∧
        { s' with indents := s.indents }.indent m = .ok (ls, s')) :
      Starts v s bs blanks (c :: u)

theorem step_quiet {m : Margin} {rest : Text} (hf : s.fresh = true)
    (h : s.margin s.rest.length ⟨0, 0, 0⟩ = .ok (m, s')) (hr : s'.rest = c :: rest)
    (hc : c = ('#' : CodePoint) ∨ c = ('\n' : CodePoint)) :
    s.step =
      .ok ([], { (s'.nextRow (fromRowEnd (c :: rest)).tail) with fresh := true }) := by
  rw [step, if_pos hf, begin, h]
  simp only [bind, Except.bind, hr, if_pos hc]
  rfl

theorem step_begun {m : Margin} {rest : Text} (hf : s.fresh = true)
    (h : s.margin s.rest.length ⟨0, 0, 0⟩ = .ok (m, s')) (hr : s'.rest = c :: rest)
    (hc : ¬(c = ('#' : CodePoint) ∨ c = ('\n' : CodePoint))) :
    s.step = (if s'.brackets.isEmpty then { s' with fresh := false }.indent m
      else .ok ([], { s' with fresh := false })).mapError fun e => ([], e) := by
  rw [step, if_pos hf, begin, h]
  simp only [bind, Except.bind, hr, if_neg hc]
  rfl

theorem step_of_margin_error {e : Ending} (hf : s.fresh = true)
    (h : s.margin s.rest.length ⟨0, 0, 0⟩ = .error e) : s.step = .error ([], e) := by
  rw [step, if_pos hf, begin, h]
  rfl

theorem indent_error {m : Margin} {e : Ending} (h : s.indent m = .error e) : e ≠ .complete := by
  simp only [indent] at h
  split at h
  · split at h
    · exact Except.error.inj h ▸ stop_ne_complete.1
    · simp at h
  · split at h
    · simp at h
    · exact Except.error.inj h ▸ stop_ne_complete.1

theorem indent_kinds {m : Margin} (h : s.indent m = .ok (ts, s')) :
    ∀ t ∈ ts, t.kind = .indent ∨ t.kind = .dedent := by
  simp only [indent] at h
  split at h
  · split at h
    · simp at h
    · obtain ⟨rfl, -⟩ := Prod.mk.inj (Except.ok.inj h)
      simp [empty, terminal]
  · split at h
    · obtain ⟨rfl, -⟩ := Prod.mk.inj (Except.ok.inj h)
      intro t ht
      exact .inr (by rw [(List.mem_replicate.1 ht).2]; rfl)
    · simp at h

theorem indent_place {m : Margin} (h : s.indent m = .ok (ts, s')) :
    s' = { s with indents := s'.indents } := by
  simp only [indent] at h
  split at h
  · split at h
    · simp at h
    · simp only [Except.ok.injEq, Prod.mk.injEq] at h
      rw [← h.2]
  · split at h
    · simp only [Except.ok.injEq, Prod.mk.injEq] at h
      rw [← h.2]
    · simp at h

theorem starts (hf : s.fresh = true) (hb : ∀ b ∈ bs, ∀ c ∈ b, isBlank c = true)
    (hall : ∀ b ∈ blanks, isBlank b = true) (hcol : s.column = 0)
    (hr : s.rest = padding bs ++ (blanks ++ (u ++ 10 :: v))) (hu : (10 : CodePoint) ∉ u)
    (hd : ∀ c ∈ u.head?, isBlank c = false) (h : s.all.ending = .complete) :
    Starts v s bs blanks u := by
  obtain ⟨fuel, m, hm, margin_⟩ := margin_row (t := u ++ 10 :: v) hb hall hr (by simp) hcol
  let at_ : Scan :=
    { s with rest := u ++ 10 :: v, row := s.row + bs.length, column := blanks.length }
  have stops {e : Ending} (stop : s.step = .error ([], e)) : e = .complete := by
    rw [all_of_error stop] at h
    exact h
  have stands {c : CodePoint} {w : Text} (hr : u ++ 10 :: v = c :: w) (hc : isBlank c = false)
      (hj : c ≠ ('\\' : CodePoint)) : s.margin s.rest.length ⟨0, 0, 0⟩ = .ok (m, at_) := by
    rw [margin_]
    simp only [margin, hr, hc, hj, Bool.false_eq_true, ↓reduceIte, at_]
  cases u with
  | nil =>
    have step := step_quiet hf (stands rfl (by decide) (by decide)) rfl (.inr rfl)
    exact .quiet _ (.inl rfl) step rfl rfl rfl rfl rfl
  | cons c w =>
    have hc : isBlank c = false := hd c rfl
    by_cases hj : c = ('\\' : CodePoint)
    · subst hj
      have fails : ∀ e, s.margin s.rest.length ⟨0, 0, 0⟩ = .error e → e = .complete :=
        fun e he => stops (step_of_margin_error hf he)
      rw [margin_] at fails
      simp only [margin, List.cons_append, hc, Bool.false_eq_true, ↓reduceIte] at fails
      cases w with
      | nil =>
        cases v with
        | nil => exact absurd (fails _ rfl) stop_ne_complete.2.2
        | cons d v => exact .joint (by simp)
      | cons d w =>
        have hl : d ≠ ('\n' : CodePoint) := fun he => hu (by simp [he])
        simp only [List.cons_append, ne_eq, hl, not_false_eq_true, ↓reduceIte] at fails
        exact absurd (fails _ rfl) stop_ne_complete.1
    · by_cases hh : c = ('#' : CodePoint)
      · subst hh
        have rest : at_.rest = ('#' : CodePoint) :: (w ++ 10 :: v) := rfl
        have step := step_quiet hf (stands rfl hc hj) rest (.inl rfl)
        rw [← List.cons_append, fromRowEnd_row hu] at step
        exact .quiet _ (.inr ⟨w, rfl⟩) step rfl rfl rfl rfl rfl
      · have hl : c ≠ ('\n' : CodePoint) := fun he => hu (by simp [he])
        have rest : at_.rest = c :: (w ++ 10 :: v) := rfl
        have step := step_begun hf (stands rfl hc hj) rest (not_or.2 ⟨hh, hl⟩)
        have begins : Begins c := ⟨hc, hh, hl, hj⟩
        by_cases hbr : s.brackets = []
        · rw [if_pos (by simp [at_, hbr])] at step
          cases hi : ({ at_ with fresh := false } : Scan).indent m with
          | error e =>
            rw [hi] at step
            exact absurd (stops step) (indent_error hi)
          | ok next =>
            obtain ⟨ls, s'⟩ := next
            rw [hi] at step
            have place := indent_place hi
            refine .line s' begins step (by rw [place]) (by rw [place]) (by rw [place]) (by rw [place])
              (fun hne => absurd hbr hne) fun _ => ⟨m, hm, ?_⟩
            rw [← hi, place]
        · rw [if_neg (by simp [at_, hbr])] at step
          exact .line _ begins step rfl rfl rfl rfl (fun _ => ⟨rfl, rfl⟩) fun he => absurd he hbr

/-! ## Between rows -/

/-- A scan stands before the rows `v`, which may be joined to what is passed already or begin inside a
string. -/
inductive Stands (v : Text) (s : Scan) : (joined : Bool) → (within : Option Quote) → Prop where
  | fresh {joined : Bool} (bs : List Text) (blank : ∀ b ∈ bs, ∀ c ∈ b, isBlank c = true)
      (fresh : s.fresh = true) (column : s.column = 0) (rest : s.rest = padding bs ++ v)
      (ne : bs ≠ [] → v ≠ []) (padded : joined = !bs.isEmpty) : Stands v s joined none
  | joined (fresh : s.fresh = false) (rest : s.rest = v) (ne : v ≠ []) : Stands v s true none
  | within {q : Quote} (n : Nat) (fresh : s.fresh = false) (string : s.AtString q n)
      (rest : s.rest.drop n = v) : Stands v s false (some q)

theorem Stands.mark {joined : Bool} {q : Quote} (h : Stands v s joined (some q)) :
    q.mark = '\'' ∨ q.mark = '"' := by
  cases h with
  | within n fresh string rest => exact string.mark

/-- A row holds a comment at most. -/
def Quiet (t : Text) : Prop :=
  t.dropWhile isBlank = [] ∨ ∃ w, t.dropWhile isBlank = ('#' : CodePoint) :: w

/-- A row holds nothing but a backslash. -/
def Joint (t : Text) : Prop := t.dropWhile isBlank = [('\\' : CodePoint)]

instance (t : Text) : Decidable (Joint t) := inferInstanceAs (Decidable (_ = _))

/-- The scan stands before a statement. -/
def Idle (s : Scan) : Prop := s.fresh = true ∧ s.brackets = []

end Stencil.Script.Terminals.Scan

namespace Stencil.Script

/-- The row after this one is joined to it. -/
def Survey.Ending.joins : Survey.Ending → Bool
  | .joined => true
  | .plain | .within _ => false

/-- The quote of the string that the row ends in. -/
def Survey.Ending.quote? : Survey.Ending → Option Quote
  | .within q => some q
  | .plain | .joined => none

/-- What has been seen of a script: the column of the last statement, whether the last sign is a
colon, and whether a statement is to begin. -/
structure Outlook where
  column : Option Nat
  colon : Bool
  fresh : Bool

namespace Outlook

/-- Before the first row. -/
def initial : Outlook := ⟨none, false, true⟩

/-- The column of the last statement if it ends in a colon. -/
def header? (o : Outlook) : Option Nat := if o.colon then o.column else none

/-- A sign comes at a column. -/
def sign (column : Nat) (colon : Bool) (o : Outlook) : Outlook :=
  ⟨if o.fresh then some column else o.column, colon, false⟩

/-- A statement ends, if it does. -/
def ended (o : Outlook) (ends : Prop) [Decidable ends] : Outlook :=
  if ends then { o with fresh := true } else o

/-- A terminal comes. -/
def terminal (o : Outlook) (t : Terminal) : Outlook :=
  if t.kind = .newline then { o with fresh := true }
  else if t.isVisible then o.sign t.span.column (t.isOp ":")
  else o

/-- A row comes whose first sign stands at a column, up to the string that it ends in. -/
def row (column : Nat) (s : Survey) (o : Outlook) : Outlook :=
  match s.ending, s.last with
  | .within _, _ => o.sign column false
  | _, none => o
  | _, some c => o.sign column (c == (':' : CodePoint))

@[simp]
theorem sign_sign (m n : Nat) (b c : Bool) (o : Outlook) :
    (o.sign m b).sign n c = o.sign m c := by
  simp [sign]

/-- Where no statement is to begin the column does not matter. -/
theorem sign_congr {m n : Nat} {o : Outlook} (h : o.fresh = true → m = n) (b : Bool) :
    o.sign m b = o.sign n b := by
  unfold sign
  split
  · rename_i ho
    rw [h ho]
  · rfl

end Outlook

namespace Terminals.Scan

variable {c : CodePoint} {t u v blanks : Text} {s s' : Scan} {ts : List Terminal} {sv : Survey}
  {bs : List Text} {n : Nat}

/-- The outlook behind the string that the scan stands at. -/
def ahead (s : Scan) (within : Option Quote) (o : Outlook) : Outlook :=
  if within.isSome then o.sign s.column false else o

theorem foldl_terminal (h : ∀ t ∈ ts, t.isVisible = true) (o : Outlook) :
    ts.foldl Outlook.terminal o = match ts.head?, ts.getLast? with
      | some first, some last => o.sign first.span.column (last.isOp ":")
      | _, _ => o := by
  induction ts generalizing o with
  | nil => rfl
  | cons t ts ih =>
    obtain ⟨ht, h⟩ := List.forall_mem_cons.1 h
    have hn : t.kind ≠ .newline := fun hk => by simp [Terminal.isVisible, hk] at ht
    rw [List.foldl_cons, ih h, Outlook.terminal, if_neg hn, if_pos ht]
    cases ts with
    | nil => rfl
    | cons u ts =>
      have last : (u :: ts).getLast? = some ((u :: ts).getLast (by simp)) :=
        List.getLast?_eq_some_getLast _
      simp only [List.head?_cons, List.getLast?_cons_cons, last, Outlook.sign_sign]

theorem foldl_layout (h : ∀ t ∈ ts, t.kind = .indent ∨ t.kind = .dedent) (o : Outlook) :
    ts.foldl Outlook.terminal o = o := by
  induction ts with
  | nil => rfl
  | cons t ts ih =>
    obtain ⟨ht, h⟩ := List.forall_mem_cons.1 h
    have quiet : o.terminal t = o := by
      rcases ht with ht | ht <;> simp [Outlook.terminal, Terminal.isVisible, ht]
    rw [List.foldl_cons, quiet, ih h]

/-- Where a terminal may begin, the first terminal is found. -/
theorem Leads.first (h : Leads s ts s') (hf : s.fresh = false) (hr : s.rest = c :: u)
    (hc : Begins c) :
    ts = [] ∧ s' = s ∨
      ∃ t us, ts = t :: us ∧ t.span.column = s.column ∧ t.text.head? = some c := by
  cases h with
  | refl => exact .inl ⟨rfl, rfl⟩
  | step first others =>
    rw [step_begins hf hr hc] at first
    split at first
    · simp at first
    · rename_i kind n found
      split at first
      · simp at first
      · obtain ⟨rfl, -⟩ := Prod.mk.inj (Except.ok.inj first)
        obtain ⟨k, rfl⟩ : ∃ k, n = k + 1 := ⟨n - 1, by have := visible?_pos found; omega⟩
        exact .inr ⟨_, _, rfl, rfl, by rw [hr]; rfl⟩

/-- The outlook after the terminals of a row. -/
theorem Crosses.looks {x : Nat} {o : Outlook} (h : Crosses v s sv ts s')
    (hx : o.fresh = true → (ts = [] ∧ s'.column = x) ∨ ∃ t us, ts = t :: us ∧ t.span.column = x) :
    s'.ahead sv.ending.quote? (ts.foldl Outlook.terminal o) = o.row x sv := by
  rw [foldl_terminal h.visible]
  have last := h.last
  cases ts with
  | nil =>
    have column (ho : o.fresh = true) : s'.column = x := by
      rcases hx ho with ⟨-, hx⟩ | ⟨t, us, he, -⟩
      · exact hx
      · cases he
    cases he : sv.ending with
    | within q =>
      simp only [Outlook.row, he, ahead, Survey.Ending.quote?, Option.isSome_some, ↓reduceIte]
      exact Outlook.sign_congr column false
    | plain | joined =>
      rw [he] at last
      have none_ : sv.last = none := by simpa using (last (by simp)).symm
      simp [Outlook.row, he, none_, ahead, Survey.Ending.quote?]
  | cons t ts =>
    have column (ho : o.fresh = true) : t.span.column = x := by
      rcases hx ho with ⟨he, -⟩ | ⟨t', us, he, hx⟩
      · cases he
      · exact (List.cons.inj he).1 ▸ hx
    have final := List.getLast?_eq_some_getLast (List.cons_ne_nil t ts)
    simp only [List.head?_cons, final]
    cases he : sv.ending with
    | within q =>
      simp only [Outlook.row, he, ahead, Survey.Ending.quote?, Option.isSome_some, ↓reduceIte,
        Outlook.sign_sign]
      exact Outlook.sign_congr column false
    | plain | joined =>
      rw [he, final, Option.map_some] at last
      obtain ⟨d, hd, hlast⟩ := Option.map_eq_some_iff.1 (last (by simp)).symm
      simp only [Outlook.row, he, hd, ahead, Survey.Ending.quote?, Option.isSome_none, hlast,
        Bool.false_eq_true, ↓reduceIte]
      exact Outlook.sign_congr column _

/-! ## Rows -/

/-- The terminals of a row: layout before a statement, signs, and the end of a statement. Only a row that
begins a statement has layout, and then the first sign stands behind the blanks; a row that begins
inside a string has the string first. -/
inductive Strip (idle : Prop) (within : Option Quote) (row : Text) : List Terminal → Prop where
  | mk (ls vs es : List Terminal) (layout : ∀ t ∈ ls, t.kind = .indent ∨ t.kind = .dedent)
      (visible : ∀ t ∈ vs, t.isVisible = true)
      (ended : es = [] ∨ ∃ t, es = [t] ∧ t.kind = .newline) (busy : ¬idle → ls = [])
      (begins : idle → ∀ t ∈ vs.head?, t.text.head? = (row.dropWhile isBlank).head?)
      (string : within.isSome = true → ∀ t ∈ vs.head?, t.kind = .string) :
      Strip idle within row (ls ++ (vs ++ es))

theorem strip_nil (idle : Prop) (within : Option Quote) (row : Text) : Strip idle within row [] :=
  .mk [] [] [] nofun nofun (.inl rfl) (fun _ => rfl) (fun _ => nofun)
    fun _ => nofun

/-- A row is passed: after the string that is open at its beginning it has a survey, which tells where
the scan stands then. -/
structure Passes (t v : Text) (s : Scan) (joined : Bool) (within : Option Quote) (m : Nat)
    (sv : Survey) (ts : List Terminal) (s' : Scan) : Prop where
  leads : Leads s ts s'
  string : ∀ q, within = some q → q.closing? t = some m
  outside : within = none → m = 0
  survey : survey 0 (t.drop m) = some sv
  depth : (s'.brackets.length : Int) = s.brackets.length + sv.depth
  stands : Stands v s' sv.ending.joins sv.ending.quote?
  looks : ∀ o : Outlook, (s.Idle → o.fresh = true) → (¬s.Idle → within = none → o.fresh = false) →
    s'.ahead sv.ending.quote? (ts.foldl Outlook.terminal o) =
      ((s.ahead within o).row (t.takeWhile isBlank).length sv).ended
        (sv.ending = .plain ∧ s'.brackets = [])
  /-- Only a line that begins changes the indentations. -/
  kept : ¬s.Idle ∨ Quiet t ∨ Joint t → s'.indents = s.indents
  moved : s.Idle → joined = false → ¬Quiet t → ¬Joint t → ∃ (ls : List Terminal) (s₁ s₂ : Scan),
    s₁.indents = s.indents ∧
    s₁.indent ((t.takeWhile isBlank).foldl Margin.blank ⟨0, 0, 0⟩) = .ok (ls, s₂) ∧
    s'.indents = s₂.indents
  idle : s'.Idle → sv.ending = .plain ∨ s.Idle ∧ Joint t
  /-- A statement is still to begin behind a row that holds nothing but a backslash. -/
  padded : s.Idle → Joint t → s'.Idle
  strip : Strip s.Idle within t ts

/-- The end of a row that has been crossed. -/
theorem Crosses.rowEnd_stands (h : Crosses v s sv ts s') :
    ∃ us s₁, Leads s (ts ++ us) s₁ ∧ (us = [] ∨ ∃ t, us = [t] ∧ t.kind = .newline) ∧
      s₁.brackets = s'.brackets ∧ s₁.indents = s'.indents ∧
      Stands v s₁ sv.ending.joins sv.ending.quote? ∧ (s₁.fresh = true → sv.ending = .plain) ∧
      ∀ o, s₁.ahead sv.ending.quote? ((ts ++ us).foldl Outlook.terminal o) =
        (s'.ahead sv.ending.quote? (ts.foldl Outlook.terminal o)).ended
          (sv.ending = .plain ∧ s₁.brackets = []) := by
  have halts := h.halts
  cases he : sv.ending with
  | joined =>
    rw [he] at halts
    refine ⟨[], s', by simpa using h.leads, .inl rfl, rfl, rfl, .joined h.fresh halts.1 halts.2.2,
      fun hf => by simp [h.fresh] at hf, fun o => ?_⟩
    simp [Outlook.ended]
  | within q =>
    rw [he] at halts
    obtain ⟨u, hr, -, -, string⟩ := halts
    refine ⟨[], s', by simpa using h.leads, .inl rfl, rfl, rfl, .within _ h.fresh string ?_,
      fun hf => by simp [h.fresh] at hf, fun o => ?_⟩
    · rw [hr]
      simp [List.drop_append]
    · simp [Outlook.ended]
  | plain =>
    rw [he] at halts
    have first := step_lineFeed h.fresh halts.1
    have ended : (if s'.brackets.isEmpty then [s'.empty .newline] else []) = [] ∨
        ∃ t, (if s'.brackets.isEmpty then [s'.empty .newline] else []) = [t] ∧
          t.kind = .newline := by
      split
      · exact .inr ⟨_, rfl, rfl⟩
      · exact .inl rfl
    refine ⟨_, _, h.leads.trans (leads_of_ok first), ended, rfl, rfl,
      .fresh [] (by simp) rfl rfl rfl (by simp) rfl, fun _ => rfl, fun o => ?_⟩
    simp only [ahead, Survey.Ending.quote?, Option.isSome_none, Bool.false_eq_true, ↓reduceIte,
      true_and, nextRow, List.foldl_append]
    by_cases hb : s'.brackets = []
    · simp [hb, Outlook.ended, Outlook.terminal, empty, terminal]
    · simp [hb, Outlook.ended]

/-- A row that goes on with the line before it. -/
theorem passes_on (fresh : s.fresh = false) (rest : s.rest = t ++ 10 :: v)
    (ht : (10 : CodePoint) ∉ t) (hall : s.all.ending = .complete) :
    ∃ sv ts s', Passes t v s true none 0 sv ts s' := by
  obtain ⟨sv, ts, s₁, hsv, crosses⟩ := crosses_row fresh rest ht hall
  obtain ⟨us, s', leads, last, brackets, indents, stands, ended, looks⟩ := crosses.rowEnd_stands
  have busy : ¬s.Idle := fun h => by simp [h.1] at fresh
  refine ⟨sv, ts ++ us, s', leads, nofun, fun _ => rfl, hsv, by rw [brackets, crosses.depth],
    stands, fun o _ ho => ?_, fun _ => indents.trans crosses.indents, fun h => absurd h busy,
    fun h => .inl (ended h.1), fun h => absurd h busy,
    .mk [] ts us nofun crosses.visible last (fun _ => rfl) (fun h => absurd h busy) nofun⟩
  rw [looks, crosses.looks fun h => by simp [ho busy rfl] at h]
  rfl

theorem survey_blanks_row (t : Text) : survey 0 t = survey 0 (t.dropWhile isBlank) := by
  rw [survey_dropWhile, isGap_eq]

/-- A row that holds a comment at most. -/
theorem passes_quiet {joined : Bool} (quiet : Quiet t) (fresh : s.fresh = true)
    (step : s.step = .ok ([], s')) (fresh' : s'.fresh = true) (rest' : s'.rest = v)
    (column' : s'.column = 0) (brackets : s'.brackets = s.brackets)
    (indents : s'.indents = s.indents) : Passes t v s joined none 0 (.only .plain) [] s' := by
  have hsv : survey 0 t = some (.only .plain) := by
    rw [survey_blanks_row]
    rcases quiet with hu | ⟨w, hu⟩ <;> rw [hu] <;> rfl
  refine ⟨leads_of_ok step, nofun, fun _ => rfl, hsv,
    by rw [brackets]; exact (Int.add_zero _).symm,
    .fresh [] (by simp) fresh' column' rest' (by simp) rfl, fun o ho _ => ?_, fun _ => indents,
    fun _ _ hq => absurd quiet hq, fun _ => .inl rfl, fun hi _ => ⟨fresh', brackets.trans hi.2⟩,
    strip_nil _ _ _⟩
  have same : o.ended (Survey.Ending.plain = .plain ∧ s'.brackets = []) = o := by
    unfold Outlook.ended
    split
    · rename_i hb
      have hf := ho ⟨fresh, brackets ▸ hb.2⟩
      cases o
      simp_all
    · rfl
  exact same.symm

/-- A row that holds nothing but a backslash. The step of the scan does not come to its end there. -/
theorem passes_joint {joined : Bool} (joint : Joint t) (fresh : s.fresh = true)
    (column : s.column = 0) (blank : ∀ b ∈ bs, ∀ c ∈ b, isBlank c = true)
    (rest : s.rest = padding bs ++ (t ++ 10 :: v)) (ne : v ≠ []) :
    Passes t v s joined none 0 (.only .joined) [] s := by
  have hsv : survey 0 t = some (.only .joined) := by
    rw [survey_blanks_row, show t.dropWhile isBlank = _ from joint]
    rfl
  refine ⟨.refl s, nofun, fun _ => rfl, hsv, (Int.add_zero _).symm, ?_, fun o _ _ => ?_,
    fun _ => rfl, fun _ _ _ hj => absurd joint hj, fun h => .inr ⟨h, joint⟩, fun h _ => h,
    strip_nil _ _ _⟩
  · refine .fresh (bs ++ [t.takeWhile isBlank]) (fun b hb => ?_) fresh column ?_ (fun _ => ne) ?_
    · rcases List.mem_append.1 hb with hb | hb
      · exact blank b hb
      · exact (List.mem_singleton.1 hb) ▸ fun c hc => mem_takeWhile hc
    · have whole : t.takeWhile isBlank ++ ([('\\' : CodePoint)] ++ 10 :: v) = t ++ 10 :: v := by
        rw [← show t.dropWhile isBlank = _ from joint, ← List.append_assoc,
          List.takeWhile_append_dropWhile]
      rw [rest, padding_concat, ← whole]
      simp
    · simp [Survey.only, Survey.Ending.joins]
  · simp [Outlook.ended, Outlook.row, Survey.only, ahead, Survey.Ending.quote?]

/-- A row on which a line begins, or goes on within brackets. -/
theorem passes_line {joined : Bool} {w : Text} {ls : List Terminal} {s₁ : Scan}
    (hu : t.dropWhile isBlank = c :: w) (ht : (10 : CodePoint) ∉ t)
    (hall : s.all.ending = .complete) (fresh : s.fresh = true) (begins : Begins c)
    (step : s.step = .ok (ls, s₁)) (fresh' : s₁.fresh = false) (rest' : s₁.rest = c :: w ++ 10 :: v)
    (column' : s₁.column = (t.takeWhile isBlank).length) (brackets : s₁.brackets = s.brackets)
    (inside : s.brackets ≠ [] → ls = [] ∧ s₁.indents = s.indents)
    (outside : s.brackets = [] → ∃ m,
      (joined = false → m = (t.takeWhile isBlank).foldl Margin.blank ⟨0, 0, 0⟩) ∧
        { s₁ with indents := s.indents }.indent m = .ok (ls, s₁)) :
    ∃ sv ts s', Passes t v s joined none 0 sv ts s' := by
  have ht' : (10 : CodePoint) ∉ c :: w := fun hm =>
    ht ((List.dropWhile_suffix _).subset (hu.symm ▸ hm))
  have hall' : s₁.all.ending = .complete := (ending_of_leads (leads_of_ok step)).trans hall
  obtain ⟨sv, ts, s₂, hsv, crosses⟩ := crosses_row fresh' rest' ht' hall'
  obtain ⟨us, s', leads, last, brackets', indents', stands, ended, looks⟩ := crosses.rowEnd_stands
  have layout : ∀ t ∈ ls, t.kind = .indent ∨ t.kind = .dedent := by
    by_cases hb : s.brackets = []
    · obtain ⟨m, -, hm⟩ := outside hb
      exact indent_kinds hm
    · simp [(inside hb).1]
  have plain : ¬(c = ('#' : CodePoint) ∨ c = ('\\' : CodePoint)) :=
    not_or.2 ⟨begins.2.1, begins.2.2.2⟩
  have busy : ¬Quiet t := by
    rintro (he | ⟨w', he⟩)
    · exact List.cons_ne_nil _ _ (hu.symm.trans he)
    · exact plain (.inl (List.cons.inj (hu.symm.trans he)).1)
  have unjoint : ¬Joint t := fun joint =>
    absurd (.inr (List.cons.inj (hu.symm.trans joint)).1) plain
  have found := crosses.leads.first fresh' rest' begins
  have signs : ∀ x ∈ ts.head?, x.text.head? = (t.dropWhile isBlank).head? := by
    rcases found with ⟨rfl, -⟩ | ⟨x, us, rfl, -, text⟩
    · nofun
    · intro y hy
      rw [← Option.some.inj hy, text, hu]
      rfl
  refine ⟨sv, ls ++ (ts ++ us), s', (leads_of_ok step).trans leads, nofun, fun _ => rfl,
    (survey_blanks_row t).trans (hu ▸ hsv), by rw [brackets', crosses.depth, brackets], stands,
    fun o _ _ => ?_, ?_, ?_, fun h => .inl (ended h.1), fun _ joint => absurd joint unjoint,
    .mk ls ts us layout crosses.visible last (fun hn => (inside fun hb => hn ⟨fresh, hb⟩).1)
      (fun _ => signs) nofun⟩
  · have place : ts = [] ∧ s₂.column = s₁.column ∨
        ∃ t us, ts = t :: us ∧ t.span.column = s₁.column := by
      rcases found with ⟨hts, hs⟩ | ⟨t, us, hts, column, -⟩
      · exact .inl ⟨hts, by rw [hs]⟩
      · exact .inr ⟨t, us, hts, column⟩
    rw [List.foldl_append, foldl_layout layout, looks, crosses.looks fun _ => place, column']
    rfl
  · rintro (idle | quiet | joint)
    · have hb : s.brackets ≠ [] := fun hb => idle ⟨fresh, hb⟩
      rw [indents', crosses.indents, (inside hb).2]
    · exact absurd quiet busy
    · exact absurd joint unjoint
  · rintro ⟨-, hb⟩ alone - -
    obtain ⟨m, hm, hi⟩ := outside hb
    rw [hm alone] at hi
    exact ⟨ls, { s₁ with indents := s.indents }, s₁, rfl, hi, indents'.trans crosses.indents⟩

/-- A row that begins outside of strings. -/
theorem Stands.passes_outside {joined : Bool} (h : Stands (t ++ 10 :: v) s joined none)
    (ht : (10 : CodePoint) ∉ t) (hall : s.all.ending = .complete) :
    ∃ sv ts s', Passes t v s joined none 0 sv ts s' := by
  cases h with
  | joined fresh rest ne => exact passes_on fresh rest ht hall
  | fresh bs blank fresh column rest ne padded =>
    have ht' : (10 : CodePoint) ∉ t.dropWhile isBlank := fun hm =>
      ht ((List.dropWhile_suffix _).subset hm)
    have first : ∀ c ∈ (t.dropWhile isBlank).head?, isBlank c = false := by
      intro c hc
      have head := List.head?_dropWhile_not isBlank t
      rw [hc] at head
      simpa using head
    have begun := starts (u := t.dropWhile isBlank) (v := v) fresh blank
      (fun b hb => mem_takeWhile hb) column
      (by rw [rest, ← List.append_assoc (t.takeWhile isBlank), List.takeWhile_append_dropWhile])
      ht' first hall
    generalize hu : t.dropWhile isBlank = u at begun
    cases begun with
    | quiet s' nothing step fresh' rest' column' brackets indents =>
      have quiet : Quiet t := by rwa [Quiet, hu]
      exact ⟨_, _, s', passes_quiet quiet fresh step fresh' rest' column' brackets indents⟩
    | joint ne' => exact ⟨_, _, s, passes_joint hu fresh column blank rest ne'⟩
    | line s₁ begins step fresh' rest' column' brackets inside outside =>
      refine passes_line hu ht hall fresh begins step fresh' rest' column' brackets inside fun hb => ?_
      obtain ⟨m, hm, hi⟩ := outside hb
      exact ⟨m, fun alone => hm (by simpa [alone] using padded), hi⟩

/-- A row that begins inside a string. -/
theorem Stands.passes_inside {q : Quote} (h : Stands (t ++ 10 :: v) s false (some q))
    (ht : (10 : CodePoint) ∉ t) (hall : s.all.ending = .complete) :
    (q.closing? t = none ∧ (q.triple = true ∨ endsInBackslash t = true) ∧ Stands v s false (some q)) ∨
      ∃ m sv ts s', Passes t v s false (some q) m sv ts s' := by
  obtain ⟨n, fresh, string, rest⟩ :
      ∃ n, s.fresh = false ∧ s.AtString q n ∧ s.rest.drop n = t ++ 10 :: v := by
    cases h with
    | within n fresh string rest => exact ⟨n, fresh, string, rest⟩
  obtain ⟨c, u, hr, hc⟩ := string.begins
  have found := string.found
  rw [rest, stringEnd?_over string.mark ht] at found
  have step := step_begins fresh hr hc
  have busy : ¬s.Idle := fun h => by simp [h.1] at fresh
  cases hcl : q.closing? t with
  | none =>
    simp only [hcl] at found
    have opens : q.triple = true ∨ endsInBackslash t = true := by
      refine Decidable.byContradiction fun hn => ?_
      rw [if_neg hn] at found
      rw [found] at step
      rw [all_of_error step] at hall
      exact stop_ne_complete.2.1 hall
    have behind : s.rest.drop (n + t.length + 1) = v := by
      rw [Nat.add_assoc, ← List.drop_drop, rest]
      simp [List.drop_append]
    rw [if_pos opens] at found
    refine .inl ⟨rfl, opens, .within _ fresh ⟨string.mark, string.begins, ?_⟩ behind⟩
    rw [behind, found]
  | some m =>
    simp only [hcl, Option.map_some] at found
    rw [found] at step
    simp only [bracketsBeyond, if_neg (show ¬Kind.string = Kind.op by decide)] at step
    have rest' : (s.after (n + m)).rest = t.drop m ++ 10 :: v := by
      have inside : m ≤ t.length := (closing?_le hcl).2
      simp only [after]
      rw [← List.drop_drop, rest, drop_row inside]
    obtain ⟨sv, ts, s₂, hsv, crosses⟩ := crosses_row (s := s.after (n + m)) rfl rest'
      (fun hm => ht (List.mem_of_mem_drop hm)) ((ending_of_leads (leads_of_ok step)).trans hall)
    obtain ⟨us, s', leads, last, brackets, indents, stands, ended, looks⟩ := crosses.rowEnd_stands
    refine .inr ⟨m, sv, _, s', (leads_of_ok step).trans leads, fun q hq => Option.some.inj hq ▸ hcl,
      fun hn => absurd hn (Option.some_ne_none q), hsv, ?_, stands, fun o _ _ => ?_, fun _ => ?_,
      fun h => absurd h busy, fun h => .inl (ended h.1), fun h => absurd h busy,
      .mk [] (_ :: ts) us (List.forall_mem_nil _)
        (List.forall_mem_cons.2 ⟨rfl, crosses.visible⟩) last (fun _ => rfl) (fun h => absurd h busy)
        fun _ t ht => by rw [← Option.some.inj ht]; rfl⟩
    · rw [brackets, crosses.depth]
      rfl
    · have sign : Outlook.terminal o (s.terminal { s.after (n + m) with brackets := s.brackets } .string
          (s.rest.take (n + m))) = o.sign s.column false := rfl
      rw [List.foldl_append, looks, List.foldl_cons, List.foldl_nil, sign,
        crosses.looks (x := (t.takeWhile isBlank).length) fun h => by simp [Outlook.sign] at h]
      rfl
    · rw [indents, crosses.indents]
      rfl

end Terminals.Scan

end Stencil.Script
