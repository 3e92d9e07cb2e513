import Stencil.Proofs.Script.Scan

/-!
# A row inside a script

A row that is a script of its own holds the same terminals wherever it stands: only their rows and
columns move with it. Inside blocks it stands behind an indentation, which brings the beginning or
the end of blocks.

## Main definitions

* `Terminal.moved` — a terminal in another place.
* `Scan.atRow` — a scan at the beginning of a row.
* `levels` — the indentations of blocks inside each other, by four columns each.
* `Shift` — the terminals that the indentation of a row brings.

## Main results

* `Scan.leads_row` — a row without blanks before it, in any place.
* `Scan.leads_indent` — the indentation of a row.
* `Scan.all_end` — the end of a script.
-/

namespace Stencil.Script

/-- An extent with its rows and columns moved. -/
def Span.moved (rows columns : Nat) (s : Span) : Span :=
  ⟨s.row + rows, s.column + columns, s.endRow + rows, s.endColumn + columns⟩

/-- A terminal in another place. -/
def Terminal.moved (rows columns : Nat) (t : Terminal) : Terminal :=
  { t with span := t.span.moved rows columns }

/-- The terminal is no change of layout. -/
def Terminal.isVisible (t : Terminal) : Bool :=
  match t.kind with
  | .name | .number | .string | .op => true
  | _ => false

namespace Terminals

theorem visible?_kind {t : Text} {kind : Kind} {n : Nat} (h : visible? t = some (kind, n))
    (text : Text) (span : Span) (depth : Nat) :
    (⟨kind, text, span, depth⟩ : Terminal).isVisible = true := by
  unfold visible? at h
  split at h
  · obtain ⟨m, -, h⟩ := Option.map_eq_some_iff.1 h
    obtain ⟨rfl, -⟩ := Prod.mk.inj h
    rfl
  · split at h
    · simp at h
    · split at h
      · obtain ⟨m, -, h⟩ := Option.map_eq_some_iff.1 h
        obtain ⟨rfl, -⟩ := Prod.mk.inj h
        rfl
      · split at h
        · obtain ⟨m, -, h⟩ := Option.map_eq_some_iff.1 h
          obtain ⟨rfl, -⟩ := Prod.mk.inj h
          rfl
        · split at h
          · obtain ⟨m, -, h⟩ := Option.map_eq_some_iff.1 h
            obtain ⟨rfl, -⟩ := Prod.mk.inj h
            rfl
          · split at h
            · obtain ⟨rfl, -⟩ := Prod.mk.inj (Option.some.inj h)
              rfl
            · simp at h

namespace Scan

variable {u v : Text} {c : CodePoint} {column rows columns : Nat}
  {brackets : List (CodePoint × Nat)} {indents : List (Nat × Nat)} {ts : List Terminal}

/-- A scan at the beginning of a row. -/
def atRow (rest : Text) (row : Nat) (indents : List (Nat × Nat)) : Scan :=
  ⟨rest, row, 0, true, [], indents⟩

/-- The scan at the beginning of the next row, after a row and its line feed. -/
def afterRow (rest : Text) (row : Nat) (indents : List (Nat × Nat)) : Scan :=
  atRow rest (if rest.isEmpty then row else row + 1) indents

/-- A scan inside a row that is a script of its own. -/
def inRow (u : Text) (column : Nat) (brackets : List (CodePoint × Nat)) : Scan :=
  ⟨u ++ [10], 1, column, false, brackets, []⟩

/-- A scan at the same place of the row inside another script. -/
def placed (v : Text) (rows columns : Nat) (indents : List (Nat × Nat)) (u : Text) (column : Nat)
    (brackets : List (CodePoint × Nat)) : Scan :=
  ⟨u ++ 10 :: v, 1 + rows, column + columns, false, brackets.map fun (c, n) => (c, n + rows),
    indents⟩

/-- The end of a row that is a script of its own. -/
def rowEnd (column : Nat) : List Terminal :=
  [⟨.newline, [], ⟨1, column, 1, column⟩, 0⟩, ⟨.endMarker, [], ⟨1, 0, 1, 0⟩, 0⟩]

theorem stop_ne_complete {s : Scan} : s.stuck ≠ .complete ∧ s.broken ≠ .complete ∧
    s.cut ≠ .complete := by
  refine ⟨?_, ?_, ?_⟩ <;> intro h <;> simp [stuck, broken, cut] at h

theorem bracketsAfter_placed (text : Text) (row rows : Nat)
    (brackets : List (CodePoint × Nat)) :
    bracketsAfter text (row + rows) (brackets.map fun (c, n) => (c, n + rows)) =
      (bracketsAfter text row brackets).map (List.map fun (c, n) => (c, n + rows)) := by
  unfold bracketsAfter
  simp only [List.length_map]
  split
  · split <;> rfl
  · split
    · cases brackets with
      | nil => rfl
      | cons b outer =>
        obtain ⟨d, n⟩ := b
        simp only [List.map_cons]
        split <;> rfl
    · rfl

theorem rows_of_notMem {t : Text} (ht : (10 : CodePoint) ∉ t) : Text.rows t = [t] := by
  unfold Text.rows
  induction t with
  | nil => rfl
  | cons c t ih =>
    simp only [List.mem_cons, not_or] at ht
    have hc : c ≠ ('\n' : CodePoint) := Ne.symm ht.1
    rw [Text.splitOn, if_neg hc, ih ht.2]

theorem lineFeeds_of_notMem {t : Text} (ht : (10 : CodePoint) ∉ t) : t.lineFeeds = 0 :=
  List.count_eq_zero.2 ht

/-- A step over code points of a row leads to a later place of the row. -/
theorem after_row {s : Scan} {n : Nat} (hr : s.rest = u ++ 10 :: v) (hu : (10 : CodePoint) ∉ u)
    (hn : n ≤ u.length) :
    s.after n = { s with
      rest := u.drop n ++ 10 :: v
      column := s.column + Text.octetCount (u.take n)
      fresh := false } := by
  have ht : (10 : CodePoint) ∉ u.take n := fun h => hu (List.mem_of_mem_take h)
  simp only [Scan.after, hr, take_row hn, drop_row hn, lineFeeds_of_notMem ht, rows_of_notMem ht]
  rfl

/-- A terminal may begin with the code point. -/
def Begins (c : CodePoint) : Prop :=
  isBlank c = false ∧ c ≠ ('#' : CodePoint) ∧ c ≠ ('\n' : CodePoint) ∧ c ≠ ('\\' : CodePoint)

instance (c : CodePoint) : Decidable (Begins c) :=
  inferInstanceAs (Decidable (_ ∧ _ ∧ _ ∧ _))

/-- Blanks that the indentation of a row begins anew after, or none. -/
structure Anew (blanks : Text) : Prop where
  blank : ∀ b ∈ blanks, isBlank b = true
  feed : blanks = [] ∨ blanks.getLast? = some 12

/-- A row begins with a terminal behind blanks that do not indent it. -/
structure BeginsRow (blanks row : Text) : Prop where
  anew : Anew blanks
  terminal : ∃ c u, row = blanks ++ c :: u ∧ Begins c

/-- The brackets after a terminal at a row; nothing if it closes what is not open. -/
def bracketsBeyond (kind : Kind) (text : Text) (row : Nat) (brackets : List (CodePoint × Nat)) :
    Option (List (CodePoint × Nat)) :=
  if kind = .op then bracketsAfter text row brackets else some brackets

theorem bracketsBeyond_placed (kind : Kind) (text : Text) (row rows : Nat)
    (brackets : List (CodePoint × Nat)) :
    bracketsBeyond kind text (row + rows) (brackets.map fun (c, n) => (c, n + rows)) =
      (bracketsBeyond kind text row brackets).map (List.map fun (c, n) => (c, n + rows)) := by
  unfold bracketsBeyond
  split
  · exact bracketsAfter_placed text row rows brackets
  · rfl

theorem step_blank {s : Scan} {rest : Text} (hf : s.fresh = false) (hr : s.rest = c :: rest)
    (hc : isBlank c = true) : s.step = .ok ([], s.pass [c] rest) := by
  simp only [step, hf, hr, hc, Bool.false_eq_true, ↓reduceIte]

theorem step_comment {s : Scan} {rest : Text} (hf : s.fresh = false)
    (hr : s.rest = ('#' : CodePoint) :: rest) :
    s.step = .ok ([], s.pass [] (fromRowEnd s.rest)) := by
  have hc : isBlank ('#' : CodePoint) = false := by decide
  simp only [step, hf, hr, hc, Bool.false_eq_true, ↓reduceIte]

theorem step_lineFeed {s : Scan} {rest : Text} (hf : s.fresh = false) (hr : s.rest = 10 :: rest) :
    s.step = .ok (if s.brackets.isEmpty then [s.empty .newline] else [],
      { (s.nextRow rest) with fresh := true }) := by
  simp only [step, hf, hr]
  rfl

/-- What a step does where a terminal may begin. -/
theorem step_begins {s : Scan} {rest : Text} (hf : s.fresh = false) (hr : s.rest = c :: rest)
    (hc : Begins c) :
    s.step = match visible? s.rest with
      | none => .error ([], s.broken)
      | some (kind, n) =>
        match bracketsBeyond kind (s.rest.take n) s.row s.brackets with
        | none => .error ([], s.broken)
        | some brackets =>
          .ok ([s.terminal { s.after n with brackets } kind (s.rest.take n)],
            { s.after n with brackets }) := by
  obtain ⟨hb, hh, hl, hj⟩ := hc
  cases hv : visible? (c :: rest) with
  | none =>
    simp only [step, hf, hr, hb, hh, hl, hj, hv, Bool.false_eq_true, ↓reduceIte]
  | some found =>
    obtain ⟨kind, n⟩ := found
    simp only [step, hf, hr, hb, hh, hl, hj, hv, bracketsBeyond, Bool.false_eq_true, ↓reduceIte] <;>
      rfl

/-- A step over a terminal that ends on its row. -/
theorem step_terminal {s : Scan} {kind : Kind} {n : Nat} {beyond : List (CodePoint × Nat)}
    (hf : s.fresh = false) (hr : s.rest = c :: u ++ 10 :: v) (hu : (10 : CodePoint) ∉ c :: u)
    (hc : Begins c) (hv : visible? s.rest = some (kind, n)) (hn : n ≤ (c :: u).length)
    (hk : bracketsBeyond kind ((c :: u).take n) s.row s.brackets = some beyond) :
    s.step = .ok
      ([⟨kind, (c :: u).take n,
          ⟨s.row, s.column, s.row, s.column + Text.octetCount ((c :: u).take n)⟩, beyond.length⟩],
        ⟨(c :: u).drop n ++ 10 :: v, s.row, s.column + Text.octetCount ((c :: u).take n), false,
          beyond, s.indents⟩) := by
  have taken : s.rest.take n = (c :: u).take n := by rw [hr, take_row hn]
  rw [step_begins hf hr hc, hv]
  simp only [taken, hk, after_row hr hu hn, terminal]

/-- A backslash joins a row to the next one; in a script of one row there is none. -/
theorem step_joint_error (hu : (10 : CodePoint) ∉ u) :
    ∃ e, (inRow (('\\' : CodePoint) :: u) column brackets).step = .error ([], e) ∧
      e ≠ .complete := by
  cases u with
  | nil => exact ⟨_, rfl, stop_ne_complete.2.2⟩
  | cons d u =>
    have hd : d ≠ ('\n' : CodePoint) := fun he => hu (by simp [he])
    refine ⟨(inRow (('\\' : CodePoint) :: d :: u) column brackets).stuck, ?_, stop_ne_complete.1⟩
    have hb : isBlank ('\\' : CodePoint) = false := by decide
    simp only [step, inRow, hb, hd, List.cons_append, Bool.false_eq_true, ↓reduceIte,
      ne_eq, not_false_eq_true]
    rfl

/-- A step inside a row that is a script of its own is a step of any script that holds the row. -/
theorem step_row (v : Text) (rows columns column : Nat) (brackets : List (CodePoint × Nat))
    (indents : List (Nat × Nat)) (hu : (10 : CodePoint) ∉ c :: u)
    (hc : c ≠ ('#' : CodePoint)) :
    (∃ e, (inRow (c :: u) column brackets).step = .error ([], e) ∧ e ≠ .complete) ∨
    ∃ us n column' brackets', 0 < n ∧ (∀ t ∈ us, t.isVisible = true) ∧
      (inRow (c :: u) column brackets).step =
        .ok (us, inRow ((c :: u).drop n) column' brackets') ∧
      (placed v rows columns indents (c :: u) column brackets).step =
        .ok (us.map (Terminal.moved rows columns),
          placed v rows columns indents ((c :: u).drop n) column' brackets') := by
  have hl : c ≠ ('\n' : CodePoint) := fun he => hu (by simp [he])
  by_cases hb : isBlank c = true
  · refine .inr ⟨[], 1, column + Text.octetCount [c], brackets, by omega, by simp, ?_, ?_⟩
    · rw [step_blank rfl rfl hb]
      rfl
    · rw [step_blank rfl rfl hb]
      simp only [pass, placed, Nat.add_right_comm, List.drop_one, List.tail_cons, List.map_nil,
        List.append_eq]
  by_cases hj : c = ('\\' : CodePoint)
  · subst hj
    exact .inl (step_joint_error fun h => hu (List.mem_cons_of_mem _ h))
  have begins : Begins c := ⟨by simpa using hb, hc, hl, hj⟩
  cases hv : visible? (inRow (c :: u) column brackets).rest with
  | none => exact .inl ⟨_, by rw [step_begins rfl rfl begins, hv], stop_ne_complete.2.1⟩
  | some found =>
    obtain ⟨kind, n⟩ := found
    obtain ⟨hv', hn⟩ := visible?_row (u := c :: u) (v := v) hv
    have taken : (inRow (c :: u) column brackets).rest.take n = (c :: u).take n := take_row hn
    cases hk : bracketsBeyond kind ((c :: u).take n) 1 brackets with
    | none =>
      refine .inl ⟨(inRow (c :: u) column brackets).broken, ?_, stop_ne_complete.2.1⟩
      rw [step_begins rfl rfl begins, hv]
      simp only [taken, show bracketsBeyond kind ((c :: u).take n)
        (inRow (c :: u) column brackets).row (inRow (c :: u) column brackets).brackets = none from hk]
    | some beyond =>
      refine .inr ⟨_, n, column + Text.octetCount ((c :: u).take n), beyond, visible?_pos hv, ?_,
        step_terminal rfl rfl hu begins hv hn hk, ?_⟩
      · simpa using visible?_kind hv _ _ _
      · have hk' := bracketsBeyond_placed kind ((c :: u).take n) 1 rows brackets
        rw [hk] at hk'
        rw [step_terminal (s := placed v rows columns indents (c :: u) column brackets) rfl rfl hu
          begins hv' hn hk']
        simp [placed, Terminal.moved, Span.moved, inRow, Nat.add_right_comm]

/-- The end of a row that is a script of its own: a script that is complete has no bracket open
there. -/
theorem all_rowEnd (h : (inRow [] column brackets).all = ⟨ts, .complete⟩) :
    brackets = [] ∧ ts = rowEnd column := by
  have ended : (inRow [] column brackets).step =
      .ok (if brackets.isEmpty then [(inRow [] column brackets).empty .newline] else [],
        ⟨[], 1, 0, true, brackets, []⟩) := step_lineFeed rfl rfl
  rw [all_of_ok ended] at h
  cases brackets with
  | nil =>
    have fresh : (⟨[], 1, 0, true, [], []⟩ : Scan).step = .ok ([], ⟨[], 1, 0, false, [], []⟩) := rfl
    have last : (⟨[], 1, 0, false, [], []⟩ : Scan).step =
      .error ([⟨.endMarker, [], ⟨1, 0, 1, 0⟩, 0⟩], .complete) := rfl
    rw [all_of_ok fresh, all_of_error last] at h
    exact ⟨rfl, (congrArg Terminals.list h).symm⟩
  | cons b outer =>
    have fresh : (⟨[], 1, 0, true, b :: outer, []⟩ : Scan).step =
      .ok ([], ⟨[], 1, 0, false, b :: outer, []⟩) := rfl
    have last : (⟨[], 1, 0, false, b :: outer, []⟩ : Scan).step =
      .error ([], (⟨[], 1, 0, false, b :: outer, []⟩ : Scan).cut) := rfl
    rw [all_of_ok fresh, all_of_error last] at h
    exact absurd (congrArg Terminals.ending h) stop_ne_complete.2.2

theorem leads_rowEnd :
    Leads (placed v rows columns indents [] column [])
      [(⟨.newline, [], ⟨1, column, 1, column⟩, 0⟩ : Terminal).moved rows columns]
      (afterRow v (1 + rows) indents) :=
  leads_of_ok (step_lineFeed rfl rfl)

/-- A row that is a script of its own holds the same terminals inside any other script. -/
theorem leads_row (v : Text) (rows columns : Nat) (indents : List (Nat × Nat))
    (hu : (10 : CodePoint) ∉ u) (h : (inRow u column brackets).all = ⟨ts, .complete⟩) :
    ∃ us j, ts = us ++ rowEnd j ∧ (∀ t ∈ us, t.isVisible = true) ∧
      Leads (placed v rows columns indents u column brackets)
        (us.map (Terminal.moved rows columns) ++
          [(⟨.newline, [], ⟨1, j, 1, j⟩, 0⟩ : Terminal).moved rows columns])
        (afterRow v (1 + rows) indents) := by
  induction hl : u.length using Nat.strongRecOn generalizing u column brackets ts with
  | ind l ih =>
    subst hl
    cases u with
    | nil =>
      obtain ⟨rfl, rfl⟩ := all_rowEnd h
      exact ⟨[], column, rfl, by simp, leads_rowEnd⟩
    | cons c u =>
      by_cases hc : c = ('#' : CodePoint)
      · -- a comment leaves nothing of its row
        subst hc
        have skip : (inRow (('#' : CodePoint) :: u) column brackets).step =
            .ok ([], inRow [] column brackets) := by
          rw [step_comment rfl rfl]
          simp only [inRow, fromRowEnd_row hu]
          rfl
        have skip' : (placed v rows columns indents (('#' : CodePoint) :: u) column brackets).step =
            .ok ([], placed v rows columns indents [] column brackets) := by
          rw [step_comment rfl rfl]
          simp only [placed, fromRowEnd_row hu]
          rfl
        rw [all_of_ok skip, preceded_nil] at h
        obtain ⟨us, j, he, hv, leads⟩ := ih 0 (by simp) (by simp) h rfl
        exact ⟨us, j, he, hv, (leads_of_ok skip').trans leads⟩
      · rcases step_row v rows columns column brackets indents hu hc with
          ⟨e, he, hne⟩ | ⟨us, n, column', brackets', hn, hus, first, first'⟩
        · rw [all_of_error he] at h
          exact absurd (congrArg Terminals.ending h) hne
        · rw [all_of_ok first] at h
          have hd : ((c :: u).drop n).length < (c :: u).length := by
            rw [List.length_drop, List.length_cons]
            omega
          have found : us ++ (inRow ((c :: u).drop n) column' brackets').all.list = ts :=
            congrArg Terminals.list h
          have ending : (inRow ((c :: u).drop n) column' brackets').all.ending = .complete :=
            congrArg Terminals.ending h
          have hrest : (inRow ((c :: u).drop n) column' brackets').all =
              ⟨(inRow ((c :: u).drop n) column' brackets').all.list, .complete⟩ := by
            rw [← ending]
          obtain ⟨us', j, he, hv, leads⟩ :=
            ih _ hd (fun hm => hu (List.mem_of_mem_drop hm)) hrest rfl
          refine ⟨us ++ us', j, ?_, ?_, ?_⟩
          · rw [← found, List.append_assoc, ← he]
          · intro t ht
            rcases List.mem_append.1 ht with ht | ht
            · exact hus t ht
            · exact hv t ht
          · rw [List.map_append, List.append_assoc]
            exact (leads_of_ok first').trans leads

/-! ## Indentation -/

/-- The indentations of `depth` blocks inside each other, innermost first. -/
def levels : (depth : Nat) → List (Nat × Nat)
  | 0 => []
  | depth + 1 => (4 * (depth + 1), 4 * (depth + 1)) :: levels depth

/-- The terminals that a row inside `inner` blocks brings after one inside `outer` blocks. -/
def shift (outer inner row : Nat) : List Terminal :=
  if outer < inner then [⟨.indent, [], ⟨row, 4 * inner, row, 4 * inner⟩, 0⟩]
  else List.replicate (outer - inner) ⟨.dedent, [], ⟨row, 4 * inner, row, 4 * inner⟩, 0⟩

theorem length_levels (depth : Nat) : (levels depth).length = depth := by
  induction depth with
  | zero => rfl
  | succ depth ih => rw [levels, List.length_cons, ih]

theorem headD_levels (depth : Nat) : (levels depth).headD (0, 0) = (4 * depth, 4 * depth) := by
  cases depth <;> rfl

theorem dedent?_levels {outer inner : Nat} (h : inner ≤ outer) :
    dedent? (4 * inner) (4 * inner) (levels outer) = some (outer - inner, levels inner) := by
  induction outer with
  | zero =>
    obtain rfl : inner = 0 := by omega
    rfl
  | succ outer ih =>
    rw [levels, dedent?]
    by_cases he : inner = outer + 1
    · subst he
      simp [levels]
    · rw [if_pos (by omega), ih (by omega), Option.map_some, Nat.succ_sub (by omega)]

theorem octetCount_blank {b : CodePoint} (h : isBlank b = true) : Text.octetCount [b] = 1 := by
  simp only [isBlank, Bool.or_eq_true, beq_iff_eq] at h
  rcases h with (rfl | rfl) | rfl <;> rfl

/-- The margin of a row is that of its blanks. -/
theorem margin_blanks {s : Scan} {blanks t : Text} (fuel : Nat) (m : Margin)
    (hb : isBlank c = false) (hj : c ≠ ('\\' : CodePoint))
    (hall : ∀ b ∈ blanks, isBlank b = true) (hr : s.rest = blanks ++ c :: t)
    (hn : blanks.length < fuel) :
    s.margin fuel m = .ok (blanks.foldl Margin.blank m,
      { s with rest := c :: t, column := s.column + blanks.length }) := by
  induction blanks generalizing s fuel m with
  | nil =>
    obtain ⟨fuel, rfl⟩ : ∃ k, fuel = k + 1 := ⟨fuel - 1, by omega⟩
    simp only [List.nil_append] at hr
    simp only [margin, hr, hb, hj, Bool.false_eq_true, ↓reduceIte]
    rw [← hr]
    rfl
  | cons b blanks ih =>
    obtain ⟨fuel, rfl⟩ : ∃ k, fuel = k + 1 := ⟨fuel - 1, by omega⟩
    obtain ⟨hblank, hall⟩ := List.forall_mem_cons.1 hall
    simp only [List.cons_append] at hr
    simp only [margin, hr, hblank, ↓reduceIte]
    rw [ih (s := s.pass [b] (blanks ++ c :: t)) fuel _ hall rfl (by simpa using hn)]
    simp only [pass, octetCount_blank hblank, List.foldl_cons, List.length_cons, Nat.add_assoc,
      Nat.add_comm 1]

theorem foldl_spaces (n : Nat) (m : Margin) :
    (List.replicate n (32 : CodePoint)).foldl Margin.blank m =
      { m with wide := m.wide + n, narrow := m.narrow + n } := by
  induction n generalizing m with
  | zero => rfl
  | succ n ih =>
    have hblank : m.blank 32 = { m with wide := m.wide + 1, narrow := m.narrow + 1 } := rfl
    rw [List.replicate_succ, List.foldl_cons, ih, hblank]
    simp only [Nat.add_assoc, Nat.add_comm 1 n]

theorem joined_foldl (blanks : Text) (m : Margin) :
    (blanks.foldl Margin.blank m).joined = m.joined := by
  induction blanks generalizing m with
  | nil => rfl
  | cons b blanks ih =>
    rw [List.foldl_cons, ih]
    unfold Margin.blank
    split
    · rfl
    · split <;> rfl

/-- After a form feed nothing is left of the margin. -/
theorem foldl_feed {blanks : Text} (h : blanks.getLast? = some 12) (m : Margin) :
    blanks.foldl Margin.blank m = ⟨0, 0, m.joined⟩ := by
  obtain ⟨before, rfl⟩ := List.getLast?_eq_some_iff.1 h
  rw [List.foldl_append, ← joined_foldl before m]
  rfl

/-- What a margin brings that is as wide as that of some blocks. -/
theorem indent_levels {s : Scan} {outer inner : Nat} (hs : s.indents = levels outer)
    (hb : s.brackets = []) (hd : inner ≤ outer + 1) (hmax : inner < maxIndents)
    (hcolumn : s.column = 4 * inner) :
    s.indent ⟨4 * inner, 4 * inner, 0⟩ =
      .ok (shift outer inner s.row, { s with indents := levels inner }) := by
  simp only [indent, Margin.measures, hs, headD_levels, length_levels, ↓reduceIte]
  by_cases ho : outer < inner
  · obtain rfl : inner = outer + 1 := by omega
    rw [if_pos (by omega), if_neg (by omega)]
    simp [shift, empty, terminal, hb, hcolumn, levels]
  · rw [if_neg (by omega), dedent?_levels (by omega)]
    simp [shift, empty, terminal, hb, hcolumn, ho]

/-- The first step at a row settles what its blanks bring. -/
theorem step_margin {t blanks : Text} {row : Nat} {indents indents' : List (Nat × Nat)}
    {ts : List Terminal} (hc : Begins c) (hall : ∀ b ∈ blanks, isBlank b = true)
    (hi : (⟨c :: t, row, blanks.length, false, [], indents⟩ : Scan).indent
      (blanks.foldl Margin.blank ⟨0, 0, 0⟩) =
        .ok (ts, ⟨c :: t, row, blanks.length, false, [], indents'⟩)) :
    (atRow (blanks ++ c :: t) row indents).step =
      .ok (ts, ⟨c :: t, row, blanks.length, false, [], indents'⟩) := by
  obtain ⟨hb, hh, hl, hj⟩ := hc
  have hm := margin_blanks (s := atRow (blanks ++ c :: t) row indents)
    (blanks ++ c :: t).length ⟨0, 0, 0⟩ hb hj hall rfl (by simp)
  have hbegin : (atRow (blanks ++ c :: t) row indents).begin =
      .ok (ts, ⟨c :: t, row, blanks.length, false, [], indents'⟩) := by
    unfold begin
    have hrest : (atRow (blanks ++ c :: t) row indents).rest = blanks ++ c :: t := rfl
    rw [hrest, hm]
    simp only [atRow, bind, Except.bind, hh, hl, or_self, ↓reduceIte, List.isEmpty_nil,
      Nat.zero_add]
    exact hi
  unfold step
  rw [hbegin]
  rfl

/-- A row is indented by the blocks that it stands in, one more at most than the row before. -/
theorem step_indent {t : Text} {outer inner : Nat} (row : Nat) (hc : Begins c)
    (hd : inner ≤ outer + 1) (hmax : inner < maxIndents) :
    (atRow (List.replicate (4 * inner) 32 ++ c :: t) row (levels outer)).step =
      .ok (shift outer inner row, ⟨c :: t, row, 4 * inner, false, [], levels inner⟩) := by
  have hi := indent_levels (s := ⟨c :: t, row, 4 * inner, false, [], levels outer⟩) rfl rfl hd hmax
    rfl
  have step := @step_margin c t (List.replicate (4 * inner) 32) row (levels outer) (levels inner)
    (shift outer inner row) hc (fun b hb => by rw [(List.mem_replicate.1 hb).2]; rfl)
  rw [foldl_spaces, List.length_replicate, Nat.zero_add] at step
  exact step hi

/-- A row whose last blank is a form feed stands outside all blocks. -/
theorem step_feed {t blanks : Text} (outer row : Nat) (hc : Begins c)
    (hall : ∀ b ∈ blanks, isBlank b = true) (hlast : blanks.getLast? = some 12) :
    (atRow (blanks ++ c :: t) row (levels outer)).step =
      .ok (List.replicate outer ⟨.dedent, [], ⟨row, blanks.length, row, blanks.length⟩, 0⟩,
        ⟨c :: t, row, blanks.length, false, [], levels 0⟩) := by
  refine step_margin hc hall ?_
  have zero : dedent? 0 0 (levels outer) = some (outer, levels 0) := dedent?_levels (Nat.zero_le outer)
  rw [foldl_feed hlast]
  simp only [indent, Margin.measures, headD_levels, Nat.not_lt_zero, zero, ↓reduceIte]
  rfl

/-- Outside all blocks any row that is indented begins a block. -/
theorem step_deeper {t : Text} {depth : Nat} (row : Nat) (hc : Begins c) (hd : 0 < depth) :
    (atRow (List.replicate (4 * depth) 32 ++ c :: t) row (levels 0)).step =
      .ok ([⟨.indent, [], ⟨row, 4 * depth, row, 4 * depth⟩, 0⟩],
        ⟨c :: t, row, 4 * depth, false, [], [(4 * depth, 4 * depth)]⟩) := by
  have step := @step_margin c t (List.replicate (4 * depth) 32) row (levels 0)
    [(4 * depth, 4 * depth)] [⟨.indent, [], ⟨row, 4 * depth, row, 4 * depth⟩, 0⟩] hc
    (fun b hb => by rw [(List.mem_replicate.1 hb).2]; rfl)
  rw [foldl_spaces, List.length_replicate, Nat.zero_add] at step
  refine step ?_
  have deeper : 0 < 4 * depth := by omega
  have shallow : ¬(maxIndents ≤ 1 ∨ 4 * depth ≤ 0) := by
    rintro (h | h)
    · exact absurd h (by decide)
    · omega
  simp only [indent, Margin.measures, levels, List.headD_nil, deeper, List.length_nil, Nat.zero_add,
    shallow, ↓reduceIte]
  rfl

/-- A row is indented by the blocks that it stands in; outside all blocks blanks may come before it
that do not indent it. -/
theorem step_begin {t blanks : Text} {outer inner : Nat} (row : Nat) (hc : Begins c)
    (hblanks : Anew blanks) (hf : blanks = [] ∨ inner = 0 ∧ outer = 0) (hd : inner ≤ outer + 1)
    (hmax : inner < maxIndents) :
    (atRow (List.replicate (4 * inner) 32 ++ (blanks ++ c :: t)) row (levels outer)).step =
      .ok (shift outer inner row,
        ⟨c :: t, row, blanks.length + 4 * inner, false, [], levels inner⟩) := by
  rcases hblanks.feed with rfl | hlast
  · simpa using step_indent (t := t) row hc hd hmax
  · rcases hf with rfl | ⟨rfl, rfl⟩
    · simp at hlast
    · simpa [shift] using step_feed (t := t) 0 row hc hblanks.blank hlast

/-- At the end of a script all blocks end. -/
theorem all_end (depth row : Nat) :
    (atRow [] row (levels depth)).all =
      ⟨List.replicate depth ⟨.dedent, [], ⟨row, 0, row, 0⟩, 0⟩ ++
        [⟨.endMarker, [], ⟨row, 0, row, 0⟩, 0⟩], .complete⟩ := by
  have hi := indent_levels (s := ⟨[], row, 0, false, [], levels depth⟩) rfl rfl
    (Nat.zero_le (depth + 1)) (by decide) rfl
  have hstep : (atRow [] row (levels depth)).step =
      .ok (shift depth 0 row, ⟨[], row, 0, false, [], levels 0⟩) := by
    unfold step
    have hbegin : (atRow [] row (levels depth)).begin =
      .ok (shift depth 0 row, ⟨[], row, 0, false, [], levels 0⟩) := hi
    rw [hbegin]
    rfl
  have hlast : (⟨[], row, 0, false, [], levels 0⟩ : Scan).step =
      .error ([⟨.endMarker, [], ⟨row, 0, row, 0⟩, 0⟩], .complete) := rfl
  rw [all_of_ok hstep, all_of_error hlast]
  simp [preceded, shift]

end Scan

/-- A row whose only line feed would be the last is unified already. -/
theorem unifyLineEnds_of_notMem {t : Text} (ht : (13 : CodePoint) ∉ t) : t.unifyLineEnds = t := by
  induction t with
  | nil => rfl
  | cons c t ih =>
    simp only [List.mem_cons, not_or] at ht
    have hc : c ≠ 13 := Ne.symm ht.1
    rw [Text.unifyLineEnds.eq_4 _ _ (by simp [hc]) (by simp [hc]), ih ht.2]

theorem lines_of_notMem {t : Text} (hl : t.getLast? ≠ some 10) (hr : (13 : CodePoint) ∉ t) :
    lines t = t ++ [10] := by
  have hlast : t.getLast? ≠ some ('\n' : CodePoint) := hl
  unfold lines
  rw [unifyLineEnds_of_notMem hr]
  exact if_neg hlast

theorem lines_of_getLast? {t : Text} (hl : t.getLast? = some 10) (hr : (13 : CodePoint) ∉ t) :
    lines t = t := by
  have hlast : t.getLast? = some ('\n' : CodePoint) := hl
  unfold lines
  rw [unifyLineEnds_of_notMem hr]
  exact if_pos hlast

/-- The terminals of a script that are no change of layout. -/
def visible (t : Terminals) : List Terminal := t.list.filter Terminal.isVisible

theorem visible_of_eq {t : Terminals} {us : List Terminal} {j : Nat}
    (h : t.list = us ++ Scan.rowEnd j) (hus : ∀ t ∈ us, t.isVisible = true) : t.visible = us := by
  rw [visible, h, List.filter_append, List.filter_eq_self.2 hus]
  simp [Scan.rowEnd, Terminal.isVisible]

/-- A row that is a script of its own is scanned from its first terminal on. -/
theorem ofText_row {blanks u : Text} {c : CodePoint} (hl : (10 : CodePoint) ∉ blanks ++ c :: u)
    (hr : (13 : CodePoint) ∉ blanks ++ c :: u) (hblanks : Scan.Anew blanks) (hc : Scan.Begins c) :
    ofText (blanks ++ c :: u) = (Scan.inRow (c :: u) blanks.length []).all := by
  have first := @Scan.step_begin c (u ++ [10]) blanks 0 0 1 hc hblanks (.inr ⟨rfl, rfl⟩)
    (by decide) (by decide)
  rw [ofText_eq, lines_of_notMem (fun h => hl (List.mem_of_getLast? h)) hr, List.append_assoc]
  exact Scan.all_of_ok first

/-- A row that is a complete script of its own brings the same terminals in any other script. -/
theorem leads_terminals {blanks u : Text} {c : CodePoint} (v : Text) (rows columns : Nat)
    (indents : List (Nat × Nat)) (hl : (10 : CodePoint) ∉ blanks ++ c :: u)
    (hr : (13 : CodePoint) ∉ blanks ++ c :: u) (hblanks : Scan.Anew blanks) (hc : Scan.Begins c)
    (h : (ofText (blanks ++ c :: u)).ending = .complete) :
    ∃ j, Scan.Leads
      ⟨c :: u ++ 10 :: v, 1 + rows, blanks.length + columns, false, [], indents⟩
      ((ofText (blanks ++ c :: u)).visible.map (Terminal.moved rows columns) ++
        [(⟨.newline, [], ⟨1, j, 1, j⟩, 0⟩ : Terminal).moved rows columns])
      (Scan.afterRow v (1 + rows) indents) := by
  have own := ofText_row hl hr hblanks hc
  have hall : (Scan.inRow (c :: u) blanks.length []).all =
      ⟨(ofText (blanks ++ c :: u)).list, .complete⟩ := by
    rw [← own, ← h]
  have hl' : (10 : CodePoint) ∉ c :: u := fun hm => hl (List.mem_append_right _ hm)
  obtain ⟨us, j, hus, hvisible, leads⟩ := Scan.leads_row v rows columns indents hl' hall
  refine ⟨j, ?_⟩
  rw [visible_of_eq hus hvisible]
  exact leads

/-- Inside blocks the terminals of a row stand behind the changes of indentation. -/
theorem leads_line {row blanks : Text} (v : Text) {outer inner : Nat} (rows : Nat)
    (hl : (10 : CodePoint) ∉ row) (hr : (13 : CodePoint) ∉ row) (hrow : Scan.BeginsRow blanks row)
    (h : (ofText row).ending = .complete) (hf : blanks = [] ∨ inner = 0 ∧ outer = 0)
    (hd : inner ≤ outer + 1) (hmax : inner < maxIndents) :
    ∃ j, Scan.Leads
      (Scan.atRow (List.replicate (4 * inner) 32 ++ (row ++ 10 :: v)) (1 + rows)
        (Scan.levels outer))
      (Scan.shift outer inner (1 + rows) ++
        ((ofText row).visible.map (Terminal.moved rows (4 * inner)) ++
          [(⟨.newline, [], ⟨1, j, 1, j⟩, 0⟩ : Terminal).moved rows (4 * inner)]))
      (Scan.afterRow v (1 + rows) (Scan.levels inner)) := by
  obtain ⟨hblanks, c, u, rfl, hc⟩ := hrow
  obtain ⟨j, leads⟩ := leads_terminals v rows (4 * inner) (Scan.levels inner) hl hr hblanks hc h
  have first := Scan.step_begin (t := u ++ 10 :: v) (1 + rows) hc hblanks hf hd hmax
  refine ⟨j, ?_⟩
  rw [List.append_assoc]
  exact (Scan.leads_of_ok first).trans leads

/-- Blanks that end in a form feed take a row out of all blocks. -/
theorem leads_feed {row blanks : Text} (v : Text) (outer inner rows : Nat)
    (hl : (10 : CodePoint) ∉ row) (hr : (13 : CodePoint) ∉ row) (hrow : Scan.BeginsRow blanks row)
    (h : (ofText row).ending = .complete) (hf : blanks ≠ []) :
    ∃ span j, Scan.Leads
      (Scan.atRow (List.replicate (4 * inner) 32 ++ (row ++ 10 :: v)) (1 + rows)
        (Scan.levels outer))
      (List.replicate outer ⟨.dedent, [], span, 0⟩ ++
        ((ofText row).visible.map (Terminal.moved rows (4 * inner)) ++
          [(⟨.newline, [], ⟨1, j, 1, j⟩, 0⟩ : Terminal).moved rows (4 * inner)]))
      (Scan.afterRow v (1 + rows) (Scan.levels 0)) := by
  obtain ⟨hblanks, c, u, rfl, hc⟩ := hrow
  obtain ⟨j, leads⟩ := leads_terminals v rows (4 * inner) (Scan.levels 0) hl hr hblanks hc h
  have hlast : (List.replicate (4 * inner) (32 : CodePoint) ++ blanks).getLast? = some 12 := by
    rw [List.getLast?_append, hblanks.feed.resolve_left hf, Option.some_or]
  have hall : ∀ b ∈ List.replicate (4 * inner) (32 : CodePoint) ++ blanks, isBlank b = true := by
    intro b hb
    rcases List.mem_append.1 hb with hb | hb
    · rw [(List.mem_replicate.1 hb).2]
      rfl
    · exact hblanks.blank b hb
  have first := Scan.step_feed (t := u ++ 10 :: v) outer (1 + rows) hc hall hlast
  rw [List.length_append, List.length_replicate, Nat.add_comm (4 * inner)] at first
  refine ⟨⟨1 + rows, blanks.length + 4 * inner, 1 + rows, blanks.length + 4 * inner⟩, j, ?_⟩
  rw [List.append_assoc, ← List.append_assoc (List.replicate _ _)]
  exact (Scan.leads_of_ok first).trans leads

end Terminals
end Stencil.Script
