import Stencil.Proofs.Template.Origin
import Stencil.Proofs.Template.Suspension

/-!
# Where inclusions are awaited

The body of a suspended procedure is the body of the one that runs without interruption, with the
word `await` before each direct inclusion of a code section. The inclusions are awaited row by row
and from the last to the first; the body is described in one pass over its text.

## Main definitions

* `Text.awaitedAt` — a text with the word `await` put in at places.
* `InclusionPlace` — a direct inclusion of a code section begins at a place of the body.

## Main results

* `compile_suspending` — the body of a suspended procedure.
-/

namespace Stencil

open Script

variable {ps qs : List Pos} {p q : Pos} {t u v : Text} {rows : List Text} {ts : List Token}
  {row row' column n k : Nat}

/-! ## Texts with the word `await` put in -/

namespace Script.Pos

/-- The position behind a code point. -/
def after (p : Pos) (c : CodePoint) : Pos :=
  if c = 10 then ⟨p.row + 1, 0⟩ else ⟨p.row, p.column + 1⟩

/-- The position behind a text. -/
def afterText (p : Pos) (t : Text) : Pos := t.foldl after p

theorem afterText_row (h : (10 : CodePoint) ∉ t) :
    afterText ⟨row, column⟩ t = ⟨row, column + t.length⟩ := by
  induction t generalizing column with
  | nil => rfl
  | cons c t ih =>
    obtain ⟨hc, ht⟩ := not_or.1 (mt List.mem_cons.2 h)
    rw [afterText, List.foldl_cons, after, if_neg (Ne.symm hc), List.length_cons, Nat.add_comm t.length,
      ← Nat.add_assoc]
    exact ih ht

theorem afterText_append (p : Pos) (t u : Text) :
    p.afterText (t ++ u) = (p.afterText t).afterText u := List.foldl_append

theorem afterText_feed (h : (10 : CodePoint) ∉ t) :
    afterText ⟨row, 0⟩ (t ++ [10]) = ⟨row + 1, 0⟩ := by
  rw [afterText_append, afterText_row h]
  rfl

theorem afterText_rows {rs : List Text} (h : ∀ t ∈ rs, (10 : CodePoint) ∉ t) (row : Nat) :
    afterText ⟨row, 0⟩ (rs.flatMap (· ++ [10])) = ⟨row + rs.length, 0⟩ := by
  induction rs generalizing row with
  | nil => rfl
  | cons t rs ih =>
    obtain ⟨ht, hrs⟩ := List.forall_mem_cons.1 h
    rw [List.flatMap_cons, afterText_append, afterText_feed ht, ih hrs, List.length_cons,
      Nat.add_comm rs.length, ← Nat.add_assoc]

end Script.Pos

/-- A text that begins at a position, with the word `await` put in at places. -/
def Text.awaitedAt (ps : List Pos) (p : Pos) : Text → Text
  | [] => []
  | c :: t =>
    (if p ∈ ps then Text.ofString "await " else []) ++ c :: awaitedAt ps (p.after c) t

namespace Text

theorem awaitedAt_append (ps : List Pos) (p : Pos) (t u : Text) :
    awaitedAt ps p (t ++ u) = awaitedAt ps p t ++ awaitedAt ps (p.afterText t) u := by
  induction t generalizing p with
  | nil => rfl
  | cons c t ih =>
    rw [List.cons_append, awaitedAt, ih, awaitedAt]
    simp [Pos.afterText]

/-- Only the places in a row matter for it. -/
theorem awaitedAt_congr (h : (10 : CodePoint) ∉ t)
    (hp : ∀ n < t.length, ⟨row, column + n⟩ ∈ ps ↔ ⟨row', k + n⟩ ∈ qs) :
    awaitedAt ps ⟨row, column⟩ t = awaitedAt qs ⟨row', k⟩ t := by
  induction t generalizing column k with
  | nil => rfl
  | cons c t ih =>
    obtain ⟨hc, ht⟩ := not_or.1 (mt List.mem_cons.2 h)
    have here : ⟨row, column⟩ ∈ ps ↔ ⟨row', k⟩ ∈ qs := hp 0 (Nat.succ_pos _)
    have later : awaitedAt ps ⟨row, column + 1⟩ t = awaitedAt qs ⟨row', k + 1⟩ t := by
      refine ih ht fun n hn => ?_
      have := hp (n + 1) (Nat.succ_lt_succ hn)
      rwa [← Nat.add_assoc, Nat.add_right_comm, ← Nat.add_assoc, Nat.add_right_comm k] at this
    rw [awaitedAt, awaitedAt, Pos.after, Pos.after, if_neg (Ne.symm hc), if_neg (Ne.symm hc), later]
    simp only [here]

theorem awaitedAt_nil (p : Pos) (t : Text) : awaitedAt [] p t = t := by
  induction t generalizing p with
  | nil => rfl
  | cons c t ih => rw [awaitedAt, ih]; rfl

/-- A row without places stays as it is. -/
theorem awaitedAt_row (h : (10 : CodePoint) ∉ t)
    (hp : ∀ n < t.length, (⟨row, column + n⟩ : Pos) ∉ ps) : awaitedAt ps ⟨row, column⟩ t = t := by
  have none_ : awaitedAt ps ⟨row, column⟩ t = awaitedAt [] ⟨row, column⟩ t :=
    awaitedAt_congr h fun n hn => iff_of_false (hp n hn) List.not_mem_nil
  rw [none_, awaitedAt_nil]

theorem sublist_awaitedAt (ps : List Pos) (p : Pos) (t : Text) : t.Sublist (awaitedAt ps p t) := by
  induction t generalizing p with
  | nil => exact .slnil
  | cons c t ih => exact ((ih _).cons_cons c).trans (List.sublist_append_right _ _)

theorem lineFeeds_awaitedAt (ps : List Pos) (p : Pos) (t : Text) :
    (awaitedAt ps p t).lineFeeds = t.lineFeeds := by
  have word : (ofString "await ").lineFeeds = 0 := by decide
  induction t generalizing p with
  | nil => rfl
  | cons c t ih =>
    have cons (t : Text) : lineFeeds (c :: t) = lineFeeds [c] + t.lineFeeds :=
      Text.lineFeeds_append [c] t
    rw [awaitedAt, Text.lineFeeds_append, cons, cons t, ih]
    split
    · rw [word, Nat.zero_add]
    · exact Nat.zero_add _

/-- The row with the word put in at one more place, before all others. -/
theorem awaitIn_awaitedAt (h : (10 : CodePoint) ∉ t) (hn : n < t.length)
    (hps : ∀ q ∈ ps, Pos.before ⟨row, n⟩ q) :
    awaitIn n (awaitedAt ps ⟨row, 0⟩ t) = awaitedAt (⟨row, n⟩ :: ps) ⟨row, 0⟩ t := by
  obtain ⟨u, c, v, rfl, rfl⟩ : ∃ u c v, t = u ++ c :: v ∧ n = u.length :=
    ⟨t.take n, t[n], t.drop (n + 1), by rw [← List.drop_eq_getElem_cons hn, List.take_append_drop],
      (List.length_take_of_le (Nat.le_of_lt hn)).symm⟩
  obtain ⟨hu, hcv⟩ := not_or.1 (mt List.mem_append.2 h)
  have free (k : Nat) (hk : k ≤ u.length) : (⟨row, k⟩ : Pos) ∉ ps := by
    intro hm
    have := hps _ hm
    unfold Pos.before at this
    simp only at this
    omega
  have before : awaitedAt ps ⟨row, 0⟩ u = u :=
    awaitedAt_row hu fun k hk => by rw [Nat.zero_add]; exact free k (Nat.le_of_lt hk)
  have before' : awaitedAt (⟨row, u.length⟩ :: ps) ⟨row, 0⟩ u = u := by
    refine awaitedAt_row hu fun k hk => ?_
    rw [Nat.zero_add, List.mem_cons, not_or]
    exact ⟨fun h => by simp at h; omega, free k (Nat.le_of_lt hk)⟩
  have behind : awaitedAt (⟨row, u.length⟩ :: ps) ⟨row, u.length + 1⟩ v =
      awaitedAt ps ⟨row, u.length + 1⟩ v := by
    refine awaitedAt_congr (not_or.1 (mt List.mem_cons.2 hcv)).2 fun k hk => ?_
    rw [List.mem_cons]
    exact or_iff_right fun h => by simp at h; omega
  have next : Pos.after ⟨row, u.length⟩ c = ⟨row, u.length + 1⟩ :=
    if_neg (Ne.symm (not_or.1 (mt List.mem_cons.2 hcv)).1)
  rw [awaitedAt_append, awaitedAt_append, before, before', Pos.afterText_row hu, Nat.zero_add,
    awaitedAt, awaitedAt, next, behind, if_neg (free _ (Nat.le_refl _)),
    if_pos List.mem_cons_self, List.nil_append]
  exact awaitIn_append u _

end Text

/-! ## Rows of sections -/

/-- Inclusions that are awaited from the last to the first are awaited in one pass. -/
theorem foldr_awaitAt (h : ∀ t ∈ rows, (10 : CodePoint) ∉ t) (ordered : ps.Pairwise Pos.before)
    (hps : ∀ p ∈ ps, ∃ k t, p.row = k + 1 ∧ rows[k]? = some t ∧ p.column < t.length) :
    ps.foldr Block.awaitAt rows = rows.mapIdx fun i t => Text.awaitedAt ps ⟨i + 1, 0⟩ t := by
  induction ps with
  | nil =>
    refine List.ext_getElem? fun i => ?_
    simp [Text.awaitedAt_nil]
  | cons p ps ih =>
    obtain ⟨first, others⟩ := List.pairwise_cons.1 ordered
    obtain ⟨⟨k, t, hrow, ht, hcolumn⟩, hothers⟩ := List.forall_mem_cons.1 hps
    obtain ⟨r, n⟩ := p
    obtain rfl : r = k + 1 := hrow
    rw [List.foldr_cons, ih others hothers, awaitAt_eq]
    refine List.ext_getElem? fun i => ?_
    simp only [List.getElem?_modify, List.getElem?_mapIdx, Nat.add_sub_cancel]
    by_cases hi : k = i
    · subst hi
      have h10 := h t (List.mem_of_getElem? ht)
      simp only [ht, Option.map_some, ↓reduceIte]
      exact congrArg some (Text.awaitIn_awaitedAt h10 hcolumn first)
    · cases hu : rows[i]? with
      | none => rfl
      | some u =>
        have h10 := h u (List.mem_of_getElem? hu)
        have same : Text.awaitedAt ps ⟨i + 1, 0⟩ u = Text.awaitedAt (⟨k + 1, n⟩ :: ps) ⟨i + 1, 0⟩ u :=
          Text.awaitedAt_congr h10 fun m _ => by
            rw [List.mem_cons]
            exact (or_iff_right fun h => by simp at h; omega).symm
        simp [hi, same]

/-- The word stands where a token says so. -/
theorem reads_of_mem {token : Token} (h : tokenize rows = .ok ts) (hm : token ∈ ts)
    (hw : token.isWord inclusion = true) :
    ∃ k t, token.start.row = k + 1 ∧ rows[k]? = some t ∧ Reads t token.start.column := by
  obtain ⟨front, back, rfl⟩ := List.append_of_mem hm
  exact (tokenize_awaitAt hw h).1

theorem Script.Reads.length_lt (h : Reads t n) : n < t.length := by
  obtain ⟨u, v, rfl, rfl, hv⟩ := h
  have pos : v ≠ [] := by
    rintro rfl
    exact absurd hv (by decide)
  have := List.length_pos_of_ne_nil pos
  rw [List.length_append]
  omega

/-- A row with an inclusion is not blank. -/
theorem Script.Reads.isBlank (h : Reads t n) : Text.isBlank t = false := by
  obtain ⟨u, v, rfl, -, hv⟩ := h
  have letter : (0x69 : CodePoint) ∈ v :=
    (List.takeWhile_prefix CodePoint.isWord).subset (hv ▸ by decide)
  refine Bool.eq_false_iff.2 fun hb => ?_
  have := List.all_eq_true.1 hb 0x69 (List.mem_append_right u letter)
  exact absurd this (by decide)

/-- The rows of a section with its direct inclusions awaited. -/
theorem awaitCalls_eq (h10 : ∀ t ∈ rows, (10 : CodePoint) ∉ t) (h : tokenize rows = .ok ts) :
    Block.awaitCalls rows ts = rows.mapIdx fun i t =>
      Text.awaitedAt (Block.includeCalls none (ts.filter Token.significant)) ⟨i + 1, 0⟩ t := by
  obtain ⟨cs, hs, hw, hcs⟩ := includeCalls_eq none (ts.filter Token.significant)
  refine foldr_awaitAt h10 ?_ fun p hp => ?_
  · rw [hcs, List.pairwise_map]
    exact (Block.significant_pairwise h).sublist hs
  · rw [hcs] at hp
    obtain ⟨c, hc, rfl⟩ := List.mem_map.1 hp
    obtain ⟨k, t, hrow, ht, reads⟩ := reads_of_mem h (List.mem_of_mem_filter (hs.subset hc)) (hw c hc)
    exact ⟨k, t, hrow, ht, reads.length_lt⟩

/-- The direct inclusions of a section are awaited. -/
theorem mem_includeCalls_iff (h : tokenize rows = .ok ts) :
    p ∈ Block.includeCalls none (ts.filter Token.significant) ↔
      ∃ t, Block.DirectInclusion ts t ∧ t.start = p := by
  obtain ⟨cs, hcs, hs, mem⟩ := Block.mem_includeCalls [] (Block.significant_nodup h)
  have whole : Block.includeCalls none (ts.filter Token.significant) = cs.map (·.start) := hcs
  rw [whole, List.mem_map]
  refine exists_congr fun t => and_congr_left fun _ => ⟨fun hc => (mem t (hs.subset hc)).1 hc, ?_⟩
  exact fun direct => (mem t direct.mem_filter).2 direct

/-! ## Rows of bodies -/

/-- Rows that end in line feeds, with the word put in. -/
theorem awaitedAt_rows {rs : List Text} (h10 : ∀ t ∈ rs, (10 : CodePoint) ∉ t)
    (hps : ∀ p ∈ ps, n < p.row → ∃ k t, p.row = n + k + 1 ∧ rs[k]? = some t ∧ p.column < t.length) :
    Text.awaitedAt ps ⟨n + 1, 0⟩ (rs.flatMap (· ++ [10])) =
      (rs.mapIdx fun i t => Text.awaitedAt ps ⟨n + i + 1, 0⟩ t).flatMap (· ++ [10]) := by
  induction rs generalizing n with
  | nil => rfl
  | cons t rs ih =>
    obtain ⟨ht, hrs⟩ := List.forall_mem_cons.1 h10
    have others := ih (n := n + 1) hrs fun p hp hn => by
      obtain ⟨k, u, hrow, hu, hcolumn⟩ := hps p hp (Nat.lt_of_succ_lt hn)
      obtain ⟨k, rfl⟩ : ∃ j, k = j + 1 := ⟨k - 1, by omega⟩
      exact ⟨k, u, by omega, hu, hcolumn⟩
    have feed : (⟨n + 1, t.length⟩ : Pos) ∉ ps := by
      intro hm
      obtain ⟨k, u, hrow, hu, hcolumn⟩ := hps _ hm (Nat.lt_succ_self n)
      obtain rfl : k = 0 := by simp only at hrow; omega
      obtain rfl : t = u := Option.some.inj hu
      exact absurd hcolumn (Nat.lt_irrefl _)
    have ended : Text.awaitedAt ps ⟨n + 1, 0 + t.length⟩ [10] = [10] := by
      rw [Nat.zero_add, Text.awaitedAt, if_neg feed]
      rfl
    rw [List.flatMap_cons, Text.awaitedAt_append, Text.awaitedAt_append, Pos.afterText_row ht,
      Pos.afterText_feed ht, ended, others, List.mapIdx_cons, List.flatMap_cons]
    simp only [Nat.add_assoc, Nat.add_comm 1, Nat.zero_add]

/-- The places where the direct inclusions of a part begin, with `n` rows before it. -/
def Part.places (n : Nat) : Part → List Pos
  | .literal .. => []
  | .code depth _ rows =>
    match tokenize rows with
    | .ok ts =>
      (Block.includeCalls none (ts.filter Token.significant)).map fun p =>
        ⟨n + p.row, 4 * depth + p.column⟩
    | .error _ => []

/-- The places where the direct inclusions of parts begin, with `n` rows before them. -/
def placesFrom (n : Nat) : List Part → List Pos
  | [] => []
  | p :: ps => p.places n ++ placesFrom (n + p.rows.length) ps

/-- What is emitted for a segment when inclusions suspend the procedure, instead of what is emitted
when they do not. -/
inductive Suspended : Part → Part → Prop where
  | literal {depth line : Nat} {t : Text} : Suspended (.literal depth line t) (.literal depth line t)
  | code {depth line : Nat} {rows : List Text} {ts : List Token} (hne : rows ≠ [])
      (h10 : ∀ t ∈ rows, (10 : CodePoint) ∉ t) (ht : tokenize rows = .ok ts) :
      Suspended (.code depth line rows) (.code depth line (Block.awaitCalls rows ts))

theorem indentRow_awaited {depth : Nat} (h : (10 : CodePoint) ∉ t)
    (hps : ∀ m, ⟨row, m⟩ ∈ ps ↔ ∃ k, m = 4 * depth + k ∧ ⟨row', k⟩ ∈ qs)
    (reads : ∀ k, ⟨row', k⟩ ∈ qs → Reads t k) :
    Part.indentRow depth (Text.awaitedAt qs ⟨row', 0⟩ t) =
      Text.awaitedAt ps ⟨row, 0⟩ (Part.indentRow depth t) := by
  cases hb : Text.isBlank t with
  | true =>
    have free (k : Nat) : (⟨row', k⟩ : Pos) ∉ qs := fun hk => by
      have := (reads k hk).isBlank
      rw [hb] at this
      exact Bool.noConfusion this
    rw [Text.awaitedAt_row h fun k _ => free _, Part.indentRow, hb]
    rfl
  | false =>
    have blank : Text.isBlank (Text.awaitedAt qs ⟨row', 0⟩ t) = false := by
      refine Bool.eq_false_iff.2 fun hb' => Bool.eq_false_iff.1 hb ?_
      exact List.all_eq_true.2 fun c hc =>
        List.all_eq_true.1 hb' c ((Text.sublist_awaitedAt qs _ t).subset hc)
    have plain : (10 : CodePoint) ∉ Part.indent depth := by simp [Part.indent]
    have margin : Text.awaitedAt ps ⟨row, 0⟩ (Part.indent depth) = Part.indent depth := by
      refine Text.awaitedAt_row plain fun m hm => ?_
      rw [hps, Part.indent, List.length_replicate] at *
      rintro ⟨k, hk, -⟩
      omega
    rw [Part.indentRow, Part.indentRow, blank, hb, if_neg Bool.false_ne_true,
      if_neg Bool.false_ne_true, Text.awaitedAt_append, margin, Pos.afterText_row plain]
    refine congrArg _ (Text.awaitedAt_congr h fun m _ => ?_)
    rw [hps, Part.indent, List.length_replicate, Nat.zero_add, Nat.zero_add]
    constructor
    · exact fun hm => ⟨m, rfl, hm⟩
    · rintro ⟨k, hk, hm⟩
      exact Nat.add_left_cancel hk ▸ hm

theorem reads_of_mem_includeCalls (h : tokenize rows = .ok ts)
    (hm : ⟨n + 1, k⟩ ∈ Block.includeCalls none (ts.filter Token.significant))
    (ht : rows[n]? = some t) : Reads t k := by
  obtain ⟨c, direct, hc⟩ := (mem_includeCalls_iff h).1 hm
  obtain ⟨i, u, hrow, hu, reads⟩ := reads_of_mem h direct.mem direct.word
  rw [hc] at hrow reads
  obtain rfl : n = i := by simp only at hrow; omega
  obtain rfl : t = u := Option.some.inj (ht.symm.trans hu)
  exact reads

namespace Suspended

variable {a b : Part}

/-- The word is put into the rows of a part. -/
theorem rows_eq (h : Suspended a b) (n : Nat) (ps : List Pos)
    (hps : ∀ q : Pos, n < q.row → q.row ≤ n + a.rows.length → (q ∈ ps ↔ q ∈ a.places n)) :
    b.rows = a.rows.mapIdx fun i t => Text.awaitedAt ps ⟨n + i + 1, 0⟩ t := by
  cases h with
  | @literal depth line t =>
    refine List.ext_getElem? fun i => ?_
    rw [List.getElem?_mapIdx]
    cases hu : (Part.literal depth line t).rows[i]? with
    | none => rfl
    | some u =>
      have hi := (List.getElem?_eq_some_iff.1 hu).1
      have h10 := Text.notMem_of_mem_rows (List.mem_of_getElem? hu)
      have free (m : Nat) : (⟨n + i + 1, m⟩ : Pos) ∉ ps := by
        rw [hps _ (by simp only; omega) (by simp only; omega)]
        exact List.not_mem_nil
      rw [Option.map_some, Text.awaitedAt_row h10 fun m _ => free _]
  | @code depth line rows ts hne h10 ht =>
    have eq := awaitCalls_eq h10 ht
    have hne' : Block.awaitCalls rows ts ≠ [] := by
      rw [eq, ne_eq, List.mapIdx_eq_nil_iff]
      exact hne
    rw [Origin.rows_code hne' (notMem_awaitCalls h10 ts), Origin.rows_code hne h10, eq]
    rw [Origin.rows_code hne h10, List.length_map] at hps
    refine List.ext_getElem? fun i => ?_
    simp only [List.getElem?_map, List.getElem?_mapIdx]
    cases hu : rows[i]? with
    | none => rfl
    | some u =>
      have hi := (List.getElem?_eq_some_iff.1 hu).1
      have places (m : Nat) : (⟨n + i + 1, m⟩ : Pos) ∈ ps ↔
          ∃ k, m = 4 * depth + k ∧
            ⟨i + 1, k⟩ ∈ Block.includeCalls none (ts.filter Token.significant) := by
        rw [hps _ (by simp only; omega) (by simp only; omega), Part.places, ht]
        simp only [List.mem_map]
        constructor
        · rintro ⟨⟨r, c⟩, hp, he⟩
          simp only [Pos.mk.injEq] at he
          obtain rfl : r = i + 1 := by omega
          exact ⟨c, he.2.symm, hp⟩
        · rintro ⟨k, rfl, hp⟩
          exact ⟨_, hp, by simp only [Pos.mk.injEq, and_true]; omega⟩
      exact congrArg some (indentRow_awaited (h10 u (List.mem_of_getElem? hu)) places
        fun k hk => (reads_of_mem_includeCalls ht hk hu))

/-- A part of a suspended procedure has as many rows. -/
theorem length_rows (h : Suspended a b) : b.rows.length = a.rows.length := by
  rw [h.rows_eq 0 (a.places 0) fun q _ _ => Iff.rfl, List.length_mapIdx]

theorem lines_eq (h : Suspended a b) : b.lines = a.lines := by
  rw [Origin.lines_eq_range', Origin.lines_eq_range', h.length_rows]
  cases h <;> rfl

/-- The word stands at the places of a part. -/
theorem reads (h : Suspended a b) (hq : q ∈ a.places n) :
    ∃ k t, q.row = n + k + 1 ∧ a.rows[k]? = some t ∧ Reads t q.column := by
  cases h with
  | literal => exact absurd hq List.not_mem_nil
  | @code depth line rows ts hne h10 ht =>
    rw [Part.places, ht] at hq
    obtain ⟨⟨r, c⟩, hp, rfl⟩ := List.mem_map.1 hq
    obtain ⟨token, direct, hc⟩ := (mem_includeCalls_iff ht).1 hp
    obtain ⟨k, t, hrow, hu, reads⟩ := reads_of_mem ht direct.mem direct.word
    rw [hc] at hrow reads
    obtain rfl : r = k + 1 := hrow
    refine ⟨k, Part.indentRow depth t, rfl, ?_, ?_⟩
    · rw [Origin.rows_code hne h10, List.getElem?_map, hu]
      rfl
    · rw [Part.indentRow, reads.isBlank, if_neg Bool.false_ne_true]
      obtain ⟨u, v, rfl, hlength, hv⟩ := reads
      refine ⟨Part.indent depth ++ u, v, (List.append_assoc ..).symm, ?_, hv⟩
      rw [List.length_append, Part.indent, List.length_replicate, hlength]

end Suspended

section

variable {as bs : List Part}

theorem reads_of_placesFrom (h : List.Forall₂ Suspended as bs) (hq : q ∈ placesFrom n as) :
    ∃ k t, q.row = n + k + 1 ∧ (as.flatMap Part.rows)[k]? = some t ∧ Reads t q.column := by
  induction h generalizing n with
  | nil => exact absurd hq List.not_mem_nil
  | @cons a b as bs first _ ih =>
    rw [List.flatMap_cons]
    rcases List.mem_append.1 hq with hq | hq
    · obtain ⟨k, t, hrow, ht, reads⟩ := first.reads hq
      have hk := (List.getElem?_eq_some_iff.1 ht).1
      exact ⟨k, t, hrow, by rwa [List.getElem?_append_left hk], reads⟩
    · obtain ⟨k, t, hrow, ht, reads⟩ := ih hq
      refine ⟨a.rows.length + k, t, by omega, ?_, reads⟩
      rwa [List.getElem?_append_right (Nat.le_add_right _ _), Nat.add_sub_cancel_left]

/-- The rows of a suspended procedure. -/
theorem rows_suspended (h : List.Forall₂ Suspended as bs) (n : Nat) (ps : List Pos)
    (hps : ∀ q : Pos, n < q.row → (q ∈ ps ↔ q ∈ placesFrom n as)) :
    bs.flatMap Part.rows =
      (as.flatMap Part.rows).mapIdx fun i t => Text.awaitedAt ps ⟨n + i + 1, 0⟩ t := by
  induction h generalizing n with
  | nil => rfl
  | @cons a b as bs first others ih =>
    have here : ∀ q : Pos, n < q.row → q.row ≤ n + a.rows.length → (q ∈ ps ↔ q ∈ a.places n) := by
      intro q hn hle
      rw [hps q hn, placesFrom, List.mem_append]
      refine or_iff_left fun hq => ?_
      obtain ⟨k, -, hrow, -⟩ := reads_of_placesFrom others hq
      omega
    have later : ∀ q : Pos, n + a.rows.length < q.row →
        (q ∈ ps ↔ q ∈ placesFrom (n + a.rows.length) as) := by
      intro q hn
      rw [hps q (by omega), placesFrom, List.mem_append]
      refine or_iff_right fun hq => ?_
      obtain ⟨k, t, hrow, ht, -⟩ := first.reads hq
      have hk := (List.getElem?_eq_some_iff.1 ht).1
      omega
    rw [List.flatMap_cons, List.flatMap_cons, List.mapIdx_append, first.rows_eq n ps here,
      ih _ later]
    have place (i : Nat) : n + (i + a.rows.length) + 1 = n + a.rows.length + i + 1 := by omega
    simp only [place]

theorem Part.mem_places {depth line : Nat} (h : tokenize rows = .ok ts) :
    q ∈ (Part.code depth line rows).places n ↔ ∃ t, Block.DirectInclusion ts t ∧
      q = ⟨n + t.start.row, 4 * depth + t.start.column⟩ := by
  rw [Part.places, h]
  simp only [List.mem_map]
  constructor
  · rintro ⟨p, hp, rfl⟩
    obtain ⟨t, direct, rfl⟩ := (mem_includeCalls_iff h).1 hp
    exact ⟨t, direct, rfl⟩
  · rintro ⟨t, direct, rfl⟩
    exact ⟨t.start, (mem_includeCalls_iff h).2 ⟨t, direct, rfl⟩, rfl⟩

/-- A direct inclusion of a code section begins at a place of the body, with `n` rows before it. -/
def InclusionPlace (n : Nat) (parts : List Part) (p : Pos) : Prop :=
  ∃ before depth line rows after ts t, parts = before ++ .code depth line rows :: after ∧
    tokenize rows = .ok ts ∧ Block.DirectInclusion ts t ∧
    p = ⟨n + (before.flatMap Part.rows).length + t.start.row, 4 * depth + t.start.column⟩

theorem lines_suspended (h : List.Forall₂ Suspended as bs) :
    bs.flatMap Part.lines = as.flatMap Part.lines := by
  induction h with
  | nil => rfl
  | cons first _ ih => rw [List.flatMap_cons, List.flatMap_cons, first.lines_eq, ih]

/-- The places of parts are those where direct inclusions of code sections begin. -/
theorem mem_placesFrom (h : List.Forall₂ Suspended as bs) :
    q ∈ placesFrom n as ↔ InclusionPlace n as q := by
  induction h generalizing n with
  | nil =>
    refine iff_of_false List.not_mem_nil ?_
    rintro ⟨before, _, _, _, _, _, _, split, -⟩
    exact absurd split.symm (by simp)
  | @cons a b as bs first _ ih =>
    rw [placesFrom, List.mem_append, ih]
    constructor
    · rintro (hq | ⟨before, depth, line, rows, after, ts, t, rfl, ht, direct, rfl⟩)
      · cases first with
        | literal => exact absurd hq List.not_mem_nil
        | @code depth line rows ts _ _ ht =>
          obtain ⟨t, direct, rfl⟩ := (Part.mem_places ht).1 hq
          exact ⟨[], depth, line, rows, as, ts, t, rfl, ht, direct, rfl⟩
      · refine ⟨a :: before, depth, line, rows, after, ts, t, rfl, ht, direct, ?_⟩
        rw [List.flatMap_cons, List.length_append, Nat.add_assoc n]
    · rintro ⟨before, depth, line, rows, after, ts, t, split, ht, direct, rfl⟩
      cases before with
      | nil =>
        obtain ⟨rfl, rfl⟩ := List.cons.inj split
        exact .inl ((Part.mem_places ht).2 ⟨t, direct, rfl⟩)
      | cons a' before =>
        obtain ⟨rfl, rfl⟩ := List.cons.inj split
        refine .inr ⟨before, depth, line, rows, after, ts, t, rfl, ht, direct, ?_⟩
        rw [List.flatMap_cons, List.length_append, ← Nat.add_assoc n]

end

/-! ## Two bodies -/

/-- A section offends in both modes or in none. -/
theorem sectionPart_suspending (depth : Nat) (place : Place) (code : Text) :
    (∃ e, Template.sectionPart .blocking depth place code = .error e ∧
        Template.sectionPart .suspending depth place code = .error e) ∨
      ∃ a b depth', Template.sectionPart .blocking depth place code = .ok (a, depth') ∧
        Template.sectionPart .suspending depth place code = .ok (b, depth') ∧
        List.Forall₂ Suspended a.toList b.toList := by
  generalize hl : Layout.ofCode code place.column = l
  rcases hr : l.rows with _ | ⟨firstRow, others⟩
  · refine .inr ⟨none, none, depth, ?_, ?_, .nil⟩ <;> simp [Template.sectionPart, hl, hr]
  · have h10 (row : Text) (hrow : row ∈ firstRow :: others) : (10 : CodePoint) ∉ row :=
      Layout.notMem_of_mem_rows (hl ▸ hr ▸ hrow)
    rw [Template.sectionPart_of_rows hl hr, Template.sectionPart_of_rows hl hr, hr]
    cases ht : tokenize (firstRow :: others) with
    | error e => exact .inl ⟨_, rfl, rfl⟩
    | ok tokens =>
      have suspended (depth line : Nat) : List.Forall₂ Suspended
          [.code depth line (firstRow :: others)]
          [.code depth line (Block.awaitCalls (firstRow :: others) tokens)] :=
        .cons (.code (List.cons_ne_nil _ _) h10 ht) .nil
      by_cases he : Block.isEnd tokens
      · rcases depth with _ | depth
        · exact .inl ⟨.strayEnd, by simp [he]⟩
        · exact .inr ⟨none, none, depth, by simp [he], by simp [he], .nil⟩
      · simp only [he, Bool.false_eq_true, ↓reduceIte]
        rcases Block.continuation? tokens with _ | keyword <;> rcases depth with _ | depth <;>
          rcases Block.headerColumn? tokens with _ | _ | column <;>
          first
          | exact .inl ⟨_, rfl, rfl⟩
          | exact .inr ⟨_, _, _, rfl, rfl, suspended _ _⟩

theorem partsFrom_suspending (d : Delimiters) (depth : Nat) (place : Place) (segments : Segments) :
    (∃ e, Template.partsFrom d .blocking depth place segments = .error e ∧
        Template.partsFrom d .suspending depth place segments = .error e) ∨
      ∃ as bs, Template.partsFrom d .blocking depth place segments = .ok as ∧
        Template.partsFrom d .suspending depth place segments = .ok bs ∧
        List.Forall₂ Suspended as bs := by
  induction segments generalizing depth place with
  | last literal =>
    by_cases hd : depth = 0
    · exact .inr ⟨_, _, if_pos hd, if_pos hd, .cons .literal .nil⟩
    · exact .inl ⟨_, if_neg hd, if_neg hd⟩
  | unclosed => exact .inl ⟨_, rfl, rfl⟩
  | next literal code rest ih =>
    simp only [Template.partsFrom]
    rcases sectionPart_suspending depth ((place.after literal).after d.start) code with
      ⟨e, ha, hb⟩ | ⟨a, b, depth', ha, hb, hab⟩
    · exact .inl ⟨e, by rw [ha], by rw [hb]⟩
    · rw [ha, hb]
      simp only
      rcases ih depth' ((((place.after literal).after d.start).after code).after d.stop) with
        ⟨e, has, hbs⟩ | ⟨as, bs, has, hbs, h⟩
      · exact .inl ⟨e, by rw [has], by rw [hbs]⟩
      · refine .inr ⟨_, _, by rw [has], by rw [hbs], .cons .literal (List.rel_append hab h)⟩

theorem source_eq_rows (p : Part) : p.source ++ [10] = p.rows.flatMap (· ++ [10]) := by
  obtain ⟨row, rs, hrows⟩ : ∃ row rs, p.rows = row :: rs :=
    List.exists_cons_of_length_pos (by rw [Part.rows, Text.length_rows]; exact Nat.succ_pos _)
  rw [hrows, ← Part.joinRows_append, ← hrows, Part.rows, Text.joinRows_rows]

theorem rowsOf_eq (parts : List Part) :
    Part.rowsOf parts = (parts.flatMap Part.rows).flatMap (· ++ [10]) := by
  rw [Part.rowsOf, List.flatMap_assoc]
  exact List.flatMap_congr fun p _ => source_eq_rows p

theorem notMem_of_mem_partRows {parts : List Part} (h : t ∈ parts.flatMap Part.rows) :
    (10 : CodePoint) ∉ t := by
  obtain ⟨p, -, hp⟩ := List.mem_flatMap.1 h
  exact Text.notMem_of_mem_rows hp

/-- The word stands in a text that begins at the first position. -/
def Text.Reads (t : Text) (p : Pos) : Prop :=
  ∃ u v, t = u ++ v ∧ Pos.afterText ⟨1, 0⟩ u = p ∧ v.takeWhile CodePoint.isWord = inclusion

theorem reads_rows {rs : List Text} (h10 : ∀ t ∈ rs, (10 : CodePoint) ∉ t) (ht : rs[k]? = some t)
    (h : Reads t n) : Text.Reads (rs.flatMap (· ++ [10])) ⟨k + 1, n⟩ := by
  obtain ⟨u, v, rfl, rfl, hv⟩ := h
  obtain ⟨hk, hrow⟩ := List.getElem?_eq_some_iff.1 ht
  have split : rs = rs.take k ++ (u ++ v) :: rs.drop (k + 1) := by
    rw [← hrow, ← List.drop_eq_getElem_cons hk, List.take_append_drop]
  have plain : (10 : CodePoint) ∉ u := fun hm =>
    h10 _ (List.mem_of_getElem? ht) (List.mem_append_left v hm)
  refine ⟨(rs.take k).flatMap (· ++ [10]) ++ u,
    v ++ 10 :: (rs.drop (k + 1)).flatMap (· ++ [10]), ?_, ?_, ?_⟩
  · conv_lhs => rw [split]
    simp
  · rw [Pos.afterText_append, Pos.afterText_rows fun t ht => h10 t (List.mem_of_mem_take ht),
      Pos.afterText_row plain, List.length_take_of_le (Nat.le_of_lt hk), Nat.add_comm 1, Nat.zero_add]
  · rw [(takeWhile_append_stop (p := CodePoint.isWord) (c := 10) (by decide) v _).1, hv]

/-- The body of a suspended procedure is the one that runs without interruption, with the word `await`
at the places of direct inclusions. -/
theorem text_suspended (h : List.Forall₂ Suspended as bs) (hne : as ≠ []) (hne' : bs ≠ []) :
    (Source.ofParts bs).text =
      Text.awaitedAt (placesFrom 0 as) ⟨1, 0⟩ (Source.ofParts as).text := by
  rw [Part.text_ofParts hne, Part.text_ofParts hne', rowsOf_eq, rowsOf_eq,
    rows_suspended h 0 (placesFrom 0 as) fun q _ => Iff.rfl]
  refine (awaitedAt_rows (fun t => notMem_of_mem_partRows) fun p hp _ => ?_).symm
  obtain ⟨k, t, hrow, ht, reads⟩ := reads_of_placesFrom h hp
  exact ⟨k, t, hrow, ht, reads.length_lt⟩

/-- The word `include` stands at the places of direct inclusions. -/
theorem reads_of_mem_places (h : List.Forall₂ Suspended as bs) (hne : as ≠ [])
    (hp : p ∈ placesFrom 0 as) : (Source.ofParts as).text.Reads p := by
  obtain ⟨r, c⟩ := p
  obtain ⟨k, t, hrow, ht, reads⟩ := reads_of_placesFrom h hp
  obtain rfl : r = k + 1 := by simp only at hrow; omega
  rw [Part.text_ofParts hne, rowsOf_eq]
  exact reads_rows (fun t => notMem_of_mem_partRows) ht reads

/-- A template is refused in both modes, for the same reason, or in none. The body of its suspended
procedure has the rows and the line map of the one that runs without interruption, and it is that
body with the word `await` at the places of direct inclusions, where the word `include` stands. No
other token of a section reaches into one of them, be it a string or a comment. -/
theorem compile_suspending (d : Delimiters) (text : Text) :
    (∃ e, Template.compile d .blocking text = .error e ∧
        Template.compile d .suspending text = .error e) ∨
      ∃ parts s s', Template.parts d .blocking text = .ok parts ∧
        Template.compile d .blocking text = .ok s ∧ Template.compile d .suspending text = .ok s' ∧
        s = Source.ofParts parts ∧ s'.lines = s.lines ∧ s'.text.lineFeeds = s.text.lineFeeds ∧
        (∃ places, (∀ p, p ∈ places ↔ InclusionPlace 0 parts p) ∧
          (∀ p ∈ places, s.text.Reads p) ∧ s'.text = s.text.awaitedAt places ⟨1, 0⟩) ∧
        ∀ depth line rows ts, .code depth line rows ∈ parts → tokenize rows = .ok ts →
          ts.Pairwise fun a b => a.stop.upto b.start := by
  rcases partsFrom_suspending d 0 Place.first (Segments.ofText d text) with
    ⟨e, ha, hb⟩ | ⟨as, bs, ha, hb, h⟩
  · exact .inl ⟨e, congrArg (Except.map Source.ofParts) ha, congrArg (Except.map Source.ofParts) hb⟩
  · have hne := Template.partsFrom_ne_nil ha
    have hne' := Template.partsFrom_ne_nil hb
    refine .inr ⟨as, _, _, ha, congrArg (Except.map Source.ofParts) ha,
      congrArg (Except.map Source.ofParts) hb, rfl, ?_, ?_, ⟨placesFrom 0 as, fun _ => mem_placesFrom h,
        fun _ => reads_of_mem_places h hne, text_suspended h hne hne'⟩, ?_⟩
    · exact lines_suspended h
    · rw [text_suspended h hne hne', Text.lineFeeds_awaitedAt]
    · intro depth line rows ts _ ht
      obtain ⟨_, ordered⟩ := ordered_of_tokenize ht
      exact ordered.follows.imp Token.Follows.apart

end Stencil
