import Stencil.Proofs.Script.Beside
import Stencil.Proofs.Script.Moved
import Stencil.Proofs.Template.Course
import Stencil.Proofs.Template.Header
import Stencil.Proofs.Template.Placement

/-!
# A body on the lines of its template

The rows of a body are moved to the lines of the template before the body is looked at any further.
Rows of one part stay apart, but the rows at the end of a part may come to the same line as those at
the beginning of the next one, so that a statement of several rows may come to a single line. It still
does not end before it begins, since the lines of the body are a ladder: literal text stands at the
column of the blocks around it, a head before literal text on the same line is not indented any
further, and all code stands at that column or to the right of it.

## Main definitions

* `Part.Lands` — the rows of parts are moved to the lines that the parts come from.
* `Passage` — rows are passed, and their lines are a ladder.

## Main results

* `passage_literal`, `passage_code` — the rows of a part.
* `Course.passage` — the rows of a body.
* `Template.moved_valid` — no part of a body is out of place on the lines of its template.
-/

namespace Stencil

open Script
open Script.Terminals (isBlank Margin Scan)
open Script.Terminals.Scan (Leads Whole Begins)

variable {moved : Nat → Nat} {count depth line row n : Nat} {a b c : Script.Standing}
  {s s' s₁ : Scan} {t u v r : Text} {p : Part} {parts : List Part} {rows : List Text}
  {ts : List Terminal}

/-! ## Rows on lines -/

/-- The rows of parts, from a row of the body on, are moved to the lines that they come from. -/
def Part.Lands (moved : Nat → Nat) (row : Nat) (parts : List Part) : Prop :=
  ∀ k line, (parts.flatMap Part.lines)[k]? = some line → moved (row + k) = line

theorem Part.Lands.cons (h : Lands moved row (p :: parts)) :
    (∀ k < p.rows.length, moved (row + k) = p.line + k) ∧
      Lands moved (row + p.rows.length) parts := by
  have length : p.lines.length = p.rows.length := by
    rw [Origin.lines_eq_range', List.length_range']
  refine ⟨fun k hk => h k _ ?_, fun k line hl => ?_⟩
  · rw [List.flatMap_cons, List.getElem?_append_left (by rwa [length]), Origin.lines_eq_range',
      List.getElem?_range' hk, Nat.one_mul]
  · rw [Nat.add_assoc]
    refine h _ line ?_
    rw [List.flatMap_cons, List.getElem?_append_right (by rw [length]; exact Nat.le_add_right _ _),
      length, Nat.add_sub_cancel_left]
    exact hl

theorem spread_of_lands (h : ∀ k < n, moved (row + k) = line + k) (hn : row + n ≤ count + 1)
    (hpos : 0 < n) : Spread moved count row (row + n - 1) := by
  refine ⟨by omega, fun i j hi hij hj => ?_⟩
  obtain ⟨k, rfl⟩ := Nat.exists_eq_add_of_le hi
  obtain ⟨m, rfl⟩ := Nat.exists_eq_add_of_le (Nat.le_trans hi (Nat.le_of_lt hij))
  rw [h k (by omega), h m (by omega)]
  omega

theorem Part.length_rows_pos (p : Part) : 0 < p.rows.length := by
  rw [Part.rows, Text.length_rows]
  exact Nat.succ_pos _

/-! ## Rows that are passed -/

/-- A scan stands before the rows of parts. -/
structure Ready (s : Scan) : Prop where
  idle : s.Idle
  column : s.column = 0
  positive : s.rest ≠ [] → 0 < s.row
  whole : Whole s.rest
  complete : s.all.ending = .complete

theorem Ready.of_leads (h : Ready s) (leads : Leads s ts s') (idle : s'.Idle)
    (column : s'.column = 0) : Ready s' := by
  obtain ⟨w, tracks⟩ := leads.tracks
  have split := tracks.past.rest
  refine ⟨idle, column, fun hn => ?_, ?_, (Scan.ending_of_leads leads).trans h.complete⟩
  · rw [tracks.past.row hn]
    have some_ : s.rest ≠ [] := by
      rw [split]
      exact List.append_ne_nil_of_right_ne_nil _ hn
    exact Nat.add_pos_left (h.positive some_) _
  · by_cases hn : s'.rest = []
    · exact .inl hn
    · rcases h.whole with he | last
      · exact absurd (List.append_eq_nil_iff.1 (split.symm.trans he)).2 hn
      · rw [split, List.getLast?_append_of_ne_nil _ hn] at last
        exact .inr last

/-- The terminals of a part stand in its rows one after another, and the scan comes to the next
row. -/
theorem Ready.rows_of_leads (h : Ready s) (leads : Leads s ts s')
    (hr : s.rest = p.source ++ 10 :: s'.rest) (hc : (13 : CodePoint) ∉ p.source) :
    InRows s.row (s.row + p.rows.length - 1) ts ∧ ts.Pairwise Terminal.Precedes ∧
      (s'.rest ≠ [] → s'.row = s.row + p.rows.length) := by
  obtain ⟨w, tracks⟩ := leads.tracks
  obtain rfl : w = p.source ++ [10] := by
    have split := tracks.past.rest
    rw [hr, show p.source ++ 10 :: s'.rest = (p.source ++ [10]) ++ s'.rest by simp] at split
    exact (List.append_cancel_right split).symm
  have feeds : (p.source ++ [10]).lineFeeds = p.rows.length := by
    rw [Part.rows, Text.length_rows, Text.lineFeeds_append]
    rfl
  have row := tracks.past.row
  have inRows := tracks.inRows (h.positive (by rw [hr]; simp)) List.getLast?_concat
    (by rw [List.mem_append, not_or]; exact ⟨hc, by decide⟩)
  rw [feeds] at row inRows
  exact ⟨inRows, tracks.apart, row⟩

/-- Rows are passed from one place to another, and their lines are a ladder. -/
structure Passage (moved : Nat → Nat) (count : Nat) (a : Script.Standing) (s : Scan)
    (c : Script.Standing) (s' : Scan) : Prop where
  ready : Ready s'
  ladder : ∃ ts, Leads s ts s' ∧
    Ladder moved count a s.widths (Item.ofTerminals [] ts) c s'.widths

theorem Passage.trans (h : Passage moved count a s b s₁) (k : Passage moved count b s₁ c s')
    (ready : Ready s) : Passage moved count a s c s' := by
  obtain ⟨ts, leads, ladder⟩ := h.ladder
  obtain ⟨us, further, ladder'⟩ := k.ladder
  refine ⟨k.ready, ts ++ us, leads.trans further, ?_⟩
  rw [(leads.cut ready.idle h.ready.idle ready.whole).append rfl]
  exact ladder.append ladder'

/-- Layout before the first sign of a row. -/
theorem Script.Terminals.Scan.exists_begun {cp : CodePoint} {blanks : Text} (hi : s.Idle)
    (hc : Begins cp) (hall : ∀ b ∈ blanks, isBlank b = true) (hr : s.rest = blanks ++ cp :: t)
    (h : s.all.ending = .complete) :
    ∃ ls indents, Leads s ls ⟨cp :: t, s.row, s.column + blanks.length, false, [], indents⟩ ∧
      (∀ l ∈ ls, l.kind = .indent ∨ l.kind = .dedent) ∧
      indents.headD (0, 0) = (blanks.foldl Margin.blank ⟨0, 0, 0⟩).measures := by
  obtain ⟨blank, comment, feed, joint⟩ := hc
  have margin := Scan.margin_blanks s.rest.length ⟨0, 0, 0⟩ blank joint hall hr
    (by rw [hr, List.length_append, List.length_cons]; omega)
  have step := Scan.step_begun hi.1 margin rfl (not_or.2 ⟨comment, feed⟩)
  rw [if_pos (by simp [hi.2])] at step
  cases hind : ({ s with rest := cp :: t, column := s.column + blanks.length, fresh := false } :
      Scan).indent (blanks.foldl Margin.blank ⟨0, 0, 0⟩) with
  | error e =>
    rw [hind] at step
    rw [Scan.all_of_error step] at h
    exact absurd h (Scan.indent_error hind)
  | ok found =>
    obtain ⟨ls, next⟩ := found
    rw [hind] at step
    have place := Scan.indent_place hind
    refine ⟨ls, next.indents, ?_, Scan.indent_kinds hind, Scan.headD_indent hind⟩
    rw [place] at step
    have leads := Scan.leads_of_ok step
    rwa [show s.brackets = [] from hi.2] at leads

/-! ## Parts -/

theorem isPlain_of_words {first : Terminal} {others : List Terminal}
    (h : ∀ w ∈ Parse.headWords, first.isWord w = false) : IsPlain first others := by
  refine ⟨?_, fun clause line => ?_⟩
  · refine List.any_eq_false.2 fun w hw => ?_
    have heads : ∀ w ∈ Parse.clauseWords, w ∈ Parse.headWords := by decide
    simp [h w (heads w hw)]
  · cases clause with
    | simple stmts => exact ⟨stmts, rfl⟩
    | opened start head inline =>
      obtain ⟨c, -, -, -, -, found, -⟩ := Parse.opened_of_lineClause line
      obtain ⟨w, hw, word⟩ := Parse.word_of_head? found
      exact absurd word (by simp [h w hw])

/-- The line of a literal is no head. -/
theorem isPlain_literal (row column : Nat) (t : Text) :
    ∃ first others, Literal.terminals row column t = first :: others ∧
      first.span = Literal.nameSpan row column ∧ IsPlain first others := by
  refine ⟨_, _, rfl, rfl, isPlain_of_words fun w hw => ?_⟩
  have other : ∀ w ∈ Parse.headWords, Text.ofString "write" ≠ w := by decide
  exact Bool.and_eq_false_imp.2 fun _ => by simpa using other w hw

/-- The terminals of a literal part. -/
theorem exists_leads_literal (ready : Ready s)
    (hr : s.rest = (Part.literal depth line t).source ++ 10 :: v) :
    ∃ ls s' , Leads s (ls ++ (Literal.terminals s.row (4 * depth) t ++
        [Literal.newline s.row (4 * depth) t])) s' ∧
      s'.Idle ∧ s'.column = 0 ∧ s'.rest = v ∧ (∀ l ∈ ls, l.kind = .indent ∨ l.kind = .dedent) ∧
      Climbs s.widths ls s'.widths ∧ s'.widths.headD 0 = 4 * depth := by
  have spaces : ∀ b ∈ Part.indent depth, isBlank b = true := fun b hb => by
    rw [(List.mem_replicate.1 hb).2]
    rfl
  obtain ⟨w, hw⟩ : ∃ w, Literal.statement t = ('w' : CodePoint) :: w := ⟨_, rfl⟩
  have front : s.rest = Part.indent depth ++ ('w' : CodePoint) :: (w ++ 10 :: v) := by
    rw [hr, Part.source, hw, List.append_assoc]
    rfl
  obtain ⟨ls, indents, begun, layout, margin⟩ :=
    Script.Terminals.Scan.exists_begun ready.idle (by decide) spaces front ready.complete
  have column : s.column + (Part.indent depth).length = 4 * depth := by
    rw [ready.column, Part.indent, List.length_replicate, Nat.zero_add]
  rw [column, ← List.cons_append, ← hw] at begun
  have line := Literal.leads_statement t v s.row (4 * depth) indents
  refine ⟨ls, _, begun.trans line, ⟨rfl, rfl⟩, rfl, rfl, layout, begun.climbs, ?_⟩
  rw [Part.indent, Scan.foldl_spaces] at margin
  have level : (indents.map Prod.fst).headD 0 = (indents.headD (0, 0)).1 := by cases indents <;> rfl
  exact level.trans (by rw [margin]; simp [Margin.measures])

theorem Part.notMem_literal : (13 : CodePoint) ∉ (Part.literal depth line t).source := by
  intro hm
  rcases List.mem_append.1 hm with hm | hm
  · exact absurd (List.mem_replicate.1 hm).2 (by decide)
  · exact (Literal.mem_statement hm).2.1 rfl

/-- The rows of literal text, which follows what stands before it. -/
theorem passage_literal (ready : Ready s)
    (hr : s.rest = (Part.literal depth line t).source ++ 10 :: v)
    (lands : ∀ k < (Part.literal depth line t).rows.length, moved (s.row + k) = line + k)
    (hcount : s.row + (Part.literal depth line t).rows.length ≤ count + 1)
    (follows : a.Follows ⟨line, true, depth, 0, False⟩) :
    ∃ c s', Passage moved count a s c s' ∧ s'.rest = v ∧
      (v ≠ [] → s'.row = s.row + (Part.literal depth line t).rows.length) ∧
      c.line = line ∧ c.literal = true ∧ c.depth = depth ∧ ¬c.opens := by
  obtain ⟨ls, s', leads, idle, column, rfl, layout, climbs, level⟩ := exists_leads_literal ready hr
  obtain ⟨first, others, line_, span, plain⟩ := isPlain_literal s.row (4 * depth) t
  have visible := Literal.isVisible_terminals s.row (4 * depth) t
  rw [line_] at leads visible
  obtain ⟨inRows, -, next⟩ := ready.rows_of_leads leads hr Part.notMem_literal
  have moves : moved first.span.row = line := by
    rw [span]
    exact lands 0 (Part.length_rows_pos _)
  have own : a.Follows (.ofLine moved true depth first others) :=
    ⟨follows.order.trans_eq moves.symm,
      fun he _ opens => follows.literal (he.trans moves) rfl opens, fun _ hl => Bool.noConfusion hl⟩
  obtain ⟨up, items⟩ : Ladder moved count a s.widths (Item.ofTerminals [] ls) a s'.widths ∧ _ :=
    Ladder.of_layout climbs layout
  refine ⟨.ofLine moved true depth first others, s', ⟨ready.of_leads leads idle column, _, leads, ?_⟩,
    rfl, next, moves, rfl, rfl, plain.not_opensBlock⟩
  rw [items, Item.ofTerminals_line visible rfl []]
  refine up.append (.line (inRows.sublist ?_) (visible first List.mem_cons_self)
    (spread_of_lands lands hcount (Part.length_rows_pos _)) (fun _ => ⟨level, ?_, plain⟩) own .nil)
  · exact (List.sublist_append_left _ _).trans (List.sublist_append_right _ _)
  · rw [span]
    rfl

theorem Part.IsLaid.notMem_source {outer start : Nat} (laid : IsLaid rows) :
    (13 : CodePoint) ∉ (Part.code outer start rows).source := by
  intro hm
  have whole : (13 : CodePoint) ∈ (Part.code outer start rows).source ++ [10] :=
    List.mem_append_left _ hm
  rw [source_eq_rows, Origin.rows_code laid.ne laid.feeds] at whole
  obtain ⟨body, hbody, hm⟩ := List.mem_flatMap.1 whole
  obtain ⟨row, hrow, rfl⟩ := List.mem_map.1 hbody
  rcases List.mem_append.1 hm with hm | hm
  · unfold indentRow at hm
    split at hm
    · exact List.not_mem_nil hm
    · rcases List.mem_append.1 hm with hm | hm
      · exact absurd (List.mem_replicate.1 hm).2 (by decide)
      · exact laid.returns row hrow hm
  · exact absurd hm (by decide)

/-- Rows of code inside blocks have the spaces of the blocks in front of them. -/
theorem Part.IsLaid.shifted (laid : IsLaid rows) (depth : Nat) :
    List.Forall₂ (Shifted (4 * depth)) rows (rows.map (indentRow depth)) := by
  rw [List.forall₂_map_right_iff, List.forall₂_same]
  intro row hrow
  unfold indentRow
  split
  · rename_i blank
    exact .inl ⟨laid.empties row hrow blank, rfl⟩
  · exact .inr rfl

/-- The first row of code begins with the spaces of the blocks. -/
theorem Part.IsLaid.exists_source {outer start : Nat} (laid : IsLaid rows) :
    ∃ w, (Part.code outer start rows).source = indent outer ++ w := by
  obtain ⟨ne, -, -, -, begun⟩ := laid
  cases rows with
  | nil => exact absurd rfl ne
  | cons row others =>
    have own : indentRow outer row = indent outer ++ row := if_neg (by simp [begun row rfl])
    obtain ⟨w, hw⟩ := Text.prefix_joinRows (indentRow outer row) (others.map (indentRow outer))
    exact ⟨row ++ w, by rw [Part.source, List.map_cons, ← hw, own, List.append_assoc]⟩

/-- The rows of code, which comes below literal text or behind it on its last line. -/
theorem passage_code {outer start depth' : Nat} {tokens : List Token} (ready : Ready s)
    (laid : Part.IsLaid rows) (tokenized : tokenize rows = .ok tokens)
    (hr : s.rest = (Part.code outer start rows).source ++ 10 :: v)
    (lands : ∀ k < (Part.code outer start rows).rows.length, moved (s.row + k) = start + k)
    (hcount : s.row + (Part.code outer start rows).rows.length ≤ count + 1)
    (literal : a.literal = true) (shut : ¬a.opens) (below : a.line ≤ start)
    (within : a.depth ≤ outer + 1) (ends : start + rows.length ≤ line + 1)
    (header : ∀ n, Block.headerColumn? tokens = some n → n = 0 ∧ depth' = outer + 1) :
    ∃ c s', Passage moved count a s c s' ∧ s'.rest = v ∧
      (v ≠ [] → s'.row = s.row + (Part.code outer start rows).rows.length) ∧
      c.Follows ⟨line, true, depth', 0, False⟩ := by
  have bodies : (Part.code outer start rows).rows = rows.map (Part.indentRow outer) :=
    Origin.rows_code laid.ne laid.feeds
  have length : (Part.code outer start rows).rows.length = rows.length := by
    rw [bodies, List.length_map]
  have split : s.rest = (rows.map (Part.indentRow outer)).flatMap (· ++ [10]) ++ v := by
    rw [← bodies, ← source_eq_rows, hr, List.append_assoc]
    rfl
  obtain ⟨ts, s', leads, idle, column, rfl, found⟩ := Terminals.Scan.leads_rows (laid.shifted outer)
    laid.feeds laid.ne tokenized ready.idle ready.column split ready.whole ready.complete
  obtain ⟨inRows, apart, next⟩ := ready.rows_of_leads leads hr laid.notMem_source
  have spread := spread_of_lands lands hcount (Part.length_rows_pos _)
  rw [length] at lands inRows spread
  have cut := leads.cut ready.idle idle ready.whole
  have hlen := List.length_pos_iff.2 laid.ne
  -- a line comes to one of the lines of the section, and in the first row it stands inside the blocks
  have stands (first : Terminal) (hm : first ∈ ts) (hv : first.isVisible = true) :
      ∃ k < rows.length, first.span.row = s.row + k ∧ moved first.span.row = start + k ∧
        (k = 0 → 4 * outer ≤ first.span.column) := by
    have keeps := inRows.keeps first hm hv
    have order : first.span.row ≤ first.span.endRow := keeps.order.row
    have last := keeps.last
    obtain ⟨k, hk⟩ := Nat.exists_eq_add_of_le keeps.first
    refine ⟨k, by omega, hk, by rw [hk]; exact lands k (by omega), fun h0 => ?_⟩
    obtain ⟨w, hw⟩ : ∃ w, (Part.code outer start rows).source = Part.indent outer ++ w :=
      laid.exists_source
    rw [hw, List.append_assoc] at hr
    have behind := leads.behind_blanks ready.idle.1 hr
      (fun b hb => by rw [(List.mem_replicate.1 hb).2]; rfl) hm hv
    rw [ready.column, Part.indent, List.length_replicate, Nat.zero_add] at behind
    rcases behind with behind | ⟨-, behind⟩
    · exact absurd (show s.row < first.span.row from behind) (by omega)
    · exact behind
  have follows (first : Terminal) (others : List Terminal)
      (hm : .line first others ∈ Item.ofTerminals [] ts) :
      a.Follows (.ofLine moved false outer first others) := by
    obtain ⟨hm, hv⟩ := cut.mem_line hm
    obtain ⟨k, hk, row, lands, column⟩ := stands first hm hv
    have below : a.line ≤ moved first.span.row := by omega
    refine ⟨below, fun _ hl => Bool.noConfusion hl, fun he _ => ⟨literal, shut, within, ?_⟩⟩
    have he : a.line = moved first.span.row := he
    exact column (by omega)
  obtain ⟨c, ladder, last⟩ := Ladder.of_cut cut rfl leads.climbs inRows apart spread follows
  refine ⟨c, s', ⟨ready.of_leads leads idle column, ts, leads, ladder⟩, rfl, next, ?_⟩
  cases last with
  | none =>
    have below : a.line ≤ line := by omega
    exact ⟨below, fun _ _ opens => absurd opens shut, fun _ hl => Bool.noConfusion hl⟩
  | @line before first others he =>
    obtain ⟨hm, hv⟩ := cut.mem_line (by rw [he]; exact List.mem_append_right _ List.mem_cons_self)
    obtain ⟨k, hk, row, lands, -⟩ := stands first hm hv
    have below : moved first.span.row ≤ line := by omega
    refine ⟨below, fun hl _ opens => ?_, fun _ hl => Bool.noConfusion hl⟩
    have hl : moved first.span.row = line := hl
    obtain ⟨n, column, shown⟩ := found before first others he opens
      (by rw [List.length_map]; omega)
    rw [← Block.headerColumn?_eq_header?] at shown
    obtain ⟨rfl, next⟩ := header n shown
    exact ⟨column, next⟩

/-! ## A body -/

theorem Course.rowsOf_ne_nil (h : Course depth line parts) : Part.rowsOf parts ≠ [] := by
  cases h <;> simp [Part.rowsOf_cons]

/-- The rows of parts are a ladder. -/
theorem Course.passage (course : Course depth line parts) (ready : Ready s)
    (hr : s.rest = Part.rowsOf parts) (lands : Part.Lands moved s.row parts)
    (hcount : s.row + (parts.flatMap Part.rows).length ≤ count + 1)
    (follows : a.Follows ⟨line, true, depth, 0, False⟩) :
    ∃ c s', Passage moved count a s c s' ∧ s'.rest = [] := by
  induction course generalizing a s with
  | last =>
    rw [Part.rowsOf_cons] at hr
    obtain ⟨c, s', passage, rest, -⟩ := passage_literal ready hr lands.cons.1 (by simpa using hcount)
      follows
    exact ⟨c, s', passage, rest⟩
  | @literal depth line depth' line' t parts below after ih =>
    rw [Part.rowsOf_cons] at hr
    rw [List.flatMap_cons, List.length_append, ← Nat.add_assoc] at hcount
    obtain ⟨c, s₁, passage, rest, row, same, -, -, shut⟩ := passage_literal ready hr lands.cons.1
      (Nat.le_trans (Nat.le_add_right _ _) hcount) follows
    have row := row after.rowsOf_ne_nil
    have lands := lands.cons.2
    rw [← row] at lands hcount
    have order : c.line ≤ line' := by omega
    have follows : c.Follows ⟨line', true, depth', 0, False⟩ :=
      ⟨order, fun _ _ opens => absurd opens shut, fun _ hl => Bool.noConfusion hl⟩
    obtain ⟨c', s', further, none_⟩ := ih passage.ready rest lands hcount follows
    exact ⟨c', s', passage.trans further ready, none_⟩
  | @code depth line depth' line' outer start t rows tokens parts laid tokenized below within ends
      header after ih =>
    rw [Part.rowsOf_cons, Part.rowsOf_cons] at hr
    rw [List.flatMap_cons, List.flatMap_cons, List.length_append, List.length_append,
      ← Nat.add_assoc, ← Nat.add_assoc] at hcount
    have fits : s.row + (Part.literal depth line t).rows.length ≤ count + 1 := by omega
    obtain ⟨c, s₁, passage, rest, row, same, literal, hdepth, shut⟩ :=
      passage_literal ready hr lands.cons.1 fits follows
    have row := row (by simp)
    have lands := lands.cons.2
    rw [← row] at lands hcount
    obtain ⟨c₁, s₂, further, rest₂, row₂, follows⟩ := passage_code passage.ready laid tokenized rest
      lands.cons.1 (Nat.le_trans (Nat.le_add_right _ _) hcount) literal shut (by omega) (by omega) ends
      header
    have row₂ := row₂ after.rowsOf_ne_nil
    have lands := lands.cons.2
    rw [← row₂] at lands hcount
    obtain ⟨c', s', last, none_⟩ := ih further.ready rest₂ lands hcount follows
    exact ⟨c', s', passage.trans (further.trans last passage.ready) ready, none_⟩

/-! ## Statements of a body -/

theorem Script.Inside.notMem_stop {opens : Prop} {k : Nat} {items : List Item} {span : Span}
    (h : Inside opens k items) : .stop span ∉ items := by
  fun_induction Inside opens k items with
  | case1 => exact List.not_mem_nil
  | case2 opens k first others items ih =>
    exact fun hm => ih h.2 ((List.mem_cons.1 hm).resolve_left nofun)
  | case3 opens k s items ih => exact fun hm => ih h.2 ((List.mem_cons.1 hm).resolve_left nofun)
  | case4 => exact h.elim
  | case5 opens k s items ih => exact fun hm => ih h ((List.mem_cons.1 hm).resolve_left nofun)
  | case6 => exact h.elim

/-- The items that statements are read from come before the end of a script. -/
theorem prefix_of_holds {items taken rest : List Item} {stmts : List Stmt} {span : Span}
    (h : items ++ [.stop span] = taken ++ rest) (holds : Parse.Holds taken (.statements stmts)) :
    taken <+: items := by
  have inside : Inside False 1 (taken ++ []) := holds.stays 1 [] False Nat.one_pos trivial
  have more : rest ≠ [] := by
    rintro rfl
    rw [← h] at inside
    exact inside.notMem_stop (List.mem_append_right _ List.mem_cons_self)
  refine List.prefix_of_prefix_length_le (h ▸ List.prefix_append taken rest)
    (List.prefix_append items _) ?_
  have length := congrArg List.length h
  rw [List.length_append, List.length_append, List.length_singleton] at length
  have := List.length_pos_iff.2 more
  omega

theorem exists_of_parse {stmts : List Stmt} (h : Script.parse t = .ok stmts) :
    (Terminals.ofText t).ending = .complete ∧
      parseItems (Item.ofTerminals [] (Terminals.ofText t).list) = .ok stmts := by
  have parsed : parseStatements t = .ok stmts := by
    unfold Script.parse at h
    split at h
    · rename_i found
      rw [found, Except.ok.inj h]
    · cases h
  unfold parseStatements at parsed
  simp only at parsed
  split at parsed
  · rename_i complete
    exact ⟨complete, parsed⟩
  · cases parsed
  · cases parsed

theorem Course.notMem_rowsOf (h : Course depth line parts) :
    (13 : CodePoint) ∉ Part.rowsOf parts := by
  have source (p : Part) (hp : (13 : CodePoint) ∉ p.source) {v : Text} (hv : (13 : CodePoint) ∉ v) :
      (13 : CodePoint) ∉ p.source ++ 10 :: v := by
    rw [List.mem_append, List.mem_cons, not_or, not_or]
    exact ⟨hp, by decide, hv⟩
  induction h with
  | last =>
    rw [Part.rowsOf_cons]
    exact source _ Part.notMem_literal List.not_mem_nil
  | literal _ _ ih =>
    rw [Part.rowsOf_cons]
    exact source _ Part.notMem_literal ih
  | code laid _ _ _ _ _ _ ih =>
    rw [Part.rowsOf_cons, Part.rowsOf_cons]
    exact source _ Part.notMem_literal (source _ laid.notMem_source ih)

/-- The nodes of a body make sense on the lines that its parts come from. -/
theorem Course.lie {stmts : List Stmt} (course : Course 0 1 parts)
    (lands : Part.Lands moved 1 parts) (hcount : (parts.flatMap Part.rows).length ≤ count)
    (h : Script.parse (Part.rowsOf parts) = .ok stmts) : Lie moved count (nodesOf stmts) := by
  have feed : (Part.rowsOf parts).getLast? = some 10 := by
    have some_ := course.rowsOf_ne_nil
    rw [rowsOf_eq] at some_ ⊢
    exact getLast?_rows fun he => some_ (by rw [he]; rfl)
  obtain ⟨complete, parsed⟩ := exists_of_parse h
  rw [Terminals.ofText_eq, Terminals.lines_of_getLast? feed course.notMem_rowsOf] at complete parsed
  have ready : Ready (Scan.start (Part.rowsOf parts)) :=
    ⟨⟨rfl, rfl⟩, rfl, fun _ => Nat.one_pos, .inr feed, complete⟩
  have bound : 1 + (parts.flatMap Part.rows).length ≤ count + 1 := by omega
  have follows : (⟨0, true, 0, 0, False⟩ : Script.Standing).Follows ⟨1, true, 0, 0, False⟩ :=
    ⟨Nat.zero_le 1, fun he => absurd he Nat.zero_ne_one, fun he => absurd he Nat.zero_ne_one⟩
  obtain ⟨c, s', passage, rest⟩ := course.passage ready rfl lands bound follows
  obtain ⟨ts, leads, ladder⟩ := passage.ladder
  have idle := passage.ready.idle
  obtain ⟨n, kept, t, u, dedents, ht, hu, list⟩ :=
    Scan.all_of_idle idle rest passage.ready.complete
  -- the blocks that are left are ended behind the last line
  have climbs : Climbs s'.widths (List.replicate n t) (kept.map Prod.fst) :=
    Scan.climbs_dedents dedents ht
  obtain ⟨down, layout⟩ : Ladder moved count c s'.widths (Item.ofTerminals [] (List.replicate n t)) c
      (kept.map Prod.fst) ∧ _ :=
    Ladder.of_layout climbs fun x hx => .inr ((List.mem_replicate.1 hx).2 ▸ ht)
  rw [Scan.all_of_leads leads, Terminals.preceded, list,
    (leads.cut ready.idle idle ready.whole).append rfl, layout, (Item.ofTerminals_layout []).2.2 hu, ← List.append_assoc] at parsed
  obtain ⟨taken, rest, split, holds, -⟩ := Parse.holds_of_parseItems parsed
  obtain ⟨more, body⟩ := prefix_of_holds split holds
  have whole := ladder.append down
  rw [← body] at whole
  obtain ⟨b, vs, own, -⟩ := whole.split taken
  exact (holds.lies own).1

namespace Template

variable {d : Delimiters} {mode : Mode} {text : Text} {src : Source}

/-- The parts of a body, and how its line map moves their rows. -/
theorem exists_lands (h : compile d mode text = .ok src) :
    ∃ ps moved, Template.parts d mode text = .ok ps ∧ src.text = Part.rowsOf ps ∧
      (ps.flatMap Part.rows).length = src.lines.length ∧ Part.Lands moved 1 ps ∧
      LineMap.line (src.lines.map Int.ofNat) = fun row => (moved row : Int) := by
  cases hp : Template.parts d mode text with
  | error fault =>
    rw [compile, hp] at h
    cases h
  | ok ps =>
    rw [compile, hp] at h
    obtain rfl := Except.ok.inj h
    have ne := partsFrom_ne_nil hp
    have length : (ps.flatMap Part.rows).length = (ps.flatMap Part.lines).length := by
      rw [List.length_flatMap, List.length_flatMap]
      refine congrArg List.sum (List.map_congr_left fun p _ => ?_)
      rw [Origin.lines_eq_range', List.length_range']
    refine ⟨ps, fun row => (ps.flatMap Part.lines).getD
      (max 1 (min row (ps.flatMap Part.lines).length) - 1) 0, rfl, Part.text_ofParts ne, length,
      fun k line hk => ?_, ?_⟩
    · have inside := (List.getElem?_eq_some_iff.1 hk).1
      have index : max 1 (min (1 + k) (ps.flatMap Part.lines).length) - 1 = k := by omega
      simp only [index, List.getD_eq_getElem?_getD, hk, Option.getD_some]
    · obtain ⟨p, others, rfl⟩ := List.exists_cons_of_ne_nil ne
      have some_ : (((p :: others).flatMap Part.lines).map Int.ofNat).isEmpty = false := by
        rw [List.isEmpty_eq_false_iff, ← List.length_pos_iff, List.length_map, ← length,
          List.flatMap_cons, List.length_append]
        exact Nat.add_pos_left p.length_rows_pos _
      funext row
      simp only [LineMap.line, Source.ofParts, some_, List.length_map, Bool.false_eq_true, if_false,
        List.getD_eq_getElem?_getD, List.getElem?_map]
      exact Option.getD_map Int.ofNat 0 _

/-- Nothing in a body is out of place on the lines of its template: no node ends on a line above the
one that it begins on, or before the column that it begins at where both are on one line. -/
theorem moved_valid (paired : text.Paired) (compiled : compile d mode text = .ok src)
    {stmts : List Stmt} (parsed : Script.parse src.text = .ok stmts) :
    let moved : Nat → Int := LineMap.line (src.lines.map Int.ofNat)
    (∀ n ∈ nodesOf stmts,
      (1 ≤ n.span.row ∧ n.span.row ≤ src.lines.length) ∧
      (1 ≤ n.span.endRow ∧ n.span.endRow ≤ src.lines.length) ∧
      moved n.span.row ≤ moved n.span.endRow ∧
      (moved n.span.row = moved n.span.endRow → n.span.column ≤ n.span.endColumn)) ∧
    ∀ fault, firstFault? moved stmts = some fault → ∃ id, fault = .constant id := by
  intro line
  obtain ⟨ps, moved, hparts, body, count, lands, same⟩ := exists_lands compiled
  rw [body] at parsed
  have lie := (course_of_parts hparts paired).lie lands (Nat.le_of_eq count) parsed
  have moves (row : Nat) : line row = (moved row : Int) := congrFun same row
  refine ⟨fun n hn => ?_, fun fault hf => ?_⟩
  · obtain ⟨first, last, order, columns⟩ := lie n hn
    rw [moves, moves]
    exact ⟨first, last, Int.ofNat_le.2 order, fun he => columns (Int.ofNat_inj.1 he)⟩
  · obtain ⟨n, hn, found⟩ := List.exists_of_findSome?_eq_some hf
    obtain ⟨-, -, order, columns⟩ := lie n hn
    simp only [Node.fault?, moves] at found
    split at found
    · cases found
    · rw [if_neg (by omega), if_neg (by omega), if_neg (by omega)] at found
      obtain ⟨id, -, found⟩ := Option.bind_eq_some_iff.1 found
      split at found
      · exact ⟨id, (Option.some.inj found).symm⟩
      · cases found

/-- Two heads, literal text and a clause on one line of a template, and an inclusion on three. -/
theorem moved_valid_nested :
    let text : Text := "%\x7bfor i in x:\x7d%a%\x7bif i:\x7d%b%\x7belse:\x7d%" ++
      "%\x7b\r\ninclude(\r\ni)\x7d%%\x7bend\x7d%%\x7bend\x7d%"
    text.Paired ∧ ∃ src stmts, compile .standard .suspending text = .ok src ∧
      src.lines = [1, 1, 1, 1, 1, 1, 1, 2, 3, 3, 3, 3] ∧ Script.parse src.text = .ok stmts ∧
      ∀ fault, firstFault? (LineMap.line (src.lines.map Int.ofNat)) stmts = some fault →
        ∃ id, fault = .constant id := by
  intro text
  have paired : text.Paired := by decide +kernel
  have compiled : ∃ src, compile .standard .suspending text = .ok src ∧
      src.lines = [1, 1, 1, 1, 1, 1, 1, 2, 3, 3, 3, 3] ∧ (Script.parse src.text).toBool = true :=
    ⟨_, rfl, by decide +kernel, by decide +kernel⟩
  obtain ⟨src, compiled, lines, whole⟩ := compiled
  cases parsed : Script.parse src.text with
  | error fault => simp [parsed, Except.toBool] at whole
  | ok stmts =>
    exact ⟨paired, src, stmts, compiled, lines, parsed, (moved_valid paired compiled parsed).2⟩

end Template

end Stencil
