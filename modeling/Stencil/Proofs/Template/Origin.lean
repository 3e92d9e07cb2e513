import Mathlib.Data.List.Forall2
import Stencil.Proofs.Template.Balance
import Stencil.Proofs.Template.Print
import Stencil.Proofs.Text.Rows

/-!
# Where the rows of a body come from

Every row of the body of a procedure is made of a piece of the template. The line map sends a row to
the line of the template on which its piece begins, except that it also counts the carriage returns
alone that end rows of the same code section before it, which end no line of the template.

## Main definitions

* `Origin` — where a row of the body begins in the template; `Origin.Makes` says how the row is made
  of what stands there.
* `Template.origins` — the origins of all rows of the body of a template.

## Main results

* `Template.lines_origins` — the line map counts what stands before the origins of the rows.
* `Template.lines_exact` — the line map is exact where no section has a carriage return alone.
-/

namespace Stencil

open Script

/-! ## Origins -/

/-- Where a row of the body comes from. -/
structure Origin where
  /-- The template before the first code point that the row is made of. -/
  before : Text
  /-- The part of the template that the row is made of. -/
  piece : Text
  /-- How many rows of its section before it end in a carriage return alone. -/
  returns : Nat
  deriving DecidableEq

namespace Origin

/-- The line of the template on which an origin stands. -/
def line (o : Origin) : Nat := 1 + o.before.lineFeeds

/-- The row is what is left of a piece of the template when the word `await` is put in. -/
inductive Awaited (row : Text) : Text → Prop where
  | same : Awaited row row
  | await {u : Text} (column : Nat) (h : Awaited row u) :
      Awaited row (u.take column ++ "await " ++ u.drop column)

/-- How a row of the body is made of a piece of the template: literal text is escaped, and code is
indented anew, where the first row of a section may keep some of the blanks that it is laid out
with. -/
inductive Makes (piece : Text) : Text → Prop where
  | literal {opening closing : Text}
      (opens : opening = [] ∨ ∃ depth, opening = Part.indent depth ++ "write('")
      (closes : closing = "\\n\\" ∨ closing = "')") :
      Makes piece (opening ++ Literal.escapeText piece ++ closing)
  | code {row : Text} (depth blanks : Nat) (h : piece = [] → blanks = 0)
      (awaited : Awaited (List.replicate blanks 32 ++ piece) row) :
      Makes piece (Part.indentRow depth row)

/-- The origins of rows that stand one after another, each before what ends it. -/
def along (before : Text) (returns : Nat) : List (Text × Text) → List Origin
  | [] => []
  | (row, ending) :: rest =>
    ⟨before, row, returns⟩ ::
      along (before ++ row ++ ending) (returns + if ending = [13] then 1 else 0) rest

/-- The origin of a row that loses a margin and the blanks at its end. -/
def trimmed (width : Nat) (o : Origin) : Origin :=
  ⟨o.before ++ o.piece.take width, Text.stripEnd (o.piece.drop width), o.returns⟩

/-- The origins of the rows of a literal segment. -/
def ofLiteral (before literal : Text) : List Origin :=
  along before 0 (Text.withFeeds (Text.rows literal))

/-- The origins of all rows of code that stands at a column. -/
def laid (before code : Text) (column : Nat) : List Origin :=
  let margin := (Text.commonMargin (Text.rows
    (List.replicate column 32 ++ Text.unifyLineEnds code))).getD []
  match along before 0 (Text.endedRows code) with
  | [] => []
  | first :: others =>
    first.trimmed (margin.length - column) :: others.map (trimmed margin.length)

/-- The origins of the rows that are emitted for a code section. -/
def ofSection (before code : Text) : List Origin :=
  let column := (Place.first.after before).column
  let layout := Layout.ofCode code column
  match layout.kind with
  | .statements _ _ => ((laid before code column).drop layout.skipped).take layout.rows.length
  | .blank | .untokenizable _ | .close => []

end Origin

namespace Part

/-- The rows of a part. -/
def rows (p : Part) : List Text := Text.rows p.source

end Part

namespace Source

/-- The rows of a body, each of which ends in a line feed. -/
def rows (s : Source) : List Text := (Text.rows s.text).dropLast

end Source

namespace Template

/-- The origins of the rows for segments that stand after a text. -/
def originsFrom (d : Delimiters) (before : Text) : Segments → List Origin
  | .last literal => Origin.ofLiteral before literal
  | .unclosed _ _ => []
  | .next literal code rest =>
    let opened := before ++ literal ++ d.start
    Origin.ofLiteral before literal ++
      (Origin.ofSection opened code ++ originsFrom d (opened ++ code ++ d.stop) rest)

/-- The origins of the rows of the body of a template. -/
def origins (d : Delimiters) (text : Text) : List Origin :=
  originsFrom d [] (Segments.ofText d text)

end Template

/-! ## Where origins stand -/

namespace Origin

variable {before : Text} {returns : Nat} {rs : List (Text × Text)} {o : Origin}

/-- One origin ends before another begins. -/
def Precedes (a b : Origin) : Prop := a.before ++ a.piece <+: b.before

/-- Origins stand one after another inside a text. -/
structure Within (os : List Origin) (before whole : Text) : Prop where
  inside : ∀ o ∈ os, before <+: o.before ∧ o.before ++ o.piece <+: whole
  ordered : os.Pairwise Precedes

theorem within_nil (before whole : Text) : Within [] before whole := ⟨nofun, .nil⟩

theorem within_append {os qs : List Origin} {middle whole : Text} (ho : Within os before middle)
    (hq : Within qs middle whole) (h : before <+: middle) (k : middle <+: whole) :
    Within (os ++ qs) before whole := by
  refine ⟨fun o hm => ?_, List.pairwise_append.2 ⟨ho.ordered, hq.ordered, fun a ha b hb => ?_⟩⟩
  · rcases List.mem_append.1 hm with hm | hm
    · exact ⟨(ho.inside o hm).1, (ho.inside o hm).2.trans k⟩
    · exact ⟨h.trans (hq.inside o hm).1, (hq.inside o hm).2⟩
  · exact (ho.inside a ha).2.trans (hq.inside b hb).1

theorem Within.mono {os : List Origin} {before' whole whole' : Text} (h : Within os before whole)
    (hb : before' <+: before) (hw : whole <+: whole') : Within os before' whole' :=
  ⟨fun o ho => ⟨hb.trans (h.inside o ho).1, (h.inside o ho).2.trans hw⟩, h.ordered⟩

theorem within_along (before : Text) (returns : Nat) (rs : List (Text × Text)) :
    Within (along before returns rs) before (before ++ rs.flatMap fun r => r.1 ++ r.2) := by
  induction rs generalizing before returns with
  | nil => exact within_nil _ _
  | cons r rs ih =>
    obtain ⟨row, ending⟩ := r
    have rest := ih (before ++ row ++ ending) (returns + if ending = [13] then 1 else 0)
    rw [List.flatMap_cons, ← List.append_assoc, ← List.append_assoc]
    refine ⟨List.forall_mem_cons.2 ⟨⟨List.prefix_refl _, ?_⟩, fun o ho => ?_⟩,
      .cons (fun b hb => ?_) rest.ordered⟩
    · rw [List.append_assoc]
      exact List.prefix_append _ _
    · refine ⟨List.IsPrefix.trans ?_ (rest.inside o ho).1, (rest.inside o ho).2⟩
      rw [List.append_assoc]
      exact List.prefix_append _ _
    · exact (List.prefix_append _ _).trans (rest.inside b hb).1

theorem trimmed_inside (width : Nat) (o : Origin) :
    o.before <+: (o.trimmed width).before ∧
      (o.trimmed width).before ++ (o.trimmed width).piece <+: o.before ++ o.piece := by
  refine ⟨List.prefix_append _ _, ?_⟩
  have whole : o.before ++ o.piece = o.before ++ o.piece.take width ++ o.piece.drop width := by
    rw [List.append_assoc, List.take_append_drop]
  rw [whole]
  exact (List.prefix_append_right_inj _).2 (Text.stripEnd_prefix _)

/-- Origins stay where they are when each one of them shrinks. -/
theorem within_shrunk {os qs : List Origin} {whole : Text} (h : Within os before whole)
    (hq : List.Forall₂ (fun o q => o.before <+: q.before ∧ q.before ++ q.piece <+: o.before ++ o.piece)
      os qs) : Within qs before whole := by
  induction hq with
  | nil => exact within_nil _ _
  | @cons o q os qs hoq hq ih =>
    obtain ⟨hin, hos⟩ := List.forall_mem_cons.1 h.inside
    obtain ⟨hfirst, hpairs⟩ := List.pairwise_cons.1 h.ordered
    have rest := ih ⟨hos, hpairs⟩
    refine ⟨List.forall_mem_cons.2 ⟨⟨hin.1.trans hoq.1, hoq.2.trans hin.2⟩, rest.inside⟩,
      .cons (fun b hb => ?_) rest.ordered⟩
    obtain ⟨k, hk, rfl⟩ := List.mem_iff_getElem.1 hb
    have hlen : k < os.length := hq.length_eq ▸ hk
    have hpair := hq.get hlen hk
    exact (hoq.2.trans (hfirst _ (List.getElem_mem hlen))).trans hpair.1

theorem within_sublist {os qs : List Origin} {whole : Text} (h : Within os before whole)
    (hq : qs.Sublist os) : Within qs before whole :=
  ⟨fun o ho => h.inside o (hq.subset ho), h.ordered.sublist hq⟩

theorem shrunk_laid (before code : Text) (column : Nat) :
    List.Forall₂ (fun o q => o.before <+: q.before ∧ q.before ++ q.piece <+: o.before ++ o.piece)
      (along before 0 (Text.endedRows code)) (laid before code column) := by
  unfold laid
  cases along before 0 (Text.endedRows code) with
  | nil => exact .nil
  | cons first others =>
    refine .cons (trimmed_inside _ _) ?_
    rw [List.forall₂_map_right_iff]
    exact List.forall₂_same.2 fun o _ => trimmed_inside _ _

theorem within_ofSection (before code : Text) :
    Within (ofSection before code) before (before ++ code) := by
  unfold ofSection
  generalize (Place.first.after before).column = column
  simp only
  split
  · have along_ := within_along before 0 (Text.endedRows code)
    rw [Text.flatMap_endedRows] at along_
    have laid_ := within_shrunk along_ (shrunk_laid before code column)
    exact within_sublist laid_ ((List.take_sublist _ _).trans (List.drop_sublist _ _))
  all_goals exact within_nil _ _

theorem within_ofLiteral (before literal : Text) :
    Within (ofLiteral before literal) before (before ++ literal) := by
  have along_ := within_along before 0 (Text.withFeeds (Text.rows literal))
  rwa [Text.flatMap_withFeeds, Text.joinRows_rows] at along_

/-! ## Lines -/

/-- Each row stands on the line after that of the row before, if a carriage return alone counts as
the end of a line. -/
theorem lines_along (before : Text) (returns : Nat) {rs : List (Text × Text)}
    (h : Text.Ended rs) :
    (along before returns rs).map (fun o => o.line + o.returns) =
      List.range' (1 + before.lineFeeds + returns) rs.length := by
  induction rs generalizing before returns with
  | nil => rfl
  | cons r rs ih =>
    obtain ⟨row, ending⟩ := r
    obtain ⟨hrow, hrows⟩ := List.forall_mem_cons.1 h.rows
    cases rs with
    | nil => rfl
    | cons next rs =>
      have hends := h.ends
      rw [List.dropLast_cons_of_ne_nil (List.cons_ne_nil _ _), List.forall_mem_cons] at hends
      have rest := ih (before ++ row ++ ending) (returns + if ending = [13] then 1 else 0)
        ⟨hrows, hends.2⟩
      have feeds : 1 + (before ++ row ++ ending).lineFeeds +
          (returns + if ending = [13] then 1 else 0) = 1 + before.lineFeeds + returns + 1 := by
        rw [Text.lineFeeds_append, Text.lineFeeds_append, Terminals.Scan.lineFeeds_of_notMem hrow]
        have := hends.1
        simp only at this
        omega
      rw [along, List.map_cons, rest, feeds, List.length_cons, List.range'_succ]
      rfl

end Origin

namespace Origin

/-- The row is a piece of the template behind blanks that it is laid out with. -/
def Keeps (o : Origin) (row : Text) : Prop :=
  ∃ blanks, (o.piece = [] → blanks = 0) ∧ row = List.replicate blanks 32 ++ o.piece

theorem map_piece_along (before : Text) (returns : Nat) (rs : List (Text × Text)) :
    (along before returns rs).map piece = rs.map Prod.fst := by
  induction rs generalizing before returns with
  | nil => rfl
  | cons r rs ih => simp only [along, List.map_cons, ih]

theorem keeps_trimmed (width : Nat) (o : Origin) :
    Keeps (o.trimmed width) (Text.stripEnd (o.piece.drop width)) :=
  ⟨0, fun _ => rfl, rfl⟩

theorem keeps_first (width column : Nat) (o : Origin) :
    Keeps (o.trimmed (width - column))
      (Text.stripEnd ((List.replicate column 32 ++ o.piece).drop width)) := by
  obtain ⟨blanks, hb, hs⟩ := Layout.stripEnd_blanks (column - width) (o.piece.drop (width - column))
  refine ⟨blanks, hb, ?_⟩
  rw [List.drop_append, List.drop_replicate, List.length_replicate]
  exact hs

/-- The rows of a laid out section are what their origins say. -/
theorem keeps_laid (before code : Text) (column : Nat) :
    List.Forall₂ Keeps (laid before code column)
      ((Text.dedent (Text.rows (List.replicate column 32 ++ Text.unifyLineEnds code))).map
        Text.stripEnd) := by
  rw [Layout.map_dedent]
  have feeds : (10 : CodePoint) ∉ List.replicate column (32 : CodePoint) := by simp
  have pieces := map_piece_along before 0 (Text.endedRows code)
  rw [← Text.rows_unifyLineEnds] at pieces
  simp only [laid]
  generalize ((Text.commonMargin (Text.rows
    (List.replicate column 32 ++ Text.unifyLineEnds code))).getD []).length = width
  rw [Text.rows_append feeds, ← pieces]
  have some_ : Text.rows code.unifyLineEnds ≠ [] := Text.splitOn_ne_nil '\n' _
  cases ha : along before 0 (Text.endedRows code) with
  | nil =>
    rw [ha] at pieces
    exact absurd pieces.symm some_
  | cons first others =>
    simp only [List.map_cons, List.headD_cons, List.tail_cons, List.map_map]
    refine .cons (keeps_first width column first) ?_
    rw [List.forall₂_map_left_iff, List.forall₂_map_right_iff]
    exact List.forall₂_same.2 fun o _ => keeps_trimmed width o

/-! ## Rows of parts -/

theorem notMem_escapeText {t : Text} (h : (10 : CodePoint) ∉ t) :
    (10 : CodePoint) ∉ Literal.escapeText t := by
  have feeds := Literal.lineFeeds_escapeText t
  rw [Terminals.Scan.lineFeeds_of_notMem h] at feeds
  exact List.count_eq_zero.1 feeds

/-- The rows of a statement that writes a text are made of the rows of the text. -/
theorem makes_escaped {rs : List Text} (hne : rs ≠ []) (h : ∀ row ∈ rs, (10 : CodePoint) ∉ row)
    (before opening : Text) (returns : Nat) (hopening : (10 : CodePoint) ∉ opening)
    (opens : opening = [] ∨ ∃ depth, opening = Part.indent depth ++ "write('") :
    List.Forall₂ (fun o row => Makes o.piece row) (along before returns (Text.withFeeds rs))
      (Text.rows (opening ++ Literal.escapeText (Text.joinRows rs) ++ "')")) := by
  induction rs generalizing before opening returns with
  | nil => exact absurd rfl hne
  | cons row rs ih =>
    obtain ⟨hrow, hrs⟩ := List.forall_mem_cons.1 h
    have first : (10 : CodePoint) ∉ opening ++ Literal.escapeText row := by
      rw [List.mem_append, not_or]
      exact ⟨hopening, notMem_escapeText hrow⟩
    cases rs with
    | nil =>
      have closed : (10 : CodePoint) ∉ opening ++ Literal.escapeText row ++ Text.ofString "')" := by
        rw [List.mem_append, not_or]
        exact ⟨first, by decide⟩
      have joined : Text.joinRows [row] = row := rfl
      rw [joined, Terminals.Scan.rows_of_notMem closed]
      exact .cons (.literal opens (.inr rfl)) .nil
    | cons next rs =>
      have continued : (10 : CodePoint) ∉
          opening ++ Literal.escapeText row ++ Text.ofString "\\n\\" := by
        rw [List.mem_append, not_or]
        exact ⟨first, by decide⟩
      have joined : opening ++ Literal.escapeText (Text.joinRows (row :: next :: rs)) ++
          Text.ofString "')" =
            (opening ++ Literal.escapeText row ++ Text.ofString "\\n\\") ++ 10 ::
              ([] ++ Literal.escapeText (Text.joinRows (next :: rs)) ++ Text.ofString "')") := by
        have hjoin : Text.joinRows (row :: next :: rs) =
            row ++ ([10] ++ Text.joinRows (next :: rs)) := List.append_assoc row [10] _
        have feed : Literal.escapeText [10] = Text.ofString "\\n\\" ++ [10] := by decide
        simp only [hjoin, Literal.escapeText, List.flatMap_append] at feed ⊢
        rw [feed]
        simp
      rw [joined, Text.rows_append_lineFeed, Terminals.Scan.rows_of_notMem continued]
      exact .cons (.literal opens (.inl rfl))
        (ih (List.cons_ne_nil _ _) hrs _ [] _ List.not_mem_nil (.inl rfl))

theorem makes_literal (before t : Text) (depth line : Nat) :
    List.Forall₂ (fun o row => Makes o.piece row) (ofLiteral before t)
      ((Part.literal depth line t).rows) := by
  have some_ : Text.rows t ≠ [] := Text.splitOn_ne_nil '\n' _
  have opening : (10 : CodePoint) ∉ Part.indent depth ++ Text.ofString "write('" := by
    rw [List.mem_append, not_or]
    exact ⟨by simp [Part.indent], by decide⟩
  have made := makes_escaped some_ (fun row => Text.notMem_of_mem_rows) before
    (Part.indent depth ++ "write('") 0 opening (.inr ⟨depth, rfl⟩)
  rw [Text.joinRows_rows] at made
  simpa [Part.rows, Part.source, Literal.statement, ofLiteral] using made

/-! ## Awaiting keeps the rows -/

theorem notMem_awaited {row u : Text} {c : CodePoint} (word : c ∉ Text.ofString "await ")
    (h : c ∉ row) (hu : Awaited row u) : c ∉ u := by
  induction hu with
  | same => exact h
  | @await u column hu ih =>
    simp only [List.mem_append, not_or]
    exact ⟨⟨fun hm => ih (List.mem_of_mem_take hm), word⟩, fun hm => ih (List.mem_of_mem_drop hm)⟩

theorem awaited_awaitAt {rows us : List Text} (p : Pos) (h : List.Forall₂ Awaited rows us) :
    List.Forall₂ Awaited rows (Block.awaitAt p us) := by
  unfold Block.awaitAt
  generalize p.row - 1 = n
  induction h generalizing n with
  | nil => cases n <;> exact .nil
  | @cons row u rows us hu hus ih =>
    cases n with
    | zero => exact .cons (.await p.column hu) hus
    | succ n => exact .cons hu (ih n)

theorem awaited_emitted (mode : Mode) (rows : List Text) (tokens : List Token) :
    List.Forall₂ Awaited rows (Template.emitted mode rows tokens) := by
  have same : List.Forall₂ Awaited rows rows := List.forall₂_same.2 fun row _ => .same
  cases mode with
  | blocking => exact same
  | suspending =>
    unfold Template.emitted Block.awaitCalls
    simp only
    generalize Block.includeCalls none (tokens.filter Token.significant) = places
    induction places with
    | nil => exact same
    | cons p places ih => exact awaited_awaitAt p ih

/-! ## Rows of sections -/

theorem rows_code {depth line : Nat} {rows : List Text} (hne : rows ≠ [])
    (h : ∀ row ∈ rows, (10 : CodePoint) ∉ row) :
    (Part.code depth line rows).rows = rows.map (Part.indentRow depth) := by
  refine Text.rows_joinRows (by simpa using hne) fun row hrow => ?_
  obtain ⟨u, hu, rfl⟩ := List.mem_map.1 hrow
  unfold Part.indentRow
  split
  · exact List.not_mem_nil
  · rw [List.mem_append, not_or]
    exact ⟨by simp [Part.indent], h u hu⟩

theorem keeps_layout (before code : Text) (column : Nat) :
    List.Forall₂ Keeps
      (((laid before code column).drop (Layout.ofCode code column).skipped).take
        (Layout.ofCode code column).rows.length) (Layout.ofCode code column).rows := by
  have kept := List.forall₂_take (Layout.ofCode code column).rows.length
    (List.forall₂_drop (Layout.ofCode code column).skipped (keeps_laid before code column))
  rw [Layout.ofCode, ← Layout.rows_trim] at kept
  exact kept

end Origin

namespace Layout

/-- No row of a layout holds a line feed. -/
theorem notMem_of_mem_rows {code row : Text} {column : Nat} (h : row ∈ (ofCode code column).rows) :
    (10 : CodePoint) ∉ row := by
  rw [ofCode, rows_trim, map_dedent] at h
  obtain ⟨u, hu, rfl⟩ := List.mem_map.1 (List.mem_of_mem_drop (List.mem_of_mem_take h))
  intro hm
  exact Text.notMem_of_mem_rows hu (List.mem_of_mem_drop ((Text.stripEnd_prefix _).subset hm))

end Layout

namespace Origin

variable {mode : Mode} {depth depth' line : Nat} {before code : Text}

theorem forall_notMem_awaited {rows us : List Text} {c : CodePoint}
    (word : c ∉ Text.ofString "await ") (h : List.Forall₂ Awaited rows us)
    (hrows : ∀ row ∈ rows, c ∉ row) : ∀ u ∈ us, c ∉ u := by
  induction h with
  | nil => exact nofun
  | cons hu hus ih =>
    obtain ⟨hrow, hrows⟩ := List.forall_mem_cons.1 hrows
    exact List.forall_mem_cons.2 ⟨notMem_awaited word hrow hu, ih hrows⟩

/-- What is emitted for rows is made of the pieces that they keep. -/
theorem makes_emitted {os : List Origin} {rows us : List Text} (hrows : List.Forall₂ Keeps os rows)
    (hus : List.Forall₂ Awaited rows us) :
    List.Forall₂ (fun o row => Makes o.piece row) os (us.map (Part.indentRow depth)) := by
  induction hrows generalizing us with
  | nil =>
    cases hus
    exact .nil
  | cons hrow hrows ih =>
    cases hus with
    | cons hu hus =>
      obtain ⟨blanks, hb, rfl⟩ := hrow
      exact .cons (.code depth blanks hb hu) (ih hus)

theorem lines_eq_range' (p : Part) : p.lines = List.range' p.line p.rows.length := by
  rw [Part.rows, Text.length_rows]
  rfl

theorem line_trimmed (width : Nat) {o : Origin} (h : (10 : CodePoint) ∉ o.piece) :
    (o.trimmed width).line = o.line := by
  have taken : Text.lineFeeds (o.piece.take width) = 0 :=
    Terminals.Scan.lineFeeds_of_notMem fun hm => h (List.mem_of_mem_take hm)
  rw [line, trimmed, Text.lineFeeds_append, taken]
  rfl

/-- All rows of a section stand on lines of their own, one after another. -/
theorem lines_laid (before code : Text) (column : Nat) :
    (laid before code column).map (fun o => o.line + o.returns) =
      List.range' (1 + before.lineFeeds) (Text.endedRows code).length := by
  have counted := lines_along before 0 (Text.ended_endedRows code)
  have pieces := map_piece_along before 0 (Text.endedRows code)
  have flat : ∀ o ∈ along before 0 (Text.endedRows code), (10 : CodePoint) ∉ o.piece := by
    intro o ho
    have hm : o.piece ∈ (Text.endedRows code).map Prod.fst := by
      rw [← pieces]
      exact List.mem_map_of_mem ho
    obtain ⟨r, hr, he⟩ := List.mem_map.1 hm
    rw [← he]
    exact Text.notMem_of_mem_endedRows hr
  simp only [Nat.add_zero] at counted
  rw [← counted]
  simp only [laid]
  generalize ((Text.commonMargin (Text.rows
    (List.replicate column 32 ++ Text.unifyLineEnds code))).getD []).length = width
  cases ha : along before 0 (Text.endedRows code) with
  | nil => rfl
  | cons first others =>
    rw [ha] at flat
    obtain ⟨hfirst, hothers⟩ := List.forall_mem_cons.1 flat
    simp only [List.map_cons, List.map_map, line_trimmed _ hfirst]
    refine congrArg₂ List.cons rfl (List.map_congr_left fun o ho => ?_)
    simp only [Function.comp, line_trimmed _ (hothers o ho)]
    rfl

/-- The part of a section is made of the section, and its rows are mapped to the lines on which
their pieces begin, if a carriage return alone ends a line. -/
theorem origins_section {part : Option Part}
    (h : Template.sectionPart mode depth (Place.first.after before) code = .ok (part, depth')) :
    List.Forall₂ (fun o row => Makes o.piece row) (ofSection before code)
        (part.toList.flatMap Part.rows) ∧
      part.toList.flatMap Part.lines = (ofSection before code).map fun o => o.line + o.returns := by
  obtain ⟨rfl, hk⟩ | ⟨tokens, continuation, opening, hne, ht, hk, rfl⟩ :=
    Template.sectionPart_eq_ok rfl h
  · have none_ : ofSection before code = [] := by
      unfold ofSection
      rcases hk with hk | hk <;> simp only [hk]
    rw [none_]
    exact ⟨.nil, rfl⟩
  · have some_ : ofSection before code =
        ((laid before code (Place.first.after before).column).drop
          (Layout.ofCode code (Place.first.after before).column).skipped).take
            (Layout.ofCode code (Place.first.after before).column).rows.length := by
      unfold ofSection
      simp only [hk]
    have feeds := fun row => @Layout.notMem_of_mem_rows code row (Place.first.after before).column
    have keeps := keeps_layout before code (Place.first.after before).column
    have awaited := awaited_emitted mode (Layout.ofCode code (Place.first.after before).column).rows
      tokens
    revert hne feeds keeps awaited
    rw [some_]
    generalize hl : Layout.ofCode code (Place.first.after before).column = l
    intro hne feeds keeps awaited
    have ne : Template.emitted mode l.rows tokens ≠ [] := by
      intro he
      rw [he] at awaited
      cases hr : l.rows with
      | nil => exact hne hr
      | cons row rows =>
        rw [hr] at awaited
        cases awaited
    have rows_ : (Part.code (if continuation.isSome then depth - 1 else depth)
        ((Place.first.after before).line + l.skipped)
        (Template.emitted mode l.rows tokens)).rows = _ :=
      rows_code ne (forall_notMem_awaited (by decide) awaited feeds)
    refine ⟨?_, ?_⟩
    · simp only [Option.toList_some, List.flatMap_cons, List.flatMap_nil, List.append_nil, rows_]
      exact makes_emitted keeps awaited
    · have length := keeps.length_eq
      rw [List.length_take, List.length_drop] at length
      have counted := lines_laid before code (Place.first.after before).column
      have all := congrArg List.length counted
      rw [List.length_map, List.length_range'] at all
      rw [List.map_take, List.map_drop, counted, List.drop_range',
        List.take_range'_of_length_ge (by omega)]
      simp only [Option.toList_some, List.flatMap_cons, List.flatMap_nil, List.append_nil]
      rw [lines_eq_range', rows_, List.length_map, ← awaited.length_eq, Part.line,
        Place.line_after, Nat.mul_one]
      rfl

theorem lines_ofLiteral (before t : Text) (depth : Nat) :
    (Part.literal depth (Place.first.after before).line t).lines =
      (ofLiteral before t).map fun o => o.line + o.returns := by
  have made := makes_literal before t depth (Place.first.after before).line
  have ended := Text.ended_withFeeds fun row hr => Text.notMem_of_mem_rows (t := t) hr
  have counted := lines_along before 0 ended
  have length := congrArg List.length counted
  rw [List.length_map, List.length_range'] at length
  rw [ofLiteral, counted, lines_eq_range', ← made.length_eq, ofLiteral, length, Part.line,
    Place.line_after]
  rfl

end Origin

namespace Template

open Origin

variable {d : Delimiters} {mode : Mode}

/-- The parts for segments are made of the segments, in their order. -/
theorem origins_parts {segments : Segments} {depth : Nat} {before : Text} {parts : List Part}
    (h : partsFrom d mode depth (Place.first.after before) segments = .ok parts) :
    List.Forall₂ (fun o row => Makes o.piece row) (originsFrom d before segments)
        (parts.flatMap Part.rows) ∧
      parts.flatMap Part.lines =
        (originsFrom d before segments).map fun o => o.line + o.returns := by
  induction segments generalizing depth before parts with
  | last literal =>
    unfold partsFrom at h
    split at h
    · obtain rfl := Except.ok.inj h
      simp only [List.flatMap_cons, List.flatMap_nil, List.append_nil]
      exact ⟨makes_literal before literal depth _, lines_ofLiteral before literal depth⟩
    · simp at h
  | unclosed literal code => simp [partsFrom] at h
  | next literal code rest ih =>
    unfold partsFrom at h
    simp only [← Place.after_append] at h
    split at h
    · simp at h
    · rename_i part depth' hp
      split at h
      · simp at h
      · rename_i parts' hr
        obtain rfl := Except.ok.inj h
        obtain ⟨made, counted⟩ := origins_section hp
        obtain ⟨madeRest, countedRest⟩ := ih hr
        rw [originsFrom, List.flatMap_cons, List.flatMap_append, List.flatMap_cons,
          List.flatMap_append, List.map_append, List.map_append]
        refine ⟨?_, ?_⟩
        · exact List.rel_append (makes_literal before literal depth _)
            (List.rel_append made madeRest)
        · rw [lines_ofLiteral, counted, countedRest]

theorem within_origins (d : Delimiters) (before : Text) (segments : Segments) :
    Within (originsFrom d before segments) before (before ++ segments.text d) := by
  induction segments generalizing before with
  | last literal => exact within_ofLiteral before literal
  | unclosed literal code => exact within_nil _ _
  | next literal code rest ih =>
    have literal_ := within_ofLiteral before literal
    have section_ := within_ofSection (before ++ literal ++ d.start) code
    have rest_ := ih (before ++ literal ++ d.start ++ code ++ d.stop)
    have opened : before ++ literal <+: before ++ literal ++ d.start := List.prefix_append _ _
    have closed : before ++ literal ++ d.start ++ code <+:
        before ++ literal ++ d.start ++ code ++ d.stop := List.prefix_append _ _
    have whole : before ++ (Segments.next literal code rest).text d =
        before ++ literal ++ d.start ++ code ++ d.stop ++ rest.text d := by
      simp [Segments.text]
    rw [whole, originsFrom]
    refine within_append (literal_.mono (List.prefix_refl _) opened) ?_
      ((List.prefix_append _ _).trans opened) ?_
    · exact within_append (section_.mono (List.prefix_refl _) closed) rest_
        ((List.prefix_append _ _).trans closed) (List.prefix_append _ _)
    · exact (List.prefix_append _ _).trans (closed.trans (List.prefix_append _ _))

theorem rows_ofParts {parts : List Part} (h : parts ≠ []) :
    (Source.ofParts parts).rows = parts.flatMap Part.rows := by
  have all (ps : List Part) : Text.rows (Part.rowsOf ps) = ps.flatMap Part.rows ++ [[]] := by
    induction ps with
    | nil => rfl
    | cons p ps ih =>
      rw [Part.rowsOf_cons, Text.rows_append_lineFeed, ih, List.flatMap_cons, List.append_assoc]
      rfl
  rw [Source.rows, Part.text_ofParts h, all, List.dropLast_concat]

theorem partsFrom_ne_nil {segments : Segments} {depth : Nat} {place : Place} {parts : List Part}
    (h : partsFrom d mode depth place segments = .ok parts) : parts ≠ [] := by
  unfold partsFrom at h
  split at h
  · split at h
    · obtain rfl := Except.ok.inj h
      exact List.cons_ne_nil _ _
    · simp at h
  · simp at h
  · simp only at h
    split at h
    · simp at h
    · split at h
      · simp at h
      · obtain rfl := Except.ok.inj h
        exact List.cons_ne_nil _ _

/-- The rows of a body are made of the pieces at their origins, and the line map counts the line
feeds, and the carriage returns alone in sections, that stand before them. -/
theorem lines_origins {text : Text} {s : Source} (h : compile d mode text = .ok s) :
    List.Forall₂ (fun o row => Makes o.piece row) (origins d text) s.rows ∧
      s.lines = (origins d text).map fun o => o.line + o.returns := by
  unfold compile at h
  cases hp : parts d mode text with
  | error e => simp [hp, Except.map] at h
  | ok ps =>
    rw [hp] at h
    obtain rfl := Except.ok.inj h
    rw [parts] at hp
    rw [rows_ofParts (partsFrom_ne_nil hp)]
    have place : Place.first = Place.first.after [] := rfl
    rw [place] at hp
    exact origins_parts hp

theorem length_lines {text : Text} {s : Source} (h : compile d mode text = .ok s) :
    s.lines.length = s.text.lineFeeds := by
  obtain ⟨made, counted⟩ := lines_origins h
  have rows_ : s.rows.length = s.text.lineFeeds := by
    rw [Source.rows, List.length_dropLast, Text.length_rows]
    rfl
  rw [counted, List.length_map, made.length_eq, rows_]

theorem lineFeeds_le {t u : Text} (h : t <+: u) : t.lineFeeds ≤ u.lineFeeds :=
  h.sublist.count_le _

/-- The line map is exact: it has one entry for each row of the body, and where no carriage return
alone ends a row of a section before it, the entry is the line on which the piece begins that the row
is made of. -/
theorem lines_exact {text : Text} {s : Source} (h : compile d mode text = .ok s)
    (alone : ∀ o ∈ origins d text, o.returns = 0) :
    s.lines.length = s.text.lineFeeds ∧
      List.Forall₂ (fun o row => Makes o.piece row) (origins d text) s.rows ∧
      (∀ o ∈ origins d text, o.before ++ o.piece <+: text) ∧
      s.lines = (origins d text).map (fun o => 1 + o.before.lineFeeds) ∧
      s.lines.Pairwise (· ≤ ·) ∧
      ∀ line ∈ s.lines, 1 ≤ line ∧ line ≤ 1 + text.lineFeeds := by
  obtain ⟨made, counted⟩ := lines_origins h
  have lines_ : s.lines = (origins d text).map fun o => 1 + o.before.lineFeeds := by
    rw [counted]
    refine List.map_congr_left fun o ho => ?_
    rw [alone o ho]
    rfl
  have within : Within (origins d text) [] text := by
    have all := within_origins d [] (Segments.ofText d text)
    rwa [List.nil_append, Segments.ofText, Segments.text_scan] at all
  refine ⟨length_lines h, made, fun o ho => (within.inside o ho).2, lines_, ?_, ?_⟩
  · rw [lines_, List.pairwise_map]
    refine within.ordered.imp fun hab => Nat.add_le_add_left (lineFeeds_le ?_) 1
    exact (List.prefix_append _ _).trans hab
  · rw [lines_]
    intro line hm
    obtain ⟨o, ho, rfl⟩ := List.mem_map.1 hm
    refine ⟨Nat.le_add_right _ _, Nat.add_le_add_left (lineFeeds_le ?_) 1⟩
    exact (List.prefix_append _ _).trans (within.inside o ho).2

/-- A section of two rows, which a carriage return and a line feed separate, between two literals. -/
theorem lines_exact_section :
    ∃ s, compile .standard .blocking "a\n%\x7bx\r\ny\x7d%b" = .ok s ∧
      (∀ o ∈ origins .standard "a\n%\x7bx\r\ny\x7d%b", o.returns = 0) ∧
      s.lines = [1, 2, 2, 3, 3] := by
  have alone : ∀ o ∈ origins .standard "a\n%\x7bx\r\ny\x7d%b", o.returns = 0 := by decide +kernel
  have compiled : ∃ s, compile .standard .blocking "a\n%\x7bx\r\ny\x7d%b" = .ok s :=
    ⟨_, rfl⟩
  obtain ⟨s, hs⟩ := compiled
  refine ⟨s, hs, alone, (lines_exact hs alone).2.2.2.1.trans (by decide +kernel)⟩

end Template

end Stencil
