import Stencil.Proofs.Script.Lines
import Stencil.Proofs.Script.Parsed
import Stencil.Template.Block

/-!
# The block that a section leaves open

Blocks are found by the tokens of a section, the last of which is a colon where the section leaves a
block open. For rows of statements this is exact: a complete list of statements never ends in a
colon, and the head of a compound statement without its block always does; the column that is found
is that of the head. Rows are indented by spaces here, and no statement begins with a row that holds
nothing but a backslash: the tokens do not tell how such a row indents the statement.

## Main definitions

* `Block.source` — rows as a script of their own.
* `Block.LeavesOpen` — the last line of rows is a head without a block.

## Main results

* `Block.headerColumn?_exact` — what is found at the end of rows of statements.
* `Block.headerColumn?_padded` — a nested head whose own row is not indented.
-/

namespace Stencil.Block

open Script Script.Terminals

variable {rows : List Text} {ts : List Token} {first : Terminal} {others : List Terminal}
  {items after : List Item} {o : Outlook} {stmts : List Stmt}

/-- Rows as a script of their own. -/
def source (rows : List Text) : Text := rows.flatMap (· ++ [10])

/-- The items of rows that are a script of their own. -/
def itemsOf (rows : List Text) : List Item :=
  Item.ofTerminals [] (Terminals.ofText (source rows)).list

/-- No statement begins with a row that holds nothing but a backslash. -/
def Unpadded (rows : List Text) : Prop :=
  ∀ before t after ts, rows = before ++ t :: after → Scan.Joint t → tokenize before ≠ .ok ts

/-- The last line of rows is the head of a compound statement, or of a clause of one, that has no
block; the items in `after` follow it. -/
structure LeavesOpen (rows : List Text) (first : Terminal) (others : List Terminal)
    (after : List Item) : Prop where
  complete : (Terminals.ofText (source rows)).ending = .complete
  items : ∃ before, itemsOf rows = before ++ .line first others :: after
  last : ∀ item ∈ after, ∀ first others, item ≠ .line first others
  head : ∃ start head, Parse.lineClause first others = .ok (.opened start head [])

/-- A block ends among the items. -/
def EndsBlock (items : List Item) : Prop := ∃ span, .dedent span ∈ items

/-! ## Tokens and outlooks -/

theorem ends_looks (head last : Option Token) (fresh : Bool) (ts : List Token) :
    ∃ fresh', ts.foldl Outlook.token ⟨head.map (·.start.column), last.any (·.isOp ":"), fresh⟩ =
      ⟨(ends head last fresh ts).1.map (·.start.column),
        (ends head last fresh ts).2.any (·.isOp ":"), fresh'⟩ := by
  induction ts generalizing head last fresh with
  | nil => exact ⟨fresh, rfl⟩
  | cons t ts ih =>
    rw [List.foldl_cons, Outlook.token, ends]
    split
    · exact ih head last true
    · split
      · have sign : Outlook.sign t.start.column (t.isOp ":")
            ⟨head.map (·.start.column), last.any (·.isOp ":"), fresh⟩ =
            ⟨(if fresh then some t else head).map (·.start.column), (some t).any (·.isOp ":"),
              false⟩ := by
          cases fresh <;> rfl
        rw [sign]
        exact ih _ _ _
      · exact ih head last fresh

/-- The header is where the outlook after the tokens sees it. -/
theorem headerColumn?_eq_header? (ts : List Token) :
    headerColumn? ts = (ts.foldl Outlook.token .initial).header? := by
  obtain ⟨fresh', he⟩ := ends_looks none none true ts
  have start : Outlook.initial = ⟨(none : Option Token).map (·.start.column),
      (none : Option Token).any (·.isOp ":"), true⟩ := rfl
  rw [headerColumn?, start, he, Outlook.header?]
  rcases hends : ends none none true ts with ⟨head, last⟩
  cases head <;> cases last <;> simp

/-! ## Rows -/

theorem whole_source (rows : List Text) : Scan.Whole (source rows) := by
  cases hr : rows.reverse with
  | nil =>
    obtain rfl := List.reverse_eq_nil_iff.1 hr
    exact .inl rfl
  | cons t before =>
    have concat : rows = before.reverse ++ [t] := by
      rw [← List.reverse_reverse rows, hr, List.reverse_cons]
    refine .inr ?_
    rw [concat, source, List.flatMap_append, List.flatMap_singleton, ← List.append_assoc,
      List.getLast?_concat]

theorem lines_source (hne : rows ≠ []) (hr : ∀ t ∈ rows, (13 : CodePoint) ∉ t) :
    lines (source rows) = source rows := by
  have plain : (13 : CodePoint) ∉ source rows := by
    intro hm
    obtain ⟨t, ht, hm⟩ := List.mem_flatMap.1 hm
    rcases List.mem_append.1 hm with hm | hm
    · exact hr t ht hm
    · simp at hm
  refine lines_of_getLast? ((whole_source rows).resolve_left fun hn => ?_) plain
  cases rows with
  | nil => exact hne rfl
  | cons t rows => simp [source] at hn

theorem ofTerminals_end {t u : Terminal} (n : Nat) (ht : t.kind = .dedent)
    (hu : u.kind = .endMarker) :
    Item.ofTerminals [] (List.replicate n t ++ [u]) =
      List.replicate n (.dedent t.span) ++ [.stop u.span] := by
  induction n with
  | zero => exact (Item.ofTerminals_layout []).2.2 hu
  | succ n ih =>
    rw [List.replicate_succ, List.cons_append, (Item.ofTerminals_layout _).2.1 ht, ih]
    rfl

theorem foldl_end (n : Nat) (s t : Span) (o : Outlook) :
    (List.replicate n (Item.dedent s) ++ [Item.stop t]).foldl Outlook.item o = o := by
  induction n with
  | zero => rfl
  | succ n ih => exact ih

theorem dedent?_zero {n : Nat} {ws : List Nat} {kept : List Nat}
    (h : Tokenizer.dedent? 0 ws = some (n, kept)) (hpos : ∀ w ∈ ws, 0 < w) :
    n = 0 ↔ ws.headD 0 = 0 := by
  cases ws with
  | nil =>
    obtain ⟨rfl, -⟩ := Prod.mk.inj (Option.some.inj h)
    simp
  | cons w ws =>
    have pos := hpos w List.mem_cons_self
    rw [Tokenizer.dedent?, if_pos pos] at h
    obtain ⟨found, -, he⟩ := Option.map_eq_some_iff.1 h
    obtain ⟨rfl, -⟩ := Prod.mk.inj he
    simp only [List.headD_cons]
    omega

/-- The items of rows: what stands after the last line is the end of as many blocks as the column of
the line tells. -/
structure Closed (items : List Item) : Prop where
  laid : Item.Laid items
  ends : ∃ inner n s t, items = inner ++ (List.replicate n (.dedent s) ++ [.stop t]) ∧
    (inner = [] ∨ ∃ before first others, inner = before ++ [.line first others] ∧
      (n = 0 ↔ first.span.column = 0))

theorem finish_ok {σ : Tokenizer}
    (h : σ.within = none ∧ σ.depth = 0 ∧ σ.joined = false) (row : Nat) :
    ∃ vs, σ.finish row = .ok vs := by
  unfold Tokenizer.finish
  rw [h.1]
  simp [h.2]

theorem closed_nil : Closed (itemsOf []) := ⟨rfl, [], 0, default, _, rfl, .inl rfl⟩

/-- Rows that are a script are tokens, which show where its last line begins and whether it ends in a
colon. -/
theorem exists_tokens (hrows : ∀ t ∈ rows, (10 : CodePoint) ∉ t ∧ (13 : CodePoint) ∉ t)
    (spaces : ∀ t ∈ rows, ∀ c ∈ t.takeWhile isBlank, c = 32) (unpadded : Unpadded rows)
    (hall : (Terminals.ofText (source rows)).ending = .complete) :
    Closed (itemsOf rows) ∧ ∃ ts, tokenize rows = .ok ts ∧
      headerColumn? ts = ((itemsOf rows).foldl Outlook.item .initial).header? := by
  by_cases hne : rows = []
  · subst hne
    exact ⟨closed_nil, _, rfl, rfl⟩
  have text : Terminals.ofText (source rows) = (Scan.start (source rows)).all := by
    rw [ofText_eq, lines_source hne fun t ht => (hrows t ht).2]
  rw [text] at hall
  obtain ⟨us, σ, ls, s, runs, leads, abreast⟩ := (Abreast.initial (source rows)).rows
    (fun t ht => (hrows t ht).1) hall spaces
    fun before t after us m he hj (hr : Tokenizer.Runs .initial 1 before us m) hi => by
      obtain ⟨vs, hv⟩ := finish_ok hi (1 + before.length)
      exact unpadded before t after _ he hj (Tokenizer.ofRows_of_runs hr hv)
  have hall' : s.all.ending = .complete := (Scan.ending_of_leads leads).trans hall
  obtain ⟨joined, within, idle, rest⟩ := abreast.agrees.stands.idle_of_complete hall'
  have outside : σ.within = none := Option.map_eq_none_iff.1 within
  obtain ⟨vs, hv⟩ := finish_ok ⟨outside, (abreast.agrees.idle idle).2, joined⟩ (1 + rows.length)
  obtain ⟨n, kept, t, u, dedent, ht, hu, list⟩ := Scan.all_of_idle idle rest hall'
  -- the terminals before the end are lines
  have cut := leads.cut ⟨rfl, rfl⟩ idle (whole_source rows)
  have whole : itemsOf rows =
      Item.ofTerminals [] ls ++ (List.replicate n (.dedent t.span) ++ [.stop u.span]) := by
    rw [itemsOf, text, Scan.all_of_leads leads, preceded, list, cut.append rfl,
      ofTerminals_end n ht hu]
  have same : us.foldl Outlook.token .initial = ls.foldl Outlook.terminal .initial :=
    abreast.outside outside
  have looks : ls.foldl Outlook.terminal .initial =
      (Item.ofTerminals [] ls).foldl Outlook.item .initial := cut.looks rfl
  refine ⟨⟨?_, _, n, _, _, whole, ?_⟩, us ++ vs, Tokenizer.ofRows_of_runs runs hv, ?_⟩
  · have all := Scan.Stays.run (p := .start) (s := Scan.start (source rows)) ⟨rfl, .inl rfl⟩
      (whole_source rows) hall
    have laid := ((Phase.cut_of_run all (by decide) (by decide)).laid (.inr rfl)).1
    rwa [← text] at laid
  · rcases cut.last rfl with ⟨none_, -⟩ | ⟨before, first, others, he⟩
    · exact .inl none_
    · refine .inr ⟨before, first, others, he, ?_⟩
      have top := abreast.top
      rw [Tokenizer.ahead, outside, same, looks, he, List.foldl_append] at top
      have column : first.span.column = σ.indents.headD 0 := top
      rw [abreast.indents, Tokenizer.dedent?_bothMeasures] at dedent
      obtain ⟨⟨m, kept'⟩, hd, hm⟩ := Option.map_eq_some_iff.1 dedent
      obtain ⟨rfl, -⟩ := Prod.mk.inj hm
      rw [column, dedent?_zero hd abreast.positive]
  · have silent : ∀ t ∈ vs, t.kind ≠ .newline ∧ t.significant = false := fun t ht => by
      rcases Tokenizer.kind_of_finish hv t ht with hk | hk <;> simp [hk, Token.significant]
    rw [headerColumn?_eq_header?, List.foldl_append, Outlook.foldl_token_quiet silent, same, looks, whole,
      List.foldl_append, foldl_end]

/-! ## Statements -/

theorem laid_suffix {items tail : List Item} (h : Item.Laid (items ++ tail)) : Item.Laid tail := by
  induction items with
  | nil => exact h
  | cons item items ih =>
    cases item with
    | line => exact ih h
    | indent => exact ih h.2
    | dedent => exact ih h
    | stop =>
      have none_ : items ++ tail = [] := h
      rw [(List.append_eq_nil_iff.1 none_).2]
      trivial

/-- The items end in a line whose last sign is no colon. -/
def Settled (items : List Item) : Prop := ∀ o, (items.foldl Outlook.item o).colon = false

theorem Settled.append {xs ys : List Item} (h : Settled ys) : Settled (xs ++ ys) := fun o => by
  rw [List.foldl_append]
  exact h _

theorem Settled.cons {item : Item} {items : List Item} (h : Settled items) :
    Settled (item :: items) :=
  fun o => h (o.item item)

theorem settled_append {xs ys : List Item} (hx : xs = [] ∨ Settled xs) (hy : ys = [] ∨ Settled ys) :
    xs ++ ys = [] ∨ Settled (xs ++ ys) := by
  rcases hy with rfl | hy
  · rwa [List.append_nil]
  · exact .inr hy.append

/-- A head is settled by the statements after its colon, by its block, or by what follows them. -/
theorem settled_head {start : Span} {head : Head} {inline : List Stmt} {block rest : List Item}
    (line : Parse.lineClause first others = .ok (.opened start head inline))
    (hb : inline ≠ [] ∧ block = [] ∨ Settled block) (hr : rest = [] ∨ Settled rest) :
    Settled (.line first others :: (block ++ rest)) := by
  rcases hr with rfl | hr
  · rcases hb with ⟨ne, rfl⟩ | hb
    · exact fun o => Parse.last_of_inline ne line
    · rw [List.append_nil]
      exact hb.cons
  · rw [← List.cons_append]
    exact hr.append

/-- What a reader has read is settled. -/
theorem settled_of_holds {f : Parse.Found} (h : Parse.Holds items f) (tail : List Item)
    (hl : Item.Laid (items ++ tail)) :
    match f with
    | .block inline _ => inline ≠ [] ∧ items = [] ∨ Settled items
    | .statements _ | .arms _ => items = [] ∨ Settled items := by
  induction h generalizing tail with
  | nil => exact .inl rfl
  | simple line after ih =>
    rcases ih tail hl with rfl | ih
    · exact .inr fun o => Parse.last_of_simple line
    · exact .inr ih.cons
  | @compound first others start head inline body arms s rest block clauses items line inside further
      whole after ih₁ ih₂ ih₃ =>
    have laid : Item.Laid (block ++ (clauses ++ (items ++ tail))) := by
      simpa only [List.append_assoc] using (show Item.Laid (block ++ (clauses ++ items) ++ tail) from hl)
    have others := settled_append (ih₂ _ (laid_suffix laid)) (ih₃ _ (laid_suffix (laid_suffix laid)))
    exact .inr (settled_head line (ih₁ _ laid) others)
  | inline ne => exact .inl ⟨ne, rfl⟩
  | @indented s t items body inside ih =>
    have laid : Item.LineFirst (items ++ (.dedent t :: tail)) ∧
        Item.Laid (items ++ (.dedent t :: tail)) := by
      have laid : Item.LineFirst (items ++ [.dedent t] ++ tail) ∧
        Item.Laid (items ++ [.dedent t] ++ tail) := hl
      rwa [List.append_assoc] at laid
    rcases ih _ laid.2 with rfl | ih
    · exact laid.1.elim
    · refine .inr fun o => ?_
      rw [List.foldl_cons, List.foldl_append]
      exact ih _
  | noArms => exact .inl rfl
  | @arm first others start head inline body arms block clauses line inside further ih₁ ih₂ =>
    have laid : Item.Laid (block ++ (clauses ++ tail)) := by
      simpa only [List.append_assoc] using (show Item.Laid (block ++ clauses ++ tail) from hl)
    exact .inr (settled_head line (ih₁ _ laid) (ih₂ _ (laid_suffix laid)))

/-- A complete list of statements shows no header. -/
theorem header?_of_parseItems (h : parseItems items = .ok stmts) (hl : Item.Laid items) :
    (items.foldl Outlook.item .initial).header? = none := by
  obtain ⟨taken, rest, rfl, holds, hrest⟩ := Parse.holds_of_parseItems h
  have silent (o : Outlook) : rest.foldl Outlook.item o = o := by
    rcases hrest with rfl | ⟨span, more, rfl⟩
    · rfl
    · obtain rfl : more = [] := laid_suffix hl
      rfl
  have colon : (taken.foldl Outlook.item .initial).colon = false := by
    rcases settled_of_holds holds rest hl with rfl | settled
    · rfl
    · exact settled _
  rw [List.foldl_append, silent, Outlook.header?, colon]
  rfl

/-- The last line of items is one only. -/
theorem eq_of_last_line {before before' after after' : List Item} {first' : Terminal}
    {others' : List Terminal}
    (h : before ++ .line first others :: after = before' ++ .line first' others' :: after')
    (hl : ∀ item ∈ after, ∀ first others, item ≠ .line first others)
    (hl' : ∀ item ∈ after', ∀ first others, item ≠ .line first others) :
    first = first' ∧ others = others' ∧ after = after' := by
  have apart {xs ys : List Item} {first first' : Terminal} {others others' : List Terminal}
      {c : List Item} (hx : ∀ item ∈ xs, ∀ first others, item ≠ .line first others)
      (h : .line first others :: xs = c ++ .line first' others' :: ys) :
      c = [] ∧ first = first' ∧ others = others' ∧ xs = ys := by
    cases c with
    | nil =>
      obtain ⟨he, rfl⟩ := List.cons.inj h
      obtain ⟨rfl, rfl⟩ := Item.line.inj he
      exact ⟨rfl, rfl, rfl, rfl⟩
    | cons item c =>
      obtain ⟨-, rfl⟩ := List.cons.inj h
      exact absurd rfl (hx (.line first' others') (by simp) first' others')
  rcases List.append_eq_append_iff.1 h with ⟨c, -, hc⟩ | ⟨c, -, hc⟩
  · exact (apart hl hc).2
  · obtain ⟨-, rfl, rfl, rfl⟩ := apart hl' hc
    exact ⟨rfl, rfl, rfl⟩

theorem endsBlock_iff (n : Nat) (s t : Span) :
    EndsBlock (List.replicate n (.dedent s) ++ [.stop t]) ↔ n ≠ 0 := by
  constructor
  · rintro ⟨span, hm⟩ rfl
    simp at hm
  · intro hn
    exact ⟨s, List.mem_append_left _ (List.mem_replicate.2 ⟨hn, rfl⟩)⟩

theorem no_line_end {n : Nat} {s t : Span} :
    ∀ item ∈ List.replicate n (Item.dedent s) ++ [Item.stop t], ∀ first others,
      item ≠ .line first others := by
  intro item hm first others
  rcases List.mem_append.1 hm with hm | hm
  · rw [(List.mem_replicate.1 hm).2]
    nofun
  · rw [List.mem_singleton.1 hm]
    nofun

/-- Rows none of which holds nothing but a backslash. -/
theorem unpadded_of (h : ∀ t ∈ rows, ¬Scan.Joint t) : Unpadded rows := by
  rintro before t after ts rfl hj
  exact absurd hj (h t (by simp))

/-- A line is a head with nothing after its colon. -/
def isHead (first : Terminal) (others : List Terminal) : Bool :=
  match Parse.lineClause first others with
  | .ok (.opened _ _ inline) => inline.isEmpty
  | _ => false

theorem exists_of_isHead (h : isHead first others = true) :
    ∃ start head, Parse.lineClause first others = .ok (.opened start head []) := by
  unfold isHead at h
  split at h
  · rename_i start head inline he
    exact ⟨start, head, List.isEmpty_iff.1 h ▸ he⟩
  · cases h

/-- What is found at the end of rows of statements: nothing after a complete list of statements, and
the column of the head after a head without a block, which is zero outside of all blocks only. -/
theorem headerColumn?_exact (rows : List Text)
    (hrows : ∀ t ∈ rows, (10 : CodePoint) ∉ t ∧ (13 : CodePoint) ∉ t)
    (spaces : ∀ t ∈ rows, ∀ c ∈ t.takeWhile isBlank, c = 32) (unpadded : Unpadded rows) :
    (∀ stmts, parseStatements (source rows) = .ok stmts →
      ∃ ts, tokenize rows = .ok ts ∧ headerColumn? ts = none) ∧
    ∀ first others after, LeavesOpen rows first others after →
      ∃ ts, tokenize rows = .ok ts ∧
        (¬EndsBlock after → headerColumn? ts = some 0) ∧
        (EndsBlock after → headerColumn? ts = some first.span.column ∧ 0 < first.span.column) := by
  refine ⟨fun stmts h => ?_, fun first others after h => ?_⟩
  · unfold parseStatements at h
    simp only at h
    split at h
    · rename_i hall
      obtain ⟨closed, ts, ht, he⟩ := exists_tokens hrows spaces unpadded hall
      exact ⟨ts, ht, he.trans (header?_of_parseItems h closed.laid)⟩
    · cases h
    · cases h
  · obtain ⟨closed, ts, ht, he⟩ := exists_tokens hrows spaces unpadded h.complete
    obtain ⟨start, head, line⟩ := h.head
    obtain ⟨before, hb⟩ := h.items
    obtain ⟨inner, n, s, t, hi, hinner⟩ := closed.ends
    rcases hinner with rfl | ⟨before', first', others', rfl, column⟩
    · rw [List.nil_append, hb] at hi
      have mem : .line first others ∈ List.replicate n (Item.dedent s) ++ [.stop t] := by
        rw [← hi]
        simp
      exact absurd rfl (no_line_end _ mem first others)
    · rw [List.append_assoc, List.singleton_append] at hi
      obtain ⟨rfl, rfl, rfl⟩ := eq_of_last_line (hb.symm.trans hi) h.last no_line_end
      have colon := (Parse.last_of_opened line).2
      have found : headerColumn? ts = some first.span.column := by
        rw [he, hi, List.foldl_append, List.foldl_cons, foldl_end,
          Outlook.header?, Outlook.item, if_pos colon]
      refine ⟨ts, ht, fun hn => ?_, fun hb => ⟨found, ?_⟩⟩
      · rw [endsBlock_iff, not_not, column] at hn
        rw [found, hn]
      · rw [endsBlock_iff, ne_eq, column] at hb
        exact Nat.pos_of_ne_zero hb

theorem headerColumn?_exact_nested :
    ∃ first others after ts, LeavesOpen ["if a:", "    if b:"] first others after ∧
      EndsBlock after ∧ tokenize ["if a:", "    if b:"] = .ok ts ∧
      headerColumn? ts = some first.span.column ∧ 0 < first.span.column := by
  have text : Terminals.ofText (source ["if a:", "    if b:"]) =
      ⟨[⟨.name, "if", ⟨1, 0, 1, 2⟩, 0⟩, ⟨.name, "a", ⟨1, 3, 1, 4⟩, 0⟩, ⟨.op, ":", ⟨1, 4, 1, 5⟩, 0⟩,
        ⟨.newline, [], ⟨1, 5, 1, 5⟩, 0⟩, ⟨.indent, [], ⟨2, 4, 2, 4⟩, 0⟩,
        ⟨.name, "if", ⟨2, 4, 2, 6⟩, 0⟩, ⟨.name, "b", ⟨2, 7, 2, 8⟩, 0⟩, ⟨.op, ":", ⟨2, 8, 2, 9⟩, 0⟩,
        ⟨.newline, [], ⟨2, 9, 2, 9⟩, 0⟩, ⟨.dedent, [], ⟨2, 0, 2, 0⟩, 0⟩,
        ⟨.endMarker, [], ⟨2, 0, 2, 0⟩, 0⟩], .complete⟩ := by decide +kernel
  have opened : LeavesOpen ["if a:", "    if b:"] ⟨.name, "if", ⟨2, 4, 2, 6⟩, 0⟩
      [⟨.name, "b", ⟨2, 7, 2, 8⟩, 0⟩, ⟨.op, ":", ⟨2, 8, 2, 9⟩, 0⟩]
      [.dedent ⟨2, 0, 2, 0⟩, .stop ⟨2, 0, 2, 0⟩] := by
    refine ⟨by rw [text], ⟨[.line _ _, .indent _], by rw [itemsOf, text]; rfl⟩, by simp,
      exists_of_isHead (by decide +kernel)⟩
  obtain ⟨ts, ht, -, nested⟩ := (headerColumn?_exact ["if a:", "    if b:"] (by decide) (by decide)
    (unpadded_of (by decide))).2 _ _ _ opened
  exact ⟨_, _, _, ts, opened, ⟨_, List.mem_cons_self⟩, ht, nested ⟨_, List.mem_cons_self⟩⟩

/-- A nested head that begins with a row of a backslash is taken for one outside of all blocks: its
own row is not indented. -/
theorem headerColumn?_padded :
    ∃ first others after ts, LeavesOpen ["if a:", "    \\", "if b:"] first others after ∧
      EndsBlock after ∧ tokenize ["if a:", "    \\", "if b:"] = .ok ts ∧
      headerColumn? ts = some 0 := by
  have text : Terminals.ofText (source ["if a:", "    \\", "if b:"]) =
      ⟨[⟨.name, "if", ⟨1, 0, 1, 2⟩, 0⟩, ⟨.name, "a", ⟨1, 3, 1, 4⟩, 0⟩, ⟨.op, ":", ⟨1, 4, 1, 5⟩, 0⟩,
        ⟨.newline, [], ⟨1, 5, 1, 5⟩, 0⟩, ⟨.indent, [], ⟨3, 0, 3, 0⟩, 0⟩,
        ⟨.name, "if", ⟨3, 0, 3, 2⟩, 0⟩, ⟨.name, "b", ⟨3, 3, 3, 4⟩, 0⟩, ⟨.op, ":", ⟨3, 4, 3, 5⟩, 0⟩,
        ⟨.newline, [], ⟨3, 5, 3, 5⟩, 0⟩, ⟨.dedent, [], ⟨3, 0, 3, 0⟩, 0⟩,
        ⟨.endMarker, [], ⟨3, 0, 3, 0⟩, 0⟩], .complete⟩ := by decide +kernel
  have opened : LeavesOpen ["if a:", "    \\", "if b:"] ⟨.name, "if", ⟨3, 0, 3, 2⟩, 0⟩
      [⟨.name, "b", ⟨3, 3, 3, 4⟩, 0⟩, ⟨.op, ":", ⟨3, 4, 3, 5⟩, 0⟩]
      [.dedent ⟨3, 0, 3, 0⟩, .stop ⟨3, 0, 3, 0⟩] := by
    refine ⟨by rw [text], ⟨[.line _ _, .indent _], by rw [itemsOf, text]; rfl⟩, by simp,
      exists_of_isHead (by decide +kernel)⟩
  have found : ∃ ts, tokenize ["if a:", "    \\", "if b:"] = .ok ts ∧ headerColumn? ts = some 0 :=
    ⟨_, by rfl, by decide +kernel⟩
  obtain ⟨ts, ht, hc⟩ := found
  exact ⟨_, _, _, ts, opened, ⟨_, List.mem_cons_self⟩, ht, hc⟩

end Stencil.Block
