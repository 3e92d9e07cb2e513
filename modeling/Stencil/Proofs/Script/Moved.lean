import Stencil.Proofs.Script.Ladder

/-!
# Nodes that are moved

The nodes of statements whose lines are moved up a ladder do not end before they begin: neither on an
earlier line nor, on one line, at an earlier column. A node that spans several lines of the script is
that of a head with what belongs to it, and ends where a statement in its block or in that of a
further clause does.

## Main definitions

* `Span.Lies` — an extent makes sense after the move.
* `Reached` — a line among items has come to a place.
* `ArmsLie` — arms of a compound statement that make sense after the move.

## Main results

* `Ladder.lies_through` — a head with what belongs to it.
* `lies_of_compound?` — the statement that arms make up.
* `Parse.lie_of_holds` — the statements of items.
-/

namespace Stencil.Script

open Parse (lineClause clauseWords)

variable {moved : Nat → Nat} {count lo hi : Nat} {a c : Standing} {ws vs : List Nat}
  {items xs : List Item} {first : Terminal} {others : List Terminal} {opens : Prop} {k : Nat}

/-- An extent makes sense when its rows are moved. -/
structure Span.Lies (moved : Nat → Nat) (count : Nat) (s : Span) : Prop where
  first : 0 < s.row ∧ s.row ≤ count
  last : 0 < s.endRow ∧ s.endRow ≤ count
  order : moved s.row ≤ moved s.endRow
  columns : moved s.row = moved s.endRow → s.column ≤ s.endColumn

/-- Nodes make sense when rows are moved. -/
def Lie (moved : Nat → Nat) (count : Nat) (ns : List Node) : Prop :=
  ∀ n ∈ ns, n.span.Lies moved count

@[simp] theorem lie_nil : Lie moved count [] := nofun

@[simp] theorem lie_cons {n : Node} {ns : List Node} :
    Lie moved count (n :: ns) ↔ n.span.Lies moved count ∧ Lie moved count ns :=
  List.forall_mem_cons

@[simp] theorem lie_append {ns ms : List Node} :
    Lie moved count (ns ++ ms) ↔ Lie moved count ns ∧ Lie moved count ms := List.forall_mem_append

/-! ## Rows of one line -/

theorem Spread.le (h : Spread moved count lo hi) {i j : Nat} (hi' : lo ≤ i) (hij : i ≤ j)
    (hj : j ≤ hi) : moved i ≤ moved j := by
  rcases Nat.eq_or_lt_of_le hij with rfl | hlt
  · exact Nat.le_refl _
  · exact Nat.le_of_lt (h.increases hi' hlt hj)

theorem Spread.eq (h : Spread moved count lo hi) {i j : Nat} (hi' : lo ≤ i) (hij : i ≤ j)
    (hj : j ≤ hi) (he : moved i = moved j) : i = j := by
  rcases Nat.eq_or_lt_of_le hij with rfl | hlt
  · rfl
  · exact absurd he (Nat.ne_of_lt (h.increases hi' hlt hj))

theorem Span.Keeps.lies {s : Span} (h : s.Keeps lo hi) (hlo : 0 < lo)
    (spread : Spread moved count lo hi) : s.Lies moved count := by
  have first := h.first
  have last := h.last
  have order := h.order.row
  have count := spread.last
  have order : s.row ≤ s.endRow := order
  refine ⟨⟨by omega, by omega⟩, ⟨by omega, by omega⟩, spread.le first order last, fun he => ?_⟩
  have same := spread.eq first order last he
  have upto := h.order
  simp only [Pos.upto, Span.begins, Span.ends] at upto
  omega

theorem Sound.lie {ns : List Node} (h : Sound lo hi ns) (hlo : 0 < lo)
    (spread : Spread moved count lo hi) : Lie moved count ns := fun n hn => (h n hn).lies hlo spread

/-- A statement is one of its nodes. -/
theorem keeps_span {s : Stmt} (h : Parse.SoundStmt lo hi s) : s.span.Keeps lo hi := by
  cases s <;> exact h _ List.mem_cons_self

theorem lie_nodesOf {stmts : List Stmt} :
    Lie moved count (nodesOf stmts) ↔ ∀ s ∈ stmts, Lie moved count s.nodes := by
  induction stmts with
  | nil => simp [nodesOf]
  | cons s stmts ih => simp [nodesOf, ih]

/-! ## What a line has come to -/

/-- One of the lines among items begins before the end of an extent, and on the same row if both come
to one line. -/
def Reached (moved : Nat → Nat) (count : Nat) (items : List Item) (s : Span) : Prop :=
  (0 < s.endRow ∧ s.endRow ≤ count) ∧ ∃ first others, .line first others ∈ items ∧
    first.span.begins.upto s.ends ∧ moved first.span.row ≤ moved s.endRow ∧
    (moved first.span.row = moved s.endRow → first.span.row = s.endRow)

theorem Reached.mono {s : Span} (h : Reached moved count items s) (hs : items ⊆ xs) :
    Reached moved count xs s := by
  obtain ⟨rows, first, others, hm, found⟩ := h
  exact ⟨rows, first, others, hs hm, found⟩

theorem Reached.congr {s t : Span} (h : Reached moved count items t) (he : s.ends = t.ends) :
    Reached moved count items s := by
  have row : s.endRow = t.endRow := congrArg Pos.row he
  unfold Reached
  rwa [he, row]

/-- What ends in the rows of a line after its beginning has been reached. -/
theorem reached_of_keeps {s : Span} (keeps : first.span.Keeps lo hi) (hs : s.Keeps lo hi)
    (hlo : 0 < lo) (spread : Spread moved count lo hi) (upto : first.span.begins.upto s.ends)
    (hm : .line first others ∈ items) : Reached moved count items s :=
  ⟨(hs.lies hlo spread).last, first, others, hm, upto,
    spread.le keeps.first upto.row hs.last, spread.eq keeps.first upto.row hs.last⟩

/-- A head with what belongs to it makes sense, where its block and further clauses end. -/
theorem Ladder.lies_through {seg : List Item} {start t : Span} {head : Head} {inline : List Stmt}
    (h : Ladder moved count a ws (.line first others :: seg) c vs)
    (inside : Inside (OpensBlock first others) 0 seg)
    (line : lineClause first others = .ok (.opened start head inline))
    (ht : Reached moved count (.line first others :: seg) t) :
    (first.span.through t).Lies moved count := by
  cases h with
  | @line _ _ _ _ _ _ _ lo hi depth literal inRows visible spread plain follows after =>
    have code : literal = false := by
      cases literal with
      | false => rfl
      | true =>
        obtain ⟨stmts, he⟩ := (plain rfl).2.2.2 _ line
        cases he
    subst code
    have keeps := inRows.keeps first List.mem_cons_self visible
    have own := keeps.lies inRows.positive spread
    obtain ⟨rows, f, o, hm, upto, order, same⟩ := ht
    rcases List.mem_cons.1 hm with he | hm
    · obtain ⟨rfl, rfl⟩ := Item.line.inj he
      refine ⟨own.first, rows, order, fun hl => ?_⟩
      have row := same hl
      simp only [Pos.upto, Span.begins, Span.ends] at upto
      simp only [Span.through]
      omega
    · have order' : moved first.span.row ≤ moved f.span.row := after.le_line hm
      refine ⟨own.first, rows, Nat.le_trans order' order, fun hl => ?_⟩
      -- the line that has come to the end begins on the line of the head as well
      have hl : moved first.span.row = moved t.endRow := hl
      have there : moved f.span.row = moved first.span.row :=
        Nat.le_antisymm (hl ▸ order) order'
      have row := same (there.trans hl)
      have column : first.span.column = 4 * depth :=
        after.column_of_opens inside id (fun hz => absurd rfl hz) rfl hm there
      have inner : 4 * depth ≤ f.span.column :=
        after.le_column none [] _ inside (fun ho => ⟨ho, rfl⟩) rfl rfl
          (fun hn => absurd rfl hn) (Nat.le_refl _) (fun _ => Nat.le_refl _)
          (fun _ _ h => absurd h List.not_mem_nil) hm there
      simp only [Pos.upto, Span.begins, Span.ends] at upto
      simp only [Span.through]
      omega

/-! ## Arms -/

/-- The extents that an arm is made of. -/
def Arm.spans (a : Arm) : List Span := a.start :: a.body.map Stmt.span

/-- Arms make sense when rows are moved, also each with those after it. -/
def ArmsLie (moved : Nat → Nat) (count : Nat) : List Arm → Prop
  | [] => True
  | arm :: arms =>
    Lie moved count arm.head.nodes ∧ Lie moved count (nodesOf arm.body) ∧
      (∀ t ∈ (arm :: arms).flatMap Arm.spans, (arm.start.through t).Lies moved count) ∧
      ArmsLie moved count arms

/-- Every statement ends where one of the extents does. -/
def EndIn (spans : List Span) (stmts : List Stmt) : Prop :=
  ∀ s ∈ stmts, ∃ t ∈ spans, s.span.ends = t.ends

theorem through_congr {s t u : Span} (h : t.ends = u.ends) : s.through t = s.through u := by
  simp only [Span.ends, Pos.mk.injEq] at h
  simp only [Span.through, h]

theorem endIn_body {arm : Arm} {arms : List Arm} (hm : arm ∈ arms) :
    EndIn (arms.flatMap Arm.spans) arm.body := fun s hs =>
  ⟨s.span, List.mem_flatMap.2 ⟨arm, hm, List.mem_cons_of_mem _ (List.mem_map_of_mem hs)⟩, rfl⟩

theorem EndIn.mono {spans spans' : List Span} {stmts : List Stmt} (h : EndIn spans stmts)
    (hs : spans ⊆ spans') : EndIn spans' stmts := fun s hm => by
  obtain ⟨t, ht, he⟩ := h s hm
  exact ⟨t, hs ht, he⟩

theorem endIn_nil {spans : List Span} : EndIn spans [] := nofun

/-- A head with blocks makes sense if it does with all that they may end in. -/
theorem lies_extent {start : Span} {spans : List Span} (blocks : List (List Stmt))
    (h : ∀ t ∈ spans, (start.through t).Lies moved count) (hm : start ∈ spans)
    (hb : ∀ block ∈ blocks, EndIn spans block) :
    (Parse.extent start blocks).Lies moved count ∧
      ∃ t ∈ spans, (Parse.extent start blocks).ends = t.ends := by
  unfold Parse.extent
  cases hl : blocks.flatten.getLast? with
  | none => exact ⟨h start hm, start, hm, rfl⟩
  | some s =>
    obtain ⟨block, hblock, hs⟩ := List.mem_flatten.1 (List.mem_of_getLast? hl)
    obtain ⟨t, ht, he⟩ := hb block hblock s hs
    refine ⟨?_, t, ht, he⟩
    simp only
    rw [through_congr he]
    exact h t ht

variable {arm : Arm} {arms rest : List Arm} {stmts : List Stmt} {s : Stmt}

theorem start_mem_spans (arm : Arm) (arms : List Arm) :
    arm.start ∈ (arm :: arms).flatMap Arm.spans :=
  List.mem_flatMap.2 ⟨arm, List.mem_cons_self, List.mem_cons_self⟩

theorem spans_subset (arm : Arm) (arms : List Arm) :
    arms.flatMap Arm.spans ⊆ (arm :: arms).flatMap Arm.spans := by
  rw [List.flatMap_cons]
  exact List.subset_append_right _ _

theorem lie_alternatives? {no : List Stmt} (h : ArmsLie moved count arms)
    (hno : Arm.alternatives? arms = some no) :
    Lie moved count (nodesOf no) ∧ EndIn (arms.flatMap Arm.spans) no := by
  induction arms generalizing no with
  | nil =>
    obtain rfl := Option.some.inj hno
    exact ⟨lie_nil, endIn_nil⟩
  | cons arm arms ih =>
    obtain ⟨head, body, through, after⟩ := h
    obtain ⟨start, hd, stmts⟩ := arm
    cases hd with
    | otherBranch test =>
      obtain ⟨others, hothers, rfl⟩ := Option.map_eq_some_iff.1 hno
      obtain ⟨lie, ends⟩ := ih after hothers
      obtain ⟨whole, t, ht, he⟩ := lies_extent [stmts, others] through
        (start_mem_spans _ _) (by
          simp only [List.forall_mem_cons, List.not_mem_nil, false_imp_iff, implies_true, and_true]
          exact ⟨endIn_body List.mem_cons_self, ends.mono (spans_subset _ _)⟩)
      refine ⟨?_, List.forall_mem_singleton.2 ⟨t, ht, he⟩⟩
      simp only [nodesOf, Stmt.nodes, lie_append, List.cons_append, lie_cons, lie_nil, and_true]
      exact ⟨whole, ⟨head, body⟩, lie⟩
    | orelse =>
      simp only [Arm.alternatives?, Option.ite_none_right_eq_some, Option.some.injEq] at hno
      obtain ⟨-, rfl⟩ := hno
      exact ⟨body, endIn_body List.mem_cons_self⟩
    | _ => cases hno

theorem lie_optional {isHead : Head → Bool} {body : List Stmt} (h : ArmsLie moved count arms)
    (ho : Arm.optional isHead arms = (body, rest)) :
    Lie moved count (nodesOf body) ∧ EndIn (arms.flatMap Arm.spans) body ∧
      ArmsLie moved count rest ∧ rest.flatMap Arm.spans ⊆ arms.flatMap Arm.spans := by
  cases arms with
  | nil =>
    obtain ⟨rfl, rfl⟩ := Prod.mk.inj ho
    exact ⟨lie_nil, endIn_nil, trivial, List.Subset.refl _⟩
  | cons arm arms =>
    rw [Arm.optional] at ho
    split at ho
    · obtain ⟨rfl, rfl⟩ := Prod.mk.inj ho
      exact ⟨h.2.1, endIn_body List.mem_cons_self, h.2.2.2, spans_subset _ _⟩
    · obtain ⟨rfl, rfl⟩ := Prod.mk.inj ho
      exact ⟨lie_nil, endIn_nil, h, List.Subset.refl _⟩

theorem lie_handlers {caught : List Handler} (h : ArmsLie moved count arms)
    (hh : Arm.handlers arms = (caught, rest)) :
    Lie moved count (nodesOfHandlers caught) ∧
      EndIn (arms.flatMap Arm.spans) (Parse.lastHandled caught) ∧
      ArmsLie moved count rest ∧ rest.flatMap Arm.spans ⊆ arms.flatMap Arm.spans := by
  induction arms generalizing caught with
  | nil =>
    obtain ⟨rfl, rfl⟩ := Prod.mk.inj hh
    exact ⟨lie_nil, endIn_nil, trivial, List.Subset.refl _⟩
  | cons arm arms ih =>
    obtain ⟨head, body, through, after⟩ := id h
    obtain ⟨start, hd, stmts⟩ := arm
    cases hd with
    | handler type id =>
      cases hr : Arm.handlers arms with
      | mk others rest' =>
        rw [Arm.handlers] at hh
        simp only [hr] at hh
        obtain ⟨rfl, rfl⟩ := Prod.mk.inj hh
        obtain ⟨lie, ends, lies, subset⟩ := ih after hr
        obtain ⟨whole, -⟩ := lies_extent [stmts] through (start_mem_spans _ _)
          (List.forall_mem_singleton.2 (endIn_body List.mem_cons_self))
        refine ⟨?_, ?_, lies, List.Subset.trans subset (spans_subset _ _)⟩
        · simp only [nodesOfHandlers, lie_append, List.cons_append, lie_cons]
          exact ⟨whole, ⟨head, body⟩, lie⟩
        · cases others with
          | nil => exact endIn_body List.mem_cons_self
          | cons handler others =>
            have same : Parse.lastHandled (.mk (Parse.extent start [stmts]) type id stmts ::
                handler :: others) = Parse.lastHandled (handler :: others) := by
              simp only [Parse.lastHandled, List.getLast?_cons_cons]
            rw [same]
            exact ends.mono (spans_subset _ _)
    | _ =>
      obtain ⟨rfl, rfl⟩ := Prod.mk.inj hh
      exact ⟨lie_nil, endIn_nil, h, List.Subset.refl _⟩

/-- The block after `else`, which is looked for behind handlers only. -/
theorem lie_unless {b : Prop} [Decidable b] {isHead : Head → Bool} {body : List Stmt}
    (h : ArmsLie moved count arms)
    (ho : (if b then ([], arms) else Arm.optional isHead arms) = (body, rest)) :
    Lie moved count (nodesOf body) ∧ EndIn (arms.flatMap Arm.spans) body ∧
      ArmsLie moved count rest ∧ rest.flatMap Arm.spans ⊆ arms.flatMap Arm.spans := by
  split at ho
  · obtain ⟨rfl, rfl⟩ := Prod.mk.inj ho
    exact ⟨lie_nil, endIn_nil, h, List.Subset.refl _⟩
  · exact lie_optional h ho

/-- The statement that arms make up makes sense, and ends where one of them does. -/
theorem lies_of_compound? (h : ArmsLie moved count (arm :: arms))
    (hs : Arm.compound? arm arms = some s) :
    Lie moved count s.nodes ∧ ∃ t ∈ (arm :: arms).flatMap Arm.spans, s.span.ends = t.ends := by
  obtain ⟨start, hd, body⟩ := arm
  obtain ⟨head, inner, through, after⟩ := h
  have whole (blocks : List (List Stmt))
      (hb : ∀ block ∈ blocks, EndIn (arms.flatMap Arm.spans) block) :=
    lies_extent (body :: blocks) through (start_mem_spans _ _) (List.forall_mem_cons.2
      ⟨endIn_body List.mem_cons_self, fun block hm => (hb block hm).mono (spans_subset _ _)⟩)
  cases hd with
  | branch test =>
    obtain ⟨no, hno, rfl⟩ := Option.map_eq_some_iff.1 hs
    obtain ⟨lie, ends⟩ := lie_alternatives? after hno
    obtain ⟨lies, found⟩ := whole [no] (List.forall_mem_singleton.2 ends)
    refine ⟨?_, found⟩
    simp only [Stmt.nodes, lie_append, List.cons_append, lie_cons]
    exact ⟨lies, ⟨head, inner⟩, lie⟩
  | loop test =>
    simp only [Arm.compound?] at hs
    cases ho : Arm.optional Arm.isOrelse arms with
    | mk orelse rest =>
      rw [ho] at hs
      simp only [Option.ite_none_right_eq_some, Option.some.injEq] at hs
      obtain ⟨-, rfl⟩ := hs
      obtain ⟨lie, ends, -⟩ := lie_optional after ho
      obtain ⟨lies, found⟩ := whole [orelse] (List.forall_mem_singleton.2 ends)
      refine ⟨?_, found⟩
      simp only [Stmt.nodes, lie_append, List.cons_append, lie_cons]
      exact ⟨lies, ⟨head, inner⟩, lie⟩
  | each target source =>
    simp only [Arm.compound?] at hs
    cases ho : Arm.optional Arm.isOrelse arms with
    | mk orelse rest =>
      rw [ho] at hs
      simp only [Option.ite_none_right_eq_some, Option.some.injEq] at hs
      obtain ⟨-, rfl⟩ := hs
      obtain ⟨lie, ends, -⟩ := lie_optional after ho
      obtain ⟨lies, found⟩ := whole [orelse] (List.forall_mem_singleton.2 ends)
      refine ⟨?_, found⟩
      simp only [Head.nodes, lie_append] at head
      simp only [Stmt.nodes, lie_append, List.cons_append, lie_cons]
      exact ⟨lies, ⟨head, inner⟩, lie⟩
  | define suspending id params returns =>
    simp only [Arm.compound?, Option.ite_none_right_eq_some, Option.some.injEq] at hs
    obtain ⟨-, rfl⟩ := hs
    obtain ⟨lies, found⟩ := whole [] (List.forall_mem_nil _)
    refine ⟨?_, found⟩
    simp only [Head.nodes, lie_append] at head
    simp only [Stmt.nodes, lie_append, List.cons_append, lie_cons]
    exact ⟨lies, ⟨inner, head.1⟩, head.2⟩
  | attempt =>
    simp only [Arm.compound?] at hs
    cases hc : Arm.handlers arms with
    | mk caught rest₁ =>
      obtain ⟨lie₁, ends₁, lies₁, subset₁⟩ := lie_handlers after hc
      simp only [hc] at hs
      cases ho : (if caught.isEmpty then ([], rest₁) else Arm.optional Arm.isOrelse rest₁) with
      | mk orelse rest₂ =>
        obtain ⟨lie₂, ends₂, lies₂, subset₂⟩ := lie_unless lies₁ ho
        simp only [ho] at hs
        cases hf : Arm.optional Arm.isFinal rest₂ with
        | mk final rest₃ =>
          obtain ⟨lie₃, ends₃, -⟩ := lie_optional lies₂ hf
          simp only [hf] at hs
          split at hs
          · cases hs
          · obtain rfl := Option.some.inj hs
            obtain ⟨lies, found⟩ := whole [Parse.lastHandled caught, orelse, final] (by
              simp only [List.forall_mem_cons, List.not_mem_nil, false_imp_iff, implies_true, and_true]
              exact ⟨ends₁, ends₂.mono subset₁, ends₃.mono (List.Subset.trans subset₂ subset₁)⟩)
            refine ⟨?_, found⟩
            simp only [Stmt.nodes, lie_append, List.cons_append, lie_cons]
            exact ⟨lies, ⟨⟨inner, lie₁⟩, lie₂⟩, lie₃⟩
  | _ => cases hs

/-- All arms of a compound statement but the first go it on. -/
theorem isClause_of_optional {isHead : Head → Bool} {body : List Stmt}
    (ho : Arm.optional isHead arms = (body, rest))
    (hh : ∀ head, isHead head = true → head.isClause = true)
    (hr : ∀ arm ∈ rest, arm.head.isClause = true) : ∀ arm ∈ arms, arm.head.isClause = true := by
  cases arms with
  | nil => nofun
  | cons arm arms =>
    rw [Arm.optional] at ho
    split at ho
    · rename_i hhead
      obtain ⟨-, rfl⟩ := Prod.mk.inj ho
      exact List.forall_mem_cons.2 ⟨hh _ hhead, hr⟩
    · obtain ⟨-, rfl⟩ := Prod.mk.inj ho
      exact hr

theorem isClause_of_alternatives? {no : List Stmt} (h : Arm.alternatives? arms = some no) :
    ∀ arm ∈ arms, arm.head.isClause = true := by
  induction arms generalizing no with
  | nil => nofun
  | cons arm arms ih =>
    obtain ⟨start, hd, stmts⟩ := arm
    cases hd with
    | otherBranch test =>
      obtain ⟨others, hothers, -⟩ := Option.map_eq_some_iff.1 h
      exact List.forall_mem_cons.2 ⟨rfl, ih hothers⟩
    | orelse =>
      simp only [Arm.alternatives?, Option.ite_none_right_eq_some, List.isEmpty_iff] at h
      obtain ⟨rfl, -⟩ := h
      exact List.forall_mem_singleton.2 rfl
    | _ => cases h

theorem isClause_of_handlers {caught : List Handler} (h : Arm.handlers arms = (caught, rest))
    (hr : ∀ arm ∈ rest, arm.head.isClause = true) : ∀ arm ∈ arms, arm.head.isClause = true := by
  induction arms generalizing caught with
  | nil => nofun
  | cons arm arms ih =>
    obtain ⟨start, hd, stmts⟩ := arm
    cases hd with
    | handler type id =>
      cases hc : Arm.handlers arms with
      | mk others rest' =>
        rw [Arm.handlers] at h
        simp only [hc] at h
        obtain ⟨-, rfl⟩ := Prod.mk.inj h
        exact List.forall_mem_cons.2 ⟨rfl, ih hc⟩
    | _ =>
      obtain ⟨-, rfl⟩ := Prod.mk.inj h
      exact hr

theorem isClause_arms_of_compound? (hs : Arm.compound? arm arms = some s) :
    ∀ arm ∈ arms, arm.head.isClause = true := by
  have orelses (head : Head) (h : Arm.isOrelse head = true) : head.isClause = true := by
    cases head <;> first | rfl | cases h
  have finals (head : Head) (h : Arm.isFinal head = true) : head.isClause = true := by
    cases head <;> first | rfl | cases h
  have done {arms : List Arm} (h : arms.isEmpty = true) : ∀ arm ∈ arms, arm.head.isClause = true := by
    rw [List.isEmpty_iff.1 h]
    nofun
  obtain ⟨start, hd, body⟩ := arm
  cases hd with
  | branch test =>
    obtain ⟨no, hno, -⟩ := Option.map_eq_some_iff.1 hs
    exact isClause_of_alternatives? hno
  | loop test =>
    simp only [Arm.compound?] at hs
    cases ho : Arm.optional Arm.isOrelse arms with
    | mk orelse rest =>
      rw [ho] at hs
      simp only [Option.ite_none_right_eq_some] at hs
      exact isClause_of_optional ho orelses (done hs.1)
  | each target source =>
    simp only [Arm.compound?] at hs
    cases ho : Arm.optional Arm.isOrelse arms with
    | mk orelse rest =>
      rw [ho] at hs
      simp only [Option.ite_none_right_eq_some] at hs
      exact isClause_of_optional ho orelses (done hs.1)
  | define suspending id params returns =>
    simp only [Arm.compound?, Option.ite_none_right_eq_some] at hs
    exact done hs.1
  | attempt =>
    simp only [Arm.compound?] at hs
    cases hc : Arm.handlers arms with
    | mk caught rest₁ =>
      simp only [hc] at hs
      cases ho : (if caught.isEmpty then ([], rest₁) else Arm.optional Arm.isOrelse rest₁) with
      | mk orelse rest₂ =>
        simp only [ho] at hs
        cases hf : Arm.optional Arm.isFinal rest₂ with
        | mk final rest₃ =>
          simp only [hf] at hs
          split at hs
          · cases hs
          · rename_i hn
            simp only [Bool.not_eq_true', not_or, Bool.not_eq_false] at hn
            have after := isClause_of_optional hf finals (done hn.1)
            refine isClause_of_handlers hc ?_
            split at ho
            · obtain ⟨-, rfl⟩ := Prod.mk.inj ho
              exact after
            · exact isClause_of_optional ho orelses after
  | _ => cases hs

/-! ## Items -/

theorem Inside.mono {opens' : Prop} (h : Inside opens k items) (ho : opens → opens') :
    Inside opens' k items := by
  cases items with
  | nil => trivial
  | cons item items =>
    cases item with
    | line => exact h
    | indent => exact ⟨ho h.1, h.2⟩
    | dedent =>
      cases k with
      | zero => exact h
      | succ k => exact h
    | stop => exact h

/-- Items that make up what has been found do not leave the block around it. -/
def Parse.Found.Stays (items : List Item) : Parse.Found → Prop
  | .statements _ => ∀ k rest opens, 0 < k → Inside False k rest → Inside opens k (items ++ rest)
  | .block inline _ => ∀ k rest, Inside False k rest → Inside (inline = []) k (items ++ rest)
  | .arms arms => (∀ arm ∈ arms, arm.head.isClause = true) → ∀ k rest opens,
      Inside False k rest → Inside opens k (items ++ rest)

theorem Parse.Holds.stays {f : Parse.Found} (h : Parse.Holds items f) : f.Stays items := by
  induction h with
  | nil => exact fun k rest opens _ hrest => hrest.mono False.elim
  | simple line after ih => exact fun k rest opens hk hrest => ⟨fun hz => by omega, ih k rest _ hk hrest⟩
  | @compound first others start head inline body arms s stmts block clauses items line inside further
      whole after ih₁ ih₂ ih₃ =>
    intro k rest opens hk hrest
    have behind := ih₃ k rest False hk hrest
    have within := ih₁ k _ (ih₂ (isClause_arms_of_compound? whole) k _ False behind)
    rw [List.cons_append, List.append_assoc, List.append_assoc]
    exact ⟨fun hz => by omega, within.mono fun hn => ⟨start, head, hn ▸ line⟩⟩
  | inline ne => exact fun k rest hrest => hrest.mono False.elim
  | @indented s t items body inside ih =>
    intro k rest hrest
    rw [List.cons_append, List.append_assoc]
    exact ⟨rfl, ih (k + 1) (.dedent t :: rest) False (Nat.succ_pos k) hrest⟩
  | noArms => exact fun _ k rest opens hrest => hrest.mono False.elim
  | @arm first others start head inline body arms block clauses line inside further ih₁ ih₂ =>
    intro hclause k rest opens hrest
    obtain ⟨own, others⟩ := List.forall_mem_cons.1 hclause
    have within := ih₁ k _ (ih₂ others k rest False hrest)
    rw [List.cons_append, List.append_assoc]
    exact ⟨fun _ => (Parse.lineClause_word line).trans own,
      within.mono fun hn => ⟨start, head, hn ▸ line⟩⟩

/-- What belongs to a head is inside. -/
theorem inside_arm {start : Span} {head : Head} {inline body : List Stmt} {block clauses : List Item}
    (line : lineClause first others = .ok (.opened start head inline))
    (inside : Parse.Holds block (.block inline body)) (further : Parse.Holds clauses (.arms arms))
    (hclause : ∀ arm ∈ arms, arm.head.isClause = true) :
    Inside (OpensBlock first others) 0 (block ++ clauses) := by
  have behind := further.stays hclause 0 [] False trivial
  rw [List.append_nil] at behind
  exact (inside.stays 0 clauses behind).mono fun hn => ⟨start, head, hn ▸ line⟩

/-- Simple statements make sense when rows are moved, and their line has reached them. -/
theorem lie_simple (h : Ladder moved count a ws (.line first others :: items) c vs)
    (line : lineClause first others = .ok (.simple stmts)) :
    (∀ s ∈ stmts, Lie moved count s.nodes) ∧
      ∀ s ∈ stmts, Reached moved count (.line first others :: items) s.span := by
  cases h with
  | line inRows visible spread =>
    have sound : Parse.SoundLine _ _ first.span stmts := Parse.sound_lineClause inRows line
    have keeps := inRows.keeps first List.mem_cons_self visible
    exact ⟨fun s hs => (sound s hs).1.lie inRows.positive spread, fun s hs =>
      reached_of_keeps keeps (keeps_span (sound s hs).1) inRows.positive spread (sound s hs).2
        List.mem_cons_self⟩

/-- A head with its block makes sense when rows are moved, and the line of the head or one in the
block has reached what belongs to it. -/
theorem lie_arm {start : Span} {head : Head} {inline body : List Stmt} {block : List Item}
    (h : Ladder moved count a ws (.line first others :: items) c vs)
    (line : lineClause first others = .ok (.opened start head inline))
    (inside : Parse.Holds block (.block inline body))
    (hb : inline = [] → Lie moved count (nodesOf body) ∧
      ∀ s ∈ body, Reached moved count block s.span) :
    start = first.span ∧ Lie moved count head.nodes ∧ Lie moved count (nodesOf body) ∧
      ∀ t ∈ Arm.spans ⟨start, head, body⟩, Reached moved count (.line first others :: block) t := by
  cases h with
  | @line _ _ _ _ _ _ _ lo hi depth literal inRows visible spread plain follows after =>
    obtain ⟨rfl, nodes, stmts⟩ := Parse.sound_lineClause inRows line
    have keeps := inRows.keeps first List.mem_cons_self visible
    have own : Reached moved count (.line first others :: block) first.span :=
      reached_of_keeps keeps keeps inRows.positive spread keeps.order List.mem_cons_self
    refine ⟨rfl, nodes.lie inRows.positive spread, ?_⟩
    by_cases hn : inline = []
    · obtain ⟨lie, reached⟩ := hb hn
      refine ⟨lie, List.forall_mem_cons.2 ⟨own, List.forall_mem_map.2 fun s hs => ?_⟩⟩
      exact (reached s hs).mono (List.subset_cons_self _ _)
    · obtain rfl : body = inline := by
        cases inside with
        | inline => rfl
        | indented => exact absurd rfl hn
      refine ⟨?_, List.forall_mem_cons.2 ⟨own, List.forall_mem_map.2 fun s hs => ?_⟩⟩
      · exact lie_nodesOf.2 fun s hs => (stmts s hs).1.lie inRows.positive spread
      · exact reached_of_keeps keeps (keeps_span (stmts s hs).1) inRows.positive spread (stmts s hs).2
          List.mem_cons_self

/-- What has been found in items makes sense when rows are moved, and they have reached it. -/
def Parse.Found.Lies (moved : Nat → Nat) (count : Nat) (items : List Item) : Parse.Found → Prop
  | .statements stmts => Lie moved count (nodesOf stmts) ∧
      ∀ s ∈ stmts, Reached moved count items s.span
  | .block inline body => inline = [] → Lie moved count (nodesOf body) ∧
      ∀ s ∈ body, Reached moved count items s.span
  | .arms arms => (∀ arm ∈ arms, arm.head.isClause = true) → ArmsLie moved count arms ∧
      ∀ t ∈ arms.flatMap Arm.spans, Reached moved count items t

/-- An arm makes sense with those after it. -/
theorem armsLie_cons {start : Span} {head : Head} {inline body : List Stmt} {block clauses : List Item}
    (h : Ladder moved count a ws (.line first others :: (block ++ clauses)) c vs)
    (line : lineClause first others = .ok (.opened start head inline))
    (inside : Parse.Holds block (.block inline body)) (further : Parse.Holds clauses (.arms arms))
    (hclause : ∀ arm ∈ arms, arm.head.isClause = true)
    (hb : inline = [] → Lie moved count (nodesOf body) ∧
      ∀ s ∈ body, Reached moved count block s.span)
    (ha : ArmsLie moved count arms ∧ ∀ t ∈ arms.flatMap Arm.spans, Reached moved count clauses t) :
    ArmsLie moved count (⟨start, head, body⟩ :: arms) ∧
      ∀ t ∈ (⟨start, head, body⟩ :: arms : List Arm).flatMap Arm.spans,
        Reached moved count (.line first others :: (block ++ clauses)) t := by
  obtain ⟨rfl, lhead, lbody, reached⟩ := lie_arm h line inside hb
  have all : ∀ t ∈ (⟨first.span, head, body⟩ :: arms : List Arm).flatMap Arm.spans,
      Reached moved count (.line first others :: (block ++ clauses)) t := by
    rw [List.flatMap_cons, List.forall_mem_append]
    refine ⟨fun t ht => (reached t ht).mono ?_, fun t ht => (ha.2 t ht).mono ?_⟩
    · exact List.cons_subset_cons _ (List.subset_append_left _ _)
    · exact List.subset_cons_of_subset _ (List.subset_append_right _ _)
  exact ⟨⟨lhead, lbody, fun t ht =>
    h.lies_through (inside_arm line inside further hclause) line (all t ht), ha.1⟩, all⟩

/-- The nodes of statements make sense when their lines are moved up a ladder. -/
theorem Parse.Holds.lies {f : Parse.Found} (h : Parse.Holds items f)
    (ladder : Ladder moved count a ws items c vs) : f.Lies moved count items := by
  induction h generalizing a ws c vs with
  | nil => exact ⟨lie_nil, nofun⟩
  | @simple first others stmts rest items line after ih =>
    obtain ⟨lie, reached⟩ := lie_simple ladder line
    obtain ⟨b, us, -, above⟩ := ladder.split [.line first others]
    obtain ⟨lies, further⟩ := ih above
    refine ⟨lie_nodesOf.2 (List.forall_mem_append.2 ⟨lie, lie_nodesOf.1 lies⟩),
      List.forall_mem_append.2 ⟨reached, fun s hs => ?_⟩⟩
    exact (further s hs).mono (List.subset_cons_self _ _)
  | @compound first others start head inline body arms s rest block clauses items line inside further
      whole after ih₁ ih₂ ih₃ =>
    rw [← List.append_assoc, ← List.cons_append] at ladder ⊢
    obtain ⟨b, us, own, above⟩ := ladder.split _
    obtain ⟨lies, behind⟩ := ih₃ above
    have clause := isClause_arms_of_compound? whole
    obtain ⟨c, us', -, inner⟩ := own.split [.line first others]
    obtain ⟨_, _, left, right⟩ := inner.split _
    obtain ⟨arms, reached⟩ := armsLie_cons own line inside further clause (ih₁ left)
      (ih₂ right clause)
    obtain ⟨lie, t, ht, he⟩ := lies_of_compound? arms whole
    refine ⟨lie_append.2 ⟨lie, lies⟩, List.forall_mem_cons.2 ⟨?_, fun s hs => ?_⟩⟩
    · exact ((reached t ht).congr he).mono (List.subset_append_left _ _)
    · exact (behind s hs).mono (List.subset_append_right _ _)
  | inline ne => exact fun hn => absurd hn ne
  | @indented s t items body inside ih =>
    intro _
    obtain ⟨b, us, -, above⟩ := ladder.split [.indent s]
    obtain ⟨_, _, left, -⟩ := above.split _
    obtain ⟨lie, reached⟩ := ih left
    refine ⟨lie, fun s hs => (reached s hs).mono ?_⟩
    exact List.subset_cons_of_subset _ (List.subset_append_left _ _)
  | noArms => exact fun _ => ⟨trivial, nofun⟩
  | @arm first others start head inline body arms block clauses line inside further ih₁ ih₂ =>
    intro hclause
    obtain ⟨-, others'⟩ := List.forall_mem_cons.1 hclause
    obtain ⟨b, us, -, inner⟩ := ladder.split [.line first others]
    obtain ⟨_, _, left, right⟩ := inner.split _
    exact armsLie_cons ladder line inside further others' (ih₁ left) (ih₂ right others')

end Stencil.Script
