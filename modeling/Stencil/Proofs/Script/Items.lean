import Stencil.Proofs.Script.Suite

/-!
# Items of a script, row by row

What the rows of a script contribute to the items that its statements are read from. A row brings
the ends of blocks, or the beginning of one, and then its own line.

## Main definitions

* `Scan.Reads` — the rows between two places hold these items.
* `Item.shift` — the items that the indentation of a row brings.
* `line?` — the line of a row, moved to its place.

## Main results

* `Scan.reads_line` — a row that is a complete script of its own.
* `Terminals.items_of_reads` — the items of a whole script.
-/

namespace Stencil.Script

namespace Item

/-- The items that a row inside `inner` blocks brings after one inside `outer` blocks. -/
def shift (outer inner row : Nat) : List Item :=
  if outer < inner then [.indent ⟨row, 4 * inner, row, 4 * inner⟩]
  else List.replicate (outer - inner) (.dedent ⟨row, 4 * inner, row, 4 * inner⟩)

theorem ofTerminals_visible {ts : List Terminal} (h : ∀ t ∈ ts, t.isVisible = true)
    (taken rest : List Terminal) :
    ofTerminals taken (ts ++ rest) = ofTerminals (ts.reverse ++ taken) rest := by
  induction ts generalizing taken with
  | nil => rfl
  | cons t ts ih =>
    rw [List.forall_mem_cons] at h
    have step : ofTerminals taken (t :: (ts ++ rest)) = ofTerminals (t :: taken) (ts ++ rest) := by
      have hv := h.1
      unfold Terminal.isVisible at hv
      rw [ofTerminals]
      split at hv
      · rename_i hk
        simp only [hk]
      · rename_i hk
        simp only [hk]
      · rename_i hk
        simp only [hk]
      · rename_i hk
        simp only [hk]
      · simp at hv
    rw [List.cons_append, step, ih h.2]
    simp

theorem ofTerminals_dedents (n : Nat) (span : Span) (rest : List Terminal) :
    ofTerminals [] (List.replicate n ⟨.dedent, [], span, 0⟩ ++ rest) =
      List.replicate n (.dedent span) ++ ofTerminals [] rest := by
  induction n with
  | zero => rfl
  | succ n ih =>
    simp only [List.replicate_succ, List.cons_append]
    rw [ofTerminals]
    simp only [ih]
    rfl

theorem ofTerminals_shift (outer inner row : Nat) (rest : List Terminal) :
    ofTerminals [] (Terminals.Scan.shift outer inner row ++ rest) =
      shift outer inner row ++ ofTerminals [] rest := by
  unfold Terminals.Scan.shift shift
  split
  · rfl
  · exact ofTerminals_dedents (outer - inner) _ rest

/-- A line and its end. -/
theorem ofTerminals_line {first t : Terminal} {others : List Terminal}
    (h : ∀ t ∈ first :: others, t.isVisible = true) (ht : t.kind = .newline)
    (rest : List Terminal) :
    ofTerminals [] (first :: others ++ t :: rest) = line first others :: ofTerminals [] rest := by
  rw [ofTerminals_visible h, ofTerminals]
  simp only [ht, List.append_nil]
  rw [ofTerminals.flush, List.reverse_reverse]
  rfl

end Item

namespace Terminals

/-- The terminals of a row that is a script of its own, in another place. -/
def placed (row : Text) (rows columns : Nat) : List Terminal :=
  (ofText row).visible.map (Terminal.moved rows columns)

theorem isVisible_placed {row : Text} {rows columns : Nat} :
    ∀ t ∈ placed row rows columns, t.isVisible = true := by
  intro t ht
  obtain ⟨u, hu, rfl⟩ := List.mem_map.1 ht
  exact (List.mem_filter.1 hu).2

namespace Scan

/-- The rows between two places hold these items. -/
def Reads (s : Scan) (items : List Item) (s' : Scan) : Prop :=
  ∃ ts, Leads s ts s' ∧ ∀ rest, Item.ofTerminals [] (ts ++ rest) = items ++ Item.ofTerminals [] rest

theorem Reads.trans {s m s' : Scan} {is js : List Item} (h : Reads s is m) (k : Reads m js s') :
    Reads s (is ++ js) s' := by
  obtain ⟨ts, leads, items⟩ := h
  obtain ⟨us, leads', items'⟩ := k
  refine ⟨ts ++ us, leads.trans leads', fun rest => ?_⟩
  rw [List.append_assoc, items, items', List.append_assoc]

/-- The terminals of a row and its end are one line. -/
theorem ofTerminals_placed {row : Text} {rows columns : Nat} {first : Terminal}
    {others : List Terminal} (hline : Terminals.placed row rows columns = first :: others) (j : Nat)
    (rest : List Terminal) :
    Item.ofTerminals [] ((ofText row).visible.map (Terminal.moved rows columns) ++
        [(⟨.newline, [], ⟨1, j, 1, j⟩, 0⟩ : Terminal).moved rows columns] ++ rest) =
      .line first others :: Item.ofTerminals [] rest := by
  have visible : ∀ t ∈ Terminals.placed row rows columns, t.isVisible = true :=
    isVisible_placed
  change Item.ofTerminals [] (Terminals.placed row rows columns ++ _ ++ _) = _
  rw [hline] at visible ⊢
  rw [List.append_assoc]
  exact Item.ofTerminals_line visible rfl rest

/-- A row that is a complete script of its own holds a line and the changes of indentation before
it. -/
theorem reads_line {row blanks : Text} (v : Text) {rows outer inner : Nat} {first : Terminal}
    {others : List Terminal} (hl : (10 : CodePoint) ∉ row) (hr : (13 : CodePoint) ∉ row)
    (hrow : BeginsRow blanks row) (h : (ofText row).ending = .complete)
    (hf : blanks = [] ∨ inner = 0 ∧ outer = 0) (hd : inner ≤ outer + 1) (hmax : inner < maxIndents)
    (hline : Terminals.placed row rows (4 * inner) = first :: others) :
    Reads (atRow (List.replicate (4 * inner) 32 ++ (row ++ 10 :: v)) (1 + rows) (levels outer))
      (Item.shift outer inner (1 + rows) ++ [.line first others])
      (afterRow v (1 + rows) (levels inner)) := by
  obtain ⟨j, leads⟩ := leads_line v rows hl hr hrow h hf hd hmax
  refine ⟨_, leads, fun rest => ?_⟩
  rw [List.append_assoc, Item.ofTerminals_shift, ofTerminals_placed hline, List.append_assoc]
  rfl

/-- Such a row that form feeds take out of all blocks holds its line behind their ends. -/
theorem reads_feed {row blanks : Text} (v : Text) {rows : Nat} (outer inner : Nat)
    {first : Terminal} {others : List Terminal} (hl : (10 : CodePoint) ∉ row)
    (hr : (13 : CodePoint) ∉ row) (hrow : BeginsRow blanks row)
    (h : (ofText row).ending = .complete) (hf : blanks ≠ [])
    (hline : Terminals.placed row rows (4 * inner) = first :: others) :
    ∃ span, Reads
      (atRow (List.replicate (4 * inner) 32 ++ (row ++ 10 :: v)) (1 + rows) (levels outer))
      (List.replicate outer (.dedent span) ++ [.line first others])
      (afterRow v (1 + rows) (levels 0)) := by
  obtain ⟨span, j, leads⟩ := leads_feed v outer inner rows hl hr hrow h hf
  refine ⟨span, _, leads, fun rest => ?_⟩
  rw [List.append_assoc, Item.ofTerminals_dedents, ofTerminals_placed hline, List.append_assoc]
  rfl

end Scan

/-- The items of a whole script. -/
theorem items_of_reads {source : Text} {items : List Item} {depth row : Nat}
    (h : Scan.Reads (Scan.start (lines source)) items (Scan.atRow [] row (Scan.levels depth))) :
    (ofText source).ending = .complete ∧
      Item.ofTerminals [] (ofText source).list =
        items ++ (Item.shift depth 0 row ++ [.stop ⟨row, 0, row, 0⟩]) := by
  obtain ⟨ts, leads, hitems⟩ := h
  have whole : ofText source = preceded ts (Scan.atRow [] row (Scan.levels depth)).all :=
    (ofText_eq source).trans (Scan.all_of_leads leads)
  have shift : Scan.shift depth 0 row = List.replicate depth ⟨.dedent, [], ⟨row, 0, row, 0⟩, 0⟩ := by
    simp [Scan.shift]
  rw [whole, Scan.all_end]
  refine ⟨rfl, ?_⟩
  rw [preceded, hitems, ← shift, Item.ofTerminals_shift]
  rfl

end Terminals

end Stencil.Script
