import Stencil.Proofs.Script.Clauses
import Stencil.Proofs.Script.Parsed

/-!
# Lines that are moved

The rows of a script may be moved to lines such that several rows come to one line. Where this keeps
the order of the rows, a line of the script that opens a block and a line inside of the block may
come to one line, and then the columns of the two decide which of them stands before the other. Here
lines of two kinds alternate: those that write literal text and those of code. What one of them
requires of the next is enough to tell the columns of all lines in the block of a head that come to
the line of the head.

## Main definitions

* `Standing` — where a line of a script stands; `Standing.Follows` is what one requires of the next.
* `Ladder` — items whose lines follow one another while blocks begin and end.
* `Inside` — items that do not leave the block which they begin in.

## Main results

* `Ladder.le_column` — no line in the block of a head that comes to the line of the head stands
  outside of the blocks around the head.
* `Ladder.column_of_opens` — a head with such a line stands at the column of the blocks around it.
-/

namespace Stencil.Script

open Parse (lineClause clauseWords)

/-- A line is the head of a compound statement, or of a clause of one, whose block comes below it. -/
def OpensBlock (first : Terminal) (others : List Terminal) : Prop :=
  ∃ start head, lineClause first others = .ok (.opened start head [])

/-- A line is no head and does not begin like one of a clause. -/
def IsPlain (first : Terminal) (others : List Terminal) : Prop :=
  clauseWords.any first.isWord = false ∧
    ∀ clause, lineClause first others = .ok clause → ∃ stmts, clause = .simple stmts

theorem IsPlain.not_opensBlock {first : Terminal} {others : List Terminal}
    (h : IsPlain first others) : ¬OpensBlock first others := by
  rintro ⟨start, head, opened⟩
  obtain ⟨stmts, he⟩ := h.2 _ opened
  cases he

/-- Where a line of a script stands when rows are moved. -/
structure Standing where
  /-- The line that its first row is moved to. -/
  line : Nat
  /-- It writes literal text. -/
  literal : Bool
  /-- The number of blocks that it is written inside of. -/
  depth : Nat
  column : Nat
  /-- Its block comes below it. -/
  opens : Prop

namespace Standing

/-- Where a line with these terminals stands. -/
def ofLine (moved : Nat → Nat) (literal : Bool) (depth : Nat) (first : Terminal)
    (others : List Terminal) : Standing :=
  ⟨moved first.span.row, literal, depth, first.span.column, OpensBlock first others⟩

/-- What a line requires of the next. -/
structure Follows (a b : Standing) : Prop where
  order : a.line ≤ b.line
  /-- Literal text behind a head stands in the block of the head. -/
  literal : a.line = b.line → b.literal = true → a.opens →
    a.column = 4 * a.depth ∧ b.depth = a.depth + 1
  /-- Code stands behind literal text, of whose blocks it may end one. -/
  code : a.line = b.line → b.literal = false →
    a.literal = true ∧ ¬a.opens ∧ a.depth ≤ b.depth + 1 ∧ 4 * b.depth ≤ b.column

end Standing

/-- Rows up to the last one are moved to different lines in their order. -/
structure Spread (moved : Nat → Nat) (count lo hi : Nat) : Prop where
  last : hi ≤ count
  increases : ∀ ⦃i j⦄, lo ≤ i → i < j → j ≤ hi → moved i < moved j

/-- Items whose lines follow the line at `a` in turn, up to that at `c`; the levels of the blocks
around them are `ws` at first and then `vs`, innermost first. -/
inductive Ladder (moved : Nat → Nat) (count : Nat) :
    (a : Standing) → (ws : List Nat) → List Item → (c : Standing) → (vs : List Nat) → Prop where
  | nil {a : Standing} {ws : List Nat} : Ladder moved count a ws [] a ws
  | line {a c : Standing} {ws vs : List Nat} {first : Terminal} {others : List Terminal}
      {items : List Item} {lo hi depth : Nat} {literal : Bool}
      (inRows : InRows lo hi (first :: others)) (visible : first.isVisible = true)
      (spread : Spread moved count lo hi)
      (plain : literal = true → ws.headD 0 = 4 * depth ∧ first.span.column = 4 * depth ∧
        IsPlain first others)
      (follows : a.Follows (.ofLine moved literal depth first others))
      (after : Ladder moved count (.ofLine moved literal depth first others) ws items c vs) :
      Ladder moved count a ws (.line first others :: items) c vs
  | indent {a c : Standing} {ws vs : List Nat} {items : List Item} {s : Span} (w : Nat)
      (after : Ladder moved count a (w :: ws) items c vs) :
      Ladder moved count a ws (.indent s :: items) c vs
  | dedent {a c : Standing} {ws vs : List Nat} {items : List Item} {s : Span} {w : Nat}
      (after : Ladder moved count a ws items c vs) :
      Ladder moved count a (w :: ws) (.dedent s :: items) c vs

/-- Items do not leave the block that they begin in, which `k` blocks have begun inside of; at its own
level only clauses stand in it. A block begins where the line before it `opens` one. -/
def Inside : (opens : Prop) → (k : Nat) → List Item → Prop
  | _, _, [] => True
  | _, k, .line first others :: items =>
    (k = 0 → clauseWords.any first.isWord = true) ∧ Inside (OpensBlock first others) k items
  | opens, k, .indent _ :: items => opens ∧ Inside False (k + 1) items
  | _, 0, .dedent _ :: _ => False
  | _, k + 1, .dedent _ :: items => Inside False k items
  | _, _, .stop _ :: _ => False

variable {moved : Nat → Nat} {count : Nat} {a b c : Standing} {ws vs us : List Nat}
  {items xs ys : List Item} {first : Terminal} {others : List Terminal} {opens : Prop} {k : Nat}

namespace Ladder

theorem append (h : Ladder moved count a ws xs b vs) (k : Ladder moved count b vs ys c us) :
    Ladder moved count a ws (xs ++ ys) c us := by
  induction h with
  | nil => exact k
  | line inRows visible spread plain follows _ ih =>
    exact .line inRows visible spread plain follows (ih k)
  | indent w _ ih => exact .indent w (ih k)
  | dedent _ ih => exact .dedent (ih k)

theorem split (xs : List Item) (h : Ladder moved count a ws (xs ++ ys) c us) :
    ∃ b vs, Ladder moved count a ws xs b vs ∧ Ladder moved count b vs ys c us := by
  induction xs generalizing a ws with
  | nil => exact ⟨a, ws, .nil, h⟩
  | cons item xs ih =>
    cases h with
    | line inRows visible spread plain follows after =>
      obtain ⟨b, vs, left, right⟩ := ih after
      exact ⟨b, vs, .line inRows visible spread plain follows left, right⟩
    | indent w after =>
      obtain ⟨b, vs, left, right⟩ := ih after
      exact ⟨b, vs, .indent w left, right⟩
    | dedent after =>
      obtain ⟨b, vs, left, right⟩ := ih after
      exact ⟨b, vs, .dedent left, right⟩

/-- Lines come in the order of their rows. -/
theorem le_line (h : Ladder moved count a ws items c vs) (hm : .line first others ∈ items) :
    a.line ≤ moved first.span.row := by
  induction h with
  | nil => cases hm
  | line _ _ _ _ follows _ ih =>
    rcases List.mem_cons.1 hm with he | hm
    · obtain ⟨rfl, rfl⟩ := Item.line.inj he
      exact follows.order
    · exact Nat.le_trans follows.order (ih hm)
  | indent _ _ ih => exact ih ((List.mem_cons.1 hm).resolve_left nofun)
  | dedent _ ih => exact ih ((List.mem_cons.1 hm).resolve_left nofun)

/-- No line inside that comes to a given line, which the ladder has not passed, stands outside of
`depth` blocks. The levels of the blocks that have begun inside are those of more than `depth` blocks,
up to that of a block which has only just begun behind its head. -/
theorem le_column {depth line : Nat} (new : Option Nat) (ups base : List Nat)
    (h : Ladder moved count a ws items c vs) (inside : Inside opens k items)
    (hopens : opens → a.opens ∧ new = none) (hws : ws = new.toList ++ ups ++ base)
    (hk : (new.toList ++ ups).length = k) (hnew : new ≠ none → a.opens) (hline : line ≤ a.line)
    (deep : a.line = line → depth + (if a.literal then 1 else 0) ≤ a.depth)
    (levels : a.line = line → ∀ w ∈ ups, 4 * (depth + 1) ≤ w)
    (hm : .line first others ∈ items) (hf : moved first.span.row = line) :
    4 * depth ≤ first.span.column := by
  induction h generalizing opens k new ups with
  | nil => cases hm
  | @line a c ws vs f o items lo hi d literal inRows visible spread plain follows after ih =>
    obtain ⟨clause, inside⟩ := inside
    have here (he : moved f.span.row = line) : 4 * depth ≤ f.span.column ∧
        depth + (if literal then 1 else 0) ≤ d ∧ ∀ w ∈ new.toList ++ ups, 4 * (depth + 1) ≤ w := by
      have same : a.line = moved f.span.row := Nat.le_antisymm follows.order (he ▸ hline)
      have deep := deep (same.trans he)
      have levels := levels (same.trans he)
      cases literal with
      | true =>
        obtain ⟨level, column, unmarked⟩ := plain rfl
        -- literal text is no clause, so it stands in a block that has begun
        have begun : new.toList ++ ups ≠ [] := fun hn => by
          rw [hn] at hk
          rw [unmarked.1] at clause
          exact Bool.noConfusion (clause hk.symm)
        cases new with
        | none =>
          obtain ⟨w, others, rfl⟩ := List.exists_cons_of_ne_nil begun
          obtain rfl : w = 4 * d := by rw [hws] at level; exact level
          have inner := levels _ List.mem_cons_self
          exact ⟨by omega, by simp only [↓reduceIte]; omega, levels⟩
        | some w =>
          obtain rfl : w = 4 * d := by rw [hws] at level; exact level
          have next : d = a.depth + 1 := (follows.literal same rfl (hnew nofun)).2
          exact ⟨by omega, by simp only [↓reduceIte]; omega,
            List.forall_mem_cons.2 ⟨by omega, levels⟩⟩
      | false =>
        obtain ⟨after, shut, outer, column⟩ := follows.code same rfl
        have outer : a.depth ≤ d + 1 := outer
        have column : 4 * d ≤ f.span.column := column
        obtain rfl : new = none := not_not.1 (mt hnew shut)
        rw [after] at deep
        simp only [↓reduceIte] at deep
        exact ⟨by omega, by simp only [Bool.false_eq_true, ↓reduceIte]; omega, levels⟩
    rcases List.mem_cons.1 hm with he | hm
    · obtain ⟨rfl, rfl⟩ := Item.line.inj he
      exact (here hf).1
    · exact ih none (new.toList ++ ups) inside (fun ho => ⟨ho, rfl⟩) hws hk
        (fun hn => absurd rfl hn) (Nat.le_trans hline follows.order) (fun he => (here he).2.1)
        (fun he => (here he).2.2) hm
  | @indent a c ws vs items s w after ih =>
    obtain ⟨begins, inside⟩ := inside
    obtain ⟨open_, rfl⟩ := hopens begins
    exact ih (some w) ups inside False.elim (by rw [hws]; rfl) (by rw [← hk]; rfl) (fun _ => open_)
      hline deep levels ((List.mem_cons.1 hm).resolve_left nofun)
  | @dedent a c ws vs items s w after ih =>
    have hm := (List.mem_cons.1 hm).resolve_left nofun
    cases new with
    | some w' =>
      obtain rfl : ups.length + 1 = k := hk
      exact ih none ups inside False.elim (List.cons.inj hws).2 rfl (fun hn => absurd rfl hn)
        hline deep levels hm
    | none =>
      cases ups with
      | nil =>
        obtain rfl : 0 = k := hk
        exact inside.elim
      | cons w' ups =>
        obtain rfl : ups.length + 1 = k := hk
        exact ih none ups inside False.elim (List.cons.inj hws).2 rfl
          (fun hn => absurd rfl hn) hline deep
          (fun he => (List.forall_mem_cons.1 (levels he)).2) hm

/-- Where code is followed inside of its block by a line that comes to the same line, it opens a block
and stands at the column of the blocks around it. -/
theorem column_of_opens (h : Ladder moved count a ws items c vs) (inside : Inside opens k items)
    (hopens : opens → a.opens) (hk : k ≠ 0 → a.opens) (code : a.literal = false)
    (hm : .line first others ∈ items) (hf : moved first.span.row = a.line) :
    a.column = 4 * a.depth := by
  induction h generalizing opens k with
  | nil => cases hm
  | @line a c ws vs f o items lo hi d literal inRows visible spread plain follows after ih =>
    have same : a.line = moved f.span.row := by
      refine Nat.le_antisymm follows.order (hf ▸ ?_)
      rcases List.mem_cons.1 hm with he | hm
      · obtain ⟨rfl, rfl⟩ := Item.line.inj he
        exact Nat.le_refl _
      · exact after.le_line hm
    cases literal with
    | true =>
      have begun : k ≠ 0 := fun hz => by
        have clause := inside.1 hz
        rw [(plain rfl).2.2.1] at clause
        cases clause
      exact (follows.literal same rfl (hk begun)).1
    | false =>
      have after := (follows.code same rfl).1
      rw [code] at after
      cases after
  | indent w after ih =>
    obtain ⟨begins, inside⟩ := inside
    exact ih inside False.elim (fun _ => hopens begins) code
      ((List.mem_cons.1 hm).resolve_left nofun) hf
  | dedent after ih =>
    cases k with
    | zero => exact inside.elim
    | succ k =>
      exact ih inside False.elim (fun _ => hk (Nat.succ_ne_zero k)) code
        ((List.mem_cons.1 hm).resolve_left nofun) hf

end Ladder

end Stencil.Script
