import Stencil.Proofs.Template.Print

/-!
# Trees that blocks cannot find

If the template of a tree can be compiled at all, blocks find every section of the tree. A head or a
clause that is indented is refused by itself. A section of statements that begins like a clause is
not, but it closes a block that nothing opens, so that the blocks of the template do not come out
even at its end.

## Main definitions

* `Tree.sections` — the sections of a tree in their order, ends of blocks included.
* `Tree.laid` — the layout of a section.

## Main results

* `Tree.level_sections` — how the sections of a tree change the number of open blocks.
* `Tree.legible_of_compile` — only legible trees are compiled.
-/

namespace Stencil

open Script Script.Terminals

mutual

/-- The sections of a tree in their order. -/
def Tree.sections : Tree → List Text
  | .literal _ => []
  | .simple _ code rest => code :: rest.sections
  | .block _ head body clauses rest =>
    head :: (body.sections ++ (clauses.sections ++ rest.sections))

/-- The sections of clauses in their order, up to the end of their block. -/
def Clauses.sections : Clauses → List Text
  | .done => ["end"]
  | .clause head body rest => head :: (body.sections ++ rest.sections)

end

namespace Tree

variable {depth rows : Nat} {code t : Text} {segments : Segments} {ls : List Layout}

/-- The layout of a section of one row. -/
def laid (code : Text) : Layout := ⟨[row code], 0⟩

/-- Segments have these layouts wherever they begin. -/
def HasLayouts (segments : Segments) (ls : List Layout) : Prop :=
  ∀ place, Template.layoutsFrom .standard place segments = ls

theorem hasLayouts_next (hl : (10 : CodePoint) ∉ code) (hr : (13 : CodePoint) ∉ code)
    (hrow : row code ≠ []) (h : HasLayouts segments ls) :
    HasLayouts (.next t (inner code) segments) (laid code :: ls) := by
  intro place
  rw [Template.layoutsFrom, h]
  exact congrArg (· :: ls) (Layout.ofCode_inner code _ hl hr hrow)

theorem hasLayouts_section (hs : Section code) (h : HasLayouts segments ls) :
    HasLayouts (.next t (inner code) segments) (laid code :: ls) :=
  hasLayouts_next hs.lineFeed hs.carriageReturn (row_ne_nil hs) h

end Tree

mutual

/-- The layouts of the segments of a tree are those of its sections. -/
theorem Tree.layouts_segments {last : Text → Segments} {ls : List Layout} : (tree : Tree) →
    tree.Valid → (∀ t, Tree.HasLayouts (last t) ls) →
    Tree.HasLayouts (tree.segments last) (tree.sections.map Tree.laid ++ ls)
  | .literal t, _, h => h t
  | .simple t code rest, hv, h =>
    Tree.hasLayouts_section hv.2.1 (Tree.layouts_segments rest hv.2.2.2 h)
  | .block t head body clauses rest, hv, h => by
    simp only [Tree.sections, List.map_cons, List.map_append, List.cons_append, List.append_assoc]
    exact Tree.hasLayouts_section hv.2.1 (Tree.layouts_segments body hv.2.2.1 fun u =>
      Clauses.layouts_segments u clauses hv.2.2.2.1 (Tree.layouts_segments rest hv.2.2.2.2 h))

/-- The layouts of the segments of clauses are those of their sections. -/
theorem Clauses.layouts_segments {after : Segments} {ls : List Layout} (t : Text) :
    (clauses : Clauses) → clauses.Valid → Tree.HasLayouts after ls →
    Tree.HasLayouts (clauses.segments t after) (clauses.sections.map Tree.laid ++ ls)
  | .done, _, h => Tree.hasLayouts_next (by decide) (by decide) (by decide) h
  | .clause head body rest, hv, h => by
    simp only [Clauses.sections, List.map_cons, List.map_append, List.cons_append,
      List.append_assoc]
    exact Tree.hasLayouts_section hv.1 (Tree.layouts_segments body hv.2.1 fun u =>
      Clauses.layouts_segments u rest hv.2.2 h)

end

namespace Tree

variable {depth rows : Nat} {code : Text}

theorem layouts_print {tree : Tree} (hv : tree.Valid) :
    Template.layouts .standard tree.print = tree.sections.map laid := by
  have cuts : Segments.Cuts (tree.print ++ []) (tree.segments .last) :=
    cuts_print tree hv fun t ht => by
      rw [List.append_nil]
      exact Segments.cuts_last ht.free
  rw [List.append_nil] at cuts
  rw [Template.layouts, cuts.ofText, layouts_segments tree hv fun t place => rfl, List.append_nil]

/-! ## Kinds of sections -/

theorem kind_laid {clause : Option Text} {header : Option Nat}
    (h : IsTaken code (.statements clause header)) :
    (laid code).kind = .statements clause (header.map (· != 0)) := by
  obtain ⟨tokens, htokens, hrole⟩ := h
  rw [Block.role_eq] at hrole
  split at hrole
  · simp at hrole
  · rename_i he
    obtain ⟨rfl, rfl⟩ := Block.Role.statements.inj hrole
    have rows : (laid code).rows = [row code] := rfl
    rw [Layout.kind, rows, htokens, if_neg (by simp)]
    simp only [he, Bool.false_eq_true, ↓reduceIte, Block.opens_header]

theorem kind_end : (laid "end").kind = .close := by decide

/-- A section of statements never opens blocks, and closes one where it begins like a clause. -/
theorem change_simple {stmts : List Stmt} (hs : Section code) (he : ¬Block.IsEnd (row code))
    (h : clause? depth rows code = some (.simple stmts)) :
    (laid code).kind.change =
      if Block.firstWord (row code) ∈ Block.clauseKeywords then -1 else 0 := by
  rw [kind_laid (isTaken_simple hs he h)]
  split <;> simp [SectionKind.change, *]

/-- A head that is not refused is not indented; it opens a block, and closes one if it is that of a
clause. -/
theorem change_opened {start : Span} {head : Head} (hs : Section code)
    (h : clause? depth rows code = some (.opened start head []))
    (sound : (laid code).kind.isFaulty = false) :
    blanks code = [] ∧ (laid code).kind.change = if head.isClause then 0 else 1 := by
  rw [kind_laid (isTaken_opened hs h)] at sound ⊢
  refine ⟨?_, ?_⟩
  · simpa [SectionKind.isFaulty] using sound
  · cases head.isClause <;> simp [SectionKind.change]

/-! ## Levels -/

theorem openAfter_append (ls ms : List Layout) :
    Template.openAfter (ls ++ ms) = Template.openAfter ls + Template.openAfter ms := by
  rw [Template.openAfter, List.foldl_append, Template.foldl_change]
  rfl

/-- The number of blocks that sections leave open. -/
def level (codes : List Text) : Int := Template.openAfter (codes.map laid)

theorem level_cons (code : Text) (codes : List Text) :
    level (code :: codes) = (laid code).kind.change + level codes :=
  Template.openAfter_cons _ _

theorem level_append (codes others : List Text) :
    level (codes ++ others) = level codes + level others := by
  rw [level, List.map_append, openAfter_append]
  rfl

end Tree

mutual

/-- Sections of a tree that are not refused by themselves open no more blocks than they close, and
if they close no more either, the tree is legible. -/
theorem Tree.level_sections {depth rows : Nat} {stmts : List Stmt} : (tree : Tree) → tree.Valid →
    tree.statements? depth rows = some stmts →
    (∀ code ∈ tree.sections, (Tree.laid code).kind.isFaulty = false) →
    Tree.level tree.sections ≤ 0 ∧ (Tree.level tree.sections = 0 → tree.Legible)
  | .literal _, _, _, _ => ⟨Int.le_refl 0, fun _ => trivial⟩
  | .simple t code rest, hv, h, sound => by
    simp only [Tree.statements?] at h
    split at h
    · rename_i inside others hc hr
      have change := Tree.change_simple hv.2.1 hv.2.2.1 hc
      obtain ⟨hle, hzero⟩ := Tree.level_sections rest hv.2.2.2 hr fun c hm =>
        sound c (List.mem_cons_of_mem _ hm)
      rw [Tree.sections, Tree.level_cons, change]
      split
      · exact ⟨by omega, fun h => by omega⟩
      · rename_i hw
        exact ⟨by omega, fun h => ⟨hw, hzero (by omega)⟩⟩
    · simp at h
  | .block t head body clauses rest, hv, h, sound => by
    simp only [Tree.statements?] at h
    split at h
    · rename_i start opened inside arms others hc hb ha hr
      obtain ⟨s, hs, -⟩ := Option.map_eq_some_iff.1 h
      simp only [Tree.sections, List.forall_mem_cons, List.forall_mem_append] at sound
      obtain ⟨hblanks, change⟩ := Tree.change_opened hv.2.1 hc sound.1
      rw [Arm.isClause_of_compound? hs] at change
      have hbody := Tree.level_sections body hv.2.2.1 hb sound.2.1
      have hclauses := Clauses.level_sections clauses hv.2.2.2.1 ha sound.2.2.1
      have hrest := Tree.level_sections rest hv.2.2.2.2 hr sound.2.2.2
      simp only [Bool.false_eq_true, ↓reduceIte] at change
      rw [Tree.sections, Tree.level_cons, Tree.level_append, Tree.level_append, change]
      refine ⟨by omega, fun h => ⟨hblanks, hbody.2 ?_, hclauses.2 ?_, hrest.2 ?_⟩⟩ <;> omega
    · simp at h

/-- Sections of clauses that are not refused by themselves close one block at least, and if they
close just one, the clauses are legible. -/
theorem Clauses.level_sections {depth rows : Nat} {arms : List Arm} : (clauses : Clauses) →
    clauses.Valid → clauses.arms? depth rows = some arms →
    (∀ code ∈ clauses.sections, (Tree.laid code).kind.isFaulty = false) →
    Tree.level clauses.sections ≤ -1 ∧ (Tree.level clauses.sections = -1 → clauses.Legible)
  | .done, _, _, _ => by
    rw [Clauses.sections, Tree.level_cons, Tree.kind_end]
    exact ⟨by decide, fun _ => trivial⟩
  | .clause head body rest, hv, h, sound => by
    simp only [Clauses.arms?] at h
    split at h
    · rename_i start opened inside arms' hc hb ha
      split at h
      · rename_i hclause
        simp only [Clauses.sections, List.forall_mem_cons, List.forall_mem_append] at sound
        obtain ⟨hblanks, change⟩ := Tree.change_opened hv.1 hc sound.1
        have hbody := Tree.level_sections body hv.2.1 hb sound.2.1
        have hrest := Clauses.level_sections rest hv.2.2 ha sound.2.2
        rw [hclause] at change
        simp only [↓reduceIte] at change
        rw [Clauses.sections, Tree.level_cons, Tree.level_append, change]
        refine ⟨by omega, fun h => ⟨hblanks, hbody.2 ?_, hrest.2 ?_⟩⟩ <;> omega
      · simp at h
    · simp at h

end

namespace Tree

/-- Only legible trees are compiled. -/
theorem legible_of_compile {tree : Tree} {stmts : List Stmt} {mode : Mode} {s : Source}
    (hv : tree.Valid) (h : tree.statements? 0 0 = some stmts)
    (hs : Template.compile .standard mode tree.print = .ok s) : tree.Legible := by
  have balanced := (Template.compile_eq_ok_iff mode).1 ⟨s, hs⟩
  have layouts := layouts_print hv
  have sound : ∀ code ∈ tree.sections, (laid code).kind.isFaulty = false := by
    intro code hm
    obtain ⟨k, hk⟩ := List.mem_iff_getElem?.1 hm
    refine (balanced.sections k (laid code) ?_).1
    rw [layouts, List.getElem?_map, hk, Option.map_some]
  have even : level tree.sections = 0 := by
    rw [level, ← layouts]
    exact balanced.level
  exact (level_sections tree hv h sound).2 even

end Tree

end Stencil
