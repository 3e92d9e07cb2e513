import Stencil.Proofs.Template.Section

/-!
# Trees as templates

A tree is printed as a template, literal texts as they are, sections between delimiters and a
section with the word `end` after every block. The compiler finds the tree in the template again:
it cuts the template at the delimiters of the tree, and emits the rows of the tree.

What follows a tree is printed behind its last literal text, so that the segments and the parts of
a tree are told for any continuation of that text.

## Main definitions

* `Tree.print` — the template of a tree.
* `Tree.segments`, `Tree.parts` — its segments and its parts.
* `Tree.lines` — the template lines of its rows.

## Main results

* `Tree.cuts_print` — a template is cut into the segments of the tree.
* `Tree.compile_print` — a template is compiled to the rows of the tree.
-/

namespace Stencil

open Script

mutual

/-- The template of a tree. -/
def Tree.print : Tree → Text
  | .literal t => t
  | .simple t code rest => t ++ (Tree.enclosed code ++ rest.print)
  | .block t head body clauses rest =>
    t ++ (Tree.enclosed head ++ (body.print ++ (clauses.print ++ rest.print)))

/-- The template of clauses up to the end of their block. -/
def Clauses.print : Clauses → Text
  | .done => Tree.enclosed "end"
  | .clause head body rest => Tree.enclosed head ++ (body.print ++ rest.print)

end

/-! ## Segments -/

namespace Text

variable {a b : CodePoint} {t rest : Text}

/-- A text is cut at a pattern of two code points where the pattern begins first. -/
theorem cut?_append (hab : a ≠ b) (h : cut? [a, b] t = none) :
    cut? [a, b] (t ++ a :: b :: rest) = some (t, rest) := by
  induction t with
  | nil => simp [cut?, List.isPrefixOf]
  | cons c t ih =>
    unfold cut? at h
    split at h
    · simp at h
    · rename_i hp
      have hp' : ¬List.isPrefixOf [a, b] (c :: (t ++ a :: b :: rest)) = true := by
        cases t with
        | nil => simpa [List.isPrefixOf] using fun _ => Ne.symm hab
        | cons d t => simpa [List.isPrefixOf] using hp
      rw [List.cons_append, cut?, if_neg hp', ih (Option.map_eq_none_iff.1 h)]
      rfl

/-- A code point that the pattern does not begin with may come first. -/
theorem cut?_cons {c : CodePoint} (hc : c ≠ a) (h : cut? [a, b] t = none) :
    cut? [a, b] (c :: t) = none := by
  have hp : ¬List.isPrefixOf [a, b] (c :: t) = true := by
    simp [List.isPrefixOf, Ne.symm hc]
  rw [cut?, if_neg hp, h]
  rfl

/-- A code point that the pattern does not end with may come last. -/
theorem cut?_concat {c : CodePoint} (hc : c ≠ b) (h : cut? [a, b] t = none) :
    cut? [a, b] (t ++ [c]) = none := by
  induction t with
  | nil => simp [cut?, List.isPrefixOf]
  | cons d t ih =>
    unfold cut? at h
    split at h
    · simp at h
    · rename_i hp
      have hp' : ¬List.isPrefixOf [a, b] (d :: (t ++ [c])) = true := by
        cases t with
        | nil => simpa [List.isPrefixOf] using fun _ => Ne.symm hc
        | cons e t => simpa [List.isPrefixOf] using hp
      rw [List.cons_append, cut?, if_neg hp', ih (Option.map_eq_none_iff.1 h)]
      rfl

end Text

namespace Segments

/-- A template has these segments. -/
def Cuts (t : Text) (segments : Segments) : Prop :=
  ∀ fuel, t.length ≤ fuel → scan .standard fuel t = segments

theorem Cuts.ofText {t : Text} {segments : Segments} (h : Cuts t segments) :
    ofText .standard t = segments := h t.length (Nat.le_refl _)

theorem cuts_last {t : Text} (h : Text.cut? Delimiters.standard.start t = none) :
    Cuts t (.last t) := by
  intro fuel hfuel
  cases fuel with
  | zero => rfl
  | succ fuel => rw [scan, h]

/-- A literal text and a section before the rest of a template. -/
theorem cuts_next {t inner rest : Text} {segments : Segments}
    (ht : Text.cut? Delimiters.standard.start t = none)
    (hi : Text.cut? Delimiters.standard.stop inner = none) (h : Cuts rest segments) :
    Cuts (t ++ (Delimiters.standard.start ++ (inner ++ Delimiters.standard.stop) ++ rest))
      (.next t inner segments) := by
  intro fuel hfuel
  have start (u : Text) : Text.cut? Delimiters.standard.start
      (t ++ (Delimiters.standard.start ++ u)) = some (t, u) :=
    Text.cut?_append (by decide) ht
  have stop : Text.cut? Delimiters.standard.stop
      (inner ++ (Delimiters.standard.stop ++ rest)) = some (inner, rest) :=
    Text.cut?_append (by decide) hi
  have two : Delimiters.standard.start.length = 2 := rfl
  simp only [List.append_assoc, List.length_append, two] at hfuel ⊢
  obtain ⟨fuel, rfl⟩ : ∃ m, fuel = m + 1 := ⟨fuel - 1, by omega⟩
  rw [scan, start]
  simp only [stop]
  rw [h fuel (by omega)]

end Segments

mutual

/-- The segments of a tree whose last literal text goes on with `last`. -/
def Tree.segments (last : Text → Segments) : Tree → Segments
  | .literal t => last t
  | .simple t code rest => .next t (Tree.inner code) (rest.segments last)
  | .block t head body clauses rest =>
    .next t (Tree.inner head)
      (body.segments fun u => clauses.segments u (rest.segments last))

/-- The segments of clauses behind a literal text, and what follows the end of their block. -/
def Clauses.segments (t : Text) (after : Segments) : Clauses → Segments
  | .done => .next t (Tree.inner "end") after
  | .clause head body rest =>
    .next t (Tree.inner head) (body.segments fun u => rest.segments u after)

end

namespace Tree

theorem cut?_inner {code : Text} (h : Text.cut? Delimiters.standard.stop code = none) :
    Text.cut? Delimiters.standard.stop (inner code) = none :=
  Text.cut?_cons (by decide) (Text.cut?_concat (by decide) h)

/-- A literal text and a section before the rest of a template. -/
theorem cuts_section {t code rest : Text} {segments : Segments} (ht : Literal t)
    (hc : Text.cut? Delimiters.standard.stop code = none) (h : Segments.Cuts rest segments) :
    Segments.Cuts (t ++ (enclosed code ++ rest)) (.next t (inner code) segments) :=
  Segments.cuts_next ht.free (cut?_inner hc) h

end Tree

mutual

/-- The template of a tree is cut where the tree has its sections. -/
theorem Tree.cuts_print {last : Text → Segments} {v : Text} : (tree : Tree) →
    tree.Valid → (∀ t, Tree.Literal t → Segments.Cuts (t ++ v) (last t)) →
    Segments.Cuts (tree.print ++ v) (tree.segments last)
  | .literal t, hv, hlast => hlast t hv
  | .simple t code rest, hv, hlast => by
    simp only [Tree.print, List.append_assoc]
    exact Tree.cuts_section hv.1 hv.2.1.free (Tree.cuts_print rest hv.2.2.2 hlast)
  | .block t head body clauses rest, hv, hlast => by
    simp only [Tree.print, List.append_assoc]
    exact Tree.cuts_section hv.1 hv.2.1.free (Tree.cuts_print body hv.2.2.1 fun u hu =>
      Clauses.cuts_print clauses hv.2.2.2.1 hu (Tree.cuts_print rest hv.2.2.2.2 hlast))

/-- The template of clauses behind a literal text is cut where the clauses have their sections. -/
theorem Clauses.cuts_print {t v : Text} {after : Segments} : (clauses : Clauses) →
    clauses.Valid → Tree.Literal t → Segments.Cuts v after →
    Segments.Cuts (t ++ (clauses.print ++ v)) (clauses.segments t after)
  | .done, _, ht, hafter => Tree.cuts_section ht (by decide) hafter
  | .clause head body rest, hv, ht, hafter => by
    simp only [Clauses.print, List.append_assoc]
    exact Tree.cuts_section ht hv.1.free (Tree.cuts_print body hv.2.1 fun u hu =>
      Clauses.cuts_print rest hv.2.2 hu hafter)

end

/-! ## Parts -/

mutual

/-- The number of template lines that end inside a tree. -/
def Tree.lineFeeds : Tree → Nat
  | .literal t => t.lineFeeds
  | .simple t _ rest => t.lineFeeds + rest.lineFeeds
  | .block t _ body clauses rest =>
    t.lineFeeds + body.lineFeeds + clauses.lineFeeds + rest.lineFeeds

/-- The number of template lines that end inside clauses. -/
def Clauses.lineFeeds : Clauses → Nat
  | .done => 0
  | .clause _ body rest => body.lineFeeds + rest.lineFeeds

end

mutual

/-- The parts of a tree inside blocks that begins on a line of the template. -/
def Tree.parts (depth line : Nat) : Tree → List Part
  | .literal t => [.literal depth line t]
  | .simple t code rest =>
    let next := line + t.lineFeeds
    .literal depth line t :: .code depth next [Tree.row code] :: rest.parts depth next
  | .block t head body clauses rest =>
    let next := line + t.lineFeeds
    let after := next + body.lineFeeds
    .literal depth line t :: .code depth next [Tree.row head] ::
      (body.parts (depth + 1) next ++ (clauses.parts depth after ++
        rest.parts depth (after + clauses.lineFeeds)))

/-- The parts of clauses inside blocks. -/
def Clauses.parts (depth line : Nat) : Clauses → List Part
  | .done => []
  | .clause head body rest =>
    .code depth line [Tree.row head] ::
      (body.parts (depth + 1) line ++ rest.parts depth (line + body.lineFeeds))

end

namespace Template

variable {depth depth' : Nat} {place : Place} {code t : Text}
  {rest : Segments} {more : List Part}

/-- A literal text and a section before the rest of a template. The section stands on one line, so
that the rest begins on the line on which the literal text ends. -/
theorem partsFrom_next (part : Nat → Option Part) (hl : (10 : CodePoint) ∉ code)
    (hs : ∀ p, sectionPart .blocking depth p (Tree.inner code) = .ok (part p.line, depth'))
    (h : ∀ p : Place, p.line = place.line + t.lineFeeds →
      partsFrom .standard .blocking depth' p rest = .ok more) :
    partsFrom .standard .blocking depth place (.next t (Tree.inner code) rest) =
      .ok (.literal depth place.line t ::
        ((part (place.line + t.lineFeeds)).toList ++ more)) := by
  have hcode : ((place.after t).after Delimiters.standard.start).line =
      place.line + t.lineFeeds := by
    rw [Place.line_after, Place.line_after]
    rfl
  have hinner : (Tree.inner code).lineFeeds = 0 :=
    Terminals.Scan.lineFeeds_of_notMem (by simpa [Tree.inner] using hl)
  have hrest : ((((place.after t).after Delimiters.standard.start).after (Tree.inner code)).after
      Delimiters.standard.stop).line = place.line + t.lineFeeds := by
    rw [Place.line_after, Place.line_after, hcode, hinner]
    rfl
  unfold partsFrom
  simp only [hs, hcode, h _ hrest]

end Template

mutual

/-- The parts of the segments of a tree, if the last literal text goes on with `more`. -/
theorem Tree.partsFrom_segments {depth rows : Nat} {stmts : List Stmt} {last : Text → Segments}
    {more : List Part} : (tree : Tree) → (place : Place) → tree.Valid → tree.Legible →
    tree.statements? depth rows = some stmts →
    (∀ t (p : Place), p.line + t.lineFeeds = place.line + tree.lineFeeds →
      Template.partsFrom .standard .blocking depth p (last t) =
        .ok (.literal depth p.line t :: more)) →
    Template.partsFrom .standard .blocking depth place (tree.segments last) =
      .ok (tree.parts depth place.line ++ more)
  | .literal t, place, _, _, _, next => next t place rfl
  | .simple t code rest, place, hv, hl, h, next => by
    simp only [Tree.statements?] at h
    split at h
    · rename_i inside others hc hr
      refine Template.partsFrom_next (fun line => some (.code depth line [Tree.row code]))
        hv.2.1.lineFeed (fun p => Tree.sectionPart_simple hv.2.1 hv.2.2.1 hl.1 hc) fun p hp => ?_
      rw [← hp]
      refine Tree.partsFrom_segments rest p hv.2.2.2 hl.2 hr fun u q hq => next u q ?_
      rw [hq, hp, Tree.lineFeeds, Nat.add_assoc]
    · simp at h
  | .block t head body clauses rest, place, hv, hl, h, next => by
    simp only [Tree.statements?] at h
    split at h
    · rename_i start opened inside arms others hc hb ha hr
      obtain ⟨s, hs, -⟩ := Option.map_eq_some_iff.1 h
      simp only [Tree.parts, List.cons_append, List.append_assoc]
      refine Template.partsFrom_next (fun line => some (.code depth line [Tree.row head]))
        hv.2.1.lineFeed
        (fun p => Tree.sectionPart_head hv.2.1 hl.1 hc (Arm.isClause_of_compound? hs)) fun p hp => ?_
      rw [← hp]
      refine Tree.partsFrom_segments body p hv.2.2.1 hl.2.1 hb fun u q hq => ?_
      rw [← hq]
      refine Clauses.partsFrom_segments clauses u q hv.2.2.2.1 hl.2.2.1 ha fun r hr' => ?_
      rw [← hr']
      refine Tree.partsFrom_segments rest r hv.2.2.2.2 hl.2.2.2 hr fun w x hx => next w x ?_
      rw [hx, hr', hq, hp, Tree.lineFeeds]
      omega
    · simp at h

/-- The parts of the segments of clauses behind a literal text, and of what follows them. -/
theorem Clauses.partsFrom_segments {depth rows : Nat} {arms : List Arm} {after : Segments}
    {more : List Part} : (clauses : Clauses) → (t : Text) → (place : Place) → clauses.Valid →
    clauses.Legible → clauses.arms? depth rows = some arms →
    (∀ p : Place, p.line = place.line + t.lineFeeds + clauses.lineFeeds →
      Template.partsFrom .standard .blocking depth p after = .ok more) →
    Template.partsFrom .standard .blocking (depth + 1) place (clauses.segments t after) =
      .ok (.literal (depth + 1) place.line t ::
        (clauses.parts depth (place.line + t.lineFeeds) ++ more))
  | .done, t, place, _, _, _, next =>
    Template.partsFrom_next (fun _ => none) (by decide) (fun p => Tree.sectionPart_end) next
  | .clause head body rest, t, place, hv, hl, h, next => by
    simp only [Clauses.arms?] at h
    split at h
    · rename_i start opened inside arms' hc hb ha
      split at h
      · rename_i hclause
        simp only [Clauses.parts, List.cons_append, List.append_assoc]
        refine Template.partsFrom_next (fun line => some (.code depth line [Tree.row head]))
          hv.1.lineFeed (fun p => Tree.sectionPart_clause hv.1 hl.1 hc hclause) fun p hp => ?_
        rw [← hp]
        refine Tree.partsFrom_segments body p hv.2.1 hl.2.1 hb fun u q hq => ?_
        rw [← hq]
        refine Clauses.partsFrom_segments rest u q hv.2.2 hl.2.2 ha fun r hr => next r ?_
        rw [hr, hq, hp, Clauses.lineFeeds]
        omega
      · simp at h
    · simp at h

end

/-! ## The body of the procedure -/

mutual

/-- The template lines that the rows of a tree come from. -/
def Tree.lines (line : Nat) : Tree → List Nat
  | .literal t => List.range' line (t.lineFeeds + 1)
  | .simple t _ rest =>
    let next := line + t.lineFeeds
    List.range' line (t.lineFeeds + 1) ++ (next :: rest.lines next)
  | .block t _ body clauses rest =>
    let next := line + t.lineFeeds
    let after := next + body.lineFeeds
    List.range' line (t.lineFeeds + 1) ++ (next :: (body.lines next ++
      (clauses.lines after ++ rest.lines (after + clauses.lineFeeds))))

/-- The template lines that the rows of clauses come from. -/
def Clauses.lines (line : Nat) : Clauses → List Nat
  | .done => []
  | .clause _ body rest => line :: (body.lines line ++ rest.lines (line + body.lineFeeds))

end

namespace Part

/-- The rows of parts, each of which ends in a line feed. -/
def rowsOf (parts : List Part) : Text := parts.flatMap fun p => p.source ++ [10]

theorem rowsOf_cons (p : Part) (parts : List Part) :
    rowsOf (p :: parts) = p.source ++ 10 :: rowsOf parts := by
  simp [rowsOf]

theorem rowsOf_append (ps qs : List Part) : rowsOf (ps ++ qs) = rowsOf ps ++ rowsOf qs := by
  simp [rowsOf]

theorem joinRows_append (row : Text) (rows : List Text) :
    Text.joinRows (row :: rows) ++ [10] = (row :: rows).flatMap (· ++ [10]) := by
  induction rows generalizing row with
  | nil => simp [Text.joinRows, Text.join]
  | cons next rows ih =>
    have joined : Text.joinRows (row :: next :: rows) =
      row ++ [10] ++ Text.joinRows (next :: rows) := rfl
    rw [joined, List.append_assoc, ih]
    rfl

theorem text_ofParts {parts : List Part} (h : parts ≠ []) :
    (Source.ofParts parts).text = rowsOf parts := by
  obtain ⟨p, ps, rfl⟩ := List.exists_cons_of_ne_nil h
  refine (joinRows_append p.source (ps.map Part.source)).trans ?_
  rw [← List.map_cons, List.flatMap_map]
  rfl

end Part

namespace Tree

variable {depth line : Nat} {t code : Text}

theorem source_section (hs : Section code) :
    (Part.code depth line [row code]).source = Part.indent depth ++ row code := by
  have hblank : Text.isBlank (row code) = false := Text.isBlank_stripEnd (row_ne_nil hs)
  simp [Part.source, Text.joinRows, Text.join, Part.indentRow, hblank]

theorem lines_literal : (Part.literal depth line t).lines = List.range' line (t.lineFeeds + 1) := by
  have hindent : (10 : CodePoint) ∉ Part.indent depth := by simp [Part.indent]
  have feeds : (Part.literal depth line t).source.lineFeeds = t.lineFeeds := by
    simp only [Part.source, Literal.statement_eq, Text.lineFeeds, List.count_append,
      List.count_cons, List.count_eq_zero.2 hindent]
    have := Literal.lineFeeds_token t
    unfold Text.lineFeeds at this
    simp [this, Text.ofString]
  rw [Part.lines, feeds]
  rfl

theorem lines_section (hs : Section code) :
    (Part.code depth line [row code]).lines = [line] := by
  have hindent : (10 : CodePoint) ∉ Part.indent depth ++ row code := by
    simpa [Part.indent] using fun h => hs.lineFeed (mem_row h)
  rw [Part.lines, source_section hs, Terminals.Scan.lineFeeds_of_notMem hindent]
  rfl

theorem rowsOf_section {parts : List Part} (hs : Section code) :
    Part.rowsOf (.code depth line [row code] :: parts) =
      sectionRow depth code ++ Part.rowsOf parts := by
  rw [Part.rowsOf_cons, source_section hs]
  simp [sectionRow]

theorem rowsOf_literal {parts : List Part} :
    Part.rowsOf (.literal depth line t :: parts) = literalRows depth t ++ Part.rowsOf parts := by
  rw [Part.rowsOf_cons]
  simp [Part.source, literalRows]

end Tree

mutual

/-- The rows of the parts of a tree. -/
theorem Tree.rowsOf_parts {depth line : Nat} : (tree : Tree) → tree.Valid →
    Part.rowsOf (tree.parts depth line) = tree.source depth
  | .literal t, _ => Tree.rowsOf_literal.trans (List.append_nil _)
  | .simple t code rest, hv => by
    simp only [Tree.parts, Tree.source]
    rw [Tree.rowsOf_literal, Tree.rowsOf_section hv.2.1, Tree.rowsOf_parts rest hv.2.2.2]
  | .block t head body clauses rest, hv => by
    simp only [Tree.parts, Tree.source]
    rw [Tree.rowsOf_literal, Tree.rowsOf_section hv.2.1, Part.rowsOf_append, Part.rowsOf_append,
      Tree.rowsOf_parts body hv.2.2.1, Clauses.rowsOf_parts clauses hv.2.2.2.1,
      Tree.rowsOf_parts rest hv.2.2.2.2]

/-- The rows of the parts of clauses. -/
theorem Clauses.rowsOf_parts {depth line : Nat} : (clauses : Clauses) → clauses.Valid →
    Part.rowsOf (clauses.parts depth line) = clauses.source depth
  | .done, _ => rfl
  | .clause head body rest, hv => by
    simp only [Clauses.parts, Clauses.source]
    rw [Tree.rowsOf_section hv.1, Part.rowsOf_append, Tree.rowsOf_parts body hv.2.1,
      Clauses.rowsOf_parts rest hv.2.2]

end

mutual

/-- The lines of the parts of a tree. -/
theorem Tree.lines_parts {depth line : Nat} : (tree : Tree) → tree.Valid →
    (tree.parts depth line).flatMap Part.lines = tree.lines line
  | .literal t, _ => by
    simp only [Tree.parts, Tree.lines, List.flatMap_cons, List.flatMap_nil, Tree.lines_literal,
      List.append_nil]
  | .simple t code rest, hv => by
    simp only [Tree.parts, Tree.lines, List.flatMap_cons, Tree.lines_literal,
      Tree.lines_section hv.2.1, Tree.lines_parts rest hv.2.2.2, List.cons_append, List.nil_append]
  | .block t head body clauses rest, hv => by
    simp only [Tree.parts, Tree.lines, List.flatMap_cons, List.flatMap_append, Tree.lines_literal,
      Tree.lines_section hv.2.1, Tree.lines_parts body hv.2.2.1,
      Clauses.lines_parts clauses hv.2.2.2.1, Tree.lines_parts rest hv.2.2.2.2, List.cons_append,
      List.nil_append]

/-- The lines of the parts of clauses. -/
theorem Clauses.lines_parts {depth line : Nat} : (clauses : Clauses) → clauses.Valid →
    (clauses.parts depth line).flatMap Part.lines = clauses.lines line
  | .done, _ => rfl
  | .clause head body rest, hv => by
    simp only [Clauses.parts, Clauses.lines, List.flatMap_cons, List.flatMap_append,
      Tree.lines_section hv.1, Tree.lines_parts body hv.2.1, Clauses.lines_parts rest hv.2.2,
      List.cons_append, List.nil_append]

end

namespace Tree

theorem parts_ne_nil (tree : Tree) (depth line : Nat) : tree.parts depth line ≠ [] := by
  cases tree <;> simp [parts]

/-- The template of a tree is compiled to the rows of the tree, each of which is mapped to the line
that it comes from. -/
theorem compile_print {tree : Tree} {stmts : List Stmt} (hv : tree.Valid) (hl : tree.Legible)
    (h : tree.statements? 0 0 = some stmts) :
    Template.compile .standard .blocking tree.print = .ok ⟨tree.source 0, tree.lines 1⟩ := by
  have cuts : Segments.Cuts (tree.print ++ []) (tree.segments .last) :=
    cuts_print tree hv fun t ht => by
      rw [List.append_nil]
      exact Segments.cuts_last ht.free
  rw [List.append_nil] at cuts
  have parts : Template.parts .standard .blocking tree.print = .ok (tree.parts 0 1) := by
    rw [Template.parts, cuts.ofText]
    have found : Template.partsFrom .standard .blocking 0 Place.first (tree.segments .last) =
        .ok (tree.parts 0 1 ++ []) :=
      partsFrom_segments tree Place.first hv hl h fun t p _ => rfl
    rw [found, List.append_nil]
  have text := (Part.text_ofParts (parts_ne_nil tree 0 1)).trans (rowsOf_parts tree hv)
  rw [Template.compile, parts, ← text, ← lines_parts tree hv]
  rfl

end Tree

end Stencil
