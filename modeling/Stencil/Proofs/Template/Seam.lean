import Stencil.Proofs.Template.Origin

/-!
# Templates one after another

Two templates with a line feed between them are compiled like each of them by itself, as long as no
delimiter holds a line feed: at the line feed the first one is in literal text, outside of all blocks
and at the beginning of a line, as a template is at its own beginning.

## Main definitions

* `Segments.behind`, `Segments.join` — segments with literal text before them, and with other
  segments after them.
* `Place.lower`, `Part.lower` — a place and a part so many lines further down.

## Main results

* `Segments.ofText_join` — the segments of two templates with a line feed between them.
* `Template.partsFrom_lower` — parts do not depend on the line on which they begin.
* `Template.parts_across_line` — the parts and the line map of two templates.
-/

namespace Stencil

/-! ## Cutting -/

namespace Text

variable {pattern t u before after : Text} {c : CodePoint}

/-- A pattern without a code point does not reach beyond it. -/
theorem prefix_of_notMem (hc : c ∉ pattern) : pattern <+: t ++ c :: u ↔ pattern <+: t := by
  constructor
  · intro h
    rcases Nat.lt_or_ge t.length pattern.length with hlt | hle
    · have begins : t ++ [c] <+: t ++ c :: u := ⟨u, by simp⟩
      have inside : t ++ [c] <+: pattern :=
        List.prefix_of_prefix_length_le begins h (by simpa using Nat.succ_le_of_lt hlt)
      exact absurd (inside.subset (by simp)) hc
    · exact List.prefix_of_prefix_length_le h (List.prefix_append t _) hle
  · exact fun h => h.trans (List.prefix_append t _)

theorem isPrefixOf_of_notMem (hc : c ∉ pattern) :
    pattern.isPrefixOf (t ++ c :: u) = pattern.isPrefixOf t := by
  rw [Bool.eq_iff_iff, List.isPrefixOf_iff_prefix, List.isPrefixOf_iff_prefix, prefix_of_notMem hc]

/-- A text is cut where it is cut without what follows a code point that the pattern does not
hold. -/
theorem cut?_behind (hc : c ∉ pattern) (h : cut? pattern t = some (before, after)) :
    cut? pattern (t ++ c :: u) = some (before, after ++ c :: u) := by
  induction t generalizing before with
  | nil =>
    unfold cut? at h
    split at h
    · next hp =>
      subst hp
      simp only [Option.some.injEq, Prod.mk.injEq] at h
      obtain ⟨rfl, rfl⟩ := h
      simp [cut?]
    · cases h
  | cons b t ih =>
    have prefix_ : pattern.isPrefixOf (b :: (t ++ c :: u)) = pattern.isPrefixOf (b :: t) :=
      isPrefixOf_of_notMem (t := b :: t) hc
    unfold cut? at h
    rw [List.cons_append, cut?, prefix_]
    split at h
    · next hp =>
      simp only [Option.some.injEq, Prod.mk.injEq] at h
      obtain ⟨rfl, rfl⟩ := h
      rw [if_pos hp]
      have le := (List.isPrefixOf_iff_prefix.1 hp).length_le
      rw [← List.cons_append, List.drop_append_of_le_length le]
    · next hp =>
      obtain ⟨⟨x, y⟩, hx, he⟩ := Option.map_eq_some_iff.1 h
      simp only [Prod.mk.injEq] at he
      obtain ⟨rfl, rfl⟩ := he
      rw [if_neg hp, ih hx]
      rfl

/-- A text in which the pattern does not occur is cut behind the next code point if at all. -/
theorem cut?_beyond (hp : pattern ≠ []) (hc : c ∉ pattern) (h : cut? pattern t = none) :
    cut? pattern (t ++ c :: u) = (cut? pattern u).map fun r => (t ++ c :: r.1, r.2) := by
  induction t with
  | nil =>
    have none_ : ¬ pattern.isPrefixOf (c :: u) = true := by
      have same : pattern.isPrefixOf ([] ++ c :: u) = pattern.isPrefixOf [] :=
        isPrefixOf_of_notMem hc
      rw [List.nil_append] at same
      rw [same]
      simpa using hp
    rw [List.nil_append, cut?, if_neg none_]
    rfl
  | cons b t ih =>
    have prefix_ : pattern.isPrefixOf (b :: (t ++ c :: u)) = pattern.isPrefixOf (b :: t) :=
      isPrefixOf_of_notMem (t := b :: t) hc
    unfold cut? at h
    split at h
    · cases h
    · next hb =>
      rw [List.cons_append, cut?, prefix_, if_neg hb, ih (Option.map_eq_none_iff.1 h),
        Option.map_map]
      rfl

end Text

/-! ## Segments -/

namespace Segments

variable {d : Delimiters} {t u : Text}

/-- More rounds than there are code points make no difference. -/
theorem scan_eq_ofText {fuel : Nat} (h : t.length ≤ fuel) : scan d fuel t = ofText d t := by
  suffices ∀ fuel fuel' : Nat, t.length ≤ fuel → t.length ≤ fuel' →
      scan d fuel t = scan d fuel' t from this _ _ h (Nat.le_refl _)
  clear h fuel
  intro fuel
  induction fuel generalizing t with
  | zero =>
    intro fuel' h h'
    obtain rfl : t = [] := List.length_eq_zero_iff.1 (Nat.le_zero.1 h)
    cases fuel' with
    | zero => rfl
    | succ fuel' => simp [scan, Text.cut?, d.start_ne]
  | succ fuel ih =>
    intro fuel' h h'
    cases fuel' with
    | zero =>
      obtain rfl : t = [] := List.length_eq_zero_iff.1 (Nat.le_zero.1 h')
      simp [scan, Text.cut?, d.start_ne]
    | succ fuel' =>
      rw [scan, scan]
      split
      · rfl
      · next literal after hc =>
        have shorter := Text.length_lt_of_cut? d.start_ne hc
        split
        · rfl
        · next code rest hs =>
          have shorter' := Text.length_lt_of_cut? d.stop_ne hs
          rw [ih fuel' (by omega) (by omega)]

/-- A template is cut at its first start delimiter and at the first stop delimiter after that. -/
theorem ofText_eq (d : Delimiters) (t : Text) : ofText d t =
    match Text.cut? d.start t with
    | none => last t
    | some (literal, after) =>
      match Text.cut? d.stop after with
      | none => unclosed literal after
      | some (code, rest) => next literal code (ofText d rest) := by
  rw [← scan_eq_ofText (Nat.le_succ t.length), scan]
  cases hc : Text.cut? d.start t with
  | none => rfl
  | some r =>
    obtain ⟨literal, after⟩ := r
    have shorter := Text.length_lt_of_cut? d.start_ne hc
    cases hs : Text.cut? d.stop after with
    | none => simp only [hs]
    | some r' =>
      obtain ⟨code, rest⟩ := r'
      have shorter' := Text.length_lt_of_cut? d.stop_ne hs
      simp only [hs]
      rw [scan_eq_ofText (by omega)]

/-- Segments with more literal text before them. -/
def behind (t : Text) : Segments → Segments
  | last literal => last (t ++ literal)
  | unclosed literal code => unclosed (t ++ literal) code
  | next literal code rest => next (t ++ literal) code rest

/-- Segments whose last literal text goes on with a line feed and other segments. -/
def join (segments others : Segments) : Segments :=
  match segments with
  | last literal => others.behind (literal ++ "\n")
  | unclosed literal code => unclosed literal code
  | next literal code rest => next literal code (join rest others)

/-- A template in which nothing is cut goes on with the segments after the line feed. -/
theorem ofText_behind (hstart : (10 : CodePoint) ∉ d.start) (uncut : Text.cut? d.start t = none) :
    ofText d (t ++ 10 :: u) = (ofText d u).behind (t ++ "\n") := by
  have seam (v : Text) : t ++ 10 :: v = (t ++ Text.ofString "\n") ++ v := by
    rw [List.append_assoc]
    rfl
  rw [ofText_eq d (t ++ 10 :: u), ofText_eq d u, Text.cut?_beyond d.start_ne hstart uncut]
  cases Text.cut? d.start u with
  | none => exact congrArg last (seam u)
  | some r =>
    obtain ⟨literal, after⟩ := r
    simp only [Option.map_some]
    cases Text.cut? d.stop after with
    | none => exact congrArg (unclosed · after) (seam literal)
    | some r' => exact congrArg (next · r'.1 (ofText d r'.2)) (seam literal)

/-- Where no delimiter holds a line feed, none is found across it. -/
theorem ofText_join (hstart : (10 : CodePoint) ∉ d.start) (hstop : (10 : CodePoint) ∉ d.stop)
    (closed : Template.isClosed (ofText d t) = true) :
    ofText d (t ++ 10 :: u) = (ofText d t).join (ofText d u) := by
  generalize hn : t.length = n
  induction n using Nat.strongRecOn generalizing t with
  | ind n ih =>
    cases hc : Text.cut? d.start t with
    | none =>
      rw [ofText_behind hstart hc, ofText_eq d t, hc]
      rfl
    | some r =>
      obtain ⟨literal, after⟩ := r
      have shorter := Text.length_lt_of_cut? d.start_ne hc
      rw [ofText_eq d t, hc] at closed
      rw [ofText_eq d (t ++ 10 :: u), ofText_eq d t, hc, Text.cut?_behind hstart hc]
      cases hs : Text.cut? d.stop after with
      | none => simp [hs, Template.isClosed] at closed
      | some r' =>
        obtain ⟨code, rest⟩ := r'
        have shorter' := Text.length_lt_of_cut? d.stop_ne hs
        simp only [hs] at closed ⊢
        simp only [Text.cut?_behind hstop hs, ih rest.length (by omega) closed rfl, join]

end Segments

/-! ## Further down -/

namespace Place

/-- A place so many lines further down. -/
def lower (n : Nat) (p : Place) : Place := { p with line := p.line + n }

theorem after_lower (n : Nat) (p : Place) (t : Text) :
    (p.lower n).after t = (p.after t).lower n := by
  induction t generalizing p with
  | nil => rfl
  | cons c t ih =>
    have next_lower : (p.lower n).next c = (p.next c).lower n := by
      unfold next lower
      split
      · rw [Nat.add_right_comm]
      · rfl
    have step (p : Place) : p.after (c :: t) = (p.next c).after t := rfl
    rw [step, step, next_lower, ih]

/-- After a line feed things are as at the beginning, so many lines further down. -/
theorem after_lineFeed (p : Place) (t : Text) :
    p.after (t ++ "\n") = first.lower (p.line + t.lineFeeds) := by
  have feed (p : Place) : p.after (Text.ofString "\n") = ⟨p.line + 1, 0⟩ := rfl
  rw [after_append, feed, line_after]
  simp only [first, lower, Nat.add_comm 1]

end Place

namespace Part

/-- A part so many lines further down. -/
def lower (n : Nat) : Part → Part
  | literal depth line t => literal depth (line + n) t
  | code depth line rows => code depth (line + n) rows

theorem lines_lower (n : Nat) (p : Part) : (p.lower n).lines = p.lines.map (· + n) := by
  have shifted (line : Nat) (k : Nat) :
      List.range' (line + n) k = (List.range' line k).map (· + n) := by
    simp [List.range'_eq_map_range, Function.comp_def, Nat.add_right_comm]
  cases p with
  | literal depth line t => exact shifted line _
  | code depth line rows => exact shifted line _

/-- Parts of which the first one is a literal that began earlier, with more text. -/
def behind (line : Nat) (t : Text) : List Part → List Part
  | literal depth _ first :: after => literal depth line (t ++ first) :: after
  | parts => parts

end Part

namespace Template

variable {d : Delimiters} {mode : Mode}

/-- What is emitted for a section does not depend on its line. -/
theorem sectionPart_lower (mode : Mode) (depth n : Nat) (place : Place) (code : Text) :
    sectionPart mode depth (place.lower n) code =
      (sectionPart mode depth place code).map fun r => (r.1.map (Part.lower n), r.2) := by
  have column : (place.lower n).column = place.column := rfl
  have line (skipped : Nat) : (place.lower n).line + skipped = place.line + skipped + n :=
    Nat.add_right_comm ..
  unfold sectionPart
  simp only [column, line]
  split
  · rfl
  · split
    · rfl
    · split
      · split <;> rfl
      · split
        · rfl
        · split <;> rfl

/-- The parts of segments do not depend on the line on which they begin. -/
theorem partsFrom_lower (n depth : Nat) (place : Place) (segments : Segments) :
    partsFrom d mode depth (place.lower n) segments =
      (partsFrom d mode depth place segments).map (List.map (Part.lower n)) := by
  induction segments generalizing depth place with
  | last literal =>
    unfold partsFrom
    split <;> rfl
  | unclosed literal code => rfl
  | next literal code rest ih =>
    simp only [partsFrom, Place.after_lower, sectionPart_lower]
    cases sectionPart mode depth ((place.after literal).after d.start) code with
    | error fault => rfl
    | ok r =>
      obtain ⟨part, depth'⟩ := r
      simp only [Except.map, ih]
      cases partsFrom d mode depth'
        ((((place.after literal).after d.start).after code).after d.stop) rest with
      | error fault => rfl
      | ok parts => cases part <;> rfl

/-- More literal text before segments goes into their first part. -/
theorem partsFrom_behind (depth : Nat) (place : Place) (t : Text) (segments : Segments) :
    partsFrom d mode depth place (segments.behind t) =
      (partsFrom d mode depth (place.after t) segments).map (Part.behind place.line t) := by
  cases segments with
  | last literal =>
    simp only [Segments.behind, partsFrom]
    split <;> rfl
  | unclosed literal code => rfl
  | next literal code rest =>
    simp only [Segments.behind, partsFrom, Place.after_append]
    split
    · rfl
    · split <;> rfl

theorem isClosed_of_partsFrom {depth : Nat} {place : Place} {segments : Segments} {ps : List Part}
    (h : partsFrom d mode depth place segments = .ok ps) : isClosed segments = true := by
  induction segments generalizing depth place ps with
  | last literal => rfl
  | unclosed literal code => cases h
  | next literal code rest ih =>
    simp only [partsFrom] at h
    split at h
    · cases h
    · split at h
      · cases h
      · next hrest => exact ih hrest

/-- The parts of segments that go on with others: all but the last are those of the former. The
induction is on the segments; `place` and `depth` are what the sections before have led to. -/
theorem partsFrom_join {depth : Nat} {place : Place} {segments : Segments} {ps : List Part}
    (h : partsFrom d mode depth place segments = .ok ps) :
    ∃ before line last, ps = before ++ [.literal 0 line last] ∧
      line + last.lineFeeds = place.line + (segments.text d).lineFeeds ∧
      ∀ others : Segments, partsFrom d mode depth place (segments.join others) =
        (partsFrom d mode 0 Place.first others).map fun qs =>
          before ++ Part.behind line (last ++ "\n")
            (qs.map (Part.lower (place.line + (segments.text d).lineFeeds))) := by
  induction segments generalizing depth place ps with
  | last literal =>
    simp only [partsFrom] at h
    split at h
    · next hd =>
      subst hd
      obtain rfl := Except.ok.inj h
      refine ⟨[], place.line, literal, rfl, rfl, fun others => ?_⟩
      rw [Segments.join, partsFrom_behind, Place.after_lineFeed, partsFrom_lower]
      cases partsFrom d mode 0 Place.first others <;> rfl
    · cases h
  | unclosed literal code => cases h
  | next literal code rest ih =>
    simp only [partsFrom] at h
    split at h
    · cases h
    next part depth' hsection =>
    split at h
    · cases h
    next parts hrest =>
    obtain rfl := Except.ok.inj h
    obtain ⟨before, line, last, rfl, hline, joined⟩ := ih hrest
    have lines : place.line + ((Segments.next literal code rest).text d).lineFeeds =
        ((((place.after literal).after d.start).after code).after d.stop).line +
          (rest.text d).lineFeeds := by
      simp only [Segments.text, Text.lineFeeds_append, Place.line_after, Nat.add_assoc]
    refine ⟨.literal depth place.line literal :: (part.toList ++ before), line, last, by simp,
      lines ▸ hline, fun others => ?_⟩
    simp only [Segments.join, partsFrom, hsection, joined, lines]
    cases partsFrom d mode 0 Place.first others with
    | error fault => rfl
    | ok qs => simp [Except.map]

/-- The first part of a template is literal text on its first line. -/
theorem parts_eq_cons {b : Text} {qs : List Part} (h : parts d mode b = .ok qs) :
    ∃ first after, qs = .literal 0 1 first :: after := by
  unfold parts at h
  cases hs : Segments.ofText d b with
  | last literal =>
    simp only [hs, partsFrom, ↓reduceIte, Except.ok.injEq] at h
    exact ⟨_, _, h.symm⟩
  | unclosed literal code => simp [hs, partsFrom] at h
  | next literal code rest =>
    simp only [hs, partsFrom] at h
    split at h
    · cases h
    · split at h
      · cases h
      · exact ⟨_, _, (Except.ok.inj h).symm⟩

/-- Two literals with a line feed between them take the lines of both. -/
theorem lines_seam {line n : Nat} {last first : Text} (h : line + last.lineFeeds = n) :
    (Part.literal 0 line (last ++ "\n" ++ first)).lines =
      (Part.literal 0 line last).lines ++ (Part.literal 0 1 first).lines.map (· + n) := by
  have feed : (Text.ofString "\n").lineFeeds = 1 := rfl
  have count : (last ++ Text.ofString "\n" ++ first).lineFeeds + 1 =
      (last.lineFeeds + 1) + (first.lineFeeds + 1) := by
    rw [Text.lineFeeds_append, Text.lineFeeds_append, feed]
    omega
  rw [← Part.lines_lower n, Part.lower, Tree.lines_literal, Tree.lines_literal, Tree.lines_literal,
    count, ← List.range'_append]
  congr 2
  omega

/-- A template that compiles goes on behind a line feed with any other: the other is at fault as it is
by itself, and otherwise its first literal is written with the last one of the former, and its parts
are those it has by itself, so many lines further down. -/
theorem parts_across_line (hstart : (10 : CodePoint) ∉ d.start) (hstop : (10 : CodePoint) ∉ d.stop)
    {a : Text} {ps : List Part} (ha : parts d mode a = .ok ps) (b : Text) :
    (∀ fault : TemplateFault,
      compile d mode (a ++ "\n" ++ b) = .error fault ↔ compile d mode b = .error fault) ∧
    ∀ qs : List Part, parts d mode b = .ok qs →
      ∃ (before : List Part) (line : Nat) (last first : Text) (after joined : List Part),
        ps = before ++ [.literal 0 line last] ∧
        qs = .literal 0 1 first :: after ∧
        joined = before ++ .literal 0 line (last ++ "\n" ++ first) ::
          after.map (Part.lower (1 + a.lineFeeds)) ∧
        parts d mode (a ++ "\n" ++ b) = .ok joined ∧
        compile d mode (a ++ "\n" ++ b) = .ok (Source.ofParts joined) ∧
        (Source.ofParts joined).lines = (Source.ofParts ps).lines ++
          (Source.ofParts qs).lines.map (· + (1 + a.lineFeeds)) := by
  have cut : Segments.ofText d (a ++ "\n" ++ b) =
      (Segments.ofText d a).join (Segments.ofText d b) := by
    rw [← Segments.ofText_join hstart hstop (isClosed_of_partsFrom ha), List.append_assoc]
    rfl
  have whole : (Segments.ofText d a).text d = a := Segments.text_scan d a.length a
  obtain ⟨before, line, last, rfl, hline, joined⟩ := partsFrom_join ha
  rw [whole] at hline joined
  have run : parts d mode (a ++ "\n" ++ b) = (parts d mode b).map fun qs =>
      before ++ Part.behind line (last ++ "\n") (qs.map (Part.lower (1 + a.lineFeeds))) := by
    rw [parts, cut, joined]
    rfl
  constructor
  · intro fault
    rw [compile, compile, run]
    cases parts d mode b <;> simp [Except.map]
  · intro qs hb
    obtain ⟨first, after, rfl⟩ := parts_eq_cons hb
    rw [hb] at run
    refine ⟨before, line, last, first, after, _, rfl, rfl, rfl, run, ?_, ?_⟩
    · rw [compile, run]
      rfl
    · have below (p : Part) : (p.lower (1 + a.lineFeeds)).lines =
          p.lines.map (· + (1 + a.lineFeeds)) := Part.lines_lower _ p
      simp only [Source.ofParts, List.flatMap_append, List.flatMap_cons, List.flatMap_nil,
        List.append_nil, List.map_append, List.map_flatMap, List.flatMap_map, below]
      rw [lines_seam hline, List.append_assoc, List.append_assoc]
      rfl

/-- A block, and below it a section by itself. -/
theorem parts_across_line_block :
    ((10 : CodePoint) ∉ Delimiters.standard.start ∧ (10 : CodePoint) ∉ Delimiters.standard.stop) ∧
    parts .standard .blocking "%\x7bif a:\x7d%b\n%\x7bend\x7d%" =
      .ok [.literal 0 1 "", .code 0 1 ["if a:"], .literal 1 1 "b\n", .literal 0 2 ""] ∧
    parts .standard .blocking "c\n%\x7bd\x7d%" =
      .ok [.literal 0 1 "c\n", .code 0 2 ["d"], .literal 0 2 ""] ∧
    ∃ joined, parts .standard .blocking
        ("%\x7bif a:\x7d%b\n%\x7bend\x7d%" ++ "\n" ++ "c\n%\x7bd\x7d%") = .ok joined ∧
      (Source.ofParts joined).lines = [1, 1, 1, 2, 2, 3, 4, 4, 4] := by
  have hd : (10 : CodePoint) ∉ Delimiters.standard.start ∧
      (10 : CodePoint) ∉ Delimiters.standard.stop := by decide
  have above : parts .standard .blocking "%\x7bif a:\x7d%b\n%\x7bend\x7d%" =
      .ok [.literal 0 1 "", .code 0 1 ["if a:"], .literal 1 1 "b\n", .literal 0 2 ""] := by
    decide +kernel
  have below : parts .standard .blocking "c\n%\x7bd\x7d%" =
      .ok [.literal 0 1 "c\n", .code 0 2 ["d"], .literal 0 2 ""] := by decide +kernel
  obtain ⟨before, line, last, first, after, joined, -, -, -, run, -, lines⟩ :=
    (parts_across_line hd.1 hd.2 above _).2 _ below
  refine ⟨hd, above, below, joined, run, lines.trans ?_⟩
  decide +kernel

end Template

end Stencil
