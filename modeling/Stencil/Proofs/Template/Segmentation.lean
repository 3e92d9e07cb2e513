import Mathlib.Data.List.Forall2
import Stencil.Proofs.Template.Balance

/-!
# The segmentation of a template

A template is cut at its delimiters in the only way in which each delimiter is the first one that
could stand there. Start delimiters are looked for from the beginning of a literal segment on, stop
delimiters from the beginning of a code section on. What is emitted is made of these segments, in
their order.

## Main definitions

* `Text.OccursAt`, `Text.FirstFrom` — where a pattern stands in a text, and where it does so first.
* `Segments.Leftmost` — segments of which every delimiter stands where it occurs first.
* `Segments.placed` — segments one by one, each with the place where it begins.
* `Template.Emits` — what is emitted for one segment.

## Main results

* `Segments.leftmost_iff` — the segments of a template are leftmost, and no others are.
* `Template.segmentation_leftmost` — what is emitted for them, and when the last one is missing its
  end.
-/

namespace Stencil

/-! ## Occurrences -/

namespace Text

variable {pattern t before after : Text} {start i j : Nat}

/-- A pattern stands in a text at a position. -/
def OccursAt (pattern t : Text) (i : Nat) : Prop := pattern <+: t.drop i

/-- A pattern stands at a position, and nowhere between an earlier one and it. -/
structure FirstFrom (pattern t : Text) (start i : Nat) : Prop where
  le : start ≤ i
  occurs : OccursAt pattern t i
  first : ∀ j, start ≤ j → j < i → ¬ OccursAt pattern t j

theorem occursAt_drop : OccursAt pattern (t.drop start) i ↔ OccursAt pattern t (start + i) := by
  rw [OccursAt, OccursAt, List.drop_drop]

/-- A pattern that is not empty stands inside of the text. -/
theorem OccursAt.lt_length (hp : pattern ≠ []) (h : OccursAt pattern t i) : i < t.length := by
  have pos : 0 < pattern.length := List.length_pos_iff.2 hp
  have le := h.length_le
  rw [List.length_drop] at le
  omega

theorem FirstFrom.unique (h : FirstFrom pattern t start i) (h' : FirstFrom pattern t start j) :
    i = j := by
  rcases Nat.lt_trichotomy i j with hij | hij | hij
  · exact absurd h.occurs (h'.first i h.le hij)
  · exact hij
  · exact absurd h'.occurs (h.first j h'.le hij)

theorem firstFrom_drop :
    FirstFrom pattern (t.drop start) 0 i ↔ FirstFrom pattern t start (start + i) := by
  constructor
  · rintro ⟨-, occurs, first⟩
    refine ⟨Nat.le_add_right _ _, occursAt_drop.1 occurs, fun j hj hlt hn => ?_⟩
    obtain ⟨k, rfl⟩ := Nat.exists_eq_add_of_le hj
    exact first k (Nat.zero_le k) (by omega) (occursAt_drop.2 hn)
  · rintro ⟨-, occurs, first⟩
    refine ⟨Nat.zero_le i, occursAt_drop.2 occurs, fun j _ hlt hn => ?_⟩
    exact first (start + j) (Nat.le_add_right _ _) (by omega) (occursAt_drop.1 hn)

/-- A text is cut where the pattern occurs first. -/
theorem firstFrom_of_cut? (h : cut? pattern t = some (before, after)) :
    ∃ i, FirstFrom pattern t 0 i ∧ before = t.take i ∧ after = t.drop (i + pattern.length) := by
  induction t generalizing before with
  | nil =>
    unfold cut? at h
    split at h
    · rename_i hp
      subst hp
      simp only [Option.some.injEq, Prod.mk.injEq] at h
      obtain ⟨rfl, rfl⟩ := h
      exact ⟨0, ⟨Nat.le_refl 0, List.nil_prefix, fun j _ hj => absurd hj (Nat.not_lt_zero j)⟩,
        rfl, rfl⟩
    · cases h
  | cons c rest ih =>
    unfold cut? at h
    split at h
    · rename_i hp
      simp only [Option.some.injEq, Prod.mk.injEq] at h
      obtain ⟨rfl, rfl⟩ := h
      have occurs : OccursAt pattern (c :: rest) 0 := List.isPrefixOf_iff_prefix.1 hp
      exact ⟨0, ⟨Nat.le_refl 0, occurs, fun j _ hj => absurd hj (Nat.not_lt_zero j)⟩, rfl,
        by rw [Nat.zero_add]⟩
    · rename_i hp
      obtain ⟨⟨b, a⟩, hb, he⟩ := Option.map_eq_some_iff.1 h
      simp only [Prod.mk.injEq] at he
      obtain ⟨rfl, rfl⟩ := he
      obtain ⟨i, ⟨-, occurs, first⟩, rfl, rfl⟩ := ih hb
      refine ⟨i + 1, ⟨Nat.zero_le _, occurs, fun j _ hj hn => ?_⟩, rfl, ?_⟩
      · cases j with
        | zero => exact hp (List.isPrefixOf_iff_prefix.2 hn)
        | succ j => exact first j (Nat.zero_le j) (by omega) hn
      · rw [Nat.add_right_comm, List.drop_succ_cons]

/-- A text is not cut where the pattern does not occur. -/
theorem not_occursAt_of_cut? (hp : pattern ≠ []) (h : cut? pattern t = none) (i : Nat) :
    ¬ OccursAt pattern t i := by
  induction t generalizing i with
  | nil => exact fun hn => absurd (hn.lt_length hp) (Nat.not_lt_zero i)
  | cons c rest ih =>
    unfold cut? at h
    split at h
    · cases h
    · rename_i hc
      intro hn
      cases i with
      | zero => exact hc (List.isPrefixOf_iff_prefix.2 hn)
      | succ i => exact ih (Option.map_eq_none_iff.1 h) i hn

end Text

/-! ## Leftmost segments -/

namespace Segments

open Text

variable {d : Delimiters} {text : Text} {b : Nat} {s s' : Segments}

/-- Segments that a text has from a position on, every delimiter of which stands where it occurs
first: a start delimiter from the beginning of its literal segment on, a stop delimiter from the
beginning of its code section on. -/
inductive Leftmost (d : Delimiters) (text : Text) : Nat → Segments → Prop
  | last {b : Nat} (none : ∀ i, b ≤ i → ¬ OccursAt d.start text i) :
      Leftmost d text b (.last (text.drop b))
  | unclosed {b i : Nat} (opens : FirstFrom d.start text b i)
      (none : ∀ j, i + d.start.length ≤ j → ¬ OccursAt d.stop text j) :
      Leftmost d text b
        (.unclosed ((text.drop b).take (i - b)) (text.drop (i + d.start.length)))
  | next {b i j : Nat} {rest : Segments} (opens : FirstFrom d.start text b i)
      (closes : FirstFrom d.stop text (i + d.start.length) j)
      (others : Leftmost d text (j + d.stop.length) rest) :
      Leftmost d text b (.next ((text.drop b).take (i - b))
        ((text.drop (i + d.start.length)).take (j - (i + d.start.length))) rest)

/-- A text has only one such segmentation, since there is only one first occurrence. -/
theorem Leftmost.unique (h : Leftmost d text b s) (h' : Leftmost d text b s') : s = s' := by
  induction h generalizing s' with
  | last none =>
    cases h' with
    | last _ => rfl
    | unclosed opens _ | next opens _ _ => exact absurd opens.occurs (none _ opens.le)
  | unclosed opens none =>
    cases h' with
    | last none' => exact absurd opens.occurs (none' _ opens.le)
    | unclosed opens' _ =>
      obtain rfl := opens.unique opens'
      rfl
    | next opens' closes _ =>
      obtain rfl := opens.unique opens'
      exact absurd closes.occurs (none _ closes.le)
  | next opens closes others ih =>
    cases h' with
    | last none => exact absurd opens.occurs (none _ opens.le)
    | unclosed opens' none =>
      obtain rfl := opens.unique opens'
      exact absurd closes.occurs (none _ closes.le)
    | next opens' closes' others' =>
      obtain rfl := opens.unique opens'
      obtain rfl := closes.unique closes'
      rw [ih others']

/-- A text is scanned for its leftmost segments. Each section takes two delimiters, so that as many
rounds are enough as there are code points left. -/
theorem leftmost_scan {fuel : Nat} (h : (text.drop b).length ≤ fuel) :
    Leftmost d text b (scan d fuel (text.drop b)) := by
  induction fuel generalizing b with
  | zero =>
    refine .last fun i hi hn => ?_
    have lt := hn.lt_length d.start_ne
    rw [List.length_drop] at h
    omega
  | succ fuel ih =>
    unfold scan
    split
    · next hc =>
      refine .last fun i hi hn => not_occursAt_of_cut? d.start_ne hc (i - b) (occursAt_drop.2 ?_)
      rwa [Nat.add_sub_cancel' hi]
    · next literal after hc =>
      obtain ⟨i, opens, rfl, rfl⟩ := firstFrom_of_cut? hc
      replace opens := firstFrom_drop.1 opens
      have hi : i = b + i - b := by omega
      rw [List.drop_drop, ← Nat.add_assoc]
      split
      · next hs =>
        have all : Leftmost d text b (.unclosed ((text.drop b).take (b + i - b))
            (text.drop (b + i + d.start.length))) := by
          refine .unclosed opens fun j hj hn => ?_
          refine not_occursAt_of_cut? d.stop_ne hs (j - (b + i + d.start.length)) ?_
          rw [occursAt_drop, Nat.add_sub_cancel' hj]
          exact hn
        rwa [← hi] at all
      · next code rest hs =>
        obtain ⟨j, closes, rfl, rfl⟩ := firstFrom_of_cut? hs
        replace closes := firstFrom_drop.1 closes
        have hj : j = b + i + d.start.length + j - (b + i + d.start.length) := by omega
        rw [List.drop_drop, ← Nat.add_assoc]
        have others : Leftmost d text (b + i + d.start.length + j + d.stop.length)
            (scan d fuel (text.drop (b + i + d.start.length + j + d.stop.length))) := by
          apply ih
          have pos : 0 < d.start.length := List.length_pos_iff.2 d.start_ne
          simp only [List.length_drop] at h ⊢
          omega
        have all := Leftmost.next opens closes others
        rwa [← hi, ← hj] at all

/-- The segments of a template are leftmost, and no others are. -/
theorem leftmost_iff : Leftmost d text 0 s ↔ s = ofText d text := by
  have scanned : Leftmost d text 0 (ofText d text) := leftmost_scan (Nat.le_refl text.length)
  exact ⟨fun h => h.unique scanned, fun h => h ▸ scanned⟩

end Segments

/-! ## What is emitted for segments -/

/-- A segment of a template. -/
inductive Segment where
  | literal (t : Text)
  | code (t : Text)
  deriving DecidableEq, Repr

namespace Segments

variable {d : Delimiters} {s : Segments}

/-- Segments one by one, each with the place where it begins. -/
def placed (d : Delimiters) (place : Place) : Segments → List (Place × Segment)
  | last literal => [(place, .literal literal)]
  | unclosed literal code =>
    [(place, .literal literal), ((place.after literal).after d.start, .code code)]
  | next literal code rest =>
    let codePlace := (place.after literal).after d.start
    (place, .literal literal) :: (codePlace, .code code) ::
      rest.placed d ((codePlace.after code).after d.stop)

/-- The last segment is a code section, which nothing ends. -/
def EndsInCode (d : Delimiters) (place : Place) (s : Segments) : Prop :=
  ∃ codePlace code, (s.placed d place).getLast? = some (codePlace, .code code)

theorem placed_ne_nil (d : Delimiters) (place : Place) (s : Segments) : s.placed d place ≠ [] := by
  cases s <;> exact List.cons_ne_nil _ _

theorem endsInCode_iff {place : Place} :
    s.EndsInCode d place ↔ Template.isClosed s = false := by
  induction s generalizing place with
  | last literal => simp [EndsInCode, placed, Template.isClosed]
  | unclosed literal code => simp [EndsInCode, placed, Template.isClosed]
  | next literal code rest ih =>
    rw [Template.isClosed, ← ih, EndsInCode, EndsInCode, placed,
      List.getLast?_cons_of_ne_nil (List.cons_ne_nil _ _),
      List.getLast?_cons_of_ne_nil (placed_ne_nil _ _ _)]

end Segments

namespace Template

open Script (tokenize)

variable {d : Delimiters} {mode : Mode}

/-- What is emitted for a segment that begins at a place: one part with exactly this text for
literal text, one part with the rows of exactly this code for a section that holds statements, and
nothing for a section that is blank or ends a block. -/
inductive Emits (mode : Mode) : Place × Segment → List Part → Prop
  | literal (depth : Nat) (place : Place) (t : Text) :
      Emits mode (place, .literal t) [.literal depth place.line t]
  | silent {place : Place} {code : Text}
      (kind : (Layout.ofCode code place.column).kind = .blank ∨
        (Layout.ofCode code place.column).kind = .close) : Emits mode (place, .code code) []
  | code (depth : Nat) {place : Place} {code : Text} {tokens : List Script.Token}
      {continuation : Option Text} {opening : Option Bool}
      (kind : (Layout.ofCode code place.column).kind = .statements continuation opening)
      (tokenized : tokenize (Layout.ofCode code place.column).rows = .ok tokens) :
      Emits mode (place, .code code) [.code depth
        (place.line + (Layout.ofCode code place.column).skipped)
        (emitted mode (Layout.ofCode code place.column).rows tokens)]

theorem emits_section {depth depth' : Nat} {place : Place} {code : Text} {part : Option Part}
    (h : sectionPart mode depth place code = .ok (part, depth')) :
    Emits mode (place, .code code) part.toList := by
  obtain ⟨rfl, kind⟩ | ⟨tokens, continuation, opening, -, tokenized, kind, rfl⟩ :=
    sectionPart_eq_ok rfl h
  · exact .silent kind
  · exact .code _ kind tokenized

/-- Every segment is emitted once, in their order. -/
theorem emits_partsFrom {segments : Segments} {depth : Nat} {place : Place} {ps : List Part}
    (h : partsFrom d mode depth place segments = .ok ps) :
    ∃ pss, ps = pss.flatten ∧ List.Forall₂ (Emits mode) (segments.placed d place) pss := by
  induction segments generalizing depth place ps with
  | last literal =>
    unfold partsFrom at h
    split at h
    · obtain rfl := Except.ok.inj h
      exact ⟨[[.literal depth place.line literal]], rfl, .cons (.literal ..) .nil⟩
    · cases h
  | unclosed literal code => cases h
  | next literal code rest ih =>
    unfold partsFrom at h
    simp only at h
    split at h
    · cases h
    · next part depth' hp =>
      split at h
      · cases h
      · next others hr =>
        obtain rfl := Except.ok.inj h
        obtain ⟨pss, rfl, emits⟩ := ih hr
        refine ⟨[.literal depth place.line literal] :: part.toList :: pss, ?_,
          .cons (.literal ..) (.cons (emits_section hp) emits)⟩
        rw [List.flatten_cons, List.flatten_cons, List.singleton_append]

/-- Where no section offends, exactly a last section without an end is reported as unpaired. -/
theorem compile_unpaired_iff {text : Text}
    (others : ∀ (k : Nat) (l : Layout), (layouts d text)[k]? = some l →
      l.offence? (openBefore (layouts d text) k) = none) :
    compile d mode text = .error (.unpaired d.start) ↔
      (Segments.ofText d text).EndsInCode d Place.first := by
  rw [compile_eq_error_iff, Segments.endsInCode_iff]
  constructor
  · intro h
    generalize hf : TemplateFault.unpaired d.start = fault at h
    cases h with
    | offence at_ wrong first => nomatch (others _ _ at_).symm.trans wrong
    | unpaired open_ others => exact open_
    | openBlocks closed others level some_ => nomatch hf
  · exact fun h => .unpaired h others

/-- A template is cut at its leftmost delimiters, and in no other way; nothing of it is lost. If it
is compiled, its segments are emitted in their order, each once, with exactly the text that they
have in the template; and where no section offends it is called unpaired if and only if the last
segment is a section without an end. -/
theorem segmentation_leftmost (d : Delimiters) (mode : Mode) (text : Text) :
    (∀ s, Segments.Leftmost d text 0 s ↔ s = Segments.ofText d text) ∧
    (Segments.ofText d text).text d = text ∧
    (∀ ps, parts d mode text = .ok ps → ∃ pss, ps = pss.flatten ∧
      List.Forall₂ (Emits mode) ((Segments.ofText d text).placed d Place.first) pss) ∧
    ((∀ (k : Nat) (l : Layout), (layouts d text)[k]? = some l →
        l.offence? (openBefore (layouts d text) k) = none) →
      (compile d mode text = .error (.unpaired d.start) ↔
        (Segments.ofText d text).EndsInCode d Place.first)) :=
  ⟨fun _ => Segments.leftmost_iff, Segments.text_scan d text.length text,
    fun _ h => emits_partsFrom h, compile_unpaired_iff⟩

end Template

end Stencil
