import Mathlib.Algebra.Group.Nat.Defs
import Stencil.Proofs.Script.Suite
import Stencil.Template.Compile

/-!
# Literal text is reproduced

The statement for a literal segment writes exactly the text of the segment. What stands between its
quotes is read back code point by code point: the escape of each one takes nothing of what follows
it, so the escapes of a text are those of its code points one after another.

## Main definitions

* `Literal.Guarded` — quotes, line feeds and backslashes stand behind backslashes.
* `Literal.Reproduces` — a source is a statement that writes a text, and nothing in it can be
  mistaken.
* `Segments.literals` — the literal segments of a template.

## Main results

* `unescape_escapeText` — reading undoes escaping.
* `Literal.leads_statement` — the terminals of the statement inside any script.
* `Template.literals_reproduced` — every literal segment of every template.
-/

namespace Stencil

namespace Text

/-- A digit of a number in hexadecimal. -/
theorem mem_hex {width n : Nat} {d : CodePoint} (h : d ∈ hex width n) :
    (0x30 ≤ d ∧ d ≤ 0x39) ∨ (0x61 ≤ d ∧ d ≤ 0x66) := by
  induction width generalizing n with
  | zero => simp [hex] at h
  | succ width ih =>
    rw [hex, List.mem_append, List.mem_singleton] at h
    rcases h with h | rfl
    · exact ih h
    · have digits : ∀ k < 16, (0x30 ≤ CodePoint.ofDigit k ∧ CodePoint.ofDigit k ≤ 0x39) ∨
          (0x61 ≤ CodePoint.ofDigit k ∧ CodePoint.ofDigit k ≤ 0x66) := by decide
      exact digits _ (Nat.mod_lt _ (by decide))

theorem length_hex (width n : Nat) : (hex width n).length = width := by
  induction width generalizing n with
  | zero => rfl
  | succ width ih => simp [hex, ih]

end Text

namespace Script

theorem digit?_ofDigit : ∀ d < 16, CodePoint.digit? 16 (CodePoint.ofDigit d) = some d := by
  decide

/-- The last digits of a number in hexadecimal stand for what they are digits of. -/
theorem digitsValue?_hex (width n : Nat) :
    digitsValue? 16 (Text.hex width n) = some (n % 16 ^ width) := by
  induction width generalizing n with
  | zero => simp [digitsValue?, Text.hex, Nat.mod_one]
  | succ width ih =>
    have hd := digit?_ofDigit (n % 16) (Nat.mod_lt _ (by decide))
    unfold digitsValue? at ih ⊢
    rw [Text.hex, List.foldl_append, ih]
    simp only [List.foldl_cons, List.foldl_nil, hd, Option.some.injEq]
    rw [Nat.pow_succ, Nat.mul_comm, Nat.mul_comm (16 ^ width), Nat.mod_mul]
    omega

theorem hexEscape?_hex (width : Nat) {n : Nat} (rest : Text) (h : n < 16 ^ width) (hn : n < 0x110000) :
    hexEscape? width (Text.hex width n ++ rest) = some n := by
  have taken : (Text.hex width n ++ rest).take width = Text.hex width n := by
    rw [List.take_append_of_le_length (Nat.le_of_eq (Text.length_hex width n).symm),
      List.take_of_length_le (Nat.le_of_eq (Text.length_hex width n))]
  unfold hexEscape?
  simp only [taken, Text.length_hex, ↓reduceIte, digitsValue?_hex, Nat.mod_eq_of_lt h]
  simp [Option.filter, hn]

theorem unescapeFrom_eq (n : Nat) (t : Text) : unescapeFrom n t = unescape (t.drop n) := by
  induction n generalizing t with
  | zero => rfl
  | succ n ih =>
    cases t with
    | nil => rfl
    | cons c t => exact ih t

/-- A backslash and what it takes. -/
theorem unescape_backslash {t value : Text} {n : Nat} (h : escape? t = some (value, n)) :
    unescape (('\\' : CodePoint) :: t) = (unescape (t.drop n)).map (value ++ ·) := by
  rw [unescape, unescapeFrom, if_pos rfl, h]
  simp only [unescapeFrom_eq]

/-- A code point that stands for itself. -/
theorem unescape_cons {c : CodePoint} {t : Text} (h : c ≠ ('\\' : CodePoint)) :
    unescape (c :: t) = (unescape t).map (c :: ·) := by
  rw [unescape, unescapeFrom, if_neg h]
  rfl

end Script

namespace Literal

open Script Script.Terminals

/-- Every single quote, line feed and backslash of a text has a backslash of its own before it. -/
inductive Guarded : Text → Prop where
  | nil : Guarded []
  | plain {c : CodePoint} {t : Text} (backslash : c ≠ ('\\' : CodePoint))
      (quote : c ≠ ('\'' : CodePoint)) (lineFeed : c ≠ ('\n' : CodePoint)) (others : Guarded t) :
      Guarded (c :: t)
  | escaped {c : CodePoint} {t : Text} (others : Guarded t) :
      Guarded (('\\' : CodePoint) :: c :: t)

theorem Guarded.hex {width n : Nat} {t : Text} (h : Guarded t) :
    Guarded (Text.hex width n ++ t) := by
  have digits (u : Text) (hu : ∀ d ∈ u, (0x30 ≤ d ∧ d ≤ 0x39) ∨ (0x61 ≤ d ∧ d ≤ 0x66)) :
      Guarded (u ++ t) := by
    induction u with
    | nil => exact h
    | cons d u ih =>
      rw [List.forall_mem_cons] at hu
      refine .plain ?_ ?_ ?_ (ih hu.2) <;> rintro rfl <;> exact absurd hu.1 (by decide)
  exact digits _ fun d hd => Text.mem_hex hd

/-- How `escape` writes a code point: by a letter, on a new row, by itself behind a backslash, by
its number, or by itself. -/
inductive Escaped (c : CodePoint) : Text → Prop where
  | carriageReturn (h : c = ('\r' : CodePoint)) : Escaped c ['\\', 'r']
  | lineFeed (h : c = ('\n' : CodePoint)) : Escaped c ['\\', 'n', '\\', '\n']
  | itself (h : c = ('\\' : CodePoint) ∨ c = ('\'' : CodePoint)) : Escaped c ['\\', c]
  | control (h : c < 0x80) (lineFeed : c ≠ ('\n' : CodePoint)) :
    Escaped c ('\\' :: 'x' :: Text.hex 2 c)
  | surrogate (h : c < 0x10000) (lineFeed : c ≠ ('\n' : CodePoint)) :
    Escaped c ('\\' :: 'u' :: Text.hex 4 c)
  | plain (backslash : c ≠ ('\\' : CodePoint)) (quote : c ≠ ('\'' : CodePoint))
      (lineFeed : c ≠ ('\n' : CodePoint)) (carriageReturn : c ≠ ('\r' : CodePoint))
      (null : c ≠ 0) (surrogate : c.isSurrogate = false) : Escaped c [c]

theorem escaped_escape (c : CodePoint) : Escaped c (escape c) := by
  unfold escape
  split
  · rename_i h
    exact .carriageReturn h
  rename_i hr
  split
  · rename_i h
    exact .lineFeed h
  rename_i hl
  split
  · rename_i h
    exact .itself h
  rename_i hq
  rw [not_or] at hq
  split
  · rename_i h
    refine .control ?_ hl
    rcases h with ⟨h, -⟩ | rfl
    · exact Nat.lt_trans h (by decide)
    · decide
  rename_i hx
  split
  · rename_i h
    refine .surrogate ?_ hl
    simp only [CodePoint.isSurrogate, Bool.and_eq_true, decide_eq_true_eq] at h
    exact Nat.lt_of_le_of_lt h.2 (by decide)
  · rename_i hs
    refine .plain hq.1 hq.2 hl hr ?_ (by simpa using hs)
    rintro rfl
    exact hx (.inl (by decide))

variable {c : CodePoint} {t u v : Text}

theorem Guarded.escape (h : Guarded t) : Guarded (escape c ++ t) := by
  have hc := escaped_escape c
  revert hc
  generalize Literal.escape c = e
  intro hc
  cases hc with
  | carriageReturn => exact .escaped h
  | lineFeed => exact .escaped (.escaped h)
  | itself => exact .escaped h
  | control => exact .escaped (Guarded.hex h)
  | surrogate => exact .escaped (Guarded.hex h)
  | plain hb hq hl => exact .plain hb hq hl h

/-- The escapes of a text hold no quote and no line feed without a backslash before it. -/
theorem guarded_escapeText (t : Text) : Guarded (escapeText t) := by
  induction t with
  | nil => exact .nil
  | cons c t ih => exact Guarded.escape ih

/-- A visible ASCII character or a line feed. -/
abbrev IsTame (d : CodePoint) : Prop := (0x20 ≤ d ∧ d < 0x80) ∨ d = 10

theorem isTame_hex {width n : Nat} {d : CodePoint} (h : d ∈ Text.hex width n) : IsTame d := by
  rcases Text.mem_hex h with ⟨hl, hu⟩ | ⟨hl, hu⟩
  · exact .inl ⟨Nat.le_trans (by decide) hl, Nat.lt_of_le_of_lt hu (by decide)⟩
  · exact .inl ⟨Nat.le_trans (by decide) hl, Nat.lt_of_le_of_lt hu (by decide)⟩

theorem isTame_clean {d : CodePoint} (h : IsTame d) :
    d ≠ 0 ∧ d ≠ ('\r' : CodePoint) ∧ d.isSurrogate = false ∧ d < 0x110000 := by
  have below : d < 0x80 := by
    rcases h with h | rfl
    · exact h.2
    · decide
  refine ⟨?_, ?_, ?_, Nat.lt_trans below (by decide)⟩
  · rintro rfl
    exact absurd h (by decide)
  · rintro rfl
    exact absurd h (by decide)
  · simp only [CodePoint.isSurrogate, Bool.and_eq_false_iff, decide_eq_false_iff_not]
    exact .inl (Nat.not_le_of_lt (Nat.lt_trans below (by decide)))

/-- No escape holds U+0000, a carriage return or a surrogate, or goes beyond Unicode. -/
theorem mem_escape {d : CodePoint} (h : d ∈ escape c) :
    d ≠ 0 ∧ d ≠ ('\r' : CodePoint) ∧ d.isSurrogate = false ∧ (c < 0x110000 → d < 0x110000) := by
  have tame (ht : IsTame d) : d ≠ 0 ∧ d ≠ ('\r' : CodePoint) ∧ d.isSurrogate = false ∧
      (c < 0x110000 → d < 0x110000) :=
    ⟨(isTame_clean ht).1, (isTame_clean ht).2.1, (isTame_clean ht).2.2.1, fun _ => (isTame_clean ht).2.2.2⟩
  have hc := escaped_escape c
  revert hc h
  generalize Literal.escape c = e
  intro h hc
  cases hc with
  | carriageReturn =>
    refine tame ?_
    simp only [List.mem_cons, List.not_mem_nil, or_false] at h
    rcases h with rfl | rfl <;> decide
  | lineFeed =>
    refine tame ?_
    simp only [List.mem_cons, List.not_mem_nil, or_false] at h
    rcases h with rfl | rfl | rfl | rfl <;> decide
  | itself hc =>
    refine tame ?_
    simp only [List.mem_cons, List.not_mem_nil, or_false] at h
    rcases hc with rfl | rfl <;> rcases h with rfl | rfl <;> decide
  | control =>
    refine tame ?_
    simp only [List.mem_cons] at h
    rcases h with rfl | rfl | h
    · decide
    · decide
    · exact isTame_hex h
  | surrogate =>
    refine tame ?_
    simp only [List.mem_cons] at h
    rcases h with rfl | rfl | h
    · decide
    · decide
    · exact isTame_hex h
  | plain hb hq hl hr hn hs =>
    obtain rfl := List.mem_singleton.1 h
    exact ⟨hn, hr, hs, id⟩

/-- Reading takes the escape of a code point for the code point and goes on after it. -/
theorem unescape_escape (hc : c < 0x110000) (t : Text) :
    unescape (escape c ++ t) = (unescape t).map (c :: ·) := by
  have he := escaped_escape c
  revert he
  generalize Literal.escape c = e
  intro he
  cases he with
  | carriageReturn h =>
    subst h
    have letter : escape? ('r' :: t) = some ([13], 1) := rfl
    exact unescape_backslash letter
  | lineFeed h =>
    subst h
    have joined : unescape (('\\' : CodePoint) :: 10 :: t) = (unescape t).map ([] ++ ·) :=
      unescape_backslash (n := 1) rfl
    have first : unescape (('\\' : CodePoint) :: 'n' :: '\\' :: 10 :: t) =
        (unescape (('\\' : CodePoint) :: 10 :: t)).map ([10] ++ ·) :=
      unescape_backslash (n := 1) rfl
    refine first.trans ?_
    rw [joined, Option.map_map]
    rfl
  | itself h =>
    rcases h with rfl | rfl
    · have letter : escape? ('\\' :: t) = some ([0x5C], 1) := rfl
      exact unescape_backslash letter
    · have letter : escape? ('\'' :: t) = some ([0x27], 1) := rfl
      exact unescape_backslash letter
  | control h _ =>
    have number : escape? (('x' : CodePoint) :: (Text.hex 2 c ++ t)) = some ([c], 3) := by
      have := hexEscape?_hex 2 t (Nat.lt_trans h (by decide)) hc
      change (hexEscape? 2 (Text.hex 2 c ++ t)).map _ = _
      rw [this, Option.map_some]
    refine (unescape_backslash number).trans ?_
    rfl
  | surrogate h _ =>
    have number : escape? (('u' : CodePoint) :: (Text.hex 4 c ++ t)) = some ([c], 5) := by
      have := hexEscape?_hex 4 t h hc
      change (hexEscape? 4 (Text.hex 4 c ++ t)).map _ = _
      rw [this, Option.map_some]
    refine (unescape_backslash number).trans ?_
    rfl
  | plain hb => exact unescape_cons hb

/-- Reading undoes escaping. -/
theorem unescape_escapeText (h : t.isWhole = true) : unescape (escapeText t) = some t := by
  induction t with
  | nil => rfl
  | cons c t ih =>
    simp only [Text.isWhole, List.all_cons, Bool.and_eq_true, decide_eq_true_eq] at h ih
    rw [escapeText, List.flatMap_cons, unescape_escape h.1]
    change (unescape (escapeText t)).map _ = _
    rw [ih h.2, Option.map_some]

theorem mem_escapeText {d : CodePoint} (h : d ∈ escapeText t) :
    d ≠ 0 ∧ d ≠ ('\r' : CodePoint) ∧ d.isSurrogate = false ∧
      (t.isWhole = true → d < 0x110000) := by
  obtain ⟨c, hc, hd⟩ := List.mem_flatMap.1 h
  obtain ⟨hn, hr, hs, hw⟩ := mem_escape hd
  refine ⟨hn, hr, hs, fun ht => hw ?_⟩
  simpa using List.all_eq_true.1 ht c hc

theorem isWhole_escapeText (h : t.isWhole = true) : (escapeText t).isWhole = true := by
  refine List.all_eq_true.2 fun d hd => ?_
  simpa using (mem_escapeText hd).2.2.2 h

/-! ## The string -/

/-- The quote of every literal. -/
def quote : Quote := ⟨0x27, false⟩

/-- A guarded text reaches up to the quote after it. -/
theorem stringEnd?_guarded {n : Nat} (h : Guarded t) (rest : Text) :
    stringEnd? quote n (t ++ 0x27 :: rest) = some (n + t.length + 1) := by
  have marks : quote.marks = [0x27] := rfl
  induction h generalizing n with
  | nil =>
    cases rest with
    | nil => rfl
    | cons d rest => rfl
  | @plain c t hb hq hl others ih =>
    have hp : quote.marks.isPrefixOf (c :: (t ++ 0x27 :: rest)) = false := by
      have hq' : ¬(0x27 : CodePoint) = c := Ne.symm hq
      simp [marks, List.isPrefixOf, hq']
    have hlf : ¬(c = ('\n' : CodePoint) ∧ (!quote.triple) = true) := fun h => hl h.1
    rw [List.cons_append, stringEnd?_cons (by simp), if_neg hb, hp, if_neg (by simp), if_neg hlf,
      ih]
    simp only [List.length_cons]
    congr 1
    omega
  | @escaped c t others ih =>
    rw [List.cons_append, stringEnd?_cons (by simp), if_pos rfl]
    simp only [List.cons_append, List.tail_cons, List.length_cons]
    rw [ih]
    congr 1
    omega

/-- The string token of a literal text. -/
def token (t : Text) : Text := 0x27 :: (escapeText t ++ [0x27])

theorem length_token (t : Text) : (token t).length = (escapeText t).length + 2 := by
  simp [token]

/-- The quote that opens a literal is single, though an empty literal has another right after it. -/
theorem stringStart?_token (t : Text) {rest : Text} (h : rest.head? ≠ some 0x27) :
    stringStart? (token t ++ rest) = some (0, quote) := by
  have triple : ([0x27, 0x27] : Text).isPrefixOf
      (escapeText t ++ [0x27] ++ rest) = false := by
    have hg := guarded_escapeText t
    revert hg
    generalize escapeText t = body
    intro hg
    cases hg with
    | nil =>
      cases rest with
      | nil => rfl
      | cons d rest =>
        have hd : d ≠ 0x27 := fun he => h (by simp [he])
        simp [List.isPrefixOf, Ne.symm hd]
    | plain hb hq hl others =>
      have hq' : ¬(0x27 : CodePoint) = _ := Ne.symm hq
      simp [List.isPrefixOf, hq']
    | escaped others => rfl
  have start : stringStart? (token t ++ rest) =
    some (0, ⟨0x27, ([0x27, 0x27] : Text).isPrefixOf (escapeText t ++ [0x27] ++ rest)⟩) := rfl
  rw [start, triple]
  rfl

/-- The string token of a text stands for the text. -/
theorem denotes_token (h : t.isWhole = true) : Denotes (token t) t := by
  have start : stringStart? (token t) = some (0, quote) := by
    have opened : stringStart? (token t ++ []) = some (0, quote) := stringStart?_token t (by simp)
    rwa [List.append_nil] at opened
  refine ⟨⟨[], quote, escapeText t⟩, ?_, rfl, rfl, ?_⟩
  · rw [StringToken.ofText?, start, Option.map_some]
    simp [token, quote, Quote.marks]
  · have raw : (⟨[], quote, escapeText t⟩ : StringToken).isRaw = false := rfl
    simp [StringToken.read?, isWhole_escapeText h, raw, unescape_escapeText h]

theorem visible?_token (t : Text) {rest : Text} (h : rest.head? ≠ some 0x27) :
    visible? (token t ++ rest) = some (.string, (token t).length) := by
  rw [visible?_of_string (stringStart?_token t h)]
  have opened : (token t ++ rest).drop (0 + quote.marks.length) =
      escapeText t ++ 0x27 :: rest := by
    simp [token, quote, Quote.marks]
  rw [opened, stringEnd?_guarded (guarded_escapeText t), length_token]
  simp only [Option.map_some, Option.some.injEq, Prod.mk.injEq, true_and]
  have : quote.marks.length = 1 := rfl
  omega

theorem lineFeeds_escape (c : CodePoint) : (escape c).lineFeeds = Text.lineFeeds [c] := by
  have hc := escaped_escape c
  revert hc
  generalize escape c = e
  intro hc
  have digits {width : Nat} : (10 : CodePoint) ∉ Text.hex width c := fun h =>
    absurd (Text.mem_hex h) (by decide)
  have others (h : c ≠ 10) : Text.lineFeeds [c] = 0 := by simp [Text.lineFeeds, h]
  cases hc with
  | carriageReturn h =>
    subst h
    rfl
  | lineFeed h =>
    subst h
    rfl
  | itself h => rcases h with rfl | rfl <;> rfl
  | control h hl =>
    rw [others hl]
    exact List.count_eq_zero.2 (by simpa using digits)
  | surrogate h hl =>
    rw [others hl]
    exact List.count_eq_zero.2 (by simpa using digits)
  | plain => rfl

/-- A literal and its string have the same number of rows. -/
theorem lineFeeds_escapeText (t : Text) : (escapeText t).lineFeeds = t.lineFeeds := by
  induction t with
  | nil => rfl
  | cons c t ih =>
    have hc := lineFeeds_escape c
    unfold Text.lineFeeds at hc ih ⊢
    rw [escapeText, List.flatMap_cons, List.count_append, hc]
    change _ + (escapeText t).count 10 = _
    rw [ih, ← List.count_append]
    rfl

/-! ## The statement -/

theorem lineFeeds_token (t : Text) : (token t).lineFeeds = t.lineFeeds := by
  rw [← lineFeeds_escapeText t]
  simp [token, Text.lineFeeds]

theorem statement_eq (t : Text) :
    statement t = Text.ofString "write" ++ 0x28 :: (token t ++ [0x29]) := by
  simp only [statement, token, List.append_assoc, List.cons_append, List.nil_append]
  rfl

/-- The column after the string of a literal that begins at a column. -/
def endColumn (column : Nat) (t : Text) : Nat :=
  (if (token t).lineFeeds = 0 then column else 0) +
    Text.octetCount ((Text.rows (token t)).getLastD [])

/-- The extent of `write` in a statement that begins at a place. -/
def nameSpan (row column : Nat) : Span := ⟨row, column, row, column + 5⟩

/-- The extent of the string in a statement that begins at a place. -/
def stringSpan (row column : Nat) (t : Text) : Span :=
  ⟨row, column + 6, row + t.lineFeeds, endColumn (column + 6) t⟩

/-- The extent of the closing parenthesis in a statement that begins at a place. -/
def closeSpan (row column : Nat) (t : Text) : Span :=
  ⟨row + t.lineFeeds, endColumn (column + 6) t, row + t.lineFeeds, endColumn (column + 6) t + 1⟩

/-- The terminals of a statement that begins at a place. -/
def terminals (row column : Nat) (t : Text) : List Terminal :=
  Parse.writing (nameSpan row column) ⟨row, column + 5, row, column + 6⟩ (stringSpan row column t)
    (closeSpan row column t) (token t)

theorem isVisible_terminals (row column : Nat) (t : Text) :
    ∀ u ∈ terminals row column t, u.isVisible = true := by
  simp [terminals, Parse.writing, Terminal.isVisible]

/-- The end of the line of a statement that begins at a place. -/
def newline (row column : Nat) (t : Text) : Terminal :=
  ⟨.newline, [], ⟨row + t.lineFeeds, endColumn (column + 6) t + 1, row + t.lineFeeds,
    endColumn (column + 6) t + 1⟩, 0⟩

/-- The statement of a literal brings its four terminals wherever it stands. -/
theorem leads_statement (t v : Text) (row column : Nat) (indents : List (Nat × Nat)) :
    Scan.Leads ⟨statement t ++ 10 :: v, row, column, false, [], indents⟩
      (terminals row column t ++ [newline row column t])
      (Scan.afterRow v (row + t.lineFeeds) indents) := by
  have hw : Scan.Begins ('w' : CodePoint) := by decide
  have ho : Scan.Begins 0x28 := by decide
  have hq : Scan.Begins 0x27 := by decide
  have hc : Scan.Begins 0x29 := by decide
  have name : (⟨statement t ++ 10 :: v, row, column, false, [], indents⟩ : Scan).step =
      .ok ([⟨.name, "write", nameSpan row column, 0⟩],
        ⟨0x28 :: (token t ++ 0x29 :: 10 :: v), row, column + 5, false, [], indents⟩) := by
    have rest : statement t ++ 10 :: v =
        Text.ofString "write" ++ 0x28 :: (token t ++ 0x29 :: 10 :: v) := by
      simp [statement_eq]
    have hv : visible? (Text.ofString "write" ++ 0x28 :: (token t ++ 0x29 :: 10 :: v)) =
      some (.name, 5) := rfl
    rw [rest, Scan.step_begins rfl rfl hw, hv]
    rfl
  have opening : (⟨0x28 :: (token t ++ 0x29 :: 10 :: v), row, column + 5, false, [], indents⟩ :
      Scan).step =
      .ok ([⟨.op, "(", ⟨row, column + 5, row, column + 6⟩, 1⟩],
        ⟨token t ++ 0x29 :: 10 :: v, row, column + 6, false, [(0x28, row)], indents⟩) := by
    have hv : visible? (0x28 :: (token t ++ 0x29 :: 10 :: v)) = some (.op, 1) := rfl
    rw [Scan.step_begins rfl rfl ho, hv]
    rfl
  have string : (⟨token t ++ 0x29 :: 10 :: v, row, column + 6, false, [(0x28, row)], indents⟩ :
      Scan).step =
      .ok ([⟨.string, token t, stringSpan row column t, 1⟩],
        ⟨0x29 :: 10 :: v, row + t.lineFeeds, endColumn (column + 6) t, false, [(0x28, row)],
          indents⟩) := by
    have hv : visible? (token t ++ 0x29 :: 10 :: v) = some (.string, (token t).length) :=
      visible?_token t (by simp)
    have taken : (token t ++ 0x29 :: 10 :: v).take (token t).length = token t := List.take_left
    have left : (token t ++ 0x29 :: 10 :: v).drop (token t).length = 0x29 :: 10 :: v :=
      List.drop_left
    rw [Scan.step_begins rfl rfl hq, hv]
    simp only [Scan.after, taken, left, stringSpan, endColumn, lineFeeds_token]
    rfl
  have closing : (⟨0x29 :: 10 :: v, row + t.lineFeeds, endColumn (column + 6) t, false,
      [(0x28, row)], indents⟩ : Scan).step =
      .ok ([⟨.op, ")", closeSpan row column t, 0⟩],
        ⟨10 :: v, row + t.lineFeeds, endColumn (column + 6) t + 1, false, [], indents⟩) := by
    have hv : visible? (0x29 :: 10 :: v) = some (.op, 1) := rfl
    rw [Scan.step_begins rfl rfl hc, hv]
    rfl
  have ended := Scan.leads_of_ok (Scan.step_lineFeed
    (s := ⟨10 :: v, row + t.lineFeeds, endColumn (column + 6) t + 1, false, [], indents⟩) rfl
    (rfl : _ = 10 :: v))
  exact (Scan.leads_of_ok name).trans ((Scan.leads_of_ok opening).trans
    ((Scan.leads_of_ok string).trans ((Scan.leads_of_ok closing).trans ended)))

/-- The statement of a literal inside blocks. -/
theorem leads_literal (t v : Text) (row : Nat) {outer inner : Nat} (hd : inner ≤ outer + 1)
    (hmax : inner < maxIndents) :
    Scan.Leads
      (Scan.atRow (List.replicate (4 * inner) 32 ++ (statement t ++ 10 :: v)) row
        (Scan.levels outer))
      (Scan.shift outer inner row ++
        (terminals row (4 * inner) t ++ [newline row (4 * inner) t]))
      (Scan.afterRow v (row + t.lineFeeds) (Scan.levels inner)) := by
  have hw : Scan.Begins ('w' : CodePoint) := by decide
  exact (Scan.leads_of_ok (Scan.step_indent row hw hd hmax)).trans
    (leads_statement t v row (4 * inner) (Scan.levels inner))

theorem mem_statement {d : CodePoint} (h : d ∈ statement t) :
    d ≠ 0 ∧ d ≠ ('\r' : CodePoint) ∧ d.isSurrogate = false := by
  have tame (hd : IsTame d) : d ≠ 0 ∧ d ≠ ('\r' : CodePoint) ∧ d.isSurrogate = false :=
    ⟨(isTame_clean hd).1, (isTame_clean hd).2.1, (isTame_clean hd).2.2.1⟩
  have opening : ∀ d ∈ Text.ofString "write('", IsTame d := by decide
  have closing : ∀ d ∈ Text.ofString "')", IsTame d := by decide
  rw [statement, List.mem_append, List.mem_append] at h
  rcases h with (h | h) | h
  · exact tame (opening d h)
  · exact ⟨(mem_escapeText h).1, (mem_escapeText h).2.1, (mem_escapeText h).2.2.1⟩
  · exact tame (closing d h)

/-- The terminals of the statement as a script of its own. -/
theorem ofText_statement (t : Text) :
    ofText (statement t) =
      ⟨terminals 1 0 t ++ [newline 1 0 t,
        ⟨.endMarker, [], ⟨1 + t.lineFeeds, 0, 1 + t.lineFeeds, 0⟩, 0⟩], .complete⟩ := by
  have hlast : (statement t).getLast? ≠ some 10 := by
    have closing : (Text.ofString "')").getLast? = some 0x29 := rfl
    rw [statement, List.getLast?_append, closing, Option.some_or]
    decide
  have hr : (13 : CodePoint) ∉ statement t := fun h => (mem_statement h).2.1 rfl
  have leads := leads_literal t [] 1 (Nat.zero_le (0 + 1)) (by decide)
  rw [ofText_eq, lines_of_notMem hlast hr]
  refine (Scan.all_of_leads leads).trans ?_
  have ended := Scan.all_end 0 (1 + t.lineFeeds)
  simp only [Scan.afterRow, List.isEmpty_nil, ↓reduceIte]
  rw [ended]
  simp [preceded, Scan.shift]

/-- The statement is the call of `write` with the text, and nothing else. -/
theorem parse_statement (h : t.isWhole = true) :
    Script.parse (statement t) =
      .ok [.expr ((nameSpan 1 0).through (closeSpan 1 0 t))
        (Parse.written (nameSpan 1 0) (stringSpan 1 0 t) (closeSpan 1 0 t) t)] := by
  have line : Parse.lineClause ⟨.name, "write", nameSpan 1 0, 0⟩ (terminals 1 0 t).tail =
      .ok (.simple [.expr ((nameSpan 1 0).through (closeSpan 1 0 t))
        (Parse.written (nameSpan 1 0) (stringSpan 1 0 t) (closeSpan 1 0 t) t)]) :=
    Parse.lineClause_writing (denotes_token h)
  have ended (span : Span) : Parse.statements 15 [.stop span] = .ok ([], [.stop span]) :=
    Parse.statements_end trivial
  have whole := Parse.statements_simple (n := 15) rfl line
    (ended ⟨1 + t.lineFeeds, 0, 1 + t.lineFeeds, 0⟩)
  have items : Item.ofTerminals [] (ofText (statement t)).list =
      [.line ⟨.name, "write", nameSpan 1 0, 0⟩ (terminals 1 0 t).tail,
        .stop ⟨1 + t.lineFeeds, 0, 1 + t.lineFeeds, 0⟩] := by
    rw [ofText_statement]
    rfl
  have parsed : parseStatements (statement t) =
      .ok [.expr ((nameSpan 1 0).through (closeSpan 1 0 t))
        (Parse.written (nameSpan 1 0) (stringSpan 1 0 t) (closeSpan 1 0 t) t)] := by
    unfold parseStatements
    simp only [items]
    rw [ofText_statement]
    simp only [parseItems, List.length_cons, List.length_nil, StateT.run, Nat.reduceAdd,
      Nat.reduceMul, whole]
    rfl
  unfold Script.parse
  rw [parsed]

/-- A source writes a text: behind its indentation it is one call of `write` with a string between
single quotes, the string denotes the text, and no code point of the source can be mistaken. -/
structure Reproduces (depth : Nat) (source body t : Text) : Prop where
  form : source = Part.indent depth ++ ("write('" ++ body ++ "')")
  statement : ∃ name string closing, Script.parse ("write('" ++ body ++ "')") =
    .ok [.expr (name.through closing) (Parse.written name string closing t)]
  denotes : Denotes ("'" ++ body ++ "'") t
  guarded : Guarded body
  clean : ∀ c ∈ source, c ≠ 0 ∧ c ≠ ('\r' : CodePoint) ∧ c.isSurrogate = false

/-- The source of every literal part writes the text of the part. -/
theorem reproduces_source (h : t.isWhole = true) (depth line : Nat) :
    Reproduces depth (Part.literal depth line t).source (escapeText t) t where
  form := rfl
  statement := ⟨_, _, _, parse_statement h⟩
  denotes := denotes_token h
  guarded := guarded_escapeText t
  clean := by
    intro c hc
    rcases List.mem_append.1 hc with hc | hc
    · obtain ⟨-, rfl⟩ := List.mem_replicate.1 hc
      decide
    · exact mem_statement hc

end Literal

namespace Part

/-- The text of a literal part. -/
def literal? : Part → Option Text
  | literal _ _ t => some t
  | code .. => none

end Part

namespace Segments

/-- The literal segments of a template, in order. -/
def literals : Segments → List Text
  | last literal => [literal]
  | unclosed literal _ => [literal]
  | next literal _ rest => literal :: rest.literals

theorem isWhole_of_mem {d : Delimiters} {t : Text} {s : Segments} (h : (s.text d).isWhole = true)
    (ht : t ∈ s.literals) : t.isWhole = true := by
  simp only [Text.isWhole] at h ⊢
  induction s with
  | last literal =>
    obtain rfl := List.mem_singleton.1 ht
    exact h
  | unclosed literal code =>
    obtain rfl := List.mem_singleton.1 ht
    simp only [Segments.text, List.all_append, Bool.and_eq_true] at h
    exact h.1.1
  | next literal code rest ih =>
    simp only [Segments.text, List.all_append, Bool.and_eq_true] at h
    rcases List.mem_cons.1 ht with rfl | ht
    · exact h.1.1.1.1
    · exact ih h.2 ht

end Segments

namespace Template

/-- No section emits literal text. -/
theorem sectionPart_literal? {mode : Mode} {depth depth' : Nat} {place : Place} {code : Text}
    {part : Option Part} (h : sectionPart mode depth place code = .ok (part, depth')) :
    part.toList.filterMap Part.literal? = [] := by
  unfold sectionPart at h
  simp only at h
  split at h
  · simp only [Except.ok.injEq, Prod.mk.injEq] at h
    rw [← h.1]
    rfl
  split at h
  · simp at h
  split at h
  · split at h
    · simp at h
    · simp only [Except.ok.injEq, Prod.mk.injEq] at h
      rw [← h.1]
      rfl
  split at h
  · simp at h
  split at h
  · simp at h
  · simp only [Except.ok.injEq, Prod.mk.injEq] at h
    rw [← h.1]
    rfl

/-- The literal parts are the literal segments in their order. -/
theorem literals_of_partsFrom {d : Delimiters} {mode : Mode} {segments : Segments} {depth : Nat}
    {place : Place} {parts : List Part} (h : partsFrom d mode depth place segments = .ok parts) :
    parts.filterMap Part.literal? = segments.literals := by
  induction segments generalizing depth place parts with
  | last literal =>
    unfold partsFrom at h
    split at h
    · obtain rfl := Except.ok.inj h
      rfl
    · simp at h
  | unclosed literal code => simp [partsFrom] at h
  | next literal code rest ih =>
    unfold partsFrom at h
    simp only at h
    split at h
    · simp at h
    · rename_i part depth' hp
      split at h
      · simp at h
      · rename_i parts' hr
        obtain rfl := Except.ok.inj h
        have first : Part.literal? (.literal depth place.line literal) = some literal := rfl
        rw [List.filterMap_cons_some first, List.filterMap_append, sectionPart_literal? hp, ih hr]
        rfl

/-- Literals are reproduced exactly: the literal parts of a template are its literal segments, and
the source of each, inside however many blocks, is one statement that writes its text. -/
theorem literals_reproduced (d : Delimiters) (mode : Mode) {text : Text}
    (whole : text.isWhole = true) :
    (∀ ps, parts d mode text = .ok ps →
      ps.filterMap Part.literal? = (Segments.ofText d text).literals) ∧
    ∀ t ∈ (Segments.ofText d text).literals, ∀ depth line, ∃ body,
      Literal.Reproduces depth (Part.literal depth line t).source body t := by
  refine ⟨fun _ h => literals_of_partsFrom h, fun t ht depth line => ?_⟩
  have hwhole : ((Segments.ofText d text).text d).isWhole = true := by
    rw [Segments.ofText, Segments.text_scan]
    exact whole
  exact ⟨_, Literal.reproduces_source (Segments.isWhole_of_mem hwhole ht) depth line⟩

/-- A template of a quote, a backslash, a line end and a lone surrogate. -/
theorem literals_reproduced_specials :
    Text.isWhole [0x27, 0x5C, 13, 10, 0xD800] = true ∧
    ∃ body, Literal.Reproduces 2 (Part.literal 2 1 [0x27, 0x5C, 13, 10, 0xD800]).source body
      [0x27, 0x5C, 13, 10, 0xD800] := by
  have whole : Text.isWhole [0x27, 0x5C, 13, 10, 0xD800] = true := by decide
  exact ⟨whole, (literals_reproduced .standard .blocking whole).2 _ (by decide) 2 1⟩

end Template

end Stencil
