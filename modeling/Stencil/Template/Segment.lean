import Stencil.Text.Basic

/-!
# Segments of a template

A template alternates between literal text and code sections. A code section begins after the
first start delimiter of the text that is left and ends before the first stop delimiter after
that. The delimiters themselves belong to neither.

## Main definitions

* `Delimiters` — the two delimiters, neither of them empty.
* `Segments` — a template cut at its delimiters; `Segments.text` is the template it came from.
* `Segments.ofText` — the segments of a template.
* `Place` — a line and a column of a template.
-/

namespace Stencil

/-- The delimiters of code sections. -/
structure Delimiters where
  /-- Enters a code section. -/
  start : Text
  /-- Returns to literal text. -/
  stop : Text
  start_ne : start ≠ []
  stop_ne : stop ≠ []
  deriving DecidableEq

namespace Delimiters

/-- The delimiters of a template whose author chose none. -/
def standard : Delimiters := ⟨"%\x7b", "\x7d%", by decide, by decide⟩

instance : Inhabited Delimiters := ⟨standard⟩

/-- Two texts as delimiters, unless one of them is empty. -/
def ofTexts? (start stop : Text) : Option Delimiters :=
  if h : start ≠ [] ∧ stop ≠ [] then some ⟨start, stop, h.1, h.2⟩ else none

end Delimiters

/-- A template cut at its delimiters. -/
inductive Segments where
  /-- Literal text up to the end. -/
  | last (literal : Text)
  /-- Literal text, then a code section that nothing ends. -/
  | unclosed (literal code : Text)
  /-- Literal text, a code section, and what follows its stop delimiter. -/
  | next (literal code : Text) (rest : Segments)
  deriving DecidableEq, Inhabited

namespace Segments

/-- The template that segments came from. -/
def text (d : Delimiters) : Segments → Text
  | last literal => literal
  | unclosed literal code => literal ++ d.start ++ code
  | next literal code rest => literal ++ d.start ++ code ++ d.stop ++ rest.text d

/-- The segments of a template of at most `fuel` code points. -/
def scan (d : Delimiters) : (fuel : Nat) → Text → Segments
  | 0, t => last t
  | fuel + 1, t =>
    match Text.cut? d.start t with
    | none => last t
    | some (literal, after) =>
      match Text.cut? d.stop after with
      | none => unclosed literal after
      | some (code, rest) => next literal code (scan d fuel rest)

/-- The segments of a template. -/
def ofText (d : Delimiters) (t : Text) : Segments := scan d t.length t

/-- Cutting loses nothing. -/
theorem text_scan (d : Delimiters) (fuel : Nat) (t : Text) : (scan d fuel t).text d = t := by
  induction fuel generalizing t with
  | zero => rfl
  | succ fuel ih =>
    unfold scan
    split
    · rfl
    · rename_i literal after h
      split
      · simp [text, Text.cut?_eq_some h]
      · rename_i code rest h'
        simp [text, Text.cut?_eq_some h, Text.cut?_eq_some h', ih]

end Segments

/-- A place in a template. -/
structure Place where
  /-- The number of the line, from 1. -/
  line : Nat
  /-- The number of code points before it on its line. -/
  column : Nat
  deriving DecidableEq, Repr, Inhabited

namespace Place

/-- The place of the first code point. -/
def first : Place := ⟨1, 0⟩

/-- The place after one code point. -/
def next (p : Place) (c : CodePoint) : Place :=
  if c = '\n' then ⟨p.line + 1, 0⟩ else ⟨p.line, p.column + 1⟩

/-- The place after a text. -/
def after (p : Place) (t : Text) : Place := t.foldl next p

theorem after_append (p : Place) (t u : Text) : p.after (t ++ u) = (p.after t).after u := by
  simp [after]

/-- Every line feed, and nothing else, moves on to the next line. -/
theorem line_after (p : Place) (t : Text) : (p.after t).line = p.line + t.lineFeeds := by
  induction t generalizing p with
  | nil => rfl
  | cons c rest ih =>
    have : p.after (c :: rest) = (p.next c).after rest := rfl
    rw [this, ih]
    by_cases h : c = 10
    · simp [next, Text.lineFeeds, h]; omega
    · simp [next, Text.lineFeeds, h]

end Place

end Stencil
