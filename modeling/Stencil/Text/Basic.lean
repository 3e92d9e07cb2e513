/-!
# Text

A text is the list of its code points. Numbers are used instead of `Char` because a text that is
not well-formed Unicode, with a surrogate standing alone, is still a text that a template may hold.

## Main definitions

* `CodePoint`, `Text` — with coercions from `Char` and `String`.
* `Text.splitOn`, `Text.rows` — the pieces between separators; `Text.join` puts them together.
* `Text.cut?` — the parts before and after the first occurrence of a pattern.
* `Text.strip`, `Text.stripEnd` — a text without the blanks at its ends.
-/

namespace Stencil

/-- A code point; the values 0xD800 to 0xDFFF are surrogates. -/
abbrev CodePoint := Nat

/-- A text is the sequence of its code points. -/
abbrev Text := List CodePoint

namespace Text

/-- The text of a string. -/
def ofString (s : String) : Text := s.toList.map Char.toNat

/-- The string of a text; a surrogate, which no string holds, becomes U+0000. -/
def toString (t : Text) : String := String.ofList (t.map Char.ofNat)

end Text

instance : Coe String Text := ⟨Text.ofString⟩
instance : Coe Char CodePoint := ⟨Char.toNat⟩

/-- Membership among texts is decided by comparing them one by one. -/
instance Text.decidableMem (t : Text) (ts : List Text) : Decidable (t ∈ ts) :=
  List.instDecidableMemOfLawfulBEq t ts

namespace CodePoint

/-- The code points that only pairs of UTF-16 units use. -/
def isSurrogate (c : CodePoint) : Bool := 0xD800 ≤ c && c ≤ 0xDFFF

/-- The value of an ASCII digit in a base up to sixteen. -/
def digit? (base : Nat) (c : CodePoint) : Option Nat :=
  let value :=
    if 0x30 ≤ c ∧ c ≤ 0x39 then some (c - 0x30)
    else if 0x41 ≤ c ∧ c ≤ 0x46 then some (c - 0x41 + 10)
    else if 0x61 ≤ c ∧ c ≤ 0x66 then some (c - 0x61 + 10)
    else none
  value.filter (· < base)

/-- The lower-case digit of a value below sixteen. -/
def ofDigit (d : Nat) : CodePoint := if d < 10 then 0x30 + d else 0x61 + (d - 10)

/-- The blanks of Unicode: what separates words and may be stripped from the ends of a text. -/
def isSpace (c : CodePoint) : Bool :=
  (9 ≤ c && c ≤ 13) || (28 ≤ c && c ≤ 32) || c == 0x85 || c == 0xA0 || c == 0x1680 ||
  (0x2000 ≤ c && c ≤ 0x200A) || c == 0x2028 || c == 0x2029 || c == 0x202F || c == 0x205F ||
  c == 0x3000

end CodePoint

namespace Text

/-- The decimal digits of a number. -/
def ofNat (n : Nat) : Text := (Nat.toDigits 10 n).map Char.toNat

/-- A number in decimal, after a minus sign if it is negative. -/
def ofInt : Int → Text
  | .ofNat n => ofNat n
  | .negSucc n => '-' :: ofNat (n + 1)

/-- The last digits of a number in lower-case hexadecimal, `width` of them. -/
def hex : (width : Nat) → Nat → Text
  | 0, _ => []
  | width + 1, n => hex width (n / 16) ++ [CodePoint.ofDigit (n % 16)]

/-- The pieces between the occurrences of a separator; there is always at least one. -/
def splitOn (separator : CodePoint) : Text → List Text
  | [] => [[]]
  | c :: rest =>
    if c = separator then [] :: splitOn separator rest
    else match splitOn separator rest with
      | [] => [[c]]
      | piece :: pieces => (c :: piece) :: pieces

/-- The rows of a text: the pieces between its line feeds. -/
def rows (t : Text) : List Text := splitOn '\n' t

/-- Texts one after another with a separator between neighbours. -/
def join (separator : Text) : List Text → Text
  | [] => []
  | [t] => t
  | t :: u :: rest => t ++ separator ++ join separator (u :: rest)

/-- Rows one after another with a line feed between neighbours. -/
def joinRows (rows : List Text) : Text := join ['\n'] rows

/-- The number of line feeds in a text. -/
def lineFeeds (t : Text) : Nat := t.count (10 : CodePoint)

/-- The parts before and after the first occurrence of a pattern. -/
def cut? (pattern : Text) : Text → Option (Text × Text)
  | [] => if pattern = [] then some ([], []) else none
  | c :: rest =>
    if pattern.isPrefixOf (c :: rest) then some ([], (c :: rest).drop pattern.length)
    else (cut? pattern rest).map fun (before, after) => (c :: before, after)

/-- A text without the blanks at its end. -/
def stripEnd : Text → Text
  | [] => []
  | c :: rest =>
    match stripEnd rest with
    | [] => if CodePoint.isSpace c then [] else [c]
    | d :: kept => c :: d :: kept

/-- A text without the blanks at its beginning. -/
def stripStart (t : Text) : Text := t.dropWhile CodePoint.isSpace

/-- A text without the blanks at its ends. -/
def strip (t : Text) : Text := stripStart (stripEnd t)

/-- A text holds nothing but blanks. -/
def isBlank (t : Text) : Bool := t.all CodePoint.isSpace

/-- Line ends of the forms CR LF and CR become line feeds. -/
def unifyLineEnds : Text → Text
  | [] => []
  | 13 :: 10 :: rest => 10 :: unifyLineEnds rest
  | 13 :: rest => 10 :: unifyLineEnds rest
  | c :: rest => c :: unifyLineEnds rest

/-- Every occurrence of a non-empty pattern, from the left, gives way to a replacement. -/
def replace (pattern replacement : Text) (t : Text) : Text :=
  go t.length t
where
  go : Nat → Text → Text
    | 0, t => t
    | fuel + 1, t =>
      match cut? pattern t with
      | some (before, after) =>
        if pattern = [] then t else before ++ replacement ++ go fuel after
      | none => t

theorem splitOn_ne_nil (separator : CodePoint) (t : Text) : splitOn separator t ≠ [] := by
  cases t with
  | nil => simp [splitOn]
  | cons c rest =>
    unfold splitOn
    split
    · simp
    · split <;> simp

/-- Cutting loses the pattern and nothing else. -/
theorem cut?_eq_some {pattern t before after : Text} (h : cut? pattern t = some (before, after)) :
    t = before ++ pattern ++ after := by
  induction t generalizing before with
  | nil =>
    unfold cut? at h
    split at h <;> simp_all
  | cons c rest ih =>
    unfold cut? at h
    split at h
    · rename_i hp
      obtain ⟨u, hu⟩ := List.isPrefixOf_iff_prefix.1 hp
      simp only [Option.some.injEq, Prod.mk.injEq] at h
      obtain ⟨rfl, rfl⟩ := h
      simp [← hu]
    · obtain ⟨⟨b, a⟩, hb, he⟩ := Option.map_eq_some_iff.1 h
      simp only [Prod.mk.injEq] at he
      obtain ⟨rfl, rfl⟩ := he
      simp [ih hb]

/-- What follows a non-empty pattern is shorter than the whole. -/
theorem length_lt_of_cut? {pattern t before after : Text} (hp : pattern ≠ [])
    (h : cut? pattern t = some (before, after)) : after.length < t.length := by
  have := congrArg List.length (cut?_eq_some h)
  have : 0 < pattern.length := List.length_pos_iff.2 hp
  simp only [List.length_append] at *
  omega

end Text

end Stencil
