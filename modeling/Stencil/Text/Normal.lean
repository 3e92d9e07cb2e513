import Stencil.Text.NormalTable

/-!
# Normal forms of texts

Texts that mean the same may be spelled differently: a letter with a mark is one code point or two,
and letters have wide, small and styled forms. The normal form takes everything apart, also what is
only similar, puts marks into their order and then puts together what can be.

## Main definitions

* `Text.decompose` — a text taken apart.
* `Text.arrange` — the marks after a letter in their order.
* `Text.compose` — letters and marks put together.
* `Text.normal` — the normal form of a text.
-/

namespace Stencil.Text

/-- What code points are made of. -/
def decompositions : Array Span := Span.ofTable 16 decompositionTable

/-- The classes of marks. -/
def orders : Array Span := Span.ofTable 10 orderTable

/-- The code points that are put together out of two others. -/
def composites : Array Span := decompositions.filter (·.sign == '=')

/-- The class of a mark, which is zero for everything else. -/
def orderOf (c : CodePoint) : Nat :=
  match Span.find? orders c with
  | some s => s.values.headD 0
  | none => 0

/-- Syllables that are spelled with an initial, a vowel and perhaps a final letter: the first of
them, and the letters before the first of each kind. -/
structure Syllables where
  first : CodePoint
  initial : CodePoint
  vowel : CodePoint
  final : CodePoint
  initials : Nat
  vowels : Nat
  finals : Nat

/-- The syllables of Hangul. Their final letters are counted with the missing one. -/
def hangul : Syllables := ⟨0xAC00, 0x1100, 0x1161, 0x11A7, 19, 21, 28⟩

namespace Syllables

/-- The number of syllables. -/
def count (s : Syllables) : Nat := s.initials * s.vowels * s.finals

/-- The letters of a syllable. -/
def letters? (s : Syllables) (c : CodePoint) : Option Text :=
  let i := c - s.first
  if s.first ≤ c ∧ i < s.count then
    let final := i % s.finals
    some ([s.initial + i / (s.vowels * s.finals), s.vowel + i / s.finals % s.vowels] ++
      if final = 0 then [] else [s.final + final])
  else none

/-- The syllable of an initial letter and a vowel, or of a syllable without a final letter and such
a letter. -/
def join? (s : Syllables) (a b : CodePoint) : Option CodePoint :=
  if s.initial ≤ a ∧ a < s.initial + s.initials ∧ s.vowel ≤ b ∧ b < s.vowel + s.vowels then
    some (s.first + ((a - s.initial) * s.vowels + (b - s.vowel)) * s.finals)
  else if s.first ≤ a ∧ a < s.first + s.count ∧ (a - s.first) % s.finals = 0 ∧ s.final < b ∧
      b < s.final + s.finals then
    some (a + (b - s.final))
  else none

end Syllables

/-- How often what code points are made of is taken apart again. -/
def maxDecompositions : Nat := 8

/-- A code point taken apart. -/
def decomposeOne : (depth : Nat) → CodePoint → Text
  | 0, c => [c]
  | depth + 1, c =>
    if c < 0x80 then [c]
    else
      match hangul.letters? c, Span.find? decompositions c with
      | some letters, _ => letters
      | none, some s =>
        match s.values with
        | [v] => decomposeOne depth (v + (c - s.first))
        | vs => vs.flatMap (decomposeOne depth)
      | none, none => [c]

/-- A text taken apart. -/
def decompose (t : Text) : Text := t.flatMap (decomposeOne maxDecompositions)

/-- A mark put before those at the beginning of a text that come after it by their class. -/
def insertMark (c : CodePoint) : Text → Text
  | [] => [c]
  | d :: rest =>
    if 0 < orderOf d ∧ orderOf d < orderOf c then d :: insertMark c rest else c :: d :: rest

/-- A text whose marks are in their order; marks of one class keep theirs. -/
def arrange : Text → Text
  | [] => []
  | c :: rest => if 0 < orderOf c then insertMark c (arrange rest) else c :: arrange rest

/-- The code point that two others make up. -/
def composite? (a b : CodePoint) : Option CodePoint :=
  (hangul.join? a b).or ((composites.find? fun s => s.values == [a, b]).map (·.first))

/-- A code point and the rest of a text put together; after it come marks that are not put together
with it, the last of them first. A mark of the class of one before it, or of a lower one, is not
put together with what stands before that. -/
def composeAfter (c : CodePoint) (marks : Text) : Text → Text
  | [] => c :: marks.reverse
  | d :: rest =>
    let blocked := match marks with
      | [] => false
      | m :: _ => orderOf d ≤ orderOf m
    match if blocked then none else composite? c d with
    | some e => composeAfter e marks rest
    | none =>
      if orderOf d = 0 then c :: marks.reverse ++ composeAfter d [] rest
      else composeAfter c (d :: marks) rest

/-- A text put together. -/
def compose : Text → Text
  | [] => []
  | c :: rest => if 0 < orderOf c then c :: compose rest else composeAfter c [] rest

/-- The normal form of a text. -/
def normal (t : Text) : Text :=
  if t.all (· < 0x80) then t else compose (arrange (decompose t))

end Stencil.Text
