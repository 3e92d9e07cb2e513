import Stencil.Text.Name.Alphabets
import Stencil.Text.Name.Antiquities
import Stencil.Text.Name.Ideographs
import Stencil.Text.Name.Notations
import Stencil.Text.Name.Others
import Stencil.Text.Name.Pictographs
import Stencil.Text.Name.Syllabaries
import Stencil.Text.Name.Symbols
import Stencil.Text.Normal

/-!
# Names of code points

Unicode 14 names every code point that it assigns. Most names are in tables; those of syllables are
spelled with their letters, and those of ideographs end in their number.

A row of a table begins with the number of a code point and holds the names of that one and the
ones after it. A name begins with a small letter for the number of words that it shares with the
name before it, also in the row before, and goes on with its other words.

## Main definitions

* `CodePoint.Name.Search` — the state of a search through rows.
* `CodePoint.Name.Numbered` — names that end in the number of their code point.
* `CodePoint.ofName?` — the code point with a name.
-/

namespace Stencil.CodePoint

namespace Name

/-- An ASCII letter as a capital, every other code point as it is. -/
def capital (c : CodePoint) : CodePoint := if 0x61 ≤ c ∧ c ≤ 0x7A then c - 0x20 else c

/-- A name as its words. -/
abbrev Words := List Text

/-- The words of a text between blanks; an empty text has none. -/
def wordsOf (t : Text) : Words := if t.isEmpty then [] else t.splitOn ' '

/-- A name in a row: how many words it shares with the one before it, and its other words. -/
structure Entry where
  shared : Nat
  words : Words
  deriving Repr, Inhabited

/-- What stands at the beginning of a row, and its names. -/
def entries (row : Text) : Text × List Entry :=
  row.foldr (fun (c : CodePoint) (found : Text × List Entry) =>
    if 'a' ≤ c ∧ c ≤ 'z' then ([], ⟨c - 'a', wordsOf found.1⟩ :: found.2)
    else (c :: found.1, found.2)) ([], [])

/-- The state of a search through rows. -/
structure Search where
  /-- The name before. -/
  previous : Words
  /-- The code point of the next name. -/
  next : CodePoint
  found : Option CodePoint
  deriving Repr, Inhabited

namespace Search

/-- A search before the first row. -/
def start : Search := ⟨[], 0, none⟩

/-- A search goes past a name. -/
def pass (target : Words) (s : Search) (e : Entry) : Search :=
  let words := s.previous.take e.shared ++ e.words
  ⟨words, s.next + 1, if words = target then some s.next else s.found⟩

/-- A search goes past a row. -/
def passRow (target : Words) (s : Search) (row : String) : Search :=
  let (number, names) := entries (Text.ofString row)
  let first := Text.Span.number 16 number
  names.foldl (pass target) { s with next := first }

end Search

/-- The code point that a table gives a name. -/
def inTable? (target : Words) (table : List String) : Option CodePoint :=
  (table.foldl (Search.passRow target) Search.start).found

/-- The tables of names. -/
def tables : List (List String) :=
  [alphabets, syllabaries, symbols, ideographs, antiquities, notations, pictographs, others]

/-- A capital digit of hexadecimal numbers. -/
def isCapitalDigit (c : CodePoint) : Bool := (digit? 16 c).isSome && capital c == c

/-- Names that end in the number of their code point, in four or five capital digits. -/
structure Numbered where
  stem : Text
  ranges : List (CodePoint × CodePoint)
  /-- Five digits may begin with a zero. -/
  padded : Bool

namespace Numbered

/-- The code point with a name of this form. -/
def find? (n : Numbered) (name : Text) : Option CodePoint :=
  let digits := name.drop n.stem.length
  let value := Text.Span.number 16 digits
  if n.stem.isPrefixOf name ∧ (digits.length = 4 ∨ digits.length = 5) ∧
      digits.all isCapitalDigit ∧ (n.padded ∨ digits.head? ≠ some ('0' : CodePoint)) ∧
      n.ranges.any fun (first, last) => first ≤ value && value ≤ last then
    some value
  else none

/-- Ideographs that several scripts of East Asia share. Their names are written in capitals. -/
def unified : Numbered :=
  ⟨"CJK UNIFIED IDEOGRAPH-",
    [(0x3400, 0x4DBF), (0x4E00, 0x9FFF), (0x20000, 0x2A6DF), (0x2A700, 0x2B738),
      (0x2B740, 0x2B81D), (0x2B820, 0x2CEA1), (0x2CEB0, 0x2EBE0), (0x30000, 0x3134A)], true⟩

/-- Other code points with a number in their name. -/
def others : List Numbered :=
  [⟨"CJK COMPATIBILITY IDEOGRAPH-",
      [(0xF900, 0xFA6D), (0xFA70, 0xFAD9), (0x2F800, 0x2FA1D)], false⟩,
    ⟨"KHITAN SMALL SCRIPT CHARACTER-", [(0x18B00, 0x18CD5)], false⟩,
    ⟨"NUSHU CHARACTER-", [(0x1B170, 0x1B2FB)], false⟩]

end Numbered

/-- The index and the length of the longest of some texts that begins another; an empty one begins
every text. -/
def longest? (texts : List String) (t : Text) : Option (Nat × Nat) :=
  (texts.zipIdx.foldl (fun (best : Option (Nat × Nat)) (s, i) =>
    let s := Text.ofString s
    if s.isPrefixOf t ∧ best.all (fun b => b.2 < s.length) then some (i, s.length) else best) none)

/-- The spellings of the initial letters of syllables. -/
def initials : List String :=
  ["G", "GG", "N", "D", "DD", "R", "M", "B", "BB", "S", "SS", "", "J", "JJ", "C", "K", "T", "P",
    "H"]

/-- The spellings of the vowels of syllables. -/
def vowels : List String :=
  ["A", "AE", "YA", "YAE", "EO", "E", "YEO", "YE", "O", "WA", "WAE", "OE", "YO", "U", "WEO", "WE",
    "WI", "YU", "EU", "YI", "I"]

/-- The spellings of the final letters of syllables. -/
def finals : List String :=
  ["", "G", "GG", "GS", "N", "NJ", "NH", "D", "L", "LG", "LM", "LB", "LS", "LT", "LP", "LH", "M",
    "B", "BS", "S", "SS", "NG", "J", "C", "K", "T", "P", "H"]

/-- The syllable that is spelled so. -/
def syllable? (spelling : Text) : Option CodePoint := do
  let (i, n) ← longest? initials spelling
  let (v, m) ← longest? vowels (spelling.drop n)
  let (f, k) ← longest? finals (spelling.drop (n + m))
  if n + m + k = spelling.length then
    some (Text.hangul.first + (i * Text.hangul.vowels + v) * Text.hangul.finals + f)
  else none

/-- What the names of syllables begin with. They are written in capitals. -/
def syllableStem : Text := "HANGUL SYLLABLE "

end Name

/-- The code point with a name. Most names may be written in small letters as well. -/
def ofName? (name : Text) : Option CodePoint :=
  if Name.syllableStem.isPrefixOf name then
    Name.syllable? (name.drop Name.syllableStem.length)
  else if Name.Numbered.unified.stem.isPrefixOf name then Name.Numbered.unified.find? name
  else
    let capitals := name.map Name.capital
    (Name.Numbered.others.findSome? (·.find? capitals)).or
      (Name.tables.findSome? (Name.inTable? (Name.wordsOf capitals)))

end Stencil.CodePoint
