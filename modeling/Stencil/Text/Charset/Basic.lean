import Stencil.Text.Charset.China
import Stencil.Text.Charset.Japan
import Stencil.Text.Charset.Korea
import Stencil.Text.Charset.Standard
import Stencil.Text.Charset.System
import Stencil.Text.Charset.Wide

/-!
# Charsets

A charset says which text octets stand for. It is called by its name or by one of its other names,
in which capitals and small letters are the same, and so are all marks between the parts.

## Main definitions

* `Charset` — a charset.
* `Charset.ofName?` — the charset with a name.
* `Charset.decode?` — the text of octets in a charset.
-/

namespace Stencil

/-- A charset. -/
inductive Charset where
  | single (s : Charset.Single)
  | gridded (g : Charset.Gridded)
  | utf8
  /-- Units of two octets. -/
  | utf16 (lowFirst : Bool)
  /-- Runs of units in ASCII. -/
  | utf7

namespace Charset

/-- The text of octets in a charset. -/
def decode? : Charset → Octets → Option Text
  | .single s, octets => s.decode? octets
  | .gridded g, octets => g.decode? octets
  | .utf8, octets => Text.decode? octets
  | .utf16 lowFirst, octets => decodePairs? lowFirst octets
  | .utf7, octets => decodeShifted? none octets

/-- A charset with its name and its other names. -/
structure Entry where
  id : Text
  others : List Text
  charset : Charset

/-- The charsets of Unicode. -/
def universal : List Entry :=
  [⟨"utf_8",
      ["u8", "utf", "utf8", "utf8_ucs2", "utf8_ucs4", "cp65001"].map Text.ofString, .utf8⟩,
    ⟨"utf_16", ["u16", "utf16"].map Text.ofString, .utf16 true⟩,
    ⟨"utf_16_le", ["unicodelittleunmarked", "utf_16le"].map Text.ofString, .utf16 true⟩,
    ⟨"utf_16_be", ["unicodebigunmarked", "utf_16be"].map Text.ofString, .utf16 false⟩,
    ⟨"utf_7", ["u7", "utf7", "unicode_1_1_utf_7"].map Text.ofString, .utf7⟩]

/-- Charsets that shift between grids, or whose grids are not read: what they share with ASCII. -/
def shifting : List Single :=
  let ascii := ["0-7F=0"]
  let escaping := ["0-1A=0 1C-7F=1C"]
  let yen := ["0-5B=0 5C=A5 5D-7D=5D 7E=203E 7F=7F"]
  [⟨"big5hkscs", ["big5_hkscs", "hkscs"], ascii⟩,
    ⟨"euc_jis_2004", ["jisx0213", "eucjis2004", "euc_jis2004"], ascii⟩,
    ⟨"euc_jisx0213", ["eucjisx0213"], ascii⟩,
    ⟨"shift_jis_2004", ["shiftjis2004", "sjis_2004", "s_jis_2004"], yen⟩,
    ⟨"shift_jisx0213", ["shiftjisx0213", "sjisx0213", "s_jisx0213"], yen⟩,
    ⟨"iso2022_jp", ["csiso2022jp", "iso2022jp", "iso_2022_jp"], escaping⟩,
    ⟨"iso2022_jp_1", ["iso2022jp_1", "iso_2022_jp_1"], escaping⟩,
    ⟨"iso2022_jp_2", ["iso2022jp_2", "iso_2022_jp_2"], escaping⟩,
    ⟨"iso2022_jp_2004", ["iso_2022_jp_2004", "iso2022jp_2004"], escaping⟩,
    ⟨"iso2022_jp_3", ["iso2022jp_3", "iso_2022_jp_3"], escaping⟩,
    ⟨"iso2022_jp_ext", ["iso2022jp_ext", "iso_2022_jp_ext"], escaping⟩,
    ⟨"iso2022_kr", ["csiso2022kr", "iso2022kr", "iso_2022_kr"], escaping⟩,
    ⟨"johab", ["cp1361", "ms1361"], ascii⟩,
    ⟨"hz", ["hzgb", "hz_gb", "hz_gb_2312"], ["0-7D=0 7F=7F"]⟩,
    ⟨"idna", [], ascii⟩]

/-- All charsets. -/
def all : List Entry :=
  universal ++
    (international ++ national ++ codePages ++ desktop ++ mainframe ++ shifting).map
      (fun s => ⟨Text.ofString s.id, s.others.map Text.ofString, .single s⟩) ++
    (japanese ++ chinese ++ korean).map
      fun g => ⟨Text.ofString g.id, g.others.map Text.ofString, .gridded g⟩

/-- What stands between the parts of a name. -/
def hyphen : CodePoint := '_'

/-- A name in small letters, with one underscore between its parts. -/
def usualName (name : Text) : Text :=
  let usual (c : CodePoint) : CodePoint :=
    if 'A' ≤ c ∧ c ≤ 'Z' then c + 0x20
    else if ('a' ≤ c ∧ c ≤ 'z') ∨ ('0' ≤ c ∧ c ≤ '9') ∨ c = '.' then c
    else hyphen
  Text.join [hyphen] ((Text.splitOn hyphen (name.map usual)).filter (! ·.isEmpty))

/-- The charset with a name. Points in its other names may be underscores. -/
def ofName? (name : Text) : Option Charset :=
  let name := usualName name
  let plain : Text := name.map fun (c : CodePoint) => if c = '.' then hyphen else c
  (all.find? fun e => e.others.contains name || e.others.contains plain || e.id == name).map
    (·.charset)

end Charset

end Stencil
