import Stencil.Text.Basic

/-!
# UTF-8

The octets of a text and the text of a sequence of octets. Reading is strict: overlong forms,
surrogates, values beyond U+10FFFF and truncated sequences are refused. Octets are natural
numbers; reading refuses every one above 0xFF.

## Main definitions

* `Text.encode?`, `Text.unencodable?` — the octets of a text, or why it has none.
* `Text.decode?`, `Text.undecodable` — the text of octets, or why they have none.
* `Text.ofOctets` — the text of octets that need not be well-formed.
-/

namespace Stencil

/-- A sequence of octets. -/
abbrev Octets := List Nat

namespace CodePoint

/-- The octets of one code point. -/
def encode (c : CodePoint) : Octets :=
  if c < 0x80 then [c]
  else if c < 0x800 then [0xC0 + c / 0x40, 0x80 + c % 0x40]
  else if c < 0x10000 then [0xE0 + c / 0x1000, 0x80 + c / 0x40 % 0x40, 0x80 + c % 0x40]
  else [0xF0 + c / 0x40000, 0x80 + c / 0x1000 % 0x40, 0x80 + c / 0x40 % 0x40, 0x80 + c % 0x40]

/-- The number of octets of a code point. -/
def octetCount (c : CodePoint) : Nat :=
  if c < 0x80 then 1 else if c < 0x800 then 2 else if c < 0x10000 then 3 else 4

end CodePoint

namespace Text

/-- The first run of surrogates in a text that has no octets, from its first surrogate on that is
not excused, and where it is. -/
def surrogates? (excused : CodePoint → Bool) (index : Nat) : Text → Option (Nat × Text)
  | [] => none
  | c :: rest =>
    if CodePoint.isSurrogate c && !excused c then
      some (index, (c :: rest).takeWhile CodePoint.isSurrogate)
    else surrogates? excused (index + 1) rest

/-- What is said about a run of surrogates. -/
def surrogatesMessage (index : Nat) (run : Text) : Text :=
  let place : Text := match run with
    | [c] => " '\\u" ++ hex 4 c ++ "' in position " ++ ofNat index
    | _ => "s in position " ++ ofNat index ++ "-" ++ ofNat (index + run.length - 1)
  "'utf-8' codec can't encode character" ++ place ++ ": surrogates not allowed"

/-- Why a text has no octets, in words. -/
def unencodable? (t : Text) : Option Text :=
  (surrogates? (fun _ => false) 0 t).map fun (index, run) => surrogatesMessage index run

/-- The octets of a text; lone surrogates have none. -/
def encode? (t : Text) : Option Octets :=
  if t.any CodePoint.isSurrogate then none else some (t.flatMap CodePoint.encode)

/-- The number of octets of a text. -/
def octetCount (t : Text) : Nat := t.foldr (fun c n => CodePoint.octetCount c + n) 0

/-- An octet that continues a sequence. -/
def isTail (b : Nat) : Bool := 0x80 ≤ b && b ≤ 0xBF

/-- The text of well-formed octets. -/
def decode? : Octets → Option Text
  | [] => some []
  | a :: rest =>
    if a < 0x80 then (decode? rest).map (a :: ·)
    else if a < 0xC2 then none
    else if a < 0xE0 then
      match rest with
      | b :: rest =>
        let point := (a - 0xC0) * 0x40 + (b - 0x80)
        if isTail b then (decode? rest).map (point :: ·) else none
      | _ => none
    else if a < 0xF0 then
      match rest with
      | b :: c :: rest =>
        let point := (a - 0xE0) * 0x1000 + (b - 0x80) * 0x40 + (c - 0x80)
        if isTail b && isTail c && 0x800 ≤ point && !CodePoint.isSurrogate point then
          (decode? rest).map (point :: ·)
        else none
      | _ => none
    else if a < 0xF5 then
      match rest with
      | b :: c :: d :: rest =>
        let point := (a - 0xF0) * 0x40000 + (b - 0x80) * 0x1000 + (c - 0x80) * 0x40 + (d - 0x80)
        if isTail b && isTail c && isTail d && 0x10000 ≤ point && point < 0x110000 then
          (decode? rest).map (point :: ·)
        else none
      | _ => none
    else none

/-- How many octets a sequence is announced to have by its first one. -/
def announced? (a : Nat) : Option Nat :=
  if a < 0x80 then some 1
  else if a < 0xC2 then none
  else if a < 0xE0 then some 2
  else if a < 0xF0 then some 3
  else if a < 0xF5 then some 4
  else none

/-- A number beyond Unicode that stands in a text for an octet which belongs to no code point. -/
def stray (b : Nat) : CodePoint := 0x110000 + b

/-- The text of octets, less the first `skip` of them, with the octets of which it has no code point
standing for themselves. -/
def ofOctetsFrom : (skip : Nat) → Octets → Text
  | _, [] => []
  | skip + 1, _ :: rest => ofOctetsFrom skip rest
  | 0, a :: rest =>
    let count := (announced? a).getD 1
    match decode? ((a :: rest).take count) with
    | some [c] => c :: ofOctetsFrom (count - 1) rest
    | _ => stray a :: ofOctetsFrom 0 rest

/-- The text of octets that need not be well-formed. -/
def ofOctets (octets : Octets) : Text := ofOctetsFrom 0 octets

/-- A text holds nothing but code points. -/
def isWhole (t : Text) : Bool := t.all (· < 0x110000)

/-- An octet may be the second of a sequence that begins with `a`. -/
def maySecond (a b : Nat) : Bool :=
  let least := if a = 0xE0 then 0xA0 else if a = 0xF0 then 0x90 else 0x80
  let most := if a = 0xED then 0x9F else if a = 0xF4 then 0x8F else 0xBF
  least ≤ b && b ≤ most

/-- The octets at the front that belong to the sequence which the first one announces. -/
def sequencePart : Octets → Octets
  | a :: b :: rest =>
    if maySecond a b then a :: b :: (rest.take ((announced? a).getD 1 - 2)).takeWhile isTail
    else [a]
  | octets => octets

/-- What is said about ill-formed octets; `index` is the number of octets before them. -/
def undecodable (index : Nat) : (fuel : Nat) → Octets → Text
  | 0, _ => []
  | _, [] => []
  | fuel + 1, a :: rest =>
    let part := sequencePart (a :: rest)
    let refused (count : Nat) (reason : Text) : Text :=
      let place : Text :=
        if count = 1 then " 0x" ++ hex 2 a ++ " in position " ++ ofNat index
        else "s in position " ++ ofNat index ++ "-" ++ ofNat (index + count - 1)
      "'utf-8' codec can't decode byte" ++ place ++ ": " ++ reason
    match announced? a with
    | none => refused 1 "invalid start byte"
    | some 1 => undecodable (index + 1) fuel rest
    | some n =>
      if part.length = n then undecodable (index + n) fuel ((a :: rest).drop n)
      else if part.length = rest.length + 1 then refused part.length "unexpected end of data"
      else refused part.length "invalid continuation byte"

end Text

end Stencil
