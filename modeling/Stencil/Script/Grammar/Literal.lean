import Stencil.Script.Grammar.Reading
import Stencil.Script.Parse.Field

/-!
# Where strings are wrong

Strings one after another denote one text, or octets, but not both. An escape may be malformed, and
in a string whose braces hold expressions these have to be closed and to be expressions.

## Main definitions

* `Literal.flaw?` — what is wrong with strings one after another.
-/

namespace Stencil.Script.Grammar.Literal

/-- The row of what is wrong with the text of an expression, counted from its beginning. -/
abbrev Judge := Text → Option Nat

/-- How deep fields may stand inside the formats of other fields. -/
def maxLevel : Nat := 2

/-- A string whose braces hold expressions. -/
structure Joined where
  judge : Judge
  token : StringToken
  /-- The row at which it ends. -/
  endRow : Nat

namespace Joined

/-- The row at which what is left of the string begins. -/
def rowOf (j : Joined) (rest : Text) : Nat := j.endRow - Text.lineFeeds rest

/-- What is left after a conversion, if there is one. -/
def conversion (t : Text) : Except Flaw Text :=
  match t with
  | c :: rest =>
    if c = '!' then
      match rest with
      | d :: after => if d = 's' ∨ d = 'r' ∨ d = 'a' then .ok after else .error .here
      | [] => .error .here
    else .ok t
  | [] => .ok t

/-- What is left after an equals sign and blanks, if there is one. -/
def label (t : Text) : Text :=
  match t with
  | c :: rest =>
    if c = '=' then rest.dropWhile fun (d : CodePoint) => d == ' ' || (9 ≤ d && d ≤ 13) else t
  | [] => t

/-- What is left after the expression at the beginning, if there is nothing wrong with it. -/
def expression (j : Joined) (t : Text) : Except Flaw Text := do
  match Field.sourceLength? 0 [] none t with
  | none => .error .here
  | some n =>
    let source := t.take n
    if source.all fun (c : CodePoint) => c == ' ' || c == '\t' || c == '\n' || c == '\x0c' then
      .error .here
    else
      match j.judge ("(" ++ source ++ ")") with
      | some row => .error (.row (j.rowOf t + row - 1))
      | none => conversion (label (t.drop n))

/-- What is left of the body of the string, or of a format, after what belongs to it. -/
def body (j : Joined) (level : Nat) : (fuel : Nat) → Text → Except Flaw Text
  | 0, t => .ok t
  | fuel + 1, t => do
    let written (n : Nat) : Except Flaw Unit :=
      if (j.token.read? (t.take n)).isSome then .ok () else .error .here
    match Field.textEnd j.token.isRaw (level = 0) .plain 0 t with
    | .unpaired => .error .here
    | .doubled n => do
      written n
      j.body level fuel (t.drop (n + 1))
    | .plain n => do
      written n
      match t.drop n with
      | [] => if level = 0 then return [] else .error .here
      | c :: rest =>
        if c = '\x7d' then return c :: rest
        else if maxLevel ≤ level then .error .here
        else
          let after ← j.expression rest
          let closing ← match after with
            | [] => .error .here
            | d :: format =>
              if d ≠ ':' then pure after
              else if format.isEmpty then .error .here
              else j.body (level + 1) fuel format
          match closing with
          | [] => .error .here
          | d :: following => if d = '\x7d' then j.body level fuel following else .error .here

end Joined

/-- The escapes of a string of octets are well-formed. -/
def octetsDecode (t : Text) : Bool :=
  go 0 t
where
  go : (skip : Nat) → Text → Bool
    | _, [] => true
    | skip + 1, _ :: rest => go skip rest
    | 0, c :: rest =>
      if c ≠ '\\' then go 0 rest
      else match rest with
        | d :: after => if d = 'x' ∧ (hexEscape? 2 after).isNone then false else go 1 rest
        | [] => true

/-- What is wrong with one string. -/
def tokenFlaw? (judge : Judge) (t : Terminal) (s : StringToken) : Option Flaw :=
  if s.isOctets then
    if s.body.any fun (c : CodePoint) => 0x80 ≤ c then some (.row t.span.row)
    else if s.isRaw ∨ octetsDecode s.body then none
    else some .here
  else if s.isJoined then
    let j : Joined := ⟨judge, s, t.span.row + Text.lineFeeds s.body⟩
    match j.body 0 (s.body.length + 1) s.body with
    | .error e => some e
    | .ok [] => none
    | .ok _ => some .here
  else if s.value?.isSome then none
  else some .here

/-- What is wrong with strings one after another. -/
def flaw? (judge : Judge) (ts : List Terminal) : Option Flaw :=
  go none ts
where
  /-- With strings after others, of which the flag tells whether they are octets. -/
  go : Option Bool → List Terminal → Option Flaw
    | _, [] => none
    | before, t :: rest =>
      match StringToken.ofText? t.text with
      | none => some .here
      | some s =>
        let mixed := before = some (!s.isOctets)
        if s.isJoined ∧ mixed then some .here
        else (tokenFlaw? judge t s).or
          (if mixed then some .here else go (some s.isOctets) rest)

end Stencil.Script.Grammar.Literal
