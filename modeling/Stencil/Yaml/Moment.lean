import Stencil.Yaml.Cursor

/-!
# Points in time

A scalar may spell a day, or a time of a day with fractions of a second and the distance of a time
zone.

## Main definitions

* `Yaml.Moment` — a day with or without a time.
* `Yaml.Moment.ofText?` — the moment that a text spells.
* `Yaml.Moment.fault?` — why there is no such moment.
* `Yaml.Moment.text`, `Yaml.Moment.quoted` — a moment in writing.
-/

namespace Stencil.Yaml

/-- A time of a day. -/
structure Clock where
  hour : Nat
  minute : Nat
  second : Nat
  microsecond : Nat
  /-- Minutes by which the time zone is ahead. -/
  zone : Option Int
  deriving DecidableEq, Repr

/-- A day with or without a time. -/
structure Moment where
  year : Nat
  month : Nat
  day : Nat
  clock : Option Clock
  deriving DecidableEq, Repr

/-- The value of decimal digits. -/
def decimalValue (digits : Text) : Nat :=
  digits.foldl (fun v c => 10 * v + (CodePoint.digit? 10 c).getD 0) 0

/-- A number of at least `least` and at most `most` digits, and what follows it. -/
def numberThen (least most : Nat) (t : Text) : Option (Nat × Text) :=
  let digits := (t.take most).takeWhile CodePoint.isDigit
  if least ≤ digits.length then some (decimalValue digits, t.drop digits.length) else none

/-- What follows a code point. -/
def after (c : CodePoint) (t : Text) : Option Text :=
  match t with
  | a :: rest => if a = c then some rest else none
  | [] => none

/-- A text without the spaces and tabs in front. -/
def unspaced (t : Text) : Text := t.dropWhile fun (c : CodePoint) => c = ' ' ∨ c = '\t'

namespace Clock

/-- The distance of a time zone, if there is one; nothing may follow it. -/
def zone? (t : Text) : Option (Option Int) :=
  match unspaced t with
  | [] => if t.isEmpty then some none else none
  | c :: rest =>
    if c = 'Z' then if rest.isEmpty then some (some 0) else none
    else if c = '-' ∨ c = '+' then do
      let (hours, rest) ← numberThen 1 2 rest
      let minutes ←
        if rest.isEmpty then some 0
        else do
          let (minutes, rest) ← numberThen 2 2 (← after ':' rest)
          if rest.isEmpty then some minutes else none
      let distance : Int := 60 * hours + minutes
      return some (if c = '-' then -distance else distance)
    else none

/-- The time that a text spells. -/
def ofText? (t : Text) : Option Clock := do
  let (hour, t) ← numberThen 1 2 t
  let (minute, t) ← numberThen 2 2 (← after ':' t)
  let (second, t) ← numberThen 2 2 (← after ':' t)
  let (fraction, t) := match after '.' t with
    | some t =>
      let digits := t.takeWhile CodePoint.isDigit
      (digits, t.drop digits.length)
    | none => (([] : Text), t)
  let microsecond := decimalValue ((fraction ++ List.replicate 6 ('0' : CodePoint)).take 6)
  return ⟨hour, minute, second, microsecond, ← zone? t⟩

end Clock

/-- Digits of a number, as many as `width` at least. -/
def padded (width n : Nat) : Text :=
  let digits := Text.ofNat n
  List.replicate (width - digits.length) ('0' : CodePoint) ++ digits

namespace Moment

/-- The moment that a text spells. -/
def ofText? (t : Text) : Option Moment := do
  let (year, t) ← numberThen 4 4 t
  let (month, t) ← numberThen 1 2 (← after '-' t)
  let (day, t) ← numberThen 1 2 (← after '-' t)
  match t with
  | [] => return ⟨year, month, day, none⟩
  | c :: rest =>
    let rest ←
      if c = 'T' ∨ c = 't' then some rest
      else if c = ' ' ∨ c = '\t' then some (unspaced rest)
      else none
    return ⟨year, month, day, some (← Clock.ofText? rest)⟩

/-- A plain scalar is taken for a moment: a day alone has to be written with all its digits. -/
def isSpelling (t : Text) : Bool :=
  (ofText? t).any fun m => m.clock.isSome || t.length == 10

/-- A year has a leap day. -/
def isLeap (year : Nat) : Bool := year % 4 == 0 && (year % 100 != 0 || year % 400 == 0)

/-- The number of days of a month. -/
def daysIn (year month : Nat) : Nat :=
  if month = 2 then if isLeap year then 29 else 28
  else if month ∈ [4, 6, 9, 11] then 30
  else 31

/-- Why there is no such moment. -/
def fault? (m : Moment) : Option Text :=
  if m.year = 0 then some "year 0 is out of range"
  else if m.month = 0 ∨ 12 < m.month then some "month must be in 1..12"
  else if m.day = 0 ∨ daysIn m.year m.month < m.day then some "day is out of range for month"
  else
    match m.clock with
    | none => none
    | some c =>
      if 23 < c.hour then some "hour must be in 0..23"
      else if 59 < c.minute then some "minute must be in 0..59"
      else if 59 < c.second then some "second must be in 0..59"
      else none

/-- The type of a moment as a value. -/
def typeName (m : Moment) : Text := if m.clock.isSome then "datetime" else "date"

/-- A moment in writing. -/
def text (m : Moment) : Text :=
  let date := padded 4 m.year ++ "-" ++ padded 2 m.month ++ "-" ++ padded 2 m.day
  match m.clock with
  | none => date
  | some c =>
    let fraction : Text := if c.microsecond = 0 then [] else "." ++ padded 6 c.microsecond
    let zone : Text := match c.zone with
      | none => []
      | some z =>
        (if z < 0 then ("-" : Text) else "+") ++ padded 2 (z.natAbs / 60) ++ ":" ++
          padded 2 (z.natAbs % 60)
    date ++ " " ++ padded 2 c.hour ++ ":" ++ padded 2 c.minute ++ ":" ++ padded 2 c.second ++
      fraction ++ zone

/-- The distance of a time zone as a value is shown. -/
def quotedZone (z : Int) : Text :=
  if z = 0 then "datetime.timezone.utc"
  else
    let seconds := Text.ofInt (60 * (z % 1440))
    let days : Text :=
      if z / 1440 = 0 then [] else "days=" ++ Text.ofInt (z / 1440) ++ ", "
    "datetime.timezone(datetime.timedelta(" ++ days ++ "seconds=" ++ seconds ++ "))"

/-- How a moment is shown as a value. -/
def quoted (m : Moment) : Text :=
  let clock : List Nat := match m.clock with
    | none => []
    | some c =>
      [c.hour, c.minute] ++
        if c.microsecond ≠ 0 then [c.second, c.microsecond]
        else if c.second ≠ 0 then [c.second]
        else []
  let zone : Text := match m.clock.bind (·.zone) with
    | none => []
    | some z => ", tzinfo=" ++ quotedZone z
  "datetime." ++ m.typeName ++ "(" ++
    Text.join ", " (([m.year, m.month, m.day] ++ clock).map Text.ofNat) ++ zone ++ ")"

end Moment

end Stencil.Yaml
