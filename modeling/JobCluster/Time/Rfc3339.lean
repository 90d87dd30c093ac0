import JobCluster.Time.Instant
import JobCluster.Text.Blank
import JobCluster.Text.Natural

/-!
# Dates and times as text

Instants are written as `2024-01-31T09:30:00.5Z` would be, with 0, 3, 6 or 9 decimals, as many as
needed (`rfc3339`), and for people as a date, a time and the zone with blanks between (`plain`). The
reader (`readInstant`) allows blanks between the parts, a blank in place of the letter between date
and time, signed years of any length, and any offset below a day.
-/

namespace JobCluster.Time

open JobCluster.Text

/-- The range of years that dates have. -/
def yearLimit : Int := 262142

/-- Decimals of a second: none, 3, 6 or 9 digits. -/
def decimals (nanos : Nat) : String :=
  if nanos = 0 then ""
  else if nanos % 1000000 = 0 then "." ++ padded 3 (nanos / 1000000)
  else if nanos % 1000 = 0 then "." ++ padded 6 (nanos / 1000)
  else "." ++ padded 9 nanos

/-- A year: four digits, or a sign and at least four digits outside 0 to 9999. -/
def yearText (y : Int) : String :=
  if 0 ≤ y ∧ y ≤ 9999 then padded 4 y.toNat
  else (if y < 0 then "-" else "+") ++ padded 4 y.natAbs

/-- The date of an instant. -/
def dateText (i : Instant) : String :=
  let (y, m, d) := civilFromDays (i.seconds.fdiv secondsPerDay)
  yearText y ++ "-" ++ padded 2 m ++ "-" ++ padded 2 d

/-- The time of day of an instant. -/
def clockText (i : Instant) : String :=
  let s := (i.seconds.fmod secondsPerDay).toNat
  let leap := if nanosPerSecond ≤ i.nanos then 1 else 0
  padded 2 (s / 3600) ++ ":" ++ padded 2 (s / 60 % 60) ++ ":" ++ padded 2 (s % 60 + leap) ++
    decimals (i.nanos % nanosPerSecond)

/-- An instant as messages carry it. -/
def rfc3339 (i : Instant) : String := dateText i ++ "T" ++ clockText i ++ "Z"

/-- An instant as people read it. -/
def plain (i : Instant) : String := dateText i ++ " " ++ clockText i ++ " UTC"

/-- Takes up to `most` digits, at least one, and gives their value. -/
def takeNumber (most : Nat) (cs : List Char) : Option (Nat × List Char) :=
  let digits := (cs.take most).takeWhile Char.isDigit
  (readDigits digits).map fun n => (n, cs.drop digits.length)

/-- Takes a number with blanks in front of it. -/
def takeField (most : Nat) (cs : List Char) : Option (Nat × List Char) :=
  takeNumber most (trimStart cs)

/-- Takes one given character with blanks in front of it. -/
def takeMark (mark : Char) (cs : List Char) : Option (List Char) :=
  match trimStart cs with
  | c :: rest => if c = mark then some rest else none
  | [] => none

/-- Takes a year: up to four digits, or a sign and any number of digits. -/
def takeYear (cs : List Char) : Option (Int × List Char) :=
  match trimStart cs with
  | '-' :: rest => (takeNumber rest.length rest).map fun (n, r) => (-(n : Int), r)
  | '+' :: rest => (takeNumber rest.length rest).map fun (n, r) => ((n : Int), r)
  | cs => (takeNumber 4 cs).map fun (n, r) => ((n : Int), r)

/-- Takes the decimals of a second if there are any, as nanoseconds; digits after the ninth are
dropped. -/
def takeDecimals : List Char → Option (Nat × List Char)
  | '.' :: cs =>
    let digits := (cs.take 9).takeWhile Char.isDigit
    (readDigits digits).map fun n =>
      (n * Nat.pow 10 (9 - digits.length), (cs.drop digits.length).dropWhile Char.isDigit)
  | cs => some (0, cs)

/-- Takes two digits. -/
def takePair : List Char → Option (Nat × List Char)
  | a :: b :: rest => do
    let x ← digitValue? a
    let y ← digitValue? b
    pure (10 * x + y, rest)
  | _ => none

/-- Takes a zone as seconds east: a letter for universal time, or a signed offset. -/
def takeZone (cs : List Char) : Option (Int × List Char) :=
  if (cs.take 3).map Char.toUpper = ['U', 'T', 'C'] then some (0, cs.drop 3)
  else match cs with
    | 'Z' :: rest => some (0, rest)
    | 'z' :: rest => some (0, rest)
    | sign :: rest => do
      let west ← if sign = '+' then some false
        else if sign = '-' ∨ sign.toNat = 0x2212 then some true
        else none
      let (hours, rest) ← takePair rest
      let (minutes, rest) ← takePair (rest.dropWhile fun c => c == ':' || isBlank c)
      if 59 < minutes then none
      let offset : Int := hours * 3600 + minutes * 60
      pure (if west then -offset else offset, rest)
    | [] => none

/-- Whether a year, month and day are a date. -/
def isDate (y : Int) (m d : Nat) : Bool :=
  (-yearLimit - 1 ≤ y && y ≤ yearLimit) && (1 ≤ m && m ≤ 12) && (1 ≤ d && d ≤ daysInMonth y m)

/-- Reads an instant. A 60th second is a leap second. -/
def readInstant (s : String) : Option Instant := do
  let (year, cs) ← takeYear s.toList
  let cs ← takeMark '-' cs
  let (month, cs) ← takeField 2 cs
  let cs ← takeMark '-' cs
  let (day, cs) ← takeField 2 cs
  let cs ← match cs with
    | c :: rest => if c = 'T' ∨ c = 't' ∨ c = ' ' then some rest else none
    | [] => none
  let (hour, cs) ← takeField 2 cs
  let cs ← takeMark ':' cs
  let (minute, cs) ← takeField 2 cs
  let cs ← takeMark ':' cs
  let (second, cs) ← takeField 2 cs
  let (nanos, cs) ← takeDecimals cs
  let (offset, cs) ← takeZone (trimStart cs)
  if !(trimStart cs).isEmpty then none
  if !isDate year month day || 23 < hour || 59 < minute || 60 < second then none
  if (secondsPerDay : Int) ≤ offset.natAbs then none
  let leap := second = 60
  let clock : Int := hour * 3600 + minute * 60 + (if leap then 59 else second : Nat)
  let seconds := daysFromCivil year month day * secondsPerDay + clock - offset
  let utcYear := (civilFromDays (seconds.fdiv secondsPerDay)).1
  if utcYear < -yearLimit - 1 ∨ yearLimit < utcYear then none
  pure ⟨seconds, nanos + if leap then nanosPerSecond else 0⟩

end JobCluster.Time
