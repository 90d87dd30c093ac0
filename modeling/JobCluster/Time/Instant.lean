/-!
# Instants

A moment in universal time (`Instant`): seconds since the start of 1970 and nanoseconds in the
second. A second may hold twice its nanoseconds, which is how a leap second is counted. An operation
that reads the clock more than once has its `Readings`. Calendar dates follow the Gregorian rule in
both directions (`daysFromCivil`, `civilFromDays`).
-/

namespace JobCluster.Time

/-- A moment in universal time. In a leap second the nanoseconds run from one billion to two. -/
structure Instant where
  seconds : Int
  nanos : Nat
deriving DecidableEq, Repr, Inhabited

/-- Nanoseconds of a second. -/
def nanosPerSecond : Nat := 1000000000

/-- Nanoseconds of a millisecond. -/
def nanosPerMilli : Nat := 1000000

/-- Seconds of a day. -/
def secondsPerDay : Nat := 86400

/-- A length of time in nanoseconds. -/
structure Duration where
  nanos : Nat
deriving DecidableEq, Repr

/-- A number of seconds. -/
def Duration.ofSeconds (n : Nat) : Duration := ⟨n * nanosPerSecond⟩

namespace Instant

/-- A whole second. -/
def ofSeconds (n : Int) : Instant := ⟨n, 0⟩

/-- The nanoseconds since the start of 1970. -/
def total (i : Instant) : Int := i.seconds * nanosPerSecond + i.nanos

/-- The time from an earlier instant to this one, unless this one is earlier. -/
def since? (i earlier : Instant) : Option Duration :=
  if earlier.total ≤ i.total then some ⟨(i.total - earlier.total).toNat⟩ else none

/-- Whole milliseconds from an earlier instant to this one, 0 if this one is earlier. -/
def millisSince (i earlier : Instant) : Nat :=
  ((i.total - earlier.total) / nanosPerMilli).toNat

end Instant

/-- The readings of the clock in an operation that may read it twice, in the order in which they are
taken. Nothing is said about them: the clock may be set back in between. -/
structure Readings where
  first : Instant
  second : Instant
deriving DecidableEq, Repr

/-- A clock that stands still. -/
def Readings.still (now : Instant) : Readings := ⟨now, now⟩

/-- A clock that stands still at a whole second. -/
def Readings.ofSeconds (n : Int) : Readings := .still (.ofSeconds n)

/-- Whether a year has a 29 February. -/
def isLeapYear (y : Int) : Bool := y % 4 == 0 && (y % 100 != 0 || y % 400 == 0)

/-- The days of a month. -/
def daysInMonth (y : Int) (m : Nat) : Nat :=
  if m = 2 then (if isLeapYear y then 29 else 28)
  else if m = 4 ∨ m = 6 ∨ m = 9 ∨ m = 11 then 30
  else 31

/-- The day number of a date, 0 for the first day of 1970. Years are counted from March, so that the
leap day comes last. -/
def daysFromCivil (year : Int) (month day : Nat) : Int :=
  let y := if month ≤ 2 then year - 1 else year
  let era := y.fdiv 400
  let yearOfEra := y - era * 400
  let monthFromMarch : Nat := (month + 9) % 12
  let dayOfYear : Int := (153 * monthFromMarch + 2) / 5 + day - 1
  let dayOfEra := yearOfEra * 365 + yearOfEra / 4 - yearOfEra / 100 + dayOfYear
  era * 146097 + dayOfEra - 719468

/-- The year, month and day of a day number. -/
def civilFromDays (days : Int) : Int × Nat × Nat :=
  let z := days + 719468
  let era := z.fdiv 146097
  let dayOfEra := (z - era * 146097).toNat
  let yearOfEra :=
    (dayOfEra - dayOfEra / 1460 + dayOfEra / 36524 - dayOfEra / 146096) / 365
  let dayOfYear := dayOfEra - (365 * yearOfEra + yearOfEra / 4 - yearOfEra / 100)
  let monthFromMarch := (5 * dayOfYear + 2) / 153
  let day := dayOfYear - (153 * monthFromMarch + 2) / 5 + 1
  let month := if monthFromMarch < 10 then monthFromMarch + 3 else monthFromMarch - 9
  let year : Int := yearOfEra + era * 400
  (if month ≤ 2 then year + 1 else year, month, day)

end JobCluster.Time
