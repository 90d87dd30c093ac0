import JobCluster.Number.Binary

/-!
# The shortest decimal of a binary number

A number of a binary format stands for the interval of reals that round to it. `Shortest.decimal`
gives the decimal `digits · 10 ^ exponent` with the fewest digits in that interval; of two with as
few digits the nearer one, and of two equally near ones the even one. The search goes from coarse
decimal grids to fine ones and tests the number's two neighbours on each, in exact integers.
-/

namespace JobCluster.Number.Shortest

/-- The reals that round to one positive number, all in one unit: the number itself and the two
ends, each a numerator over `unit`. The ends belong to it if `closed`. -/
structure Interval where
  low : Nat
  value : Nat
  high : Nat
  unit : Nat
  closed : Bool

/-- The interval of `significand · 2 ^ exponent`. Below a power of two the spacing halves, so the
lower end is nearer there. -/
def intervalOf (f : Format) (significand : Nat) (exponent : Int) : Interval :=
  let e := exponent - 2
  let up := Nat.pow 2 e.toNat
  let narrow := significand = Nat.pow 2 (f.precision - 1) ∧ f.minExponent < exponent
  { low := (4 * significand - if narrow then 1 else 2) * up
    value := 4 * significand * up
    high := (4 * significand + 2) * up
    unit := Nat.pow 2 (-e).toNat
    closed := significand % 2 = 0 }

/-- The interval counted in steps of a decimal grid: numerators over the returned denominator. -/
def Interval.onGrid (i : Interval) (k : Int) : Interval :=
  let up := Nat.pow 10 (-k).toNat
  { low := i.low * up, value := i.value * up, high := i.high * up,
    unit := i.unit * Nat.pow 10 k.toNat, closed := i.closed }

/-- Whether a grid point lies in the interval. -/
def Interval.holds (i : Interval) (point : Nat) : Bool :=
  let p := point * i.unit
  0 < point && (if i.closed then i.low ≤ p && p ≤ i.high else i.low < p && p < i.high)

/-- The point of the grid to take, if one of the value's two neighbours lies in the interval. -/
def Interval.pick? (i : Interval) : Option Nat :=
  let below := i.value / i.unit
  match i.holds below, i.holds (below + 1) with
  | true, true => some (roundDiv i.value i.unit)
  | true, false => some below
  | false, true => some (below + 1)
  | false, false => none

/-- Tries ever finer grids, starting at steps of `10 ^ k`. -/
def search (i : Interval) : Nat → Int → Nat × Int
  | 0, k => ((i.onGrid k).value / (i.onGrid k).unit, k)
  | fuel + 1, k =>
    match (i.onGrid k).pick? with
    | some point => (point, k)
    | none => search i fuel (k - 1)

/-- A power of ten above the number: the exponent where the search starts. -/
def startOf (f : Format) (i : Interval) : Int :=
  let shift := (-f.minExponent).toNat
  ((Nat.toDigits 10 (i.value * Nat.pow 10 shift / i.unit)).length : Int) - shift

/-- The shortest decimal of a positive number, as digits and a power of ten. -/
def decimal (f : Format) (significand : Nat) (exponent : Int) : Nat × Int :=
  let i := intervalOf f significand exponent
  search i (f.precision + 3) (startOf f i)

end JobCluster.Number.Shortest
