/-!
# Binary floating point

Numbers of a binary format with a bounded significand (`Binary f`), as exact integers: a finite
number is `± significand · 2 ^ exponent`. Every operation is exact arithmetic on ratios of natural
numbers followed by one rounding to the nearest number of the format, ties to the even significand
(`Binary.ofRatio`). No operation here makes an undefined result, so the type has none.
-/

namespace JobCluster.Number

/-- A binary format: bits of the significand, and the range of the exponent of its last bit. -/
structure Format where
  precision : Nat
  minExponent : Int
  maxExponent : Int
deriving DecidableEq, Repr

/-- The 32-bit format. -/
def single : Format := ⟨24, -149, 104⟩

/-- The 64-bit format. -/
def double : Format := ⟨53, -1074, 971⟩

/-- A number of a format. -/
inductive Binary (f : Format) where
  | finite (negative : Bool) (significand : Nat) (exponent : Int)
  | infinite (negative : Bool)
deriving DecidableEq, Repr

/-- The natural number nearest to `n / d`, a tie going to the even one. -/
def roundDiv (n d : Nat) : Nat :=
  let q := n / d
  let r := n % d
  if 2 * r < d then q
  else if d < 2 * r then q + 1
  else if q % 2 = 0 then q else q + 1

namespace Binary

variable {f g : Format}

/-- Zero of either sign. -/
def zero (f : Format) (negative : Bool) : Binary f := .finite negative 0 f.minExponent

/-- Whether the number is finite. -/
def isFinite : Binary f → Bool
  | .finite .. => true
  | .infinite _ => false

/-- Whether the number is a zero. -/
def isZero : Binary f → Bool
  | .finite _ m _ => m == 0
  | .infinite _ => false

/-- The exponent at which `num / den` has all the bits of the format: the lowest that keeps the
significand below `2 ^ precision`, but none under the format's lowest. -/
def exponentOf (f : Format) (num den : Nat) : Int :=
  let low : Int := (Nat.log2 num : Int) - Nat.log2 den - f.precision
  let fits := num * Nat.pow 2 (-low).toNat / (den * Nat.pow 2 low.toNat) < Nat.pow 2 f.precision
  max (if fits then low else low + 1) f.minExponent

/-- The number of the format nearest to `± num / den`, ties to the even significand; a magnitude
past the largest number rounds to infinity. -/
def ofRatio (f : Format) (negative : Bool) (num den : Nat) : Binary f :=
  if num = 0 then zero f negative
  else
    let e := exponentOf f num den
    let m := roundDiv (num * Nat.pow 2 (-e).toNat) (den * Nat.pow 2 e.toNat)
    let (m, e) := if m = Nat.pow 2 f.precision then (m / 2, e + 1) else (m, e)
    if f.maxExponent < e then .infinite negative else .finite negative m e

/-- The number nearest to a natural number. -/
def ofNat (f : Format) (n : Nat) : Binary f := ofRatio f false n 1

/-- The magnitude of a finite number as a numerator over a power of two. -/
def ratio (m : Nat) (e : Int) : Nat × Nat := (m * Nat.pow 2 e.toNat, Nat.pow 2 (-e).toNat)

/-- The same number with the other sign. -/
def neg : Binary f → Binary f
  | .finite s m e => .finite (!s) m e
  | .infinite s => .infinite (!s)

/-- The nearest number of another format. -/
def convert (g : Format) : Binary f → Binary g
  | .finite s m e => ofRatio g s (ratio m e).1 (ratio m e).2
  | .infinite s => .infinite s

/-- The rounded product with a positive ratio. -/
def scale (x : Binary f) (num den : Nat) : Binary f :=
  match x with
  | .finite s m e => ofRatio f s ((ratio m e).1 * num) ((ratio m e).2 * den)
  | .infinite s => .infinite s

/-- The rounded product with a positive finite number. -/
def mulBy (x : Binary f) : Binary f → Binary f
  | .finite _ m e => x.scale (ratio m e).1 (ratio m e).2
  | .infinite _ => x

/-- The rounded quotient by a positive finite number. -/
def divBy (x : Binary f) : Binary f → Binary f
  | .finite _ m e => x.scale (ratio m e).2 (ratio m e).1
  | .infinite _ => x

/-- The rounded quotient of two counts, each rounded to the format first. -/
def quotient (f : Format) (n d : Nat) : Binary f := (ofNat f n).divBy (ofNat f d)

/-- The integer nearest to the number, ties to even, in decimal with the number's sign. -/
def toInteger : Binary f → String
  | .finite s m e =>
    let n := roundDiv (ratio m e).1 (ratio m e).2
    (if s then "-" else "") ++ toString n
  | .infinite s => if s then "-inf" else "inf"

end Binary

end JobCluster.Number
