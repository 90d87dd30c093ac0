import JobCluster.Number.Shortest
import JobCluster.Text.Natural

/-!
# Numerals

The numbers of a JSON text as they are written: sign, whole digits, fraction digits and power of
ten. `Numeral.quantity` says what a numeral stands for: an exact integer when it has neither
fraction nor exponent and fits 64 bits, else a 64-bit floating-point number computed as its leading
digits times or over a power of ten, each step rounded. `Numeral.ofNat` and `Numeral.ofBinary` write
numbers.
-/

namespace JobCluster.Json

open JobCluster.Text JobCluster.Number

/-- A number as written; digits are values below ten. Without fraction and exponent it is an
integer. -/
structure Numeral where
  negative : Bool
  whole : List Nat
  fraction : List Nat
  exponent : Option Int
deriving DecidableEq, Repr

/-- What a numeral stands for. -/
inductive Quantity where
  | natural (n : Nat)
  | negative (n : Nat)
  | real (x : Binary double)
  | tooLarge
deriving DecidableEq, Repr

namespace Numeral

/-- Whether the numeral is an integer by its form. -/
def isInteger (n : Numeral) : Bool := n.fraction.isEmpty && n.exponent.isNone

/-- Takes digits into a 64-bit significand until one does not fit; the digits left over. -/
def accumulate (acc : Nat) : List Nat → Nat × List Nat
  | [] => (acc, [])
  | d :: ds => if acc * 10 + d ≤ maxWord64 then accumulate (acc * 10 + d) ds else (acc, d :: ds)

/-- A power of ten as a 64-bit number. -/
def powerOfTen (k : Nat) : Binary double := Binary.ofNat double (Nat.pow 10 k)

/-- The largest power of ten of the 64-bit format. -/
def maxPower : Nat := 308

/-- `x · 10 ^ exponent` with a rounding at each step; `none` if it is past the largest number.
Powers under the smallest are taken in steps, of which few are needed until nothing is left. -/
def scaleByTen (x : Binary double) (exponent : Int) : Nat → Option (Binary double)
  | 0 => some x
  | fuel + 1 =>
    if exponent.natAbs ≤ maxPower then
      let y := if 0 ≤ exponent then x.mulBy (powerOfTen exponent.natAbs)
        else x.divBy (powerOfTen exponent.natAbs)
      if y.isFinite then some y else none
    else if x.isZero then some x
    else if 0 ≤ exponent then none
    else scaleByTen (x.divBy (powerOfTen maxPower)) (exponent + maxPower) fuel

/-- The largest exponent that is read as a number; a longer one is past all bounds. -/
def maxExponent : Int := Int.pow 2 31 - 1

/-- The value of a numeral with a fraction, an exponent or too many digits. -/
def realQuantity (n : Numeral) : Quantity :=
  let (acc, dropped) := accumulate 0 n.whole
  let (acc', rest) := accumulate acc n.fraction
  let used : Int := n.fraction.length - rest.length
  let place : Int := dropped.length - used
  let signed (x : Binary double) := if n.negative then x.neg else x
  let e := n.exponent.getD 0
  if e.natAbs > maxExponent then
    if acc' ≠ 0 ∧ 0 < e then .tooLarge else .real (Binary.zero double n.negative)
  else
    match scaleByTen (Binary.ofNat double acc') (place + e) 4 with
    | some x => .real (signed x)
    | none => .tooLarge

/-- What the numeral stands for. An integer that fits is exact; a negative zero is no integer. -/
def quantity (n : Numeral) : Quantity :=
  match n.isInteger, accumulate 0 n.whole with
  | true, (v, []) =>
    if !n.negative then .natural v
    else if 0 < v ∧ v ≤ Nat.pow 2 63 then .negative v
    else .real (Binary.ofNat double v).neg
  | _, _ => n.realQuantity

/-- The digit values of a number. -/
def digitsOf (n : Nat) : List Nat := (decimalDigits n).map fun c => c.toNat - '0'.toNat

/-- A natural number. -/
def ofNat (n : Nat) : Numeral := ⟨false, digitsOf n, [], none⟩

/-- An integer. -/
def ofInt (n : Int) : Numeral := ⟨decide (n < 0), digitsOf n.natAbs, [], none⟩

/-- Where the plain notation ends: the decimal point stands in place when the number of digits
before it is above `least` and at most `most`. -/
structure Plain where
  least : Int
  most : Int

/-- The bounds of plain notation: 32-bit numbers leave it earlier than 64-bit ones. -/
def plainOf (f : Format) : Plain := if f = single then ⟨-6, 13⟩ else ⟨-5, 16⟩

/-- Lays out digits `ds · 10 ^ k`: plain with at least one fraction digit, or one digit before the
point and an exponent. -/
def layOut (plain : Plain) (negative : Bool) (ds : List Nat) (k : Int) : Numeral :=
  let point : Int := ds.length + k
  if 0 ≤ k ∧ point ≤ plain.most then ⟨negative, ds ++ List.replicate k.toNat 0, [0], none⟩
  else if 0 < point ∧ point ≤ plain.most then
    ⟨negative, ds.take point.toNat, ds.drop point.toNat, none⟩
  else if plain.least < point ∧ point ≤ 0 then
    ⟨negative, [0], List.replicate (-point).toNat 0 ++ ds, none⟩
  else ⟨negative, ds.take 1, ds.drop 1, some (point - 1)⟩

/-- A binary number with the fewest digits that read back as it; `none` for an infinity. -/
def ofBinary {f : Format} : Binary f → Option Numeral
  | .finite s m e =>
    if m = 0 then some ⟨s, [0], [0], none⟩
    else
      let (digits, k) := Shortest.decimal f m e
      some (layOut (plainOf f) s (digitsOf digits) k)
  | .infinite _ => none

/-- The character of a digit value. -/
def digitChar (d : Nat) : Char := Char.ofNat ('0'.toNat + d)

/-- The text of an exponent. -/
def exponentText : Option Int → List Char
  | none => []
  | some e => 'e' :: (if e < 0 then ['-'] else []) ++ decimalDigits e.natAbs

/-- The text of a numeral. -/
def text (n : Numeral) : List Char :=
  (if n.negative then ['-'] else []) ++ n.whole.map digitChar ++
    (if n.fraction.isEmpty then [] else '.' :: n.fraction.map digitChar) ++ exponentText n.exponent

end Numeral

end JobCluster.Json
