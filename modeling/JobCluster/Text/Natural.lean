/-!
# Natural numbers in decimal

How counts, indices and versions are written (`decimal`, `padded`) and read back (`readNatural`).
A reader takes an optional plus sign and ASCII digits only, and refuses a number above its limit.
-/

namespace JobCluster.Text

/-- The decimal digits of a number. -/
def decimalDigits (n : Nat) : List Char := Nat.toDigits 10 n

/-- A number in decimal. -/
def decimal (n : Nat) : String := String.ofList (decimalDigits n)

/-- A number in decimal with zeros in front up to a width; a longer number keeps all its digits. -/
def padded (width n : Nat) : String :=
  String.ofList (List.replicate (width - (decimalDigits n).length) '0' ++ decimalDigits n)

/-- The value of an ASCII digit. -/
def digitValue? (c : Char) : Option Nat :=
  if '0' ≤ c ∧ c ≤ '9' then some (c.toNat - '0'.toNat) else none

/-- The number that a list of digit values writes, most significant first. -/
def ofDigitValues (ds : List Nat) : Nat := ds.foldl (fun n d => 10 * n + d) 0

/-- Reads digits alone, at least one. -/
def readDigits (cs : List Char) : Option Nat :=
  if cs.isEmpty then none else (cs.mapM digitValue?).map ofDigitValues

/-- Reads a number of at most `limit`: an optional plus sign, then digits alone. -/
def readNatural (limit : Nat) (cs : List Char) : Option Nat :=
  let digits := match cs with
    | '+' :: rest => rest
    | _ => cs
  (readDigits digits).filter (· ≤ limit)

/-- The largest 32-bit word. -/
def maxWord32 : Nat := UInt32.size - 1

/-- The largest 64-bit word. -/
def maxWord64 : Nat := UInt64.size - 1

/-- Reads a 32-bit word. -/
def readWord32 (s : String) : Option UInt32 := (readNatural maxWord32 s.toList).map UInt32.ofNat

/-- Reads a 64-bit word. -/
def readWord64 (s : String) : Option UInt64 := (readNatural maxWord64 s.toList).map UInt64.ofNat

end JobCluster.Text
