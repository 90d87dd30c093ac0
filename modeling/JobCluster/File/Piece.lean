import JobCluster.Number.Word

/-!
# Pieces of a range

A range of bytes is cut at the multiples of a block size (`Piece.cut`). The end of a range is the
largest word where the sum of its offset and length is past it (`rangeEnd`).
-/

namespace JobCluster.File

open JobCluster.Number

/-- A range of bytes: where it begins and how many they are. -/
structure Piece where
  offset : UInt64
  length : UInt64
deriving DecidableEq, Repr

/-- Where a range ends. -/
def rangeEnd (offset length : UInt64) : UInt64 := satAdd offset length

/-- The first multiple of a block size past an offset, or `stop` if that comes first. -/
def nextCut (size start stop : Nat) : Nat := min ((start / size + 1) * size) stop

/-- The next cut is beyond the start, which is why cutting comes to an end. -/
theorem lt_nextCut {size start stop : Nat} (hsize : 0 < size) (h : start < stop) :
    start < nextCut size start stop := by
  have : start < (start / size + 1) * size := by
    rw [Nat.mul_comm]; exact Nat.lt_mul_div_succ start hsize
  unfold nextCut
  omega

/-- Offsets and lengths of the pieces of `[start, stop)`. -/
def cutBetween (size start stop : Nat) : List (Nat × Nat) :=
  if _h : 0 < size ∧ start < stop then
    let next := nextCut size start stop
    (start, next - start) :: cutBetween size next stop
  else []
termination_by stop - start
decreasing_by have := lt_nextCut _h.1 _h.2; omega

/-- Cuts a range at the multiples of a block size. There are no pieces of an empty range or for the
block size 0. -/
def Piece.cut (start length size : UInt64) : List Piece :=
  (cutBetween size.toNat start.toNat (rangeEnd start length).toNat).map fun p =>
    ⟨.ofNat p.1, .ofNat p.2⟩

end JobCluster.File
