import JobCluster.Text.Natural

/-!
# Words that stop at their largest value

Addition of 64-bit words that answers the largest word where the sum is past it (`satAdd`). Its view
is `toNat_satAdd`, from which the laws of addition follow.
-/

namespace JobCluster.Number

open JobCluster.Text

/-- The sum of two words, or the largest word if the sum is past it. -/
def satAdd (a b : UInt64) : UInt64 := UInt64.ofNat (min maxWord64 (a.toNat + b.toNat))

/-- No word is above the largest one. -/
theorem toNat_le_maxWord64 (a : UInt64) : a.toNat ≤ maxWord64 := Nat.le_pred_of_lt a.toNat_lt

/-- The saturating sum is the sum, up to the largest word. -/
theorem toNat_satAdd (a b : UInt64) : (satAdd a b).toNat = min maxWord64 (a.toNat + b.toNat) := by
  unfold satAdd maxWord64 UInt64.size
  rw [UInt64.toNat_ofNat']
  exact Nat.mod_eq_of_lt (by omega)

/-- The order of the summands does not matter, even where the sum saturates. -/
theorem satAdd_comm (a b : UInt64) : satAdd a b = satAdd b a := by
  simp only [satAdd, Nat.add_comm]

/-- Three summands can be grouped either way: once saturated, a sum stays so. -/
theorem satAdd_assoc (a b c : UInt64) : satAdd (satAdd a b) c = satAdd a (satAdd b c) := by
  apply UInt64.toNat_inj.1
  simp only [toNat_satAdd]
  omega

/-- Adding nothing changes nothing. -/
theorem satAdd_zero (a : UInt64) : satAdd a 0 = a := by
  apply UInt64.toNat_inj.1
  have := toNat_le_maxWord64 a
  simp only [toNat_satAdd, UInt64.toNat_zero]
  omega

end JobCluster.Number
