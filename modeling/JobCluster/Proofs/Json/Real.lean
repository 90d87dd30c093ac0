import JobCluster.Proofs.Json.Numeral

/-!
# Binary numbers as numerals

The numeral of a binary number is one as texts have it (`Numeral.proper_ofBinary`). Whether a zero
stands in front is settled by the search for the shortest decimal: it gives a positive number of
steps, or it has run through all its grids, and these end below the units
(`Shortest.decimal_cases`).
-/

namespace JobCluster.Number.Shortest

/-- The point that is taken on a grid is not zero. -/
lemma Interval.pick?_pos {i : Interval} {p : Nat} (e : i.pick? = some p) : 0 < p := by
  have pos {q : Nat} (holds : i.holds q = true) : 0 < q := by
    rw [Interval.holds] at holds
    exact of_decide_eq_true (Bool.and_eq_true_iff.1 holds).1
  unfold pick? at e
  dsimp only at e
  split at e
  · next below above =>
    cases e
    have here := pos below
    unfold roundDiv
    dsimp only
    split_ifs <;> omega
  · next below above =>
    cases e
    exact pos below
  · cases e
    exact Nat.succ_pos _
  · cases e

/-- The search finds a positive number of steps, or it ends on its last grid. -/
lemma search_cases (i : Interval) (fuel : Nat) (k : Int) :
    0 < (search i fuel k).1 ∨ search i fuel k =
      ((i.onGrid (k - fuel)).value / (i.onGrid (k - fuel)).unit, k - fuel) := by
  induction fuel generalizing k with
  | zero => exact .inr (by simp [search])
  | succ fuel ih =>
    rw [search]
    split
    · next p found => exact .inl (Interval.pick?_pos found)
    · have last : k - 1 - (fuel : Int) = k - ((fuel + 1 : Nat) : Int) := by omega
      rw [← last]
      exact ih (k - 1)

/-- The last grid of the search is below the number, unless it is below the units. -/
lemma last_grid {f : Format} {i : Interval} (pos : 0 < i.unit) {fuel : Nat} (more : 1 < fuel)
    (coarse : 0 ≤ startOf f i - fuel) :
    0 < (i.onGrid (startOf f i - fuel)).value / (i.onGrid (startOf f i - fuel)).unit := by
  obtain ⟨e, here⟩ := Int.eq_ofNat_of_zero_le coarse
  by_contra none
  have less : i.value < i.unit * 10 ^ e := by
    simp only [here, Interval.onGrid, Int.toNat_neg_natCast, Int.toNat_natCast, Nat.pow_eq,
      Nat.pow_zero, Nat.mul_one, not_lt, Nat.le_zero, Nat.div_eq_zero_iff] at none
    rcases none with zero | less
    · exact absurd zero (Nat.mul_pos pos (Nat.pow_pos (by decide))).ne'
    · exact less
  unfold startOf at here
  dsimp only at here
  rw [Nat.pow_eq] at here
  generalize (-f.minExponent).toNat = shift at here
  have bound : i.value * 10 ^ shift / i.unit < 10 ^ (e + shift + 1) := by
    have scaled : i.value * 10 ^ shift < i.unit * 10 ^ (e + shift) := by
      rw [Nat.pow_add, ← Nat.mul_assoc]
      exact Nat.mul_lt_mul_of_pos_right less (Nat.pow_pos (by decide))
    exact Nat.lt_of_lt_of_le (Nat.div_lt_of_lt_mul scaled)
      (Nat.pow_le_pow_right (by decide) (Nat.le_succ _))
  have short := (Nat.length_toDigits_le_iff (by decide) (Nat.succ_pos (e + shift))).2 bound
  omega

/-- The shortest decimal is of a positive number of steps, or of steps below the units. -/
lemma decimal_cases (f : Format) (significand : Nat) (exponent : Int) :
    0 < (decimal f significand exponent).1 ∨ (decimal f significand exponent).2 < 0 := by
  have pos : 0 < (intervalOf f significand exponent).unit := by
    simp [intervalOf, Nat.pow_eq]
  rw [decimal]
  generalize intervalOf f significand exponent = i at pos
  rcases search_cases i (f.precision + 3) (startOf f i) with found | last
  · exact .inl found
  · rw [last]
    by_cases coarse : 0 ≤ startOf f i - ((f.precision + 3 : Nat) : Int)
    · exact .inl (last_grid pos (by omega) coarse)
    · exact .inr (by simpa using coarse)

end JobCluster.Number.Shortest

namespace JobCluster.Json.Numeral

open JobCluster.Number JobCluster.Text

/-- Digits that start with no zero, or with a zero alone, are those of a whole number. -/
lemma digitsOf_cases (n : Nat) : (digitsOf n).head? ≠ some 0 ∨ digitsOf n = [0] ∧ n = 0 := by
  by_cases zero : (digitsOf n).head? = some 0
  · have one := (proper_ofNat n).noZero zero
    obtain ⟨d, e⟩ := List.length_eq_one_iff.1 one
    change digitsOf n = [d] at e
    have d0 : d = 0 := by simpa [e] using zero
    have value := digitsOf_eq n
    rw [e, d0] at value
    exact .inr ⟨d0 ▸ e, value.symm⟩
  · exact .inl zero

/-- Digits are laid out properly, unless a zero would be scaled up. -/
lemma proper_layOut {plain : Plain} {negative : Bool} {ds : List Nat} {k : Int}
    (digits : ∀ d ∈ ds, d < 10) (nonempty : ds ≠ [])
    (front : ds.head? ≠ some 0 ∨ ds = [0] ∧ k < 0) : (layOut plain negative ds k).Proper := by
  obtain ⟨d, ds, rfl⟩ := List.exists_cons_of_ne_nil nonempty
  have padded (n : Nat) (xs : List Nat) (digits : ∀ x ∈ xs, x < 10) :
      ∀ x ∈ List.replicate n 0 ++ xs, x < 10 := by
    intro x mem
    rcases List.mem_append.1 mem with mem | mem
    · rw [List.eq_of_mem_replicate mem]
      decide
    · exact digits x mem
  unfold layOut
  dsimp only
  split_ifs with whole inside below
  · -- zeros behind the digits
    have first : d ≠ 0 := by
      rcases front with first | ⟨-, neg⟩
      · simpa using first
      · omega
    refine ⟨by simp, fun x mem => ?_, by simp, fun zero => absurd zero (by simpa using first)⟩
    rcases List.mem_append.1 mem with mem | mem
    · exact digits x mem
    · rw [List.eq_of_mem_replicate mem]
      decide
  · -- the point among the digits
    obtain ⟨some, -⟩ := inside
    have first : d ≠ 0 := by
      rcases front with first | ⟨e, neg⟩
      · simpa using first
      · rw [e, List.length_singleton] at some
        omega
    obtain ⟨n, en⟩ := Nat.exists_eq_succ_of_ne_zero (n := ((d :: ds).length + k).toNat) (by omega)
    rw [en, List.take_succ_cons]
    exact ⟨List.cons_ne_nil _ _,
      fun x mem => digits x (List.mem_of_mem_take (i := n + 1) mem),
      fun x mem => digits x (List.mem_of_mem_drop mem),
      fun zero => absurd (Option.some.inj zero) first⟩
  · -- the point before the digits
    exact ⟨List.cons_ne_nil _ _, by simp, padded _ _ digits, fun _ => rfl⟩
  · -- an exponent
    exact ⟨List.cons_ne_nil _ _, fun x mem => digits x (List.mem_of_mem_take mem),
      fun x mem => digits x (List.mem_of_mem_drop mem), fun _ => rfl⟩

/-- The numeral of a binary number is proper. -/
theorem proper_ofBinary {f : Format} {x : Binary f} {n : Numeral} (written : ofBinary x = some n) :
    n.Proper := by
  cases x with
  | infinite => cases written
  | finite negative m e =>
    rw [ofBinary] at written
    split_ifs at written with zero
    · cases written
      exact ⟨List.cons_ne_nil _ _, by simp, by simp, fun _ => rfl⟩
    · cases written
      obtain ⟨nonempty, digits, -, -⟩ := proper_ofNat (Shortest.decimal f m e).1
      refine proper_layOut digits nonempty ?_
      rcases digitsOf_cases (Shortest.decimal f m e).1 with first | ⟨alone, none⟩
      · exact .inl first
      · rcases Shortest.decimal_cases f m e with pos | below
        · omega
        · exact .inr ⟨alone, below⟩

end JobCluster.Json.Numeral
