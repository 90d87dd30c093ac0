import JobCluster.Proofs.Counters.Entry
import Mathlib.Algebra.GroupWithZero.Nat

/-!
# Totals of counters

A word that stops at its largest value still tells a sum: `Counts v n` says that the word `v` is the
number `n`, or the largest word where `n` is past it, and adding words adds the numbers behind them.
So a chain of additions that stop reads as one exact sum, cut off once.

`Counters.counts_foldl_merge` says this of merging many collections. A group that none of them has a
count of stays as it is (`Counters.Spares`).
-/

namespace JobCluster.Number

open JobCluster.Text

/-- A word tells a number, as far as words go. -/
def Counts (v : UInt64) (n : Nat) : Prop := v.toNat = min maxWord64 n

namespace Counts

variable {v w : UInt64} {m n : Nat}

lemma zero : Counts 0 0 := rfl

lemma one : Counts 1 1 := rfl

/-- Every word counts itself. -/
lemma self (v : UInt64) : Counts v v.toNat := (Nat.min_eq_right (toNat_le_maxWord64 v)).symm

/-- A saturating sum counts what its summands count together. -/
lemma add (cv : Counts v m) (cw : Counts w n) : Counts (satAdd v w) (m + n) := by
  rw [Counts] at *
  rw [toNat_satAdd, cv, cw]
  omega

/-- A count that fits in a word is exact. -/
lemma toNat_eq (c : Counts v n) (lt : n < 2 ^ 64) : v.toNat = n := by
  rw [Counts, maxWord64, UInt64.size] at c
  omega

end Counts

end JobCluster.Number

namespace JobCluster.Counters

open JobCluster.Number

/-- Merging many collections adds up each count exactly, and cuts the sum off once. -/
theorem counts_foldl_merge (c : Counters) (cs : List Counters) (g n : String) :
    Counts ((cs.foldl merge c).value g n)
      ((c.value g n).toNat + (cs.map fun d => (d.value g n).toNat).sum) := by
  induction cs generalizing c with
  | nil => exact .self _
  | cons d cs ih =>
    have add : Counts ((c.merge d).value g n) ((c.value g n).toNat + (d.value g n).toNat) := by
      rw [value_merge]
      exact (Counts.self _).add (.self _)
    have sum := ih (c.merge d)
    rw [List.foldl_cons, List.map_cons, List.sum_cons]
    rw [Counts] at *
    omega

/-! ## Groups that are left alone -/

/-- There is no count of a group. -/
def Spares (c : Counters) (group : String) : Prop := ∀ e ∈ c.toList, e.1 ≠ group

instance (c : Counters) (group : String) : Decidable (c.Spares group) :=
  inferInstanceAs (Decidable (∀ e ∈ c.toList, e.1 ≠ group))

/-- Merging changes only the groups of what is merged. -/
lemma get?_merge (a : Counters) {b : Counters} {group : String} (sp : b.Spares group) :
    (a.merge b).groups.get? group = a.groups.get? group := by
  rw [Spares] at sp
  rw [merge]
  generalize b.toList = es at sp
  induction es generalizing a with
  | nil => rfl
  | cons e es ih =>
    have other : group ≠ e.1 := (sp e List.mem_cons_self).symm
    rw [List.foldl_cons, ih _ fun x mem => sp x (List.mem_cons_of_mem _ mem), increment,
      Table.get?_alter, if_neg other]

/-- Merging counters that spare a group leaves that group as it was. -/
lemma get?_foldl_merge (c : Counters) {cs : List Counters} {group : String}
    (sp : ∀ d ∈ cs, d.Spares group) :
    (cs.foldl merge c).groups.get? group = c.groups.get? group := by
  induction cs generalizing c with
  | nil => rfl
  | cons d cs ih =>
    rw [List.foldl_cons, ih _ fun x mem => sp x (List.mem_cons_of_mem _ mem),
      get?_merge c (sp d List.mem_cons_self)]

end JobCluster.Counters
