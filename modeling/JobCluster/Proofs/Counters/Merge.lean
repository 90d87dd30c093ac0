import JobCluster.Proofs.Counters.Total
import Mathlib.Data.List.Perm.Basic

/-!
# Merging as addition

Counters are added by merging: neither the order nor the grouping of what is merged changes a count,
`empty` is the zero (`merge_empty`, `empty_merge`), and an increment adds counters with a single
count (`increment_eq_merge`). A sum past the largest word stops there in every order.

The counters themselves depend on the order in one way only. A group without counts stays if it is
on the left (`hasGroup_merge`), so merging is associative as it is (`merge_assoc`), but commutative
only where each group has counts (`Counters.Full`, `merge_comm`).
-/

namespace JobCluster.Counters

open JobCluster.Number JobCluster.Text

variable {a b c : Counters} {group name g n : String}

/-- Each group has counts. -/
def Full (c : Counters) : Prop := ∀ e ∈ c.groups.entries, e.2 ≠ Table.empty

instance (c : Counters) : Decidable c.Full :=
  inferInstanceAs (Decidable (∀ e ∈ c.groups.entries, e.2 ≠ Table.empty))

/-- The counters with one count. -/
def single (group name : String) (v : UInt64) : Counters :=
  ⟨.ofList [(group, .ofList [(name, v)])]⟩

lemma toList_single (group name : String) (v : UInt64) :
    (single group name v).toList = [(group, name, v)] := rfl

/-- Counters are full when no group is empty. -/
lemma full_iff : c.Full ↔ ∀ g, c.HasGroup g → ∃ n, c.Has g n := by
  constructor
  · intro full g there
    obtain ⟨names, found⟩ := Option.isSome_iff_exists.1 there
    obtain ⟨n, has⟩ := Table.exists_get? (full _ (Table.mem_entries_iff.2 found))
    refine ⟨n, ?_⟩
    rw [Has, count?, found]
    exact has
  · rintro counted ⟨g, names⟩ mem rfl
    have found := Table.mem_entries_iff.1 mem
    obtain ⟨n, has⟩ := counted g (Option.isSome_iff_exists.2 ⟨_, found⟩)
    rw [Has, count?, found] at has
    cases has

/-- With no empty group, the groups are those of the counters. -/
lemma hasGroup_iff (full : c.Full) : c.HasGroup g ↔ ∃ n, c.Has g n :=
  ⟨full_iff.1 full g, fun ⟨_, has⟩ => has.hasGroup⟩

/-- A count is there after merging if it was there on either side. -/
lemma has_merge : (a.merge b).Has g n ↔ a.Has g n ∨ b.Has g n := by
  rw [Has, count?_merge, Option.isSome_merge, Bool.or_eq_true, Has, Has]

/-- A counter that is not there has the value zero. -/
lemma value_of_not_has (no : ¬c.Has group name) : c.value group name = 0 := by
  rw [value_eq_getD, Option.not_isSome_iff_eq_none.1 no, Option.getD_none]

/-- Merging brings along no group without counts. -/
lemma Full.merge (full : a.Full) (b : Counters) : (a.merge b).Full := by
  refine full_iff.2 fun g there => ?_
  rcases hasGroup_merge.1 there with there | ⟨n, has⟩
  · obtain ⟨n, has⟩ := full_iff.1 full g there
    exact ⟨n, has_merge.2 (.inl has)⟩
  · exact ⟨n, has_merge.2 (.inr has)⟩

/-! ## The laws of addition -/

lemma merge_empty (c : Counters) : c.merge empty = c := rfl

/-- Merging into nothing gives what is merged, as it has no empty group to lose. -/
lemma empty_merge (full : c.Full) : empty.merge c = c := by
  refine ext_count? (fun g n => ?_) fun g => ?_
  · rw [count?_merge]
    exact Option.merge_none_left
  · rw [hasGroup_merge, hasGroup_iff full]
    exact or_iff_right Bool.false_ne_true

/-- Three sets of counters can be merged either way. -/
theorem merge_assoc (a b c : Counters) : (a.merge b).merge c = a.merge (b.merge c) := by
  refine ext_count? (fun g n => ?_) fun g => ?_
  · simp only [count?_merge]
    ac_rfl
  · simp only [hasGroup_merge, has_merge, exists_or]
    exact or_assoc

/-- The order of a merge does not matter, if no group is empty. -/
theorem merge_comm (full : a.Full) (full' : b.Full) : a.merge b = b.merge a := by
  refine ext_count? (fun g n => ?_) fun g => ?_
  · simp only [count?_merge]
    ac_rfl
  · rw [hasGroup_merge, hasGroup_merge, hasGroup_iff full, hasGroup_iff full']
    exact or_comm

/-- A group without counts stays on the left only. -/
example : (Counters.mk (.ofList [("io", .empty)])).merge empty ≠
    empty.merge ⟨.ofList [("io", .empty)]⟩ := by
  decide

/-- What is merged into counters can be merged in any order. -/
lemma merge_right_comm (a b c : Counters) : (a.merge b).merge c = (a.merge c).merge b := by
  refine ext_count? (fun g n => ?_) fun g => ?_
  · simp only [count?_merge]
    ac_rfl
  · simp only [hasGroup_merge]
    exact or_right_comm

instance : RightCommutative merge := ⟨merge_right_comm⟩

/-- Counters can be merged into one in any order. -/
theorem foldl_merge_perm {cs ds : List Counters} (perm : (a :: cs).Perm (b :: ds))
    (full : ∀ d ∈ a :: cs, d.Full) : cs.foldl merge a = ds.foldl merge b := by
  have fromEmpty : (a :: cs).foldl merge empty = (b :: ds).foldl merge empty := perm.foldl_eq empty
  have full' : b.Full := full b (perm.mem_iff.2 List.mem_cons_self)
  rwa [List.foldl_cons, List.foldl_cons, empty_merge (full a List.mem_cons_self),
    empty_merge full'] at fromEmpty

/-- An increment merges the counters with one count. -/
lemma increment_eq_merge (c : Counters) (group name : String) (v : UInt64) :
    c.increment group name v = c.merge (single group name v) := by
  rw [merge, toList_single, List.foldl_cons, List.foldl_nil]

/-- Counters are added by merging, as far as words go: each count is a sum that stops at the largest
word, and there is a count where there is one on either side. The order in which they are merged
makes no difference to a count, and none to the counters if their groups have counts; how they are
grouped makes none at all. An increment adds a single count. -/
theorem saturating_monoid (a b c : Counters) :
    (∀ group name,
      ((a.merge b).value group name).toNat =
        min maxWord64 ((a.value group name).toNat + (b.value group name).toNat) ∧
      ((a.merge b).Has group name ↔ a.Has group name ∨ b.Has group name) ∧
      (¬a.Has group name → a.value group name = 0) ∧
      (a.merge b).value group name = (b.merge a).value group name) ∧
    (a.merge b).merge c = a.merge (b.merge c) ∧
    a.merge empty = a ∧
    (a.Full → (a.merge b).Full ∧ empty.merge a = a) ∧
    (a.Full → b.Full → a.merge b = b.merge a) ∧
    (∀ (cs : List Counters) group name,
      ((cs.foldl merge a).value group name).toNat =
        min maxWord64 (((a :: cs).map fun d => (d.value group name).toNat).sum)) ∧
    (∀ cs ds : List Counters, (a :: cs).Perm (b :: ds) → (∀ d ∈ a :: cs, d.Full) →
      cs.foldl merge a = ds.foldl merge b) ∧
    ∀ group name delta, a.increment group name delta = a.merge (single group name delta) := by
  refine ⟨fun group name => ⟨?_, has_merge, value_of_not_has, ?_⟩, merge_assoc a b c,
    merge_empty a, fun full => ⟨full.merge b, empty_merge full⟩, merge_comm,
    fun cs group name => ?_, fun cs ds => foldl_merge_perm, increment_eq_merge a⟩
  · rw [value_merge, toNat_satAdd]
  · rw [value_merge, value_merge, satAdd_comm]
  · have counts := counts_foldl_merge a cs group name
    rwa [Counts] at counts

/-- Three counters: one with nothing, and two with a count of the same name whose sum is past the
largest word. -/
theorem sample_saturating_monoid :
    let a := single "io" "read" 18446744073709551615
    let b := (single "io" "read" 1).increment "task" "records" 2
    a.Full ∧ b.Full ∧ ¬a.Has "task" "records" ∧ a.value "task" "records" = 0 ∧
    a.merge b = b.merge a ∧ (a.merge b).Has "task" "records" ∧
    (a :: [b, empty]).Perm (b :: [empty, a]) ∧
    [b, empty].foldl merge a = [empty, a].foldl merge b ∧
    (([b, empty].foldl merge a).value "io" "read").toNat = 18446744073709551615 := by
  intro a b
  have full : ∀ d ∈ [a, b, empty], d.Full := by decide
  have absent : ¬a.Has "task" "records" := by decide
  have perm : (a :: [b, empty]).Perm (b :: [empty, a]) := by decide
  obtain ⟨each, -, -, -, comm, sums, orders, -⟩ := saturating_monoid a b empty
  obtain ⟨-, there, zero, -⟩ := each "task" "records"
  have sum := sums [b, empty] "io" "read"
  exact ⟨full a (by decide), full b (by decide), absent, zero absent,
    comm (full a (by decide)) (full b (by decide)), there.2 (.inr (by decide)), perm,
    orders _ _ perm full, sum⟩

end JobCluster.Counters
