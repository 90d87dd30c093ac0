import JobCluster.Table
import Mathlib.Tactic.Lemma
import Mathlib.Tactic.SplitIfs

/-!
# Tables from their entries

The entries of a table are what it looks up (`Table.mem_entries_iff`), and it is made again from
them (`Table.ofList_entries`): the keys are distinct, so no entry is put in the place of another.
-/

namespace JobCluster.Table

variable {α : Type}

/-- Putting in sorted entries one by one: an entry wins over what was there. -/
lemma get?_foldl_insert {es : List (String × α)} (sorted : es.Pairwise fun a b => a.1 < b.1)
    (acc : Table α) (k : String) :
    (es.foldl (fun t e => t.insert e.1 e.2) acc).get? k = (find k es).or (acc.get? k) := by
  induction es generalizing acc with
  | nil => rfl
  | cons e es ih =>
    obtain ⟨above, sorted⟩ := List.pairwise_cons.1 sorted
    rw [List.foldl_cons, ih sorted, get?_insert, find]
    split_ifs with here
    · rw [here, find_eq_none_of_lt above]
      rfl
    · rfl

/-- A table is made again from its entries. -/
lemma ofList_entries (t : Table α) : ofList t.entries = t := by
  refine ext_get? fun k => ?_
  rw [ofList, get?_foldl_insert t.sorted, get?_empty, Option.or_none]
  rfl

/-- What is found is among the entries. -/
lemma mem_of_find {k : String} {v : α} {es : List (String × α)} (found : find k es = some v) :
    (k, v) ∈ es := by
  induction es with
  | nil => cases found
  | cons e es ih =>
    obtain ⟨l, w⟩ := e
    rw [find] at found
    split_ifs at found with here
    · cases found
      cases here
      exact List.mem_cons_self
    · exact List.mem_cons_of_mem _ (ih found)

/-- With sorted keys, an entry is what is found under its key. -/
lemma find_of_mem {k : String} {v : α} {es : List (String × α)}
    (sorted : es.Pairwise fun a b => a.1 < b.1) (mem : (k, v) ∈ es) : find k es = some v := by
  induction es with
  | nil => cases mem
  | cons e es ih =>
    obtain ⟨above, sorted⟩ := List.pairwise_cons.1 sorted
    rcases List.mem_cons.1 mem with rfl | mem
    · rw [find, if_pos rfl]
    · have other : k ≠ e.1 := fun same => String.lt_irrefl k (by
        have := above _ mem
        rwa [← same] at this)
      rw [find, if_neg other, ih sorted mem]

/-- The entries of a table are what it gives under their keys. -/
lemma mem_entries_iff {t : Table α} {k : String} {v : α} :
    (k, v) ∈ t.entries ↔ t.get? k = some v :=
  ⟨find_of_mem t.sorted, mem_of_find⟩

/-- Something is found in a table that is not empty. -/
lemma exists_get? {t : Table α} (some : t ≠ empty) : ∃ k, (t.get? k).isSome := by
  obtain ⟨es, sorted⟩ := t
  cases es with
  | nil => exact absurd rfl some
  | cons e es =>
    exact ⟨e.1, Option.isSome_iff_exists.2 ⟨e.2, mem_entries_iff.1 List.mem_cons_self⟩⟩

end JobCluster.Table
