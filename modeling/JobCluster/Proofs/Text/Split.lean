import JobCluster.Text.Split
import Mathlib.Tactic.Lemma
import Mathlib.Tactic.SplitIfs

/-!
# Parts of a text, cut and joined

No part holds the separator (`notMem_of_mem_splitOn`), each separator is a cut
(`splitOn_append_cons`), and segments without slashes are the parts of the text that they make
(`splitOn_slashed`).
-/

namespace JobCluster.Text

variable {c : Char} {cs l r part : List Char} {parts : List (List Char)}

/-- What comes before the first separator belongs to the first part. -/
lemma splitOn_append (notMem : c ∉ l) (e : splitOn c r = part :: parts) :
    splitOn c (l ++ r) = (l ++ part) :: parts := by
  induction l with
  | nil => exact e
  | cons a l ih =>
    obtain ⟨ne, notMem⟩ := List.ne_and_not_mem_of_not_mem_cons notMem
    rw [List.cons_append, splitOn, if_neg ne.symm, ih notMem]
    rfl

/-- A text is cut at each separator, so the parts before one come before those after it. -/
lemma splitOn_append_cons (c : Char) (l r : List Char) :
    splitOn c (l ++ c :: r) = splitOn c l ++ splitOn c r := by
  induction l with
  | nil => simp [splitOn]
  | cons a l ih =>
    rw [List.cons_append, splitOn, splitOn, ih]
    split_ifs
    · rfl
    · cases cut : splitOn c l with
      | nil => exact absurd cut (splitOn_ne_nil c l)
      | cons part parts => rfl

/-- No part holds the separator. -/
lemma notMem_of_mem_splitOn (mem : part ∈ splitOn c cs) : c ∉ part := by
  induction cs generalizing part with
  | nil =>
    rw [splitOn, List.mem_singleton] at mem
    exact mem ▸ List.not_mem_nil
  | cons a cs ih =>
    by_cases e : a = c
    · rw [splitOn, if_pos e] at mem
      rcases List.mem_cons.1 mem with rfl | mem
      · exact List.not_mem_nil
      · exact ih mem
    · cases cut : splitOn c cs with
      | nil => exact absurd cut (splitOn_ne_nil c cs)
      | cons head tail =>
        rw [cut] at ih
        simp only [splitOn, if_neg e, cut] at mem
        rcases List.mem_cons.1 mem with rfl | mem
        · exact List.not_mem_cons_of_ne_of_not_mem (Ne.symm e) (ih List.mem_cons_self)
        · exact ih (List.mem_cons_of_mem _ mem)

/-- The characters of a part are some of the text. -/
lemma subset_of_mem_splitOn (mem : part ∈ splitOn c cs) : part ⊆ cs := by
  induction cs generalizing part with
  | nil =>
    rw [splitOn, List.mem_singleton] at mem
    exact mem ▸ List.Subset.refl _
  | cons a cs ih =>
    have later {part : List Char} (mem : part ∈ splitOn c cs) : part ⊆ a :: cs :=
      List.subset_cons_of_subset a (ih mem)
    by_cases e : a = c
    · rw [splitOn, if_pos e] at mem
      rcases List.mem_cons.1 mem with rfl | mem
      · exact List.nil_subset _
      · exact later mem
    · cases cut : splitOn c cs with
      | nil => exact absurd cut (splitOn_ne_nil c cs)
      | cons head tail =>
        rw [cut] at ih later
        simp only [splitOn, if_neg e, cut] at mem
        rcases List.mem_cons.1 mem with rfl | mem
        · exact List.cons_subset_cons a (ih List.mem_cons_self)
        · exact later (List.mem_cons_of_mem _ mem)

/-- The characters of segments, each after a slash. -/
def slashed (ss : List String) : List Char := ss.flatMap fun s => '/' :: s.toList

/-- Segments without slashes are the parts of their characters. -/
lemma splitOn_slashed {ss : List String} (noSlash : ∀ s ∈ ss, '/' ∉ s.toList) :
    splitOn '/' (slashed ss) = [] :: ss.map String.toList := by
  induction ss with
  | nil => rfl
  | cons s ss ih =>
    obtain ⟨first, others⟩ := List.forall_mem_cons.1 noSlash
    have cut : splitOn '/' (s.toList ++ slashed ss) = s.toList :: ss.map String.toList := by
      rw [splitOn_append first (ih others), List.append_nil]
    rw [slashed, List.flatMap_cons, List.cons_append, splitOn, if_pos rfl, List.map_cons, ← cut]
    rfl

end JobCluster.Text
