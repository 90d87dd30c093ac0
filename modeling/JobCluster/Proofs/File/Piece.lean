import JobCluster.File.Piece
import Mathlib.Algebra.GroupWithZero.Nat
import Mathlib.Tactic.Lemma

/-!
# Ranges side by side

Ranges are given by their offsets and lengths. `Tiles start stop ranges` says that they lie side by
side from `start` to `stop` and that none of them is empty, so that every place in between is in
exactly one of them (`Tiles.countP_eq_one`).

The pieces of a range tile it (`tiles_cutBetween`). Cut from a multiple of the block size on, they
are as long as a block, but for the last, which may be shorter (`length_le_of_cut`,
`length_eq_of_cut`). All of this is about numbers; `ranges_cut` says that the pieces in words are
these numbers.
-/

namespace JobCluster.File

open JobCluster.Number

/-- Ranges that lie side by side from one place to another, none of them empty. -/
inductive Tiles : Nat → Nat → List (Nat × Nat) → Prop where
  | nil {stop} :
    Tiles stop stop []
  | cons {start length stop rest} :
    0 < length →
    Tiles (start + length) stop rest →
    Tiles start stop ((start, length) :: rest)

namespace Tiles

variable {start middle stop : Nat} {ranges ranges' : List (Nat × Nat)}

/-- What tiles a stretch goes forward. -/
lemma le (ti : Tiles start stop ranges) : start ≤ stop := by
  induction ti with
  | nil => exact Nat.le_refl _
  | cons _ _ ih => exact Nat.le_trans (Nat.le_add_right _ _) ih

/-- Tilings of neighbouring stretches tile both. -/
lemma append (ti : Tiles start middle ranges) (ti' : Tiles middle stop ranges') :
    Tiles start stop (ranges ++ ranges') := by
  induction ti with
  | nil => exact ti'
  | cons some _ ih => exact .cons some (ih ti')

/-- A tile is not empty and lies in the stretch. -/
lemma within (ti : Tiles start stop ranges) {r : Nat × Nat} (mem : r ∈ ranges) :
    start ≤ r.1 ∧ 0 < r.2 ∧ r.1 + r.2 ≤ stop := by
  induction ti with
  | nil => cases mem
  | cons some ti ih =>
    rcases List.mem_cons.1 mem with rfl | mem
    · exact ⟨Nat.le_refl _, some, ti.le⟩
    · obtain ⟨after, some', before⟩ := ih mem
      exact ⟨Nat.le_trans (Nat.le_add_right _ _) after, some', before⟩

/-- The tiles are as long together as the stretch. -/
lemma sum_lengths (ti : Tiles start stop ranges) :
    start + (ranges.map Prod.snd).sum = stop := by
  induction ti with
  | nil => rfl
  | cons _ _ ih => rw [List.map_cons, List.sum_cons, ← Nat.add_assoc, ih]

/-- There are no more ranges than places. -/
lemma length_le (ti : Tiles start stop ranges) : start + ranges.length ≤ stop := by
  induction ti with
  | nil => exact Nat.le_refl _
  | cons some _ ih =>
    rw [List.length_cons]
    omega

/-- The first tile starts where the stretch does. -/
lemma head_fst {r : Nat × Nat} (ti : Tiles start stop (r :: ranges)) : r.1 = start := by
  cases ti
  rfl

/-- All ranges but the first begin past the start. -/
lemma lt_of_mem_tail (ti : Tiles start stop ranges) {r : Nat × Nat} (mem : r ∈ ranges.tail) :
    start < r.1 := by
  cases ti with
  | nil => cases mem
  | cons some ti => exact Nat.lt_of_lt_of_le (Nat.lt_add_of_pos_right some) (ti.within mem).1

/-- A stretch that is not empty has a tile. -/
lemma ne_nil (ti : Tiles start stop ranges) (lt : start < stop) : ranges ≠ [] := by
  rintro rfl
  cases ti
  exact Nat.lt_irrefl _ lt

/-- Every place is in exactly one range. -/
lemma countP_eq_one (ti : Tiles start stop ranges) {x : Nat} (after : start ≤ x)
    (before : x < stop) : ranges.countP (fun r => r.1 ≤ x ∧ x < r.1 + r.2) = 1 := by
  induction ti with
  | nil => omega
  | @cons start length stop rest some ti ih =>
    rw [List.countP_cons]
    by_cases here : x < start + length
    · have none : rest.countP (fun r => r.1 ≤ x ∧ x < r.1 + r.2) = 0 := by
        refine List.countP_eq_zero.2 fun r mem => ?_
        have := ti.within mem
        simp only [decide_eq_true_eq]
        omega
      rw [none, if_pos (by simpa using ⟨after, here⟩)]
    · rw [ih (by omega) before, if_neg (by simpa using fun _ => Nat.not_lt.1 here)]

/-- Ranges side by side may be split further. -/
lemma flatMap (ti : Tiles start stop ranges) {f : Nat × Nat → List (Nat × Nat)}
    (split : ∀ r ∈ ranges, Tiles r.1 (r.1 + r.2) (f r)) :
    Tiles start stop (ranges.flatMap f) := by
  induction ti with
  | nil => exact .nil
  | cons _ _ ih =>
    rw [List.flatMap_cons]
    exact (split _ List.mem_cons_self).append (ih fun r mem => split r (List.mem_cons_of_mem _ mem))

/-- A range ends where another begins, or where all end. -/
lemma end_mem (ti : Tiles start stop ranges) {r : Nat × Nat} (mem : r ∈ ranges) :
    r.1 + r.2 ∈ ranges.map Prod.fst ++ [stop] := by
  induction ti with
  | nil => cases mem
  | @cons start length stop rest _ ti ih =>
    rcases List.mem_cons.1 mem with rfl | mem
    · cases ti with
      | nil => simp
      | cons => simp
    · exact List.mem_cons_of_mem _ (ih mem)

/-- No tile starts before the stretch. -/
lemma le_of_mem (ti : Tiles start stop ranges) {x : Nat}
    (mem : x ∈ ranges.map Prod.fst ++ [stop]) : start ≤ x := by
  rcases List.mem_append.1 mem with mem | mem
  · obtain ⟨r, found, rfl⟩ := List.mem_map.1 mem
    exact (ti.within found).1
  · rw [List.mem_singleton.1 mem]
    exact ti.le

/-- The ranges from a place on where one begins. -/
lemma after (ti : Tiles start stop ranges) {x : Nat} (mem : x ∈ ranges.map Prod.fst ++ [stop]) :
    Tiles x stop (ranges.filter (x ≤ ·.1)) := by
  induction ti with
  | nil =>
    cases List.mem_singleton.1 mem
    exact .nil
  | @cons start length stop rest some ti ih =>
    rcases List.mem_cons.1 mem with rfl | mem
    · have whole := Tiles.cons some ti
      rwa [List.filter_eq_self.2 fun r found => decide_eq_true (whole.within found).1]
    · have past : start + length ≤ x := ti.le_of_mem mem
      rw [List.filter_cons_of_neg (by simp only [decide_eq_true_eq]; omega)]
      exact ih mem

/-- The ranges before a place where one begins. -/
lemma before (ti : Tiles start stop ranges) {x : Nat} (mem : x ∈ ranges.map Prod.fst ++ [stop]) :
    Tiles start x (ranges.filter (·.1 < x)) := by
  induction ti with
  | nil =>
    cases List.mem_singleton.1 mem
    exact .nil
  | @cons start length stop rest some ti ih =>
    rcases List.mem_cons.1 mem with rfl | mem
    · have whole := Tiles.cons some ti
      rw [List.filter_eq_nil_iff.2 fun r found => ?_]
      · exact .nil
      · simpa using (whole.within found).1
    · have past : start + length ≤ x := ti.le_of_mem mem
      rw [List.filter_cons_of_pos (by simp only [decide_eq_true_eq]; omega)]
      exact .cons some (ih mem)

/-- The ranges between two places where ranges begin. -/
lemma between (ti : Tiles start stop ranges) {x y : Nat}
    (memx : x ∈ ranges.map Prod.fst ++ [stop]) (memy : y ∈ ranges.map Prod.fst ++ [stop])
    (le : x ≤ y) : Tiles x y (ranges.filter fun r => x ≤ r.1 ∧ r.1 < y) := by
  have kept : y ∈ (ranges.filter (x ≤ ·.1)).map Prod.fst ++ [stop] := by
    rcases List.mem_append.1 memy with mem | mem
    · obtain ⟨r, found, rfl⟩ := List.mem_map.1 mem
      exact List.mem_append_left _
        (List.mem_map_of_mem (List.mem_filter.2 ⟨found, decide_eq_true le⟩))
    · exact List.mem_append_right _ mem
  have cut := (ti.after memx).before kept
  rw [List.filter_filter] at cut
  rwa [List.filter_congr fun r _ => ?_]
  rw [Bool.decide_and, Bool.and_comm]

/-- No range begins inside another. -/
lemma eq_of_begins (ti : Tiles start stop ranges) {r r' : Nat × Nat} (mem : r ∈ ranges)
    (mem' : r' ∈ ranges) (after : r.1 ≤ r'.1) (before : r'.1 < r.1 + r.2) : r' = r := by
  induction ti with
  | nil => cases mem
  | cons some ti ih =>
    rcases List.mem_cons.1 mem with rfl | mem <;> rcases List.mem_cons.1 mem' with rfl | mem'
    · rfl
    · have := ti.within mem'
      omega
    · have := ti.within mem
      omega
    · exact ih mem mem'

/-- Exactly one range begins in each. -/
lemma countP_begins (ti : Tiles start stop ranges) {r : Nat × Nat} (mem : r ∈ ranges) :
    ranges.countP (fun r' => r.1 ≤ r'.1 ∧ r'.1 < r.1 + r.2) = 1 := by
  induction ti with
  | nil => cases mem
  | @cons start length stop rest some ti ih =>
    rw [List.countP_cons]
    rcases List.mem_cons.1 mem with rfl | mem
    · have none : rest.countP (fun r' => start ≤ r'.1 ∧ r'.1 < start + length) = 0 := by
        refine List.countP_eq_zero.2 fun r' found => ?_
        have := ti.within found
        simp only [decide_eq_true_eq]
        omega
      rw [none, if_pos (by simpa using some)]
    · have := ti.within mem
      rw [ih mem, if_neg (by simp only [decide_eq_true_eq]; omega)]

end Tiles

/-! ## The pieces of a range -/

section Cut

variable {size start stop : Nat}

/-- Nothing is left to cut at the end, or with a size of zero. -/
lemma cutBetween_of_not_lt (not : ¬ (0 < size ∧ start < stop)) :
    cutBetween size start stop = [] := by
  rw [cutBetween, dif_neg not]

/-- No cut is beyond the end. -/
lemma nextCut_le (size start stop : Nat) : nextCut size start stop ≤ stop := Nat.min_le_right _ _

/-- Cutting a stretch tiles it. -/
theorem tiles_cutBetween (pos : 0 < size) (le : start ≤ stop) :
    Tiles start stop (cutBetween size start stop) := by
  fun_induction cutBetween size start stop with
  | case1 start h next ih =>
    have lt : start < next := lt_nextCut h.1 h.2
    refine .cons (by omega) ?_
    rw [Nat.add_sub_cancel' (Nat.le_of_lt lt)]
    exact ih (nextCut_le ..)
  | case2 start h =>
    obtain rfl : start = stop := by omega
    exact .nil

/-- Where a piece is cut that begins at a multiple of the block size. -/
lemma nextCut_of_dvd (pos : 0 < size) (whole : size ∣ start) :
    nextCut size start stop = min (start + size) stop := by
  obtain ⟨k, rfl⟩ := whole
  rw [nextCut, Nat.mul_div_cancel_left k pos, Nat.add_mul, Nat.one_mul, Nat.mul_comm k]

/-- No piece is longer than a block if they begin at a multiple of its size. -/
theorem length_le_of_cut (whole : size ∣ start) :
    ∀ r ∈ cutBetween size start stop, r.2 ≤ size := by
  fun_induction cutBetween size start stop with
  | case1 start h next ih =>
    have cut : next = min (start + size) stop := nextCut_of_dvd h.1 whole
    intro r mem
    rcases List.mem_cons.1 mem with rfl | mem
    · omega
    · rcases Nat.le_total (start + size) stop with le | le
      · have whole' : size ∣ next := by
          rw [cut, Nat.min_eq_left le]
          exact Nat.dvd_add whole (Nat.dvd_refl _)
        exact ih whole' r mem
      · rw [cutBetween_of_not_lt (by omega)] at mem
        cases mem
  | case2 => nofun

/-- All pieces but the last are as long as a block if they begin at a multiple of its size. -/
theorem length_eq_of_cut (whole : size ∣ start) :
    ∀ r ∈ (cutBetween size start stop).dropLast, r.2 = size := by
  fun_induction cutBetween size start stop with
  | case1 start h next ih =>
    have cut : next = min (start + size) stop := nextCut_of_dvd h.1 whole
    intro r mem
    rcases Nat.lt_or_ge (start + size) stop with lt | le
    · have more : cutBetween size next stop ≠ [] :=
        (tiles_cutBetween h.1 (nextCut_le ..)).ne_nil (by omega)
      rw [List.dropLast_cons_of_ne_nil more] at mem
      rcases List.mem_cons.1 mem with rfl | mem
      · omega
      · have whole' : size ∣ next := by
          rw [cut, Nat.min_eq_left (Nat.le_of_lt lt)]
          exact Nat.dvd_add whole (Nat.dvd_refl _)
        exact ih whole' r mem
    · rw [cutBetween_of_not_lt (by omega)] at mem
      cases mem
  | case2 => nofun

/-- No piece goes beyond the end. -/
lemma stop_le_of_cut : ∀ r ∈ cutBetween size start stop, r.1 + r.2 ≤ stop := by
  intro r mem
  rcases Nat.eq_zero_or_pos size with rfl | pos
  · rw [cutBetween_of_not_lt (by omega)] at mem
    cases mem
  · rcases Nat.le_total start stop with le | le
    · exact ((tiles_cutBetween pos le).within mem).2.2
    · rw [cutBetween_of_not_lt (by omega)] at mem
      cases mem

end Cut

/-- The offset and the length of a piece. -/
def Piece.range (p : Piece) : Nat × Nat := (p.offset.toNat, p.length.toNat)

/-- No number of a cut is past a word. -/
theorem ranges_cut (start length size : UInt64) :
    (Piece.cut start length size).map Piece.range =
      cutBetween size.toNat start.toNat (rangeEnd start length).toNat := by
  rw [Piece.cut, List.map_map]
  refine (List.map_congr_left fun r mem => ?_).trans (List.map_id _)
  have before := stop_le_of_cut r mem
  have word := (rangeEnd start length).toNat_lt
  refine Prod.ext ?_ ?_
  · exact UInt64.toNat_ofNat_of_lt' (by rw [UInt64.size]; omega)
  · exact UInt64.toNat_ofNat_of_lt' (by rw [UInt64.size]; omega)

/-- The pieces of the first `length` bytes. -/
lemma rangeEnd_zero (length : UInt64) : rangeEnd 0 length = length := by
  rw [rangeEnd, satAdd_comm, satAdd_zero]

end JobCluster.File
