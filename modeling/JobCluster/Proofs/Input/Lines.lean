import JobCluster.Input.Reading
import JobCluster.Proofs.File.Piece
import Mathlib.Algebra.GroupWithZero.Nat
import Mathlib.Data.List.Range
import Mathlib.Tactic.SplitIfs

/-!
# Lines and records

The lines of bytes, as ranges (`linesFrom`), lie side by side; a newline ends a line and nothing
else does, so a line begins at the start and right after each newline (`starts_linesFrom`).
`countLines` counts them (`countLines_eq_length`).

The records of a range of bytes are the lines of the bytes in it (`recordsOf`). Where ranges tile
the bytes, their records begin where lines begin, and where a range begins in the middle of a line
(`countP_records`).
-/

namespace JobCluster.Input

open JobCluster.File

/-- The lines of bytes that lie from a place on. The last one may have no newline. -/
def linesFrom (start : Nat) : List UInt8 → List (Nat × Nat)
  | [] => []
  | b :: bs =>
    if b = newline then (start, 1) :: linesFrom (start + 1) bs
    else match linesFrom (start + 1) bs with
      | [] => [(start, 1)]
      | (_, length) :: rest => (start, length + 1) :: rest

/-- Whether a line ends right before a place. -/
def endsBefore (bytes : List UInt8) (x : Nat) : Bool := x ≠ 0 ∧ bytes[x - 1]? = some newline

variable {bytes bs : List UInt8} {start stop : Nat} {ranges : List (Nat × Nat)}

/-- The lines of a text tile it. -/
theorem tiles_linesFrom (e : start + bs.length = stop) : Tiles start stop (linesFrom start bs) := by
  induction bs generalizing start with
  | nil => exact e ▸ .nil
  | cons b bs ih =>
    have rest : Tiles (start + 1) stop (linesFrom (start + 1) bs) :=
      ih (by rw [← e, List.length_cons]; omega)
    rw [linesFrom]
    split_ifs with ended
    · exact .cons Nat.one_pos rest
    · -- the first line of the rest begins one byte earlier
      cases lines : linesFrom (start + 1) bs with
      | nil => exact .cons Nat.one_pos (lines ▸ rest)
      | cons line lines' =>
        rw [lines] at rest
        cases rest with
        | @cons _ length _ _ _ rest =>
          have same : start + 1 + length = start + (length + 1) := by omega
          exact .cons (Nat.succ_pos length) (same ▸ rest)

/-- Past the start, only the ends of lines start a new one. -/
lemma filter_past (start n : Nat) (ends : Nat → Bool) :
    (List.range' (start + 1) n).filter (fun x => x = start ∨ ends x) =
      (List.range' (start + 1) n).filter ends := by
  refine List.filter_congr fun x mem => ?_
  have ne : x ≠ start := by
    have := List.mem_range'_1.1 mem
    omega
  simp [ne]

/-- A line begins at the start and right after each newline. `ends` tells where lines end, from the
bytes themselves or from a longer list that they are part of. -/
theorem starts_linesFrom {ends : Nat → Bool}
    (told : ∀ i, (lt : i < bs.length) → ends (start + i + 1) = decide (bs[i] = newline)) :
    (linesFrom start bs).map Prod.fst =
      (List.range' start bs.length).filter fun x => x = start ∨ ends x := by
  -- a byte starts a line of its own when the one before it ended a line
  induction bs generalizing start with
  | nil => rfl
  | cons b bs ih =>
    have here : ends (start + 1) = decide (b = newline) := told 0 (Nat.succ_pos _)
    have rest := @ih (start + 1) fun i lt => by
      have lt' : i + 1 < (b :: bs).length := Nat.succ_lt_succ lt
      rw [← List.getElem_cons_succ b bs i lt', ← told (i + 1) lt']
      congr 1
      omega
    rw [linesFrom, List.length_cons, List.range'_succ, List.filter_cons_of_pos (by simp),
      filter_past]
    cases bs with
    | nil => split_ifs <;> rfl
    | cons c cs =>
      rw [List.length_cons, List.range'_succ] at rest ⊢
      rw [List.filter_cons_of_pos (by simp), filter_past] at rest
      split_ifs with ended
      · rw [List.map_cons, rest, List.filter_cons_of_pos (here.trans (decide_eq_true ended))]
      · rw [List.filter_cons_of_neg (by rw [here]; simpa using ended)]
        cases lines : linesFrom (start + 1) (c :: cs) with
        | nil =>
          rw [lines] at rest
          cases rest
        | cons line lines' =>
          rw [lines, List.map_cons] at rest
          rw [List.map_cons, (List.cons.inj rest).2]

/-! ## Counting lines -/

/-- Each newline ends a line, and a last line may have none. -/
lemma length_linesFrom (start : Nat) (bs : List UInt8) : (linesFrom start bs).length =
    if (bs.getLast?.map (· != newline)).getD false then bs.count newline + 1
    else bs.count newline := by
  induction bs generalizing start with
  | nil => rfl
  | cons b bs ih =>
    have rest := ih (start + 1)
    rw [linesFrom, List.count_cons]
    cases bs with
    | nil =>
      by_cases ended : b = newline
      · simp [ended, linesFrom]
      · simp [ended, linesFrom]
    | cons c cs =>
      rw [List.getLast?_cons_cons]
      by_cases ended : b = newline
      · rw [if_pos ended, List.length_cons, rest, if_pos (beq_iff_eq.2 ended)]
        split_ifs <;> rfl
      · have other : ¬ (b == newline) = true := by simpa using ended
        simp only [if_neg ended, if_neg other, Nat.add_zero, ← rest]
        have tiles : Tiles (start + 1) _ (linesFrom (start + 1) (c :: cs)) := tiles_linesFrom rfl
        cases lines : linesFrom (start + 1) (c :: cs) with
        | nil => exact absurd lines (tiles.ne_nil (by simp))
        | cons => rfl

/-- As many lines are counted as there are. -/
theorem countLines_eq_length (c : Content) (start : Nat) :
    countLines c = (linesFrom start c.toList).length := by
  obtain ⟨bytes, zeros⟩ := c
  have none : List.count newline (List.replicate zeros (0 : UInt8)) = 0 :=
    List.count_eq_zero.2 fun mem => absurd (List.eq_of_mem_replicate mem) (by decide)
  rw [length_linesFrom, Content.toList, List.count_append, none, Nat.add_zero, countLines]
  cases zeros with
  | zero => rw [List.replicate_zero, List.append_nil]; rfl
  | succ n =>
    have last : (bytes ++ List.replicate (n + 1) (0 : UInt8)).getLast? = some 0 := by
      rw [List.replicate_succ', ← List.append_assoc, List.getLast?_concat]
    rw [last]
    rfl

/-! ## The records of a range -/

/-- The records of a range of bytes. -/
def recordsOf (bytes : List UInt8) (r : Nat × Nat) : List (Nat × Nat) :=
  linesFrom r.1 ((bytes.drop r.1).take r.2)

/-- The records of the whole text are its lines. -/
lemma recordsOf_whole (bytes : List UInt8) :
    recordsOf bytes (0, bytes.length) = linesFrom 0 bytes := by
  rw [recordsOf, List.drop_zero, List.take_length]

variable {r : Nat × Nat}

/-- The records of a range tile it. -/
lemma tiles_recordsOf (within : r.1 + r.2 ≤ bytes.length) :
    Tiles r.1 (r.1 + r.2) (recordsOf bytes r) := by
  refine tiles_linesFrom ?_
  rw [List.length_take, List.length_drop]
  omega

/-- A record starts with the range or after the end of a line. -/
lemma starts_recordsOf (within : r.1 + r.2 ≤ bytes.length) :
    (recordsOf bytes r).map Prod.fst =
      (List.range' r.1 r.2).filter fun x => x = r.1 ∨ endsBefore bytes x := by
  have all : ((bytes.drop r.1).take r.2).length = r.2 := by
    rw [List.length_take, List.length_drop]
    omega
  have told : ∀ i, (lt : i < ((bytes.drop r.1).take r.2).length) →
      endsBefore bytes (r.1 + i + 1) = decide (((bytes.drop r.1).take r.2)[i] = newline) := by
    intro i lt
    have inside : r.1 + i < bytes.length := by omega
    rw [endsBefore, Nat.add_sub_cancel, List.getElem?_eq_getElem inside, List.getElem_take,
      List.getElem_drop]
    simp
  rw [recordsOf, starts_linesFrom told, all]

/-- Where records begin: right after newlines, and where the ranges begin. -/
lemma countP_starts (ti : Tiles start stop ranges) (within : stop ≤ bytes.length) (p : Nat → Bool) :
    (ranges.flatMap (recordsOf bytes)).countP (fun r => p r.1) =
      (List.range' start (stop - start)).countP (fun x => endsBefore bytes x && p x) +
        ranges.countP (fun r => ! endsBefore bytes r.1 && p r.1) := by
  induction ti with
  | nil => simp
  | @cons start length stop rest some ti ih =>
    have le := ti.le
    -- the first range has a record at its start in any case, and one more after each end of a line
    have first : (recordsOf bytes (start, length)).countP (fun r => p r.1) =
        (List.range' start length).countP (fun x => endsBefore bytes x && p x) +
          if ! endsBefore bytes start && p start then 1 else 0 := by
      obtain ⟨k, rfl⟩ := Nat.exists_eq_succ_of_ne_zero (Nat.pos_iff_ne_zero.1 some)
      have starts := @starts_recordsOf bytes (start, k + 1) (by simp only; omega)
      rw [← Function.comp_def p Prod.fst, ← List.countP_map, starts, List.range'_succ,
        List.filter_cons_of_pos (by simp), filter_past, List.countP_cons, List.countP_cons,
        List.countP_filter, Nat.add_assoc]
      congr 1
      · exact List.countP_congr fun x _ => by rw [Bool.and_comm]
      · cases endsBefore bytes start <;> simp
    have range : List.range' start (stop - start) =
        List.range' start length ++ List.range' (start + length) (stop - (start + length)) := by
      rw [List.range'_append_1]
      congr 1
      omega
    rw [List.flatMap_cons, List.countP_append, first, ih within, List.countP_cons, range,
      List.countP_append]
    dsimp only
    omega

/-- The records of ranges that tile the bytes begin where lines begin, and where a range but the
first begins in the middle of a line. -/
theorem countP_records (ti : Tiles 0 bytes.length ranges) (some : bytes ≠ []) (p : Nat → Bool) :
    (ranges.flatMap (recordsOf bytes)).countP (fun r => p r.1) =
      (linesFrom 0 bytes).countP (fun r => p r.1) +
        ranges.tail.countP (fun r => ! endsBefore bytes r.1 && p r.1) := by
  have some' : 0 < bytes.length := List.length_pos_iff.2 some
  have whole : Tiles 0 bytes.length [(0, bytes.length)] :=
    .cons some' (by rw [Nat.zero_add]; exact .nil)
  have lines := countP_starts whole (Nat.le_refl _) p
  rw [List.flatMap_singleton, recordsOf_whole, List.countP_singleton] at lines
  rw [countP_starts ti (Nat.le_refl _) p, lines, Nat.add_assoc]
  obtain ⟨r, rest, rfl⟩ := List.exists_cons_of_ne_nil (ti.ne_nil some')
  rw [List.countP_cons, ti.head_fst, List.tail_cons, Nat.add_comm (List.countP _ rest)]

/-- A line starts with the text or after the end of another. -/
lemma mem_starts {x : Nat} : x ∈ (linesFrom 0 bytes).map Prod.fst ↔
    x < bytes.length ∧ (x = 0 ∨ endsBefore bytes x) := by
  rw [← recordsOf_whole, starts_recordsOf (Nat.le_of_eq (Nat.zero_add _)), List.mem_filter,
    List.mem_range'_1]
  simp

section Cut

variable (ti : Tiles 0 bytes.length ranges)

include ti

/-- The records of ranges that tile the text tile it too. -/
lemma tiles_records : Tiles 0 bytes.length (ranges.flatMap (recordsOf bytes)) :=
  ti.flatMap fun _ mem => tiles_recordsOf (ti.within mem).2.2

/-- Records begin wherever lines do. -/
lemma starts_subset :
    (linesFrom 0 bytes).map Prod.fst ⊆ (ranges.flatMap (recordsOf bytes)).map Prod.fst := by
  intro x mem
  obtain ⟨line, found, rfl⟩ := List.mem_map.1 mem
  have some : bytes ≠ [] := by
    rintro rfl
    cases found
  have more := countP_records ti some (· == line.1)
  have one : 0 < (linesFrom 0 bytes).countP (fun r => r.1 == line.1) :=
    List.countP_pos_iff.2 ⟨line, found, beq_self_eq_true _⟩
  obtain ⟨r, found', same⟩ :=
    List.countP_pos_iff.1 (Nat.lt_of_lt_of_le one (more ▸ Nat.le_add_right ..))
  exact List.mem_map.2 ⟨r, found', beq_iff_eq.1 same⟩

variable {line : Nat × Nat} (mem : line ∈ linesFrom 0 bytes)

include mem

/-- The records that begin in a line make it up. -/
theorem tiles_records_in_line :
    Tiles line.1 (line.1 + line.2)
      ((ranges.flatMap (recordsOf bytes)).filter fun r =>
        line.1 ≤ r.1 ∧ r.1 < line.1 + line.2) := by
  have lines : Tiles 0 bytes.length (linesFrom 0 bytes) := tiles_linesFrom (Nat.zero_add _)
  have kept {x : Nat} (bound : x ∈ (linesFrom 0 bytes).map Prod.fst ++ [bytes.length]) :
      x ∈ (ranges.flatMap (recordsOf bytes)).map Prod.fst ++ [bytes.length] :=
    List.mem_append.2 ((List.mem_append.1 bound).imp_left fun mem => starts_subset ti mem)
  exact (tiles_records ti).between (kept (List.mem_append_left _ (List.mem_map_of_mem mem)))
    (kept (lines.end_mem mem)) (Nat.le_add_right ..)

/-- A line has one record more than ranges begin inside it. -/
theorem countP_records_in_line :
    (ranges.flatMap (recordsOf bytes)).countP (fun r =>
        line.1 ≤ r.1 ∧ r.1 < line.1 + line.2) =
      1 + ranges.tail.countP fun r => line.1 < r.1 ∧ r.1 < line.1 + line.2 := by
  have lines : Tiles 0 bytes.length (linesFrom 0 bytes) := tiles_linesFrom (Nat.zero_add _)
  have some : bytes ≠ [] := by
    rintro rfl
    cases mem
  have all := countP_records ti some fun x => line.1 ≤ x ∧ x < line.1 + line.2
  rw [all, lines.countP_begins mem]
  refine congrArg _ (List.countP_congr fun r tail => ?_)
  have past := ti.lt_of_mem_tail tail
  have within := lines.within mem
  simp only [Bool.and_eq_true, Bool.not_eq_true', decide_eq_true_eq]
  constructor
  · rintro ⟨middle, after, before⟩
    refine ⟨Nat.lt_of_le_of_ne after fun same => ?_, before⟩
    -- where a line begins after the start, one ends
    rcases (mem_starts.1 (List.mem_map_of_mem mem)).2 with zero | ended
    · omega
    · rw [same, middle] at ended
      cases ended
  · rintro ⟨after, before⟩
    refine ⟨?_, Nat.le_of_lt after, before⟩
    by_contra ended
    rw [Bool.not_eq_false] at ended
    obtain ⟨line', found, same⟩ := List.mem_map.1
      (mem_starts.2 ⟨Nat.lt_of_lt_of_le before within.2.2, .inr ended⟩)
    have equal := lines.eq_of_begins mem found (by omega) (by omega)
    rw [equal] at same
    omega

end Cut

end JobCluster.Input
