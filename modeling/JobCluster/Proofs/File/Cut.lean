import JobCluster.Proofs.File.Piece
import Mathlib.Data.UInt

/-!
# Ranges cut in blocks

`Cuts size start stop ranges` says that ranges tile `[start, stop)`, that they meet at multiples of
the block size only, and that each lies in one block. The pieces of a range are such a cut
(`cuts_cutBetween`) and the only one (`Cuts.eq_cutBetween`). As cuts that meet at a multiple of the
block size make one cut (`Cuts.append`), a range may be cut there first, and each part on its own
(`cutBetween_append`).

The pieces are numbers that happen to fit in words. `Piece.CutsTo` goes through a range in words
alone, where a sum past the largest word or a difference below zero is no word, and where it is not
said that the range ever ends: it does end, and with the pieces (`cutsTo_iff`).
-/

namespace JobCluster.Number

open JobCluster.Text

/-- The sum of two words, if it is a word. -/
def add? (a b : UInt64) : Option UInt64 :=
  if a.toNat + b.toNat ≤ maxWord64 then some (a + b) else none

/-- The difference of two words, if it is a word. -/
def sub? (a b : UInt64) : Option UInt64 := if b ≤ a then some (a - b) else none

/-- The product of two words, or the largest word if the product is past it. -/
def satMul (a b : UInt64) : UInt64 := UInt64.ofNat (min maxWord64 (a.toNat * b.toNat))

/-- The saturating product is the product, up to the largest word. -/
lemma toNat_satMul (a b : UInt64) : (satMul a b).toNat = min maxWord64 (a.toNat * b.toNat) := by
  rw [satMul]
  refine UInt64.toNat_ofNat_of_lt' ?_
  rw [maxWord64, UInt64.size]
  omega

end JobCluster.Number

namespace JobCluster.File

open JobCluster.Number JobCluster.Text

/-- Ranges that lie side by side, meet at multiples of a block size, and lie in one block each. -/
structure Cuts (size start stop : Nat) (ranges : List (Nat × Nat)) : Prop where
  tiles : Tiles start stop ranges
  whole : ∀ r ∈ ranges.tail, size ∣ r.1
  within : ∀ r ∈ ranges, ∃ k, k * size ≤ r.1 ∧ r.1 + r.2 ≤ (k + 1) * size

section Cut

variable {size start middle stop : Nat} {ranges ranges' : List (Nat × Nat)}

/-- A cut before the end is at a multiple of the size. -/
lemma dvd_nextCut (lt : nextCut size start stop < stop) : size ∣ nextCut size start stop := by
  have next : nextCut size start stop = (start / size + 1) * size := by
    rw [nextCut] at lt ⊢
    omega
  rw [next]
  exact Nat.dvd_mul_left size _

/-- The pieces begin at multiples of the block size if the first does. -/
lemma dvd_of_mem_cut (whole : size ∣ start) : ∀ r ∈ cutBetween size start stop, size ∣ r.1 := by
  fun_induction cutBetween size start stop with
  | case1 start h next ih =>
    intro r mem
    rcases List.mem_cons.1 mem with rfl | mem
    · exact whole
    · rcases Nat.lt_or_ge next stop with lt | le
      · exact ih (dvd_nextCut lt) r mem
      · rw [cutBetween_of_not_lt (by omega)] at mem
        cases mem
  | case2 =>
    intro r mem
    cases mem

/-- Every piece but the first starts at a multiple of the size. -/
lemma dvd_of_mem_tail : ∀ r ∈ (cutBetween size start stop).tail, size ∣ r.1 := by
  intro r mem
  rw [cutBetween] at mem
  split at mem
  · rcases Nat.lt_or_ge (nextCut size start stop) stop with lt | le
    · exact dvd_of_mem_cut (dvd_nextCut lt) r mem
    · rw [List.tail_cons, cutBetween_of_not_lt (by omega)] at mem
      cases mem
  · cases mem

/-- No piece crosses a multiple of the size. -/
lemma within_of_mem_cut :
    ∀ r ∈ cutBetween size start stop, ∃ k, k * size ≤ r.1 ∧ r.1 + r.2 ≤ (k + 1) * size := by
  fun_induction cutBetween size start stop with
  | case1 start h next ih =>
    intro r mem
    rcases List.mem_cons.1 mem with rfl | mem
    · have lt : start < next := lt_nextCut h.1 h.2
      have le : next ≤ (start / size + 1) * size := Nat.min_le_left _ _
      refine ⟨start / size, Nat.div_mul_le_self start size, ?_⟩
      show start + (next - start) ≤ _
      omega
    · exact ih r mem
  | case2 =>
    intro r mem
    cases mem

/-- Cutting at multiples cuts a range as it is specified. -/
theorem cuts_cutBetween (pos : 0 < size) (le : start ≤ stop) :
    Cuts size start stop (cutBetween size start stop) where
  tiles := tiles_cutBetween pos le
  whole := dvd_of_mem_tail
  within := within_of_mem_cut

namespace Cuts

/-- The first range of a cut ends where the pieces are cut first. -/
lemma nextCut_eq {length : Nat} (cu : Cuts size start stop ((start, length) :: ranges)) :
    nextCut size start stop = start + length := by
  obtain ⟨ti, whole, within⟩ := cu
  obtain ⟨k, low, high⟩ := within _ List.mem_cons_self
  cases ti with
  | cons some ti =>
    have block : start / size = k := Nat.div_eq_of_lt_le low (by omega)
    rw [nextCut, block]
    cases ti with
    | nil => exact Nat.min_eq_right high
    | cons some' ti' =>
      -- the next range begins at a multiple past the start of this block, so at its end
      obtain ⟨m, multiple⟩ := whole _ List.mem_cons_self
      have past : k * size < m * size := by
        rw [Nat.mul_comm m, ← multiple]
        omega
      have after : (k + 1) * size ≤ m * size :=
        Nat.mul_le_mul_right size (Nat.lt_of_mul_lt_mul_right past)
      rw [Nat.mul_comm m, ← multiple] at after
      have before := ti'.le
      omega

/-- A range is cut in one way. -/
theorem eq_cutBetween (pos : 0 < size) (cu : Cuts size start stop ranges) :
    ranges = cutBetween size start stop := by
  have ti := cu.tiles
  induction ti with
  | nil => exact (cutBetween_of_not_lt (by omega)).symm
  | @cons start length stop rest some ti ih =>
    have next := cu.nextCut_eq
    have lt : start < stop := by
      have := ti.le
      omega
    have rest_cut : Cuts size (start + length) stop rest :=
      ⟨ti, fun r mem => cu.whole r (List.mem_of_mem_tail mem),
        fun r mem => cu.within r (List.mem_cons_of_mem _ mem)⟩
    rw [cutBetween, dif_pos ⟨pos, lt⟩, next]
    show _ = (start, start + length - start) :: cutBetween size (start + length) stop
    rw [Nat.add_sub_cancel_left, ← ih rest_cut]

/-- Cuts that meet at a multiple of the block size. -/
lemma append (cu : Cuts size start middle ranges) (cu' : Cuts size middle stop ranges')
    (whole : size ∣ middle) : Cuts size start stop (ranges ++ ranges') where
  tiles := cu.tiles.append cu'.tiles
  whole r mem := by
    cases ranges with
    | nil => exact cu'.whole r mem
    | cons first ranges =>
      rcases List.mem_append.1 mem with mem | mem
      · exact cu.whole r mem
      · cases ranges' with
        | nil => cases mem
        | cons first' ranges' =>
          rcases List.mem_cons.1 mem with rfl | mem
          · rw [cu'.tiles.head_fst]
            exact whole
          · exact cu'.whole r mem
  within r mem := (List.mem_append.1 mem).elim (cu.within r) (cu'.within r)

end Cuts

/-- A range may be cut at a multiple of the block size first. -/
theorem cutBetween_append (pos : 0 < size) (whole : size ∣ middle) (after : start ≤ middle)
    (before : middle ≤ stop) :
    cutBetween size start stop = cutBetween size start middle ++ cutBetween size middle stop :=
  (((cuts_cutBetween pos after).append (cuts_cutBetween pos before) whole).eq_cutBetween pos).symm

end Cut

/-! ## Pieces in words -/

/-- From an offset on, a range is cut in words alone, and this comes to an end with these pieces. No
pass goes on where the number of the next block or the length of the piece is no word. -/
inductive Piece.CutsTo (size stop : UInt64) : UInt64 → List Piece → Prop where
  | done {offset} :
    ¬offset < stop →
    CutsTo size stop offset []
  | pass {offset block length rest} :
    offset < stop →
    add? (offset / size) 1 = some block →
    sub? (min (satMul block size) stop) offset = some length →
    CutsTo size stop (min (satMul block size) stop) rest →
    CutsTo size stop offset (⟨offset, length⟩ :: rest)

/-- There is one way to go on, and so one end. -/
lemma Piece.CutsTo.unique {size stop offset : UInt64} {pieces pieces' : List Piece}
    (cut : CutsTo size stop offset pieces) (cut' : CutsTo size stop offset pieces') :
    pieces = pieces' := by
  induction cut generalizing pieces' with
  | done past =>
    cases cut' with
    | done => rfl
    | pass inside => exact absurd inside past
  | pass inside number long _ ih =>
    cases cut' with
    | done past => exact absurd inside past
    | pass _ number' long' rest' =>
      cases number.symm.trans number'
      cases long.symm.trans long'
      rw [ih rest']

section Words

variable {start length size middle : UInt64}

/-- The end of a range saturates at the largest word. -/
lemma toNat_rangeEnd (start length : UInt64) :
    (rangeEnd start length).toNat = min maxWord64 (start.toNat + length.toNat) :=
  toNat_satAdd start length

/-- Before the end of a range, the number of the next block is a word. -/
lemma add?_block {offset stop : UInt64} (lt : offset < stop) (size : UInt64) :
    ∃ block, add? (offset / size) 1 = some block ∧
      block.toNat = offset.toNat / size.toNat + 1 := by
  have lt := UInt64.lt_iff_toNat_lt.1 lt
  have word := toNat_le_maxWord64 stop
  have le : offset.toNat / size.toNat ≤ offset.toNat := Nat.div_le_self _ _
  have one : (1 : UInt64).toNat = 1 := rfl
  have sum : (offset / size).toNat + (1 : UInt64).toNat ≤ maxWord64 := by
    rw [UInt64.toNat_div, one]
    omega
  refine ⟨offset / size + 1, if_pos sum, ?_⟩
  rw [maxWord64, UInt64.size] at sum
  rw [UInt64.toNat_add, Nat.mod_eq_of_lt (by omega), UInt64.toNat_div, one]

/-- A multiple that stops at the largest word is cut off by the end of the range all the same. -/
lemma toNat_min_satMul {block offset stop : UInt64}
    (next : block.toNat = offset.toNat / size.toNat + 1) :
    (min (satMul block size) stop).toNat = nextCut size.toNat offset.toNat stop.toNat := by
  have word := toNat_le_maxWord64 stop
  rw [UInt64.toNat_min, toNat_satMul, next, nextCut]
  omega

/-- The loop over words yields the pieces of the cut over numbers. -/
lemma cutsTo_cutBetween (stop offset : UInt64) (pos : 0 < size) :
    Piece.CutsTo size stop offset
      ((cutBetween size.toNat offset.toNat stop.toNat).map fun r => ⟨.ofNat r.1, .ofNat r.2⟩) := by
  generalize here : offset.toNat = start
  fun_induction cutBetween size.toNat start stop.toNat generalizing offset with
  | case1 start h next ih =>
    subst here
    have inside : offset < stop := UInt64.lt_iff_toNat_lt.2 h.2
    obtain ⟨block, number, known⟩ := add?_block inside size
    have cut : (min (satMul block size) stop).toNat = next := toNat_min_satMul known
    have le : offset ≤ min (satMul block size) stop := by
      rw [UInt64.le_iff_toNat_le, cut]
      exact Nat.le_of_lt (lt_nextCut h.1 h.2)
    have length : (min (satMul block size) stop - offset).toNat = next - offset.toNat := by
      rw [UInt64.toNat_sub_of_le _ _ le, cut]
    rw [List.map_cons, ← length, UInt64.ofNat_toNat, UInt64.ofNat_toNat]
    exact .pass inside number (if_pos le) (ih _ cut)
  | case2 start h =>
    refine .done fun inside => h ⟨UInt64.lt_iff_toNat_lt.1 pos, ?_⟩
    rw [← here]
    exact UInt64.lt_iff_toNat_lt.1 inside

/-- In words alone, cutting a range comes to an end, and only with its pieces. -/
theorem cutsTo_iff (pos : 0 < size) {pieces : List Piece} :
    Piece.CutsTo size (rangeEnd start length) start pieces ↔
      pieces = Piece.cut start length size := by
  have ends : Piece.CutsTo size (rangeEnd start length) start (Piece.cut start length size) :=
    cutsTo_cutBetween _ _ pos
  constructor
  · intro cut
    exact cut.unique ends
  · rintro rfl
    exact ends

/-- A range of bytes may be cut at a multiple of the block size first. -/
lemma cut_append (pos : 0 < size) (whole : size.toNat ∣ middle.toNat) (after : start ≤ middle)
    (before : middle.toNat ≤ start.toNat + length.toNat) :
    Piece.cut start length size =
      Piece.cut start (middle - start) size ++
        Piece.cut middle (length - (middle - start)) size := by
  have word := toNat_le_maxWord64 middle
  have le := UInt64.le_iff_toNat_le.1 after
  have first : (middle - start).toNat = middle.toNat - start.toNat :=
    UInt64.toNat_sub_of_le middle start after
  have rest : (length - (middle - start)).toNat =
      length.toNat - (middle.toNat - start.toNat) := by
    rw [UInt64.toNat_sub_of_le _ _ (by rw [UInt64.le_iff_toNat_le, first]; omega), first]
  have stopFirst : (rangeEnd start (middle - start)).toNat = middle.toNat := by
    rw [toNat_rangeEnd, first]
    omega
  have stopRest : rangeEnd middle (length - (middle - start)) = rangeEnd start length := by
    rw [← UInt64.toNat_inj, toNat_rangeEnd, toNat_rangeEnd, rest]
    congr 1
    omega
  have inside : middle.toNat ≤ (rangeEnd start length).toNat := by
    rw [toNat_rangeEnd]
    exact Nat.le_min.2 ⟨word, before⟩
  rw [Piece.cut, Piece.cut, Piece.cut, stopFirst, stopRest, ← List.map_append,
    ← cutBetween_append (UInt64.lt_iff_toNat_lt.1 pos) whole le inside]

end Words

/-- A range is cut at the multiples of the block size and nowhere else, up to its end or the largest
word. Nothing overflows on the way. Where it is cut at a multiple first, its pieces are those of the
two parts. -/
theorem cut_in_blocks {size : UInt64} (pos : 0 < size) (start length : UInt64) :
    (∀ pieces, Piece.CutsTo size (rangeEnd start length) start pieces ↔
      pieces = Piece.cut start length size) ∧
    Cuts size.toNat start.toNat (min maxWord64 (start.toNat + length.toNat))
      ((Piece.cut start length size).map Piece.range) ∧
    ∀ middle : UInt64, size.toNat ∣ middle.toNat → start ≤ middle →
      middle.toNat ≤ start.toNat + length.toNat →
      Piece.cut start length size =
        Piece.cut start (middle - start) size ++
          Piece.cut middle (length - (middle - start)) size := by
  refine ⟨fun pieces => cutsTo_iff pos, ?_, fun middle => cut_append pos⟩
  have le : start.toNat ≤ (rangeEnd start length).toNat := by
    rw [toNat_rangeEnd]
    exact Nat.le_min.2 ⟨toNat_le_maxWord64 start, Nat.le_add_right _ _⟩
  rw [ranges_cut, ← toNat_rangeEnd]
  exact cuts_cutBetween (UInt64.lt_iff_toNat_lt.1 pos) le

/-- A range that ends past the largest word: neither its first block nor its last is whole. -/
theorem sample_cut_in_blocks :
    (0 : UInt64) < 7 ∧
    Piece.CutsTo 7 18446744073709551615 18446744073709551604
      [⟨18446744073709551604, 3⟩, ⟨18446744073709551607, 7⟩, ⟨18446744073709551614, 1⟩] ∧
    Cuts 7 18446744073709551604 18446744073709551615
      [(18446744073709551604, 3), (18446744073709551607, 7), (18446744073709551614, 1)] ∧
    Piece.cut 18446744073709551604 100 7 =
      Piece.cut 18446744073709551604 10 7 ++ Piece.cut 18446744073709551614 90 7 := by
  have pieces : Piece.cut 18446744073709551604 100 7 =
      [⟨18446744073709551604, 3⟩, ⟨18446744073709551607, 7⟩, ⟨18446744073709551614, 1⟩] := by
    decide +kernel
  obtain ⟨words, cuts, append⟩ :=
    cut_in_blocks (show (0 : UInt64) < 7 by decide) 18446744073709551604 100
  rw [pieces] at words cuts
  exact ⟨by decide, (words _).2 rfl, cuts,
    append 18446744073709551614 (by decide) (by decide) (by decide)⟩

end JobCluster.File
