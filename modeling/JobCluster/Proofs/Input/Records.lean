import JobCluster.Proofs.File.Tree
import JobCluster.Proofs.Input.Lines
import JobCluster.Proofs.Input.Splits

/-!
# What reading the splits of a file counts

A split is read to the end of the file at most, and its records are the lines of what was read
(`readSplit_file`). The splits of a file are read as a whole: every byte is counted once, and every
line once more than splits begin inside it (`SplitsRead`, `splitsRead_of_splitsOf`).
-/

namespace JobCluster

open JobCluster.File

namespace File.Content

/-- The size of a content is the number of its bytes. -/
lemma size_eq_length (c : Content) : c.size = c.toList.length := by
  rw [size, toList, List.length_append, List.length_replicate]

/-- A part of a content holds the bytes of a range, up to the end. -/
lemma toList_slice (c : Content) (offset length : Nat) :
    (c.slice offset length).toList = (c.toList.drop offset).take length := by
  have rest : length - ((c.bytes.drop offset).take length).length =
      length - (c.bytes.drop offset).length := by
    rw [List.length_take]
    omega
  simp only [slice, toList, List.drop_append, List.take_append, List.drop_replicate,
    List.take_replicate, rest, Nat.min_comm]

end File.Content

/-- The bytes that a map has read. -/
def Counters.readBytes (k : Counters) : Nat := (k.value fileSystemGroup bytesRead).toNat

/-- The records that a map has read. -/
def Counters.readRecords (k : Counters) : Nat := (k.value taskGroup mapInputRecords).toNat

namespace Input

open JobCluster.Counters JobCluster.Number

variable {t : Tree} {c : Content} {s : InputSplit} {n : Nat}

/-- A first count is the number that was added, if that is a word. -/
lemma toNat_value_increment {k : Counters} {group name : String} (none : k.value group name = 0)
    (small : n < 2 ^ 64) : ((k.increment group name (.ofNat n)).value group name).toNat = n := by
  rw [value_increment, if_pos ⟨rfl, rfl⟩, none, satAdd_comm, satAdd_zero]
  exact UInt64.toNat_ofNat_of_lt' small

/-- The bytes that are read are counted exactly. -/
lemma readBytes_readCounters (small : c.size < 2 ^ 64) : (readCounters c).readBytes = c.size := by
  rw [readBytes, readCounters, value_increment, if_neg (by decide),
    toNat_value_increment (value_empty ..) small]

/-- The lines that are read are counted exactly. -/
lemma readRecords_readCounters (small : countLines c < 2 ^ 64) :
    (readCounters c).readRecords = countLines c := by
  refine toNat_value_increment ?_ small
  rw [value_increment, if_neg (by decide), value_empty]

/-- How many places of the first `n` lie between two. -/
lemma countP_range (n start stop : Nat) :
    (List.range n).countP (fun x => start ≤ x ∧ x < stop) = min n stop - start := by
  induction n with
  | zero => simp
  | succ n ih =>
    rw [List.range_succ, List.countP_append, ih, List.countP_singleton]
    split_ifs with within
    · simp only [decide_eq_true_eq] at within
      omega
    · simp only [decide_eq_true_eq] at within
      omega

/-- How a split of a file is read. -/
theorem readSplit_file (told : t.status s.path = .ok (.file c)) (low : s.offset.toNat < 2 ^ 63) :
    ∃ k, readSplit t s = .ok k ∧
      k.readBytes = (List.range c.size).countP (fun x =>
        s.offset.toNat ≤ x ∧ x < s.offset.toNat + s.length.toNat) ∧
      k.readRecords = (recordsOf c.toList s.range).length := by
  have word := s.length.toNat_lt
  have bytes : (c.slice s.offset.toNat s.length.toNat).toList =
      (c.toList.drop s.offset.toNat).take s.length.toNat := c.toList_slice ..
  have size : (c.slice s.offset.toNat s.length.toNat).size =
      min s.length.toNat (c.size - s.offset.toNat) := by
    rw [Content.size_eq_length, bytes, List.length_take, List.length_drop, ← Content.size_eq_length]
  have lines : countLines (c.slice s.offset.toNat s.length.toNat) =
      (recordsOf c.toList s.range).length := by
    rw [countLines_eq_length _ s.offset.toNat, bytes]
    rfl
  -- no text has more lines than bytes, so the count of lines is a word too
  have few : countLines (c.slice s.offset.toNat s.length.toNat) < 2 ^ 64 := by
    have tiles : Tiles 0 _ (linesFrom 0 (c.slice s.offset.toNat s.length.toNat).toList) :=
      tiles_linesFrom rfl
    have few := tiles.length_le
    rw [← countLines_eq_length, Nat.zero_add, ← Content.size_eq_length, size] at few
    omega
  have low' : ¬ maxOffset < s.offset.toNat := by
    have : maxOffset = 2 ^ 63 - 1 := rfl
    omega
  refine ⟨readCounters (c.slice s.offset.toNat s.length.toNat), ?_, ?_, ?_⟩
  · rw [readSplit, told]
    exact if_neg low'
  · rw [readBytes_readCounters (by omega), size, countP_range]
    omega
  · rw [readRecords_readCounters few, lines]

/-! ## All splits of a file -/

/-- The records of splits. -/
def recordsIn (c : Content) (splits : List InputSplit) : List (Nat × Nat) :=
  splits.flatMap fun s => recordsOf c.toList s.range

/-- What the splits of a file count when each is read: every byte is read once, the records of all
splits lie side by side, and a line has one more of them than splits begin inside it. -/
structure SplitsRead (t : Tree) (c : Content) (splits : List InputSplit)
    (counts : List Counters) : Prop where
  read : List.Forall₂ (fun s k => readSplit t s = .ok k ∧ k.readBytes = s.length.toNat ∧
    k.readRecords = (recordsOf c.toList s.range).length) splits counts
  bytes : (counts.map Counters.readBytes).sum = c.size
  records : (counts.map Counters.readRecords).sum = (linesFrom 0 c.toList).length +
    splits.tail.countP fun s => c.toList[s.offset.toNat - 1]? ≠ some newline
  whole : Tiles 0 c.size (recordsIn c splits)
  lines : ∀ line ∈ linesFrom 0 c.toList,
    Tiles line.1 (line.1 + line.2)
      ((recordsIn c splits).filter fun r => line.1 ≤ r.1 ∧ r.1 < line.1 + line.2) ∧
    (recordsIn c splits).countP (fun r => line.1 ≤ r.1 ∧ r.1 < line.1 + line.2) =
      1 + splits.tail.countP fun s =>
        line.1 < s.offset.toNat ∧ s.offset.toNat < line.1 + line.2

section Pointwise

variable {α β : Type} {l : List α} {bs : List β}

/-- What is there for each element can be chosen for all. -/
lemma exists_forall₂ {r : α → β → Prop} (each : ∀ a ∈ l, ∃ b, r a b) :
    ∃ bs, List.Forall₂ r l bs := by
  induction l with
  | nil => exact ⟨[], .nil⟩
  | cons a l ih =>
    obtain ⟨b, here⟩ := each a List.mem_cons_self
    obtain ⟨bs, rest⟩ := ih fun a mem => each a (List.mem_cons_of_mem _ mem)
    exact ⟨b :: bs, .cons here rest⟩

/-- Lists that agree element by element have the same sum. -/
lemma sum_map_eq {f : α → Nat} {g : β → Nat} (same : List.Forall₂ (fun a b => g b = f a) l bs) :
    (bs.map g).sum = (l.map f).sum := by
  induction same with
  | nil => rfl
  | cons here _ ih => rw [List.map_cons, List.map_cons, List.sum_cons, List.sum_cons, here, ih]

end Pointwise

section Splits

variable {splits : List InputSplit}
  (tiles : Tiles 0 c.toList.length (splits.map InputSplit.range))

include tiles

/-- Splits that tile a file have its size together. -/
lemma sum_lengths_of_tiles : (splits.map fun s => s.length.toNat).sum = c.size := by
  have sum := tiles.sum_lengths
  rwa [Nat.zero_add, List.map_map, ← Content.size_eq_length] at sum

/-- There is a record for each line, and for each split but the first that begins inside a line. -/
lemma length_recordsIn (some : c.toList ≠ []) : (recordsIn c splits).length =
    (linesFrom 0 c.toList).length +
      splits.tail.countP fun s => c.toList[s.offset.toNat - 1]? ≠ .some newline := by
  have count := countP_records tiles some fun _ => true
  rw [List.countP_true, List.flatMap_map, ← recordsIn, ← List.map_tail, List.countP_map] at count
  rw [count]
  refine congrArg _ (List.countP_congr fun s mem => ?_)
  have past : 0 < s.offset.toNat := by
    have mem' : s.range ∈ (splits.map InputSplit.range).tail := by
      rw [← List.map_tail]
      exact List.mem_map_of_mem mem
    exact tiles.lt_of_mem_tail mem'
  have cut : endsBefore c.toList s.range.1 =
      decide (c.toList[s.offset.toNat - 1]? = .some newline) := by
    rw [endsBefore]
    exact decide_eq_decide.2 (and_iff_right (Nat.ne_of_gt past))
  rw [Function.comp_apply, cut, Bool.and_true, ← decide_not]

end Splits

/-- The splits of a file can be read, one after the other. -/
theorem splitsRead_of_splitsOf {size : UInt64} {file : FileStatus} {splits : List InputSplit}
    (sp : SplitsOf size file splits) (told : t.status file.path = .ok (.file c))
    (length : file.length.toNat = c.size) (some : 0 < c.size) (small : c.size < 2 ^ 63) :
    ∃ counts, SplitsRead t c splits counts := by
  have tiles : Tiles 0 c.toList.length (splits.map InputSplit.range) := by
    rw [← Content.size_eq_length, ← length]
    exact sp.tiles fun none => by rw [none] at length; exact Nat.ne_of_lt some length
  have some' : c.toList ≠ [] := by
    rw [← List.length_pos_iff, ← Content.size_eq_length]
    exact some
  -- no offset is too large to read from, as the file is not
  have each : ∀ s ∈ splits, ∃ k, readSplit t s = .ok k ∧ k.readBytes = s.length.toNat ∧
      k.readRecords = (recordsOf c.toList s.range).length := by
    intro s mem
    obtain ⟨-, within⟩ := sp.words s mem
    obtain ⟨k, done, bytes, records⟩ :=
      readSplit_file (by rw [sp.path s mem, told]) (show s.offset.toNat < 2 ^ 63 by omega)
    refine ⟨k, done, ?_, records⟩
    rw [bytes, countP_range]
    omega
  obtain ⟨counts, read⟩ := exists_forall₂ each
  have all : recordsIn c splits = (splits.map InputSplit.range).flatMap (recordsOf c.toList) := by
    rw [recordsIn, List.flatMap_map]
  refine ⟨counts, read, ?_, ?_, ?_, fun line mem => ⟨?_, ?_⟩⟩
  · rw [sum_map_eq (read.imp fun s k h => h.2.1), sum_lengths_of_tiles tiles]
  · rw [sum_map_eq (read.imp fun s k h => h.2.2), ← List.length_flatMap, ← recordsIn,
      length_recordsIn tiles some']
  · rw [all, Content.size_eq_length]
    exact tiles_records tiles
  · rw [all]
    exact tiles_records_in_line tiles mem
  · rw [all, countP_records_in_line tiles mem, ← List.map_tail, List.countP_map]
    rfl

/-- What is counted when the splits of a file are read, for the splits of any inputs, for those of
the file as the only input, and for a split of any range. -/
theorem read_splits {path : String} (told : t.status path = .ok (.file c)) :
    (0 < c.size → c.size < 2 ^ 63 → ∀ (fs : FileSystem) (inputs : List String) (size : UInt64)
      (files : List (List FileStatus)), 1 ≤ size →
      List.Forall₂ (fun input found => expandInput fs t input = .ok found) inputs files →
      ∃ parts, computeSplits fs t inputs size = .ok parts.flatten ∧
        List.Forall₂ (fun file splits => file.path = path → file.length.toNat = c.size →
          ∃ counts, SplitsRead t c splits counts) files.flatten parts) ∧
    (0 < c.size → c.size < 2 ^ 63 → ∀ (fs : FileSystem) (input : String) (size : UInt64),
      fs.workingDirectory.Normal → isPattern (fs.pathOf input).toText = false →
      (fs.pathOf input).toText = path → 1 ≤ size →
      ∃ splits counts, computeSplits fs t [input] size = .ok splits ∧
        SplitsRead t c splits counts) ∧
    ∀ s : InputSplit, s.path = path → s.offset.toNat < 2 ^ 63 → ∃ k, readSplit t s = .ok k ∧
      k.readBytes = (List.range c.size).countP (fun x =>
        s.offset.toNat ≤ x ∧ x < s.offset.toNat + s.length.toNat) ∧
      k.readRecords = (recordsOf c.toList s.range).length := by
  refine ⟨fun some small fs inputs size files pos expanded => ?_,
    fun some small fs input size normal plain named pos => ?_, fun s named low => ?_⟩
  · refine ⟨files.flatten.map (fileSplits fs size), ?_, ?_⟩
    · rw [computeSplits_eq_ok expanded, List.flatMap_def]
    · rw [List.forall₂_map_right_iff, List.forall₂_same]
      intro file _ named length
      exact splitsRead_of_splitsOf (splitsOf_fileSplits fs pos file) (named ▸ told) length some
        small
  · -- a plain input that leads to the file is one of its own files
    subst named
    have length : (FileStatus.ofEntry (fs.pathOf input) (.file c)).length.toNat = c.size :=
      FileStatus.toNat_length_ofEntry _ (Nat.lt_trans small (by decide))
    obtain ⟨counts, read⟩ := splitsRead_of_splitsOf
      (splitsOf_fileSplits fs pos (.ofEntry (fs.pathOf input) (.file c)))
      (by rw [FileStatus.path_ofEntry, told]) length some small
    refine ⟨_, counts, computeSplits_one (expandInput_file normal plain told), ?_⟩
    rwa [List.flatMap_singleton]
  · exact readSplit_file (named ▸ told) low

/-- Four lines, the last of them without a newline. Of the cuts after 4 and after 8 bytes, both are
inside lines. -/
def sampleLines : Content := ⟨[97, 98, 10, 99, 100, 10, 10, 120, 121, 122], 0⟩

/-- A tree with a file of these lines. -/
def sampleTree : Tree := ⟨[(["a"], .file sampleLines)]⟩

/-- The splits count ten bytes and six records, as each cut is inside a line; a split that goes
beyond the end of the file is read up to it. -/
theorem sample_read_splits :
    sampleTree.status "/a" = .ok (.file sampleLines) ∧
    (∃ counts : List Counters,
      computeSplits .atRoot sampleTree ["/a"] 4 =
        .ok [⟨"/a", 0, 4, []⟩, ⟨"/a", 4, 4, []⟩, ⟨"/a", 8, 2, []⟩] ∧
      (counts.map Counters.readBytes).sum = 10 ∧
      (counts.map Counters.readRecords).sum = 4 + 2) ∧
    ∃ k, readSplit sampleTree ⟨"/a", 8, 18446744073709551615, []⟩ = .ok k ∧
      k.readBytes = 2 ∧ k.readRecords = 1 := by
  have told : sampleTree.status "/a" = .ok (.file sampleLines) := by
    apply Tree.status_of_walk (by decide) (by decide) (by decide) ["a"]
    simp +decide [Tree.walk, show walkSegments "/a" = ["a"] by decide,
      show sampleTree.entry? ["a"] = some (.file sampleLines) from rfl]
  have pathOf : FileSystem.atRoot.pathOf "/a" = ⟨["a"]⟩ := by decide
  have made : computeSplits .atRoot sampleTree ["/a"] 4 =
      .ok (fileSplits .atRoot 4 ⟨"/a", true, 10, false⟩) := by
    rw [computeSplits_one (expandInput_file FileSystem.normal_atRoot (by decide)
      (by rw [pathOf]; exact told)), pathOf, List.flatMap_singleton]
    rfl
  have cut : fileSplits .atRoot 4 ⟨"/a", true, 10, false⟩ =
      [⟨"/a", 0, 4, []⟩, ⟨"/a", 4, 4, []⟩, ⟨"/a", 8, 2, []⟩] := by decide +kernel
  obtain ⟨-, alone, any⟩ := read_splits told
  obtain ⟨splits, counts, made', all⟩ := alone (by decide) (by decide) .atRoot "/a" 4
    FileSystem.normal_atRoot (by decide) (by decide) (by decide)
  cases made'.symm.trans (made.trans (congrArg _ cut))
  obtain ⟨k, read, bytes, records⟩ := any ⟨"/a", 8, 18446744073709551615, []⟩ rfl (by decide)
  rw [countP_range] at bytes
  exact ⟨told, ⟨counts, made', all.bytes, all.records.trans (by decide)⟩,
    k, read, bytes, records.trans (by decide)⟩

end Input

end JobCluster
