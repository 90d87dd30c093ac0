import JobCluster.Input.Splits
import JobCluster.Proofs.File.Piece
import JobCluster.Proofs.File.System
import Mathlib.Data.List.Forall2

/-!
# The splits of inputs

The splits of a file lie side by side from its start to its end, each as long as asked for but for
the last, which may be shorter; an empty file has one empty split (`SplitsOf`,
`splitsOf_fileSplits`). Inputs are expanded one after another, and one that fails lets all fail
(`computeSplits_eq_ok`, `computeSplits_eq_error`).

What an input expands to that is no pattern is told by the status of its path (`expandInput_file`,
`expandInput_directory`, `expandInput_missing`, `expandInput_fault`).
-/

namespace JobCluster

open JobCluster.File

/-- The range of a split: its offset and its length. -/
def InputSplit.range (s : InputSplit) : Nat × Nat := (s.offset.toNat, s.length.toNat)

namespace Input

/-! ## Lists of steps that may fail -/

section Steps

variable {ε ε' α β : Type} {f : α → Except ε β}

/-- A mapped failure is no success. -/
lemma mapError_eq_ok {g : ε → ε'} {x : Except ε α} {a : α} : x.mapError g = .ok a ↔ x = .ok a := by
  cases x <;> simp [Except.mapError]

/-- Two steps succeed if both do. -/
lemma bind_eq_ok {x : Except ε α} {b : β} : x >>= f = .ok b ↔ ∃ a, x = .ok a ∧ f a = .ok b := by
  cases x with
  | error e => exact ⟨nofun, nofun⟩
  | ok a => exact ⟨fun done => ⟨a, rfl, done⟩, by rintro ⟨a, ⟨⟩, done⟩; exact done⟩

/-- Steps over a list succeed if each does. -/
lemma mapM_eq_ok {l : List α} {bs : List β} :
    l.mapM f = .ok bs ↔ List.Forall₂ (fun a b => f a = .ok b) l bs := by
  induction l generalizing bs with
  | nil =>
    rw [List.mapM_nil, List.forall₂_nil_left_iff]
    exact ⟨fun same => (Except.ok.inj same).symm, fun none => none ▸ rfl⟩
  | cons a l ih =>
    rw [List.mapM_cons, List.forall₂_cons_left_iff]
    constructor
    · intro done
      rcases head : f a with e | b <;> rw [head] at done
      · cases done
      rcases tail : l.mapM f with e | bs' <;> rw [tail] at done
      · cases done
      cases done
      exact ⟨b, bs', rfl, ih.1 tail, rfl⟩
    · rintro ⟨b, bs', head, tail, rfl⟩
      rw [head, ih.2 tail]
      rfl

/-- Steps over a list fail if one does. -/
lemma mapM_eq_error {l : List α} :
    (∃ e, l.mapM f = .error e) ↔ ∃ a ∈ l, ∃ e, f a = .error e := by
  induction l with
  | nil =>
    constructor
    · rintro ⟨e, failed⟩
      cases failed
    · nofun
  | cons a l ih =>
    rw [List.mapM_cons, List.exists_mem_cons_iff]
    rcases head : f a with e | b
    · exact ⟨fun _ => .inl ⟨e, rfl⟩, fun _ => ⟨e, rfl⟩⟩
    rcases tail : l.mapM f with e | bs
    · exact ⟨fun _ => .inr (ih.1 ⟨e, tail⟩), fun _ => ⟨e, rfl⟩⟩
    · constructor
      · rintro ⟨e, failed⟩
        cases failed
      · rintro (⟨e, failed⟩ | failed)
        · cases failed
        · obtain ⟨e, failed⟩ := ih.2 failed
          cases tail.symm.trans failed

end Steps

/-! ## The splits of one file -/

/-- What the splits of a file are, for a file whose status tells its length. The numbers that a cut
goes through are words, and so are the ends of the splits. -/
structure SplitsOf (size : UInt64) (file : FileStatus) (splits : List InputSplit) : Prop where
  path : ∀ s ∈ splits, s.path = file.path
  empty : file.length = 0 → splits = [⟨file.path, 0, 0, []⟩]
  tiles : file.length ≠ 0 → Tiles 0 file.length.toNat (splits.map InputSplit.range)
  once : ∀ x < file.length.toNat, splits.countP (fun s =>
    s.offset.toNat ≤ x ∧ x < s.offset.toNat + s.length.toNat) = 1
  short : ∀ s ∈ splits, s.length ≤ size
  full : ∀ s ∈ splits.dropLast, s.length = size
  words : ∀ s ∈ splits, s.offset.toNat / size.toNat + 1 < 2 ^ 64 ∧
    s.offset.toNat + s.length.toNat ≤ file.length.toNat

/-- The splits of a file that is not empty are the pieces of its bytes. -/
lemma ranges_fileSplits (fs : FileSystem) (size : UInt64) {file : FileStatus}
    (some : file.length ≠ 0) : (fileSplits fs size file).map InputSplit.range =
      cutBetween size.toNat 0 file.length.toNat := by
  have cut := ranges_cut 0 file.length size
  rw [rangeEnd_zero, UInt64.toNat_zero] at cut
  rw [fileSplits, if_neg some, List.map_map, ← cut]
  rfl

/-- The splits of a file tile it, in order. -/
theorem splitsOf_fileSplits (fs : FileSystem) {size : UInt64} (pos : 1 ≤ size)
    (file : FileStatus) : SplitsOf size file (fileSplits fs size file) := by
  by_cases none : file.length = 0
  · have one : fileSplits fs size file = [⟨file.path, 0, 0, []⟩] := by rw [fileSplits, if_pos none]
    rw [one]
    refine ⟨by simp, fun _ => rfl, fun some => absurd none some, ?_, by simp, by simp, by simp⟩
    intro x lt
    rw [none] at lt
    cases lt
  · -- everything else is read off the tiling by the pieces
    have positive : 0 < size.toNat := UInt64.le_iff_toNat_le.1 pos
    have ranges := ranges_fileSplits fs size none
    have tiles : Tiles 0 file.length.toNat ((fileSplits fs size file).map InputSplit.range) :=
      ranges ▸ tiles_cutBetween positive (Nat.zero_le _)
    have mem {s : InputSplit} (mem : s ∈ fileSplits fs size file) :
        s.range ∈ cutBetween size.toNat 0 file.length.toNat :=
      ranges ▸ List.mem_map_of_mem mem
    refine ⟨?_, fun none' => absurd none' none, fun _ => tiles, ?_, ?_, ?_, ?_⟩
    · intro s found
      rw [fileSplits, if_neg none] at found
      obtain ⟨p, -, rfl⟩ := List.mem_map.1 found
      rfl
    · intro x lt
      have one := tiles.countP_eq_one (Nat.zero_le x) lt
      rwa [List.countP_map] at one
    · intro s found
      exact UInt64.le_iff_toNat_le.2 (length_le_of_cut (Nat.dvd_zero _) _ (mem found))
    · intro s found
      have equal : ∀ r ∈ (cutBetween size.toNat 0 file.length.toNat).dropLast, r.2 = size.toNat :=
        length_eq_of_cut (Nat.dvd_zero _)
      rw [← ranges, ← List.map_dropLast] at equal
      exact UInt64.toNat_inj.1 (equal s.range (List.mem_map_of_mem found))
    · intro s found
      obtain ⟨-, some, stop⟩ := tiles.within (List.mem_map_of_mem found)
      have word := file.length.toNat_lt
      have smaller := Nat.div_le_self s.offset.toNat size.toNat
      simp only [InputSplit.range] at some stop
      omega

/-! ## Inputs -/

section Inputs

variable {fs : FileSystem} {t : Tree} {input : String}

/-- An input that is no pattern expands by what its path leads to. -/
lemma expandInput_of_status {status : FileStatus}
    (plain : isPattern (fs.pathOf input).toText = false)
    (told : fs.status t (fs.pathOf input).toText = .ok status) :
    expandInput fs t input =
      if ! status.isThere then .error (.missing input)
      else if ! status.isDirectory then .ok [status]
      else ((fs.list t (fs.pathOf input).toText).mapError .file >>= fun entries =>
        pure (entries.filter isInput)) := by
  rw [expandInput, if_neg (by rw [plain]; exact Bool.false_ne_true), told]
  rfl

/-- An input that is not there is missing. -/
lemma expandInput_missing {status : FileStatus}
    (plain : isPattern (fs.pathOf input).toText = false)
    (told : fs.status t (fs.pathOf input).toText = .ok status) (gone : status.isThere = false) :
    expandInput fs t input = .error (.missing input) := by
  rw [expandInput_of_status plain told, gone]
  rfl

/-- What is not there fails as such, and what cannot be looked at fails with the reason. -/
lemma expandInput_fault {fault : Fault} (normal : fs.workingDirectory.Normal)
    (plain : isPattern (fs.pathOf input).toText = false)
    (gone : t.status (fs.pathOf input).toText = .error fault) :
    expandInput fs t input =
      .error (if fault = .notFound then .missing input else .file (.system fault)) := by
  have normal' := FileSystem.normal_pathOf normal input
  split_ifs with missing
  · subst missing
    exact expandInput_missing plain (FileSystem.status_toText_of_notFound fs normal' gone) rfl
  · have told : fs.status t (fs.pathOf input).toText = .error (.system fault) := by
      simp only [FileSystem.status, FileSystem.qualify_toText fs normal', gone]
    rw [expandInput, if_neg (by rw [plain]; exact Bool.false_ne_true), told]
    rfl

/-- An input that leads to a file stands for it. -/
lemma expandInput_file {c : Content} (normal : fs.workingDirectory.Normal)
    (plain : isPattern (fs.pathOf input).toText = false)
    (found : t.status (fs.pathOf input).toText = .ok (.file c)) :
    expandInput fs t input = .ok [.ofEntry (fs.pathOf input) (.file c)] := by
  rw [expandInput_of_status plain
    (FileSystem.status_toText fs (FileSystem.normal_pathOf normal input) found)]
  rfl

/-- An input that leads to a directory stands for its visible entries. -/
lemma expandInput_directory {place : List String} (normal : fs.workingDirectory.Normal)
    (plain : isPattern (fs.pathOf input).toText = false)
    (found : t.find .follow (fs.pathOf input).toText = .ok (place, .directory)) :
    expandInput fs t input =
      .ok (((t.children place).map fun e => .ofEntry ((fs.pathOf input).child e.1) e.2).filter
        isInput) := by
  have normal' := FileSystem.normal_pathOf normal input
  have told : t.status (fs.pathOf input).toText = .ok .directory := by
    rw [Tree.status, found]
    rfl
  rw [expandInput_of_status plain (FileSystem.status_toText fs normal' told),
    FileSystem.list_toText fs normal' found]
  rfl

variable {inputs : List String} {size : UInt64}

/-- The splits of inputs are those of the files that they expand to. -/
lemma computeSplits_eq_ok {files : List (List FileStatus)}
    (expanded : List.Forall₂ (fun input found => expandInput fs t input = .ok found) inputs files) :
    computeSplits fs t inputs size = .ok (files.flatten.flatMap (fileSplits fs size)) := by
  rw [computeSplits, mapM_eq_ok.2 expanded]
  rfl

/-- The splits of the inputs before some and of those come one after another. -/
lemma computeSplits_append (fs : FileSystem) (t : Tree) (inputs more : List String)
    (size : UInt64) :
    computeSplits fs t (inputs ++ more) size =
      (computeSplits fs t inputs size >>= fun l =>
        computeSplits fs t more size >>= fun r => pure (l ++ r)) := by
  simp only [computeSplits, List.mapM_append]
  rcases inputs.mapM (expandInput fs t) with e | files
  · rfl
  rcases more.mapM (expandInput fs t) with e | files'
  · rfl
  · exact congrArg Except.ok (by rw [List.flatten_append, List.flatMap_append])

/-- Inputs have no splits at all if one of them fails. -/
lemma computeSplits_eq_error : (∃ e, computeSplits fs t inputs size = .error e) ↔
    ∃ input ∈ inputs, ∃ e, expandInput fs t input = .error e := by
  rw [← mapM_eq_error, computeSplits]
  rcases inputs.mapM (expandInput fs t) with e | files
  · exact ⟨fun _ => ⟨e, rfl⟩, fun _ => ⟨e, rfl⟩⟩
  · constructor
    · rintro ⟨e, failed⟩
      cases failed
    · rintro ⟨e, failed⟩
      cases failed

/-- The splits of one input. -/
lemma computeSplits_one {found : List FileStatus} (expanded : expandInput fs t input = .ok found) :
    computeSplits fs t [input] size = .ok (found.flatMap (fileSplits fs size)) := by
  rw [computeSplits_eq_ok (.cons expanded .nil), List.flatten_cons, List.flatten_nil,
    List.append_nil]

/-- A single input fails as it expands. -/
lemma computeSplits_failed {e : InputError} (failed : expandInput fs t input = .error e) :
    computeSplits fs t [input] size = .error e := by
  rw [computeSplits, List.mapM_cons, failed]
  rfl

end Inputs

end Input

end JobCluster
