import JobCluster.Proofs.File.Resolution
import Mathlib.Data.List.Forall2

/-!
# Where the bytes of a range are

What a provider answers is cut to the range that was asked for: blocks without a byte of it are
dropped, and the others keep all but the bytes outside it (`Block.Clips`, `forall₂_clip`). This
holds of any blocks, also of those that overlap, that are out of order or that end past the largest
word.

`locateWith` leaves open how a provider is asked. With `asking` as the way, each question is written
down, so that `located_exactly` can say what is asked besides what is answered.
-/

namespace JobCluster.File

open JobCluster.Number JobCluster.Text

namespace Block

/-- Whether a block has a byte. -/
def Covers (b : Block) (x : Nat) : Prop :=
  b.offset.toNat ≤ x ∧ x < b.offset.toNat + b.length.toNat

/-- Whether a block has a byte of a range. -/
def Meets (b : Block) (start stop : Nat) : Prop := ∃ x, start ≤ x ∧ x < stop ∧ b.Covers x

/-- A block is the part of another in a range. -/
structure Clips (start stop : Nat) (b c : Block) : Prop where
  names : c.names = b.names
  hosts : c.hosts = b.hosts
  some : 0 < c.length.toNat
  after : start ≤ c.offset.toNat
  before : c.offset.toNat + c.length.toNat ≤ stop
  covers : ∀ x, start ≤ x → x < stop → (c.Covers x ↔ b.Covers x)

variable {b c : Block} {start stop : Nat}

instance (b : Block) (x : Nat) : Decidable (b.Covers x) :=
  inferInstanceAs (Decidable (_ ∧ _))

/-- A block meets a range if the later start is before the earlier end. -/
lemma meets_iff : b.Meets start stop ↔
    max b.offset.toNat start < min (b.offset.toNat + b.length.toNat) stop := by
  constructor
  · rintro ⟨x, after, before, covers⟩
    unfold Covers at covers
    omega
  · intro lt
    exact ⟨max b.offset.toNat start, by omega, by omega, by omega, by omega⟩

instance (b : Block) (start stop : Nat) : Decidable (b.Meets start stop) :=
  decidable_of_iff' _ meets_iff

end Block

section Clip

variable {b c : Block} {start stop : UInt64}

/-- A block that ends past the largest word ends past every range. -/
lemma Block.toNat_high (b : Block) (stop : UInt64) :
    (min b.stop stop).toNat = min (b.offset.toNat + b.length.toNat) stop.toNat := by
  have word := stop.toNat_lt
  rw [UInt64.toNat_min, Block.stop, rangeEnd, toNat_satAdd, maxWord64, UInt64.size]
  omega

/-- Clipping cuts a block to the range, or drops it. -/
lemma Block.clip_eq (b : Block) (start stop : UInt64) : b.clip start stop =
    if b.Meets start.toNat stop.toNat then
      some { b with
        offset := max b.offset start
        length := min b.stop stop - max b.offset start }
    else none := by
  have iff : max b.offset start < min b.stop stop ↔ b.Meets start.toNat stop.toNat := by
    rw [UInt64.lt_iff_toNat_lt, Block.toNat_high, UInt64.toNat_max, Block.meets_iff]
  rw [Block.clip]
  simp only [iff]

/-- What is left of a clipped block is its part in the range. -/
lemma Block.clips_of_clip (e : b.clip start stop = some c) :
    Block.Clips start.toNat stop.toNat b c := by
  rw [Block.clip_eq] at e
  split_ifs at e with meets
  cases e
  rw [Block.meets_iff] at meets
  have low : (max b.offset start).toNat = max b.offset.toNat start.toNat := UInt64.toNat_max ..
  have high := b.toNat_high stop
  have length : (min b.stop stop - max b.offset start).toNat =
      min (b.offset.toNat + b.length.toNat) stop.toNat - max b.offset.toNat start.toNat := by
    rw [UInt64.toNat_sub_of_le _ _ (UInt64.le_iff_toNat_le.2 (by omega)), low, high]
  refine ⟨rfl, rfl, ?_, ?_, ?_, fun x after before => ?_⟩
  · simp only [length]
    omega
  · simp only [low]
    omega
  · simp only [low, length]
    omega
  · simp only [Block.Covers, low, length]
    omega

/-- What is left of blocks are the parts of those that have a byte of the range, in their order. -/
theorem forall₂_clip (blocks : List Block) (start stop : UInt64) :
    List.Forall₂ (Block.Clips start.toNat stop.toNat)
      (blocks.filter (·.Meets start.toNat stop.toNat))
      (blocks.filterMap (·.clip start stop)) := by
  induction blocks with
  | nil => exact .nil
  | cons b blocks ih =>
    have clip := b.clip_eq start stop
    rw [List.filterMap_cons]
    by_cases meets : b.Meets start.toNat stop.toNat
    · rw [if_pos meets] at clip
      rw [List.filter_cons_of_pos (by simpa using meets), clip]
      exact .cons (Block.clips_of_clip clip) ih
    · rw [if_neg meets] at clip
      rwa [List.filter_cons_of_neg (by simpa using meets), clip]

end Clip

/-- What is found in a range, of the blocks that a provider answers: the parts of those that have a
byte of the range, in their order; and of each byte, the parts of those that have it. -/
structure Located (start stop : Nat) (blocks found : List Block) : Prop where
  clips : List.Forall₂ (Block.Clips start stop) (blocks.filter (·.Meets start stop)) found
  covers : ∀ x, start ≤ x → x < stop → List.Forall₂ (Block.Clips start stop)
    (blocks.filter (·.Covers x)) (found.filter (·.Covers x))

/-- Blocks clipped one by one are the blocks of the range, in their order. -/
lemma Located.of_clips {start stop : Nat} {blocks found : List Block}
    (clips : List.Forall₂ (Block.Clips start stop) (blocks.filter (·.Meets start stop)) found) :
    Located start stop blocks found := by
  refine ⟨clips, fun x after before => ?_⟩
  have those := List.rel_filter (p := (·.Covers x)) (q := (·.Covers x))
    (fun b c cl => by simpa using (cl.covers x after before).symm) clips
  rw [List.filter_filter] at those
  have all : ∀ b ∈ blocks, (decide (b.Covers x) && decide (b.Meets start stop)) =
      decide (b.Covers x) := by
    intro b _
    by_cases covers : b.Covers x
    · have meets : b.Meets start stop := ⟨x, after, before, covers⟩
      simp [covers, meets]
    · simp [covers]
  rwa [List.filter_congr all] at those

/-! ## Asking a provider -/

namespace FileSystem

/-- Locates a range, asking a provider in a given way. -/
def locateWith {m : Type → Type} [Monad m]
    (ask : Provider → Query → m (Except FileError (List Block))) (fs : FileSystem)
    (file : Option FileStatus) (start length : UInt64) :
    m (Except FileError (Option (List Block))) :=
  match fs.lookup file start length with
  | .unknown => pure (.ok none)
  | .empty => pure (.ok (some []))
  | .ask provider q => do
    let answer ← ask provider q
    pure (answer.map fun blocks =>
      some (blocks.filterMap fun b => b.clip q.start (q.start + q.length)))

/-- Asks a provider and writes down the question. -/
def asking (provider : Provider) (q : Query) :
    StateM (List Query) (Except FileError (List Block)) := do
  modify (· ++ [q])
  pure (provider q.path q.start q.length)

/-- Locates a range and tells the questions that a provider was asked, in their order. -/
def locateAsking (fs : FileSystem) (file : Option FileStatus) (start length : UInt64) :
    Except FileError (Option (List Block)) × List Query :=
  (fs.locateWith asking file start length).run []

variable {fs : FileSystem} {file : Option FileStatus} {status : FileStatus} {provider : Provider}
  {start length : UInt64}

/-- To be asked is all that happens to a provider when a range is located. -/
lemma locate_eq_locateWith (fs : FileSystem) (file : Option FileStatus) (start length : UInt64) :
    fs.locate file start length =
      Id.run (fs.locateWith (fun provider q => provider q.path q.start q.length) file start
        length) := by
  rw [locate, locateWith]
  cases fs.lookup file start length with
  | unknown | empty => rfl
  | ask provider q =>
    simp only
    cases provider q.path q.start q.length with
    | error e => rfl
    | ok blocks => rfl

/-- To write the questions down does not change the answer. -/
lemma fst_locateAsking (fs : FileSystem) (file : Option FileStatus) (start length : UInt64) :
    (fs.locateAsking file start length).1 = fs.locate file start length := by
  rw [locate_eq_locateWith, locateAsking, locateWith, locateWith]
  cases fs.lookup file start length with
  | unknown | empty | ask => rfl

/-- Without a provider, or without a file, nothing is known. -/
lemma lookup_unknown (none : fs.native.provider? = none ∨
    ∀ status, file = some status → status.isThere = false ∨ status.isDirectory) :
    fs.lookup file start length = .unknown := by
  unfold lookup
  split
  · next status provider loaded =>
    rcases none with none | gone
    · cases loaded.symm.trans none
    · rcases gone status rfl with gone | directory
      · rw [if_pos (by rw [gone]; rfl)]
      · rw [if_pos (by rw [directory, Bool.or_true])]
  · rfl

section Loaded

variable (loaded : fs.native.provider? = some provider) (there : status.isThere)
  (notDirectory : status.isDirectory = false)

include loaded there notDirectory

/-- No blocks are looked for in an empty range or beyond the end. -/
lemma lookup_empty (none : length = 0 ∨ status.length ≤ start) :
    fs.lookup (some status) start length = .empty := by
  simp only [lookup, loaded, there, notDirectory, Bool.not_true, Bool.or_self, Bool.false_eq_true,
    if_false]
  exact if_pos none

/-- In a part of the file that is not empty, the provider is asked for what the file has of the
range. -/
lemma lookup_ask (some : length ≠ 0) (inside : start < status.length) :
    fs.lookup (.some status) start length =
      .ask provider ⟨fs.qualify status.path, start, min length (status.length - start)⟩ := by
  simp only [lookup, loaded, there, notDirectory, Bool.not_true, Bool.or_self, Bool.false_eq_true,
    if_false]
  refine if_neg fun none => ?_
  rcases none with none | past
  · exact some none
  · exact UInt64.not_le.2 inside past

end Loaded

/-- Where a range ends in a file, if it begins there. -/
lemma toNat_count (inside : start < status.length) :
    start.toNat + (min length (status.length - start)).toNat =
      min (start.toNat + length.toNat) status.length.toNat := by
  have lt := UInt64.lt_iff_toNat_lt.1 inside
  rw [UInt64.toNat_min, UInt64.toNat_sub_of_le _ _ (UInt64.le_of_lt inside)]
  omega

/-- A range of a file is located by asking the provider once, for the part of the range that is in
the file, under the clean path of the file. An error of the provider is the answer; of the blocks
that it answers, the parts in the range are. Without a provider or a file, and for a range with no
byte in the file, nothing is asked. -/
theorem located_exactly (normal : fs.workingDirectory.Normal) (file : Option FileStatus)
    (start length : UInt64) :
    (fs.locateAsking file start length).1 = fs.locate file start length ∧
    (∀ provider status, fs.native.provider? = some provider → file = some status →
      status.isThere → status.isDirectory = false → 0 < length → start < status.length →
      ∃ count stop : UInt64, stop.toNat = min (start.toNat + length.toNat) status.length.toNat ∧
        start.toNat + count.toNat = stop.toNat ∧ 0 < count ∧
        IsClean (fs.qualify status.path).toText ∧
        (fs.locateAsking file start length).2 = [⟨fs.qualify status.path, start, count⟩] ∧
        (∀ e, provider (fs.qualify status.path) start count = .error e →
          fs.locate file start length = .error e) ∧
        ∀ blocks, provider (fs.qualify status.path) start count = .ok blocks →
          ∃ found, fs.locate file start length = .ok (some found) ∧
            Located start.toNat stop.toNat blocks found) ∧
    (fs.native.provider? = none ∨
        (∀ status, file = some status → status.isThere = false ∨ status.isDirectory) →
      fs.locateAsking file start length = (.ok none, [])) ∧
    (∀ provider status, fs.native.provider? = some provider → file = some status →
      status.isThere → status.isDirectory = false → (length = 0 ∨ status.length ≤ start) →
      fs.locateAsking file start length = (.ok (some []), [])) := by
  refine ⟨fst_locateAsking fs file start length, ?_, fun none => ?_, ?_⟩
  · rintro provider status loaded rfl there notDirectory some inside
    have ask := lookup_ask loaded there notDirectory (UInt64.pos_iff_ne_zero.1 some) inside
    have stop := @toNat_count status start length inside
    have word := status.length.toNat_lt
    have lt := UInt64.lt_iff_toNat_lt.1 inside
    have pos : 0 < length.toNat := UInt64.lt_iff_toNat_lt.1 some
    -- the range is cut at the end of the file before the sum, so that it does not wrap around
    refine ⟨min length (status.length - start), start + min length (status.length - start),
      ?_, ?_, ?_, (normal_qualify normal _).isClean, ?_, fun e failed => ?_,
      fun blocks answered => ?_⟩
    · rw [UInt64.toNat_add, stop, Nat.mod_eq_of_lt (by omega)]
    · rw [UInt64.toNat_add, Nat.mod_eq_of_lt (by omega)]
    · rw [UInt64.lt_iff_toNat_lt, UInt64.toNat_zero]
      omega
    · rw [locateAsking, locateWith, ask]
      rfl
    · rw [locate, ask]
      simp only [failed]
      rfl
    · refine ⟨_, ?_, .of_clips (forall₂_clip blocks start _)⟩
      rw [locate, ask]
      simp only [answered]
      rfl
  · rw [locateAsking, locateWith, lookup_unknown none]
    rfl
  · rintro provider status loaded rfl there notDirectory none
    rw [locateAsking, locateWith, lookup_empty loaded there notDirectory none]
    rfl

/-- Blocks of a file in no order, one past the largest word and one without a byte. -/
def strayBlocks : List Block :=
  [⟨["h2:1"], ["h2"], 8, 18446744073709551615⟩, ⟨["h3:1"], ["h3"], 5, 0⟩, ⟨["h1:1"], ["h1"], 0, 9⟩]

/-- A file system whose provider always answers these blocks. -/
def strayFiles : FileSystem := .new (.loaded fun _ _ _ => .ok strayBlocks) ⟨["srv"]⟩

/-- The provider is asked by the qualified path and for what the file has of the range. -/
theorem sample_located_exactly :
    strayFiles.workingDirectory.Normal ∧ (0 : UInt64) < 18446744073709551615 ∧ (3 : UInt64) < 10 ∧
    (strayFiles.locateAsking (some ⟨"../a", true, 10, false⟩) 3 18446744073709551615).2 =
      [⟨⟨["a"]⟩, 3, 7⟩] ∧
    ∃ found, strayFiles.locate (some ⟨"../a", true, 10, false⟩) 3 18446744073709551615 =
        .ok (some found) ∧ Located 3 10 strayBlocks found := by
  have normal : strayFiles.workingDirectory.Normal := show ∀ s ∈ ["srv"], IsName s by decide
  obtain ⟨-, asked, -, -⟩ :=
    located_exactly normal (some ⟨"../a", true, 10, false⟩) 3 18446744073709551615
  obtain ⟨count, stop, last, sum, -, -, once, -, answered⟩ :=
    asked _ _ rfl rfl rfl rfl (by decide) (by decide)
  have stop' : stop = 10 := UInt64.toNat_inj.1 last
  subst stop'
  have count' : count = 7 := UInt64.toNat_inj.1 (Nat.add_left_cancel sum)
  subst count'
  exact ⟨normal, by decide, by decide, once, answered _ rfl⟩

end FileSystem

end JobCluster.File
