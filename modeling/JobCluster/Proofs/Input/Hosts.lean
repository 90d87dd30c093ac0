import JobCluster.Proofs.File.Locality
import JobCluster.Proofs.Input.Splits
import Mathlib.Data.List.Induction

/-!
# The hosts of splits

A split names the hosts that keep its bytes: those of the blocks that share a byte with it, each
once, in the order in which they come first (`FirstsOf`, `firstsOf_distinct`). A provider that is
not there or fails leaves a split without hosts and changes nothing else (`bare_computeSplits`).

The files that inputs expand to are there and no directories (`isThere_of_expandInput`), so a
provider is asked about every split of them that is not empty (`carriesHosts_of_computeSplits`).
-/

namespace JobCluster.Input

open JobCluster.File JobCluster.Text

/-! ## Texts without repetition -/

/-- The texts of a list without repetition, in the order in which they come first. -/
structure FirstsOf (all firsts : List String) : Prop where
  nodup : firsts.Nodup
  mem_iff : ∀ s, s ∈ firsts ↔ s ∈ all
  order : firsts.Pairwise fun s s' => all.idxOf s < all.idxOf s'

/-- One more element is added, unless it was seen before. -/
lemma distinct_concat (ss : List String) (s : String) :
    distinct (ss ++ [s]) = if s ∈ distinct ss then distinct ss else distinct ss ++ [s] := by
  simp only [distinct, List.foldl_append, List.foldl_cons, List.foldl_nil, List.contains_iff_mem]

/-- Each element is left once, at its first place. -/
theorem firstsOf_distinct (ss : List String) : FirstsOf ss (distinct ss) := by
  induction ss using List.reverseRecOn with
  | nil => exact ⟨.nil, fun s => Iff.rfl, .nil⟩
  | append_singleton ss s ih =>
    have order : (distinct ss).Pairwise fun a b =>
        (ss ++ [s]).idxOf a < (ss ++ [s]).idxOf b := by
      refine ih.order.imp_of_mem fun mema memb lt => ?_
      rwa [List.idxOf_append_of_mem ((ih.mem_iff _).1 mema),
        List.idxOf_append_of_mem ((ih.mem_iff _).1 memb)]
    rw [distinct_concat]
    split_ifs with seen
    · refine ⟨ih.nodup, fun x => ?_, order⟩
      rw [ih.mem_iff, List.mem_append, List.mem_singleton]
      exact (or_iff_left_of_imp fun (e : x = s) => e ▸ (ih.mem_iff s).1 seen).symm
    · have fresh : s ∉ ss := fun mem => seen ((ih.mem_iff s).2 mem)
      refine ⟨?_, fun x => by simp only [List.mem_append, ih.mem_iff], ?_⟩
      · exact List.nodup_append.2 ⟨ih.nodup, List.pairwise_singleton _ _, fun a mem b mem' e =>
          seen (List.mem_singleton.1 mem' ▸ e ▸ mem)⟩
      · refine List.pairwise_append.2 ⟨order, List.pairwise_singleton _ _, fun a mem b mem' => ?_⟩
        have mem := (ih.mem_iff a).1 mem
        rw [List.mem_singleton.1 mem', List.idxOf_append_of_mem mem,
          List.idxOf_append_of_notMem fresh]
        exact Nat.lt_add_right _ (List.idxOf_lt_length_of_mem mem)

/-! ## The files of inputs -/

section Files

variable {fs : FileSystem} {t : Tree} {input s : String} {files : List FileStatus}
  {file : FileStatus}

/-- What is listed in a directory is there. -/
lemma isThere_of_list {found : List FileStatus} (listed : fs.list t s = .ok found)
    (mem : file ∈ found) : file.isThere := by
  rw [FileSystem.list] at listed
  obtain ⟨status, told, listed⟩ := bind_eq_ok.1 listed
  cases there : status.isThere with
  | false =>
    rw [there] at listed
    cases listed
  | true =>
    cases directory : status.isDirectory with
    | false =>
      rw [there, directory] at listed
      cases listed
      rwa [List.mem_singleton.1 mem]
    | true =>
      rw [there, directory] at listed
      obtain ⟨entries, -, listed⟩ := bind_eq_ok.1 listed
      cases listed
      obtain ⟨e, -, rfl⟩ := List.mem_map.1 mem
      rfl

/-- What an input expands to is there and no directory. -/
theorem isThere_of_expandInput (expanded : expandInput fs t input = .ok files)
    (mem : file ∈ files) : file.isThere ∧ file.isDirectory = false := by
  have kept {found : List FileStatus} (mem : file ∈ found.filter isInput) :
      file ∈ found ∧ file.isDirectory = false := by
    obtain ⟨mem, data⟩ := List.mem_filter.1 mem
    exact ⟨mem, by simpa using (Bool.and_eq_true_iff.1 data).1⟩
  -- a pattern finds entries, another input is one or lists them
  cases plain : isPattern (fs.pathOf input).toText with
  | true =>
    rw [expandInput, if_pos plain, expandPattern] at expanded
    cases read : readPattern (fs.pathOf input).segments with
    | none =>
      rw [read] at expanded
      cases expanded
    | some segments =>
      rw [read] at expanded
      obtain ⟨found, -, expanded⟩ := bind_eq_ok.1 expanded
      cases expanded
      obtain ⟨mem, data⟩ := List.mem_filter.1 mem
      obtain ⟨there, data⟩ := Bool.and_eq_true_iff.1 data
      exact ⟨there, (kept (List.mem_filter.2 ⟨mem, data⟩)).2⟩
  | false =>
    cases told : fs.status t (fs.pathOf input).toText with
    | error e =>
      rw [expandInput, if_neg (by rw [plain]; exact Bool.false_ne_true), told] at expanded
      cases expanded
    | ok status =>
      rw [expandInput_of_status plain told] at expanded
      split_ifs at expanded with gone alone
      · cases expanded
        rw [List.mem_singleton.1 mem]
        exact ⟨by simpa using gone, by simpa using alone⟩
      · obtain ⟨entries, listed, expanded⟩ := bind_eq_ok.1 expanded
        cases expanded
        obtain ⟨mem, data⟩ := kept mem
        exact ⟨isThere_of_list (mapError_eq_ok.1 listed) mem, data⟩

end Files

/-! ## Hosts -/

/-- The hosts of the blocks that share a byte with a range, block by block. -/
def hostsIn (blocks : List Block) (start stop : Nat) : List String :=
  (blocks.filter (·.Meets start stop)).flatMap Block.hosts

/-- Which hosts a split has: those that a provider knows for its bytes. -/
structure CarriesHosts (fs : FileSystem) (s : InputSplit) : Prop where
  empty : s.length = 0 → s.hosts = []
  unknown : fs.native.provider? = none → s.hosts = []
  failed : ∀ provider e, fs.native.provider? = some provider →
    provider (fs.qualify s.path) s.offset s.length = .error e → s.hosts = []
  known : ∀ provider blocks, 0 < s.length → fs.native.provider? = some provider →
    provider (fs.qualify s.path) s.offset s.length = .ok blocks →
    FirstsOf (hostsIn blocks s.offset.toNat (s.offset.toNat + s.length.toNat)) s.hosts

/-- A split without its hosts. -/
def bare (s : InputSplit) : InputSplit := { s with hosts := [] }

section Hosts

variable {fs : FileSystem} {t : Tree} {file : FileStatus} {size offset length : UInt64}
  {inputs : List String} {splits : List InputSplit}

/-- Cutting blocks to a range leaves the hosts of those that share a byte with it. -/
lemma flatMap_hosts_clip (blocks : List Block) (start stop : UInt64) :
    (blocks.filterMap (·.clip start stop)).flatMap Block.hosts =
      hostsIn blocks start.toNat stop.toNat := by
  have same : (blocks.filterMap (·.clip start stop)).map Block.hosts =
      (blocks.filter (·.Meets start.toNat stop.toNat)).map Block.hosts := by
    rw [Eq.comm, ← List.forall₂_eq_eq_eq, List.forall₂_map_left_iff, List.forall₂_map_right_iff]
    exact (forall₂_clip blocks start stop).imp fun b c clips => clips.hosts.symm
  rw [hostsIn, List.flatMap_def, List.flatMap_def, same]

/-- Without a provider a split has no hosts. -/
lemma splitHosts_of_unknown (unknown : fs.native.provider? = none) :
    splitHosts fs file offset length = [] := by
  rw [splitHosts, FileSystem.locate, FileSystem.lookup_unknown (.inl unknown)]

section Asked

variable {provider : Provider} (loaded : fs.native.provider? = some provider)
  (there : file.isThere) (notDirectory : file.isDirectory = false) (some : 0 < length)
  (inside : offset.toNat + length.toNat ≤ file.length.toNat)

include loaded there notDirectory some inside

/-- The provider is asked for the whole split. -/
lemma lookup_split : fs.lookup (.some file) offset length =
    .ask provider ⟨fs.qualify file.path, offset, length⟩ := by
  have pos : 0 < length.toNat := UInt64.lt_iff_toNat_lt.1 some
  have starts : offset < file.length := UInt64.lt_iff_toNat_lt.2 (by omega)
  have whole : min length (file.length - offset) = length := by
    rw [← UInt64.toNat_inj, UInt64.toNat_min, UInt64.toNat_sub_of_le _ _ (UInt64.le_of_lt starts)]
    omega
  rw [FileSystem.lookup_ask loaded there notDirectory (UInt64.pos_iff_ne_zero.1 some) starts,
    whole]

/-- A split has no hosts if the provider fails. -/
lemma splitHosts_of_error {e : FileError}
    (failed : provider (fs.qualify file.path) offset length = .error e) :
    splitHosts fs file offset length = [] := by
  rw [splitHosts, FileSystem.locate, lookup_split loaded there notDirectory some inside]
  simp only [failed]
  rfl

/-- The hosts of a split are those of the blocks that meet it, each once. -/
lemma splitHosts_of_ok {blocks : List Block}
    (answered : provider (fs.qualify file.path) offset length = .ok blocks) :
    splitHosts fs file offset length =
      distinct (hostsIn blocks offset.toNat (offset.toNat + length.toNat)) := by
  have stop : (offset + length).toNat = offset.toNat + length.toNat := by
    have word := file.length.toNat_lt
    rw [UInt64.toNat_add, Nat.mod_eq_of_lt (by omega)]
  rw [splitHosts, FileSystem.locate, lookup_split loaded there notDirectory some inside]
  simp only [answered]
  rw [← stop, ← flatMap_hosts_clip]
  rfl

end Asked

/-- The splits of a file that is there carry the hosts of their bytes. -/
lemma carriesHosts_of_mem (pos : 1 ≤ size) (there : file.isThere)
    (notDirectory : file.isDirectory = false) {s : InputSplit}
    (mem : s ∈ fileSplits fs size file) : CarriesHosts fs s := by
  have splits := splitsOf_fileSplits fs pos file
  by_cases none : file.length = 0
  · rw [splits.empty none] at mem
    rw [List.mem_singleton.1 mem]
    exact ⟨fun _ => rfl, fun _ => rfl, fun _ _ _ _ => rfl, fun _ _ some => nomatch some⟩
  · have inside := (splits.words s mem).2
    have some : 0 < s.length :=
      UInt64.lt_iff_toNat_lt.2 ((splits.tiles none).within (List.mem_map_of_mem mem)).2.1
    have hosts : s.hosts = splitHosts fs file s.offset s.length := by
      rw [fileSplits, if_neg none] at mem
      obtain ⟨p, -, rfl⟩ := List.mem_map.1 mem
      rfl
    refine ⟨fun none => ?_, fun unknown => ?_, fun provider e loaded failed => ?_,
      fun provider blocks _ loaded answered => ?_⟩
    · rw [none] at some
      cases some
    · rw [hosts, splitHosts_of_unknown unknown]
    · rw [splits.path s mem] at failed
      rw [hosts, splitHosts_of_error loaded there notDirectory some inside failed]
    · rw [splits.path s mem] at answered
      rw [hosts, splitHosts_of_ok loaded there notDirectory some inside answered]
      exact firstsOf_distinct _

/-- All splits of inputs carry the hosts of their bytes. -/
theorem carriesHosts_of_computeSplits (pos : 1 ≤ size)
    (split : computeSplits fs t inputs size = .ok splits) : ∀ s ∈ splits, CarriesHosts fs s := by
  intro s mem
  obtain ⟨files, expanded, split⟩ := bind_eq_ok.1 split
  cases split
  obtain ⟨file, found, mem⟩ := List.mem_flatMap.1 mem
  obtain ⟨part, memp, found⟩ := List.mem_flatten.1 found
  obtain ⟨input, expanded⟩ : ∃ input, expandInput fs t input = .ok part := by
    obtain ⟨i, lt, rfl⟩ := List.getElem_of_mem memp
    have all := mapM_eq_ok.1 expanded
    exact ⟨_, all.get (all.length_eq ▸ lt) lt⟩
  obtain ⟨there, notDirectory⟩ := isThere_of_expandInput expanded found
  exact carriesHosts_of_mem pos there notDirectory mem

/-! ## Native support -/

section Native

variable (fs : FileSystem) (t : Tree) (n : Native)

lemma pathOf_native (s : String) : { fs with native := n }.pathOf s = fs.pathOf s := rfl

lemma status_native (s : String) : { fs with native := n }.status t s = fs.status t s := rfl

lemma list_native (s : String) : { fs with native := n }.list t s = fs.list t s := rfl

/-- What a pattern finds does not depend on the provider. -/
lemma expandPattern_native (input : String) (path : Path) :
    expandPattern { fs with native := n } t input path = expandPattern fs t input path := by
  rw [expandPattern, expandPattern]
  rfl

/-- What an input expands to does not depend on the provider. -/
lemma expandInput_native (input : String) :
    expandInput { fs with native := n } t input = expandInput fs t input := by
  rw [expandInput, expandInput]
  simp only [expandPattern_native, pathOf_native, status_native, list_native]

/-- A file is cut in the same splits with any provider, apart from the hosts. -/
lemma bare_fileSplits (size : UInt64) (file : FileStatus) :
    (fileSplits { fs with native := n } size file).map bare =
      (fileSplits fs size file).map bare := by
  rw [fileSplits, fileSplits]
  split_ifs
  · rfl
  · simp only [List.map_map]
    rfl

/-- Whether blocks can be located changes nothing of splits but their hosts. -/
theorem bare_computeSplits (inputs : List String) (size : UInt64) :
    (computeSplits { fs with native := n } t inputs size).map (List.map bare) =
      (computeSplits fs t inputs size).map (List.map bare) := by
  have expanded : expandInput { fs with native := n } t = expandInput fs t :=
    funext (expandInput_native fs t n)
  rw [computeSplits, computeSplits, expanded]
  rcases inputs.mapM (expandInput fs t) with e | files
  · rfl
  · refine congrArg Except.ok ?_
    rw [List.map_flatMap, List.map_flatMap]
    exact congrArg (files.flatten.flatMap ·) (funext (bare_fileSplits fs n size))

end Native

end Hosts

end JobCluster.Input
