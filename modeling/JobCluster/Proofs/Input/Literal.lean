import JobCluster.Proofs.File.Resolution
import JobCluster.Proofs.Input.Directory

/-!
# Inputs without wildcards

An input without wildcards stands for what its path leads to: a file, the visible entries of a
directory, or nothing, and then there are no splits at all (`TakenLiterally`,
`plain_input_taken_literally`).

This needs a working directory that adds no wildcard to the path. Whether an input is a pattern is
told by the path and not by the input (`isPattern_pathOf`), so in a directory with a wildcard in its
name what is relative to it is searched for, and other files or none are found where the input
names a file or nothing (`wildcard_directory_searched`).
-/

namespace JobCluster.Input

open JobCluster.File JobCluster.Text

/-! ## Where the wildcards of a path come from -/

section Wildcards

variable {s s' name : String}

/-- What has some of the characters of a plain text is plain. -/
lemma isPattern_of_subset (sub : s.toList ⊆ s'.toList) (plain : isPattern s' = false) :
    isPattern s = false := by
  rw [isPattern, List.any_eq_false] at plain ⊢
  exact fun c mem => plain c (sub mem)

/-- A path is a pattern if one of its segments is. -/
lemma isPattern_toText (p : Path) : isPattern p.toText = p.segments.any isPattern := by
  rw [isPattern, toList_toText]
  split_ifs with root
  · rw [root]
    rfl
  · rw [slashed, List.any_flatMap]
    rfl

/-- The segments of a plain text are plain. -/
lemma isPattern_of_mem_segmentsOf (mem : name ∈ segmentsOf s) (plain : isPattern s = false) :
    isPattern name = false := by
  obtain ⟨part, found, rfl⟩ := List.mem_map.1 mem
  refine isPattern_of_subset ?_ plain
  rw [String.toList_ofList]
  exact subset_of_mem_splitOn (List.mem_filter.1 found).1

/-- A plain text without its scheme is plain. -/
lemma isPattern_stripScheme (plain : isPattern s = false) : isPattern (stripScheme s) = false := by
  rw [stripScheme]
  split_ifs
  · exact isPattern_of_subset (by rw [String.toList_ofList]; exact List.drop_subset _ _) plain
  · exact plain

/-- The path of an input without wildcards is a pattern if, and only if, the input is relative and a
segment of the working directory with a wildcard is left in the path. -/
theorem isPattern_pathOf (fs : FileSystem) {input : String} (plain : isPattern input = false) :
    isPattern (fs.pathOf input).toText ↔ ¬ isAbsolute (stripScheme input) ∧
      ∃ s ∈ fs.workingDirectory.segments, s ∈ (fs.pathOf input).segments ∧ isPattern s := by
  rw [isPattern_toText, List.any_eq_true]
  constructor
  · rintro ⟨s, mem, wild⟩
    rcases mem_segments_of mem with written | ⟨relative, above⟩
    · rw [isPattern_of_mem_segmentsOf written (isPattern_stripScheme plain)] at wild
      cases wild
    · exact ⟨relative, s, above, mem, wild⟩
  · rintro ⟨-, s, -, mem, wild⟩
    exact ⟨s, mem, wild⟩

end Wildcards

/-! ## What an input stands for -/

variable {fs : FileSystem} {t : Tree} {size : UInt64} {input : String}

/-- An input stands for what its path leads to, alone and among others. -/
structure TakenLiterally (fs : FileSystem) (t : Tree) (size : UInt64) (input : String) : Prop where
  file : ∀ c, t.status (fs.pathOf input).toText = .ok (.file c) →
    computeSplits fs t [input] size =
      .ok (fileSplits fs size (.ofEntry (fs.pathOf input) (.file c))) ∧
    (FileStatus.ofEntry (fs.pathOf input) (.file c)).length.toNat = c.size ∧
    t.read (fs.pathOf input).toText = .ok c ∧
    (1 ≤ size → SplitsOf size (.ofEntry (fs.pathOf input) (.file c))
      (fileSplits fs size (.ofEntry (fs.pathOf input) (.file c))))
  directory : ∀ place, t.find .follow (fs.pathOf input).toText = .ok (place, .directory) →
    computeSplits fs t [input] size = .ok (((t.children place).filter isVisible).flatMap fun e =>
      fileSplits fs size (.ofEntry ((fs.pathOf input).child e.1) e.2)) ∧
    (1 ≤ size → ∀ e ∈ (t.children place).filter isVisible,
      EntrySplits fs t size ((fs.pathOf input).child e.1) e.2
        (fileSplits fs size (.ofEntry ((fs.pathOf input).child e.1) e.2)))
  gone : ∀ fault, t.status (fs.pathOf input).toText = .error fault →
    computeSplits fs t [input] size =
      .error (if fault = .notFound then .missing input else .file (.system fault))
  only : ∀ entry, t.status (fs.pathOf input).toText = .ok entry →
    entry = .directory ∨ ∃ c, entry = .file c
  among : ∀ before after, computeSplits fs t (before ++ input :: after) size =
    (computeSplits fs t before size >>= fun l => computeSplits fs t [input] size >>= fun m =>
      computeSplits fs t after size >>= fun r => pure (l ++ (m ++ r)))

/-- An input without wildcards stands for what its path leads to, unless it is relative to a
directory whose name brings in a wildcard. -/
theorem plain_input_taken_literally (wf : t.WellFormed) (normal : fs.workingDirectory.Normal)
    (size : UInt64) (plain : isPattern input = false)
    (clear : isAbsolute (stripScheme input) ∨ ∀ s ∈ fs.workingDirectory.segments,
      s ∈ (fs.pathOf input).segments → isPattern s = false) :
    TakenLiterally fs t size input := by
  have normal' := FileSystem.normal_pathOf normal input
  -- a wildcard of the path could only come from the working directory
  have plain' : isPattern (fs.pathOf input).toText = false := by
    rw [← Bool.not_eq_true, isPattern_pathOf fs plain]
    rintro ⟨relative, s, above, mem, wild⟩
    rw [clear.resolve_left relative s above mem] at wild
    cases wild
  refine ⟨fun c found => ?_, fun place found => ⟨?_, fun pos e mem => ?_⟩, fun fault gone => ?_,
    fun entry told => ?_, fun before after => ?_⟩
  · have small : c.size < 2 ^ 64 := by
      obtain ⟨place, found⟩ := Tree.status_eq_ok.1 found
      rcases Tree.find_follow wf found with here | ⟨c', here, small⟩
      · cases here
      · cases here
        exact small
    refine ⟨?_, FileStatus.toNat_length_ofEntry _ small, ?_,
      fun pos => splitsOf_fileSplits fs pos _⟩
    · rw [computeSplits_one (expandInput_file normal plain' found), List.flatMap_singleton]
    · rw [Tree.read, found]
      rfl
  · rw [computeSplits_one (expandInput_visible wf normal plain' found), List.flatMap_map]
  · exact entrySplits fs wf normal pos normal' found (List.mem_filter.1 mem).1
  · exact computeSplits_failed (expandInput_fault normal plain' gone)
  · obtain ⟨place, found⟩ := Tree.status_eq_ok.1 told
    refine (Tree.find_follow wf found).imp_right ?_
    rintro ⟨c, here, -⟩
    exact ⟨c, here⟩
  · rw [computeSplits_append, ← List.singleton_append, computeSplits_append]
    simp only [bind_assoc, pure_bind]

/-- Directories with sets for names, and one whose name is in the first of these sets. -/
def bracketed : Tree where
  entries := [(["1"], .directory), (["1", "a"], .file ⟨[], 5⟩), (["[1]"], .directory),
    (["[1]", "a"], .file ⟨[], 25⟩), (["[2]"], .directory), (["[2]", "a"], .file ⟨[], 25⟩)]

/-- What stands at the places of the sample tree. -/
lemma entries_bracketed : bracketed.entry? ["1"] = some .directory ∧
    bracketed.entry? ["1", "a"] = some (.file ⟨[], 5⟩) ∧
    bracketed.entry? ["[1]"] = some .directory ∧
    bracketed.entry? ["[1]", "a"] = some (.file ⟨[], 25⟩) ∧
    bracketed.entry? ["[2]"] = some .directory ∧
    bracketed.entry? ["[2]", "a"] = some (.file ⟨[], 25⟩) ∧
    bracketed.entry? ["[2]", "b"] = none := by
  decide

/-- The segments of its paths. -/
lemma segments_bracketed : ∀ place ∈ [["1"], ["1", "a"], ["[1]", "a"], ["[2]", "a"], ["[2]", "b"]],
    walkSegments (Path.toText ⟨place⟩) = place := by
  decide

/-- What paths with sets in them lead to as they stand. -/
lemma status_bracketed :
    bracketed.status (Path.toText ⟨["1", "a"]⟩) = .ok (.file ⟨[], 5⟩) ∧
    bracketed.status (Path.toText ⟨["[1]", "a"]⟩) = .ok (.file ⟨[], 25⟩) ∧
    bracketed.status (Path.toText ⟨["[2]", "a"]⟩) = .ok (.file ⟨[], 25⟩) ∧
    bracketed.status (Path.toText ⟨["[2]", "b"]⟩) = .error .notFound := by
  refine ⟨?_, ?_, ?_, ?_⟩
  · apply Tree.status_of_walk (by decide) (by decide) (by decide) ["1", "a"]
    simp +decide [Tree.walk, segments_bracketed, entries_bracketed]
  · apply Tree.status_of_walk (by decide) (by decide) (by decide) ["[1]", "a"]
    simp +decide [Tree.walk, segments_bracketed, entries_bracketed]
  · apply Tree.status_of_walk (by decide) (by decide) (by decide) ["[2]", "a"]
    simp +decide [Tree.walk, segments_bracketed, entries_bracketed]
  · apply Tree.status_of_free (by decide) (by decide) (by decide) ["[2]", "b"]
    simp +decide [Tree.walk, segments_bracketed, entries_bracketed]

/-- The directories in its root, in the order of the names. -/
lemma list_bracketed :
    bracketed.list "/" = .ok [("1", .directory), ("[1]", .directory), ("[2]", .directory)] := by
  have root : bracketed.find .follow "/" = .ok ([], .directory) := by
    refine Tree.find_eq_ok.2 (Tree.locate_eq_ok.2 ⟨by decide, by decide, by decide, ?_⟩)
    rw [show walkSegments "/" = [""] by decide, Tree.walk, if_neg (by decide), if_pos (.inl rfl),
      Tree.walk]
  have sorted : bracketed.children [] =
      [("1", .directory), ("[1]", .directory), ("[2]", .directory)] :=
    List.mergeSort_of_pairwise (by decide)
  rw [Tree.list, root]
  exact congrArg Except.ok sorted

/-- A file system that works in a directory. -/
def workingIn (directory : String) : FileSystem := FileSystem.atRoot.setWorkingDirectory directory

/-- The sample tree is one that an operating system can keep. -/
lemma wellFormed_bracketed : bracketed.WellFormed where
  distinct := by decide
  names := by decide
  sizes := by decide

/-- The way up out of the directory leaves no wildcard in the path. -/
theorem sample_plain_input_taken_literally :
    bracketed.WellFormed ∧ isPattern "../1/a" = false ∧
      TakenLiterally (workingIn "[1]") bracketed 2 "../1/a" :=
  ⟨wellFormed_bracketed, by decide, plain_input_taken_literally wellFormed_bracketed
    (FileSystem.normal_change FileSystem.normal_atRoot (.setWorkingDirectory "[1]")) 2 (by decide)
    (.inr (by decide))⟩

/-- A character in brackets is the set of that character. -/
lemma read_bracketed {s : String} {c : Char} (e : s.toList = ['[', c, ']']) (ne : c ≠ '!') :
    Segment.read s = some (.tokens [.within [⟨c, c⟩]]) := by
  have set : readSet [c, ']'] = some ([c], []) := rfl
  have tokens : readTokens ['[', c, ']'] = some [.within [⟨c, c⟩]] := by
    rw [readTokens]
    · split
      next inside after e =>
        cases set.symm.trans e
        simp [readTokens, readRanges]
      next e => cases set.symm.trans e
    · intro rest e
      exact ne (List.cons.inj e).1
  have noStars : s ≠ "**" := by
    rintro rfl
    cases e
  rw [Segment.read, if_neg noStars, e, tokens]
  rfl

/-- A letter that has no other meaning stands for itself. -/
lemma read_letter : ∀ s ∈ ["a", "b"], Segment.read s = some (.tokens (s.toList.map .char)) := by
  simp [Segment.read, readTokens]

/-- A set and a letter as a pattern of two segments. -/
lemma readPattern_bracketed {s name : String} {c : Char} (e : s.toList = ['[', c, ']'])
    (ne : c ≠ '!') (letter : name ∈ ["a", "b"]) : readPattern [s, name] =
      some [.tokens [.within [⟨c, c⟩]], .tokens (name.toList.map .char)] := by
  rw [readPattern, read_bracketed e ne, readPattern, read_letter name letter]
  rfl

/-- A pattern expands to the inputs among the files that it finds. -/
lemma expandInput_pattern {segments : List Segment} {places : List String}
    {found : List FileStatus} (wild : isPattern (fs.pathOf input).toText)
    (read : readPattern (fs.pathOf input).segments = some segments)
    (searched : expand t segments = places.map .ok)
    (told : List.Forall₂ (fun place status => fs.status t place = .ok status) places found) :
    expandInput fs t input = .ok (found.filter fun s => s.isThere && isInput s) := by
  have listed : (places.map .ok : List Finding).mapM (fun finding => do
      let place ← finding.mapError InputError.search
      (fs.status t place).mapError .file) = .ok found := by
    rw [mapM_eq_ok, List.forall₂_map_left_iff]
    refine told.imp fun place status told => ?_
    rw [bind_eq_ok]
    exact ⟨place, mapError_eq_ok.2 rfl, mapError_eq_ok.2 told⟩
  rw [expandInput, if_pos wild, expandPattern, read]
  simp only [searched, listed]
  rfl

/-- A set in the root and a name in what it finds: the directories in the set that have the name. -/
lemma expand_within {t : Tree} {entries : List (String × Entry)} (listed : t.list "/" = .ok entries)
    (directories : ∀ e ∈ entries, e.2 = .directory) (set : List CharRange) (name : List Char) :
    expand t [.tokens [.within set], .tokens (name.map .char)] = entries.flatMap fun e =>
      if matchTokens [.within set] e.1.toList ∧
          isThere t (joinPath (joinPath "/" e.1) (.ofList name)) then
        [.ok (joinPath (joinPath "/" e.1) (.ofList name))]
      else [] := by
  have literal : (Segment.tokens (name.map .char)).literal? = some (.ofList name) := by
    have each : (name.map .char).mapM Token.literal? = some name := by
      induction name with
      | nil => rfl
      | cons c rest ih => rw [List.map_cons, List.mapM_cons, ih]; rfl
    rw [Segment.literal?, each]
    rfl
  rw [expand, search]
  simp only [show (Segment.tokens [.within set]).literal? = none from rfl, listed]
  refine List.flatMap_congr fun e mem => ?_
  rw [directories e mem]
  by_cases inside : matchTokens [.within set] e.1.toList
  · have next : search t maxPathLength [.tokens (name.map .char)] (joinPath "/" e.1) true =
        if isThere t (joinPath (joinPath "/" e.1) (.ofList name)) then
          [.ok (joinPath (joinPath "/" e.1) (.ofList name))] else [] := by
      rw [search]
      simp only [literal]
      rfl
    simp only [Segment.matchesName, inside, true_and]
    exact next
  · simp [Segment.matchesName, inside]

/-- A search finds what a path leads to. -/
lemma isThere_of_status {t : Tree} {text : String} {entry : Entry}
    (told : t.status text = .ok entry) : isThere t text := by
  obtain ⟨place, found⟩ := Tree.status_eq_ok.1 told
  rw [isThere, found]
  rfl

/-- The set of the digit one finds the file in the directory that has it for a name. -/
lemma expand_one :
    expand bracketed [.tokens [.within [⟨'1', '1'⟩]], .tokens ("a".toList.map .char)] =
      ["/1/a"].map .ok := by
  have there : isThere bracketed "/1/a" :=
    isThere_of_status (show bracketed.status "/1/a" = _ from status_bracketed.1)
  rw [expand_within list_bracketed (by simp)]
  simpa +decide [joinPath, matchTokens, inRanges] using there

/-- No directory has the digit two for a name, so its set finds nothing. -/
lemma expand_two (name : String) :
    expand bracketed [.tokens [.within [⟨'2', '2'⟩]], .tokens (name.toList.map .char)] =
      [].map .ok := by
  rw [expand_within list_bracketed (by simp)]
  simp +decide [joinPath, matchTokens, inRanges]

/-- In a directory whose name is a set, a file of 25 bytes gets the one split of another file of 5
bytes, or none at all, and what is not there gets none instead of a failure. -/
theorem wildcard_directory_searched :
    (isPattern "a" = false ∧ isPattern "b" = false) ∧
    (bracketed.status ((workingIn "[1]").pathOf "a").toText = .ok (.file ⟨[], 25⟩) ∧
      computeSplits (workingIn "[1]") bracketed ["a"] 10 = .ok [⟨"/1/a", 0, 5, []⟩]) ∧
    (bracketed.status ((workingIn "[2]").pathOf "a").toText = .ok (.file ⟨[], 25⟩) ∧
      computeSplits (workingIn "[2]") bracketed ["a"] 10 = .ok []) ∧
    (bracketed.status ((workingIn "[2]").pathOf "b").toText = .error .notFound ∧
      computeSplits (workingIn "[2]") bracketed ["b"] 10 = .ok []) := by
  have path : ∀ directory ∈ ["[1]", "[2]"], ∀ name ∈ ["a", "b"],
      (workingIn directory).pathOf name = ⟨[directory, name]⟩ ∧
        isPattern ((workingIn directory).pathOf name).toText := by
    decide
  have other : expandInput (workingIn "[1]") bracketed "a" = .ok [⟨"/1/a", true, 5, false⟩] := by
    obtain ⟨here, wild⟩ := path "[1]" (by decide) "a" (by decide)
    have read := @readPattern_bracketed "[1]" "a" '1' (by decide) (by decide) (by decide)
    have normal : File.Path.Normal ⟨["1", "a"]⟩ := by
      unfold File.Path.Normal
      decide
    have told := FileSystem.status_toText (workingIn "[1]") normal status_bracketed.1
    have visible : isInput (.ofEntry ⟨["1", "a"]⟩ (.file ⟨[], 5⟩)) :=
      @isInput_ofEntry ⟨["1"]⟩ "a" normal _
    rw [expandInput_pattern wild (by rw [here]; exact read) expand_one (.cons told .nil),
      List.filter_cons_of_pos (by exact visible), List.filter_nil]
    rfl
  have none (name : String) (letter : name ∈ ["a", "b"]) :
      expandInput (workingIn "[2]") bracketed name = .ok [] := by
    obtain ⟨here, wild⟩ := path "[2]" (by decide) name letter
    have read := @readPattern_bracketed "[2]" name '2' (by decide) (by decide) letter
    exact expandInput_pattern wild (by rw [here]; exact read) (expand_two name) .nil
  refine ⟨by decide, ⟨?_, ?_⟩, ⟨?_, ?_⟩, ?_, ?_⟩
  · rw [(path _ (by decide) _ (by decide)).1]
    exact status_bracketed.2.1
  · rw [computeSplits_one other]
    exact congrArg _ (by decide +kernel)
  · rw [(path _ (by decide) _ (by decide)).1]
    exact status_bracketed.2.2.1
  · rw [computeSplits_one (none "a" (by decide)), List.flatMap_nil]
  · rw [(path _ (by decide) _ (by decide)).1]
    exact status_bracketed.2.2.2
  · rw [computeSplits_one (none "b" (by decide)), List.flatMap_nil]

end JobCluster.Input
