import JobCluster.Proofs.File.Tree
import JobCluster.Proofs.Input.Splits

/-!
# The splits of a directory

A directory as an input has the splits of the visible entries in it that are no directories. Where
such an entry is a file, its splits cover what is read from it and are those of the file as an input
of its own. A link gets the splits of a file as long as the text of its target, whatever it leads to
(`splits_of_directory`); so the splits of a linked file may miss most of it
(`linked_file_cut_short`).
-/

namespace JobCluster.Input

open JobCluster.File JobCluster.Text

variable {fs : FileSystem} {t : Tree} {p : Path} {name : String} {place : List String}
  {entry : Entry} {size : UInt64} {input : String}

/-- Whether an entry of a directory gets splits. -/
def isVisible (e : String × Entry) : Bool := ! e.2.isDirectory && ! isHiddenName e.1

/-- An entry is an input if its name is visible. -/
lemma isInput_ofEntry (normal : (p.child name).Normal) (entry : Entry) :
    isInput (.ofEntry (p.child name) entry) = isVisible (name, entry) := by
  rw [isInput, isHidden, FileStatus.ofEntry, segmentsOf_toText normal, Path.child,
    List.getLast?_concat]
  rfl

/-- What the splits of an entry of a directory are. -/
structure EntrySplits (fs : FileSystem) (t : Tree) (size : UInt64) (path : Path) (entry : Entry)
    (splits : List InputSplit) : Prop where
  covers : SplitsOf size (.ofEntry path entry) splits
  length : (FileStatus.ofEntry path entry).length.toNat = entry.size
  read : ∀ c, entry = .file c → utf8Length path.toText ≤ maxPathLength →
    t.read path.toText = .ok c
  alone : ∀ c, entry = .file c → utf8Length path.toText ≤ maxPathLength →
    isPattern path.toText = false → computeSplits fs t [path.toText] size = .ok splits

/-- An entry is split by its kind: a file by its content, a link by the text of the link. -/
theorem entrySplits (fs : FileSystem) (wf : t.WellFormed) (normal : fs.workingDirectory.Normal)
    (pos : 1 ≤ size) (normal' : p.Normal)
    (found : t.find .follow p.toText = .ok (place, .directory))
    (mem : (name, entry) ∈ t.children place) :
    EntrySplits fs t size (p.child name) entry
      (fileSplits fs size (.ofEntry (p.child name) entry)) := by
  have there : (place ++ [name], entry) ∈ t.entries := Tree.mem_children.1 mem
  have isName : IsName name :=
    (wf.names _ there name (List.mem_append_right _ (List.mem_singleton_self _))).1
  -- the path of a file in the directory leads to it, as no link is in the way
  have status (c : Content) (file : entry = .file c)
      (short : utf8Length (p.child name).toText ≤ maxPathLength) :
      t.status (p.child name).toText = .ok (.file c) := by
    subst file
    rw [Tree.status, Tree.find_child wf normal' found mem (fun _ link => by cases link) short]
    rfl
  refine ⟨splitsOf_fileSplits fs pos _, ?_, ?_, ?_⟩
  · exact FileStatus.toNat_length_ofEntry _ (wf.sizes _ there)
  · intro c file short
    rw [Tree.read, status c file short]
    rfl
  · intro c file short plain
    have self : fs.pathOf (p.child name).toText = p.child name :=
      FileSystem.pathOf_toText fs (normal'.child isName)
    have alone : expandInput fs t (p.child name).toText =
        .ok [.ofEntry (fs.pathOf (p.child name).toText) (.file c)] :=
      expandInput_file normal (by rwa [self]) (by rw [self]; exact status c file short)
    rw [computeSplits_one alone, self, List.flatMap_singleton, file]

/-- A directory expands to its visible entries that are no directories. -/
lemma expandInput_visible (wf : t.WellFormed) (normal : fs.workingDirectory.Normal)
    (plain : isPattern (fs.pathOf input).toText = false)
    (found : t.find .follow (fs.pathOf input).toText = .ok (place, .directory)) :
    expandInput fs t input = .ok (((t.children place).filter isVisible).map fun e =>
      .ofEntry ((fs.pathOf input).child e.1) e.2) := by
  rw [expandInput_directory normal plain found, List.filter_map]
  refine congrArg Except.ok (congrArg (List.map _) (List.filter_congr fun e mem => ?_))
  have isName : IsName e.1 := (wf.names _ (Tree.mem_children.1 mem) e.1
    (List.mem_append_right _ (List.mem_singleton_self _))).1
  exact isInput_ofEntry ((FileSystem.normal_pathOf normal input).child isName) e.2

/-- A directory has the splits of its visible entries that are no directories, in their order. Those
of a file cover the file; those of a link cover as many bytes as its target has as a text. -/
theorem splits_of_directory (wf : t.WellFormed) (normal : fs.workingDirectory.Normal)
    (pos : 1 ≤ size) (plain : isPattern (fs.pathOf input).toText = false)
    (found : t.find .follow (fs.pathOf input).toText = .ok (place, .directory)) :
    (∀ name entry, (name, entry) ∈ t.children place ↔ t.entry? (place ++ [name]) = some entry) ∧
    ∃ parts, computeSplits fs t [input] size = .ok parts.flatten ∧
      List.Forall₂ (fun e splits => EntrySplits fs t size ((fs.pathOf input).child e.1) e.2 splits)
        ((t.children place).filter isVisible) parts := by
  have normal' : (fs.pathOf input).Normal := FileSystem.normal_pathOf normal input
  have visible : (((t.children place).map fun e => FileStatus.ofEntry
      ((fs.pathOf input).child e.1) e.2).filter isInput) =
      ((t.children place).filter isVisible).map fun e =>
        .ofEntry ((fs.pathOf input).child e.1) e.2 := by
    rw [List.filter_map]
    refine congrArg _ (List.filter_congr fun e mem => ?_)
    have isName : IsName e.1 := (wf.names _ (Tree.mem_children.1 mem) e.1
      (List.mem_append_right _ (List.mem_singleton_self _))).1
    exact isInput_ofEntry (normal'.child isName) e.2
  refine ⟨fun name entry => Tree.mem_children_iff wf,
    ((t.children place).filter isVisible).map fun e =>
      fileSplits fs size (.ofEntry ((fs.pathOf input).child e.1) e.2), ?_, ?_⟩
  · rw [computeSplits_one (expandInput_directory normal plain found), visible, List.flatMap_map,
      List.flatMap_def]
  · rw [List.forall₂_map_right_iff, List.forall₂_same]
    intro e mem
    exact entrySplits fs wf normal pos normal' found (List.mem_filter.1 mem).1

/-- A file of 25 bytes, and a directory with a link to it, one that leads nowhere, and a file. -/
def linked : Tree where
  entries := [(["a"], .file ⟨[], 25⟩), (["d"], .directory), (["d", "l"], .link "/a"),
    (["d", "x"], .link "/b"), (["d", "z"], .file ⟨[], 5⟩)]

/-- The sample tree is one that an operating system can keep. -/
lemma wellFormed_linked : linked.WellFormed where
  distinct := by decide
  names := by decide
  sizes := by decide

/-- The entries of its directory, in the order of the names. -/
lemma children_linked : linked.children ["d"] =
    [("l", .link "/a"), ("x", .link "/b"), ("z", .file ⟨[], 5⟩)] :=
  List.mergeSort_of_pairwise (by decide)

/-- The segments of its paths. -/
lemma segments_linked : walkSegments "/d" = ["d"] ∧ walkSegments "/d/l" = ["d", "l"] ∧
    walkSegments "/d/x" = ["d", "x"] ∧ walkSegments "/a" = ["a"] ∧ walkSegments "/b" = ["b"] := by
  decide

/-- What stands at its places. -/
lemma entries_linked : linked.entry? ["a"] = some (.file ⟨[], 25⟩) ∧
    linked.entry? ["b"] = none ∧ linked.entry? ["d"] = some .directory ∧
    linked.entry? ["d", "l"] = some (.link "/a") ∧
    linked.entry? ["d", "x"] = some (.link "/b") := by
  decide

/-- The path of its directory leads there. -/
lemma find_linked : linked.find .follow "/d" = .ok (["d"], .directory) := by
  refine Tree.find_eq_ok.2 (Tree.locate_eq_ok.2 ⟨by decide, by decide, by decide, ?_⟩)
  simp +decide [Tree.walk, segments_linked]

/-- The link leads to the file of 25 bytes. -/
lemma status_linked : linked.status "/d/l" = .ok (.file ⟨[], 25⟩) := by
  apply Tree.status_of_walk (by decide) (by decide) (by decide) ["a"]
  simp +decide [Tree.walk, segments_linked, entries_linked, maxLinks]

/-- The other link leads nowhere. -/
lemma status_linked_nowhere : linked.status "/d/x" = .error .notFound := by
  apply Tree.status_of_free (by decide) (by decide) (by decide) ["b"]
  simp +decide [Tree.walk, segments_linked, entries_linked, maxLinks]

/-- The inputs are paths from the root. -/
lemma pathOf_linked : FileSystem.atRoot.pathOf "/d" = ⟨["d"]⟩ ∧
    FileSystem.atRoot.pathOf "/d/l" = ⟨["d", "l"]⟩ := by
  decide

/-- The directory is split entry by entry. -/
theorem sample_splits_of_directory :
    linked.WellFormed ∧ ∃ parts, computeSplits .atRoot linked ["/d"] 10 = .ok parts.flatten ∧
      List.Forall₂ (fun e splits => EntrySplits .atRoot linked 10 (.child ⟨["d"]⟩ e.1) e.2 splits)
        [("l", .link "/a"), ("x", .link "/b"), ("z", .file ⟨[], 5⟩)] parts := by
  obtain ⟨-, parts, split, entries⟩ := @splits_of_directory .atRoot linked ["d"] 10 "/d"
    wellFormed_linked FileSystem.normal_atRoot (by decide) (by decide)
    (by rw [pathOf_linked.1]; exact find_linked)
  rw [pathOf_linked.1, children_linked] at entries
  exact ⟨wellFormed_linked, parts, split, entries⟩

/-- A linked file gets one split as long as the text of the link, though the link opens as a file of
25 bytes and has three splits as an input of its own. A link that leads nowhere gets a split too. -/
theorem linked_file_cut_short :
    computeSplits .atRoot linked ["/d"] 10 =
      .ok [⟨"/d/l", 0, 2, []⟩, ⟨"/d/x", 0, 2, []⟩, ⟨"/d/z", 0, 5, []⟩] ∧
    linked.read "/d/l" = .ok ⟨[], 25⟩ ∧
    computeSplits .atRoot linked ["/d/l"] 10 =
      .ok [⟨"/d/l", 0, 10, []⟩, ⟨"/d/l", 10, 10, []⟩, ⟨"/d/l", 20, 5, []⟩] ∧
    linked.read "/d/x" = .error .notFound := by
  have directory : expandInput .atRoot linked "/d" =
      .ok [⟨"/d/l", true, 2, false⟩, ⟨"/d/x", true, 2, false⟩, ⟨"/d/z", true, 5, false⟩] := by
    rw [expandInput_directory FileSystem.normal_atRoot (by decide)
      (by rw [pathOf_linked.1]; exact find_linked), pathOf_linked.1, children_linked]
    exact congrArg _ (by decide)
  have file : expandInput .atRoot linked "/d/l" = .ok [⟨"/d/l", true, 25, false⟩] := by
    rw [expandInput_file FileSystem.normal_atRoot (by decide)
      (by rw [pathOf_linked.2]; exact status_linked), pathOf_linked.2]
    rfl
  refine ⟨?_, ?_, ?_, ?_⟩
  · rw [computeSplits_one directory]
    exact congrArg _ (by decide +kernel)
  · rw [Tree.read, status_linked]
    rfl
  · rw [computeSplits_one file]
    exact congrArg _ (by decide +kernel)
  · rw [Tree.read, status_linked_nowhere]
    rfl

end JobCluster.Input
