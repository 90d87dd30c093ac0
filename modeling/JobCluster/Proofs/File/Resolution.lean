import JobCluster.Proofs.File.System

/-!
# Paths are resolved on their texts

A text names a path by its segments alone, without a look at the files: names are gone along, `.`
stays, and `..` goes up but never above the root. So the path that a text names seen from a
directory which itself was named by a text is the one that both texts name together
(`Path.of_joinTexts`), and to name a path by its own text changes nothing.

`FileSystem.resolved_by_text` says this of a file system after any changes of its working directory.
-/

namespace JobCluster.File

open JobCluster.Text

/-! ## Texts joined -/

/-- The text of a path that follows another. One that starts at the root stands for itself. -/
def joinTexts (a b : String) : String :=
  if isAbsolute b then b
  else if a = "" ∨ a.toList.getLast? = some '/' then a ++ b
  else a ++ "/" ++ b

/-- A text that starts at the root and has no empty, `.` or `..` part between its slashes. -/
structure IsClean (s : String) : Prop where
  absolute : isAbsolute s
  parts : s = "/" ∨
    ∀ part ∈ (splitOn '/' s.toList).tail, part ≠ [] ∧ part ≠ ['.'] ∧ part ≠ ['.', '.']

section Texts

variable {a b s name : String} {p base : Path} {ss ss' : List String}

/-- Texts joined by a slash have the segments of both. -/
lemma segmentsOf_append_slash (e : s.toList = a.toList ++ '/' :: b.toList) :
    segmentsOf s = segmentsOf a ++ segmentsOf b := by
  rw [segmentsOf, e, splitOn_append_cons, List.filter_append, List.map_append]
  rfl

/-- The segments of a joined text are those of both, unless the second starts at the root. -/
lemma segmentsOf_joinTexts (relative : isAbsolute b = false) :
    segmentsOf (joinTexts a b) = segmentsOf a ++ segmentsOf b := by
  rw [joinTexts, if_neg (by rw [relative]; decide)]
  split_ifs with direct
  · rcases direct with rfl | ends
    · rw [String.empty_append]
      rfl
    · -- what follows the last slash of the first text is empty, and no segment
      obtain ⟨cs, cut⟩ := List.getLast?_eq_some_iff.1 ends
      have whole : segmentsOf (a ++ b) = segmentsOf (String.ofList cs) ++ segmentsOf b :=
        segmentsOf_append_slash (by simp [cut])
      have first : segmentsOf a = segmentsOf (String.ofList cs) ++ segmentsOf "" :=
        segmentsOf_append_slash (by simp [cut])
      rw [whole, first, show segmentsOf "" = [] from rfl, List.append_nil]
  · exact segmentsOf_append_slash (by simp)

/-- A joined text is absolute if its first part is. -/
lemma isAbsolute_joinTexts (relative : isAbsolute b = false) :
    isAbsolute (joinTexts a b) = isAbsolute a := by
  rw [joinTexts, if_neg (by rw [relative]; decide)]
  by_cases empty : a = ""
  · rw [if_pos (.inl empty), empty, String.empty_append, relative]
    rfl
  · have some : a.toList ≠ [] := by simpa using empty
    have head (cs : List Char) : (a.toList ++ cs).head? = a.toList.head? := by
      rw [List.head?_append, List.head?_eq_some_head some, Option.some_or]
    split_ifs <;> simp only [isAbsolute, String.toList_append, List.append_assoc, head]

/-- An absolute text takes the place of what it is joined to. -/
lemma joinTexts_absolute (absolute : isAbsolute b) : joinTexts a b = b := if_pos absolute

/-- A walk can be made in two parts. -/
lemma Path.walk_append : base.walk (ss ++ ss') = (base.walk ss).walk ss' := by
  simp only [Path.walk, List.foldl_append]

/-- A text seen from the path that another names is the two texts joined. -/
theorem Path.of_joinTexts (base : Path) (a b : String) :
    Path.of base (joinTexts a b) = Path.of (Path.of base a) b := by
  cases absolute : isAbsolute b with
  | true => rw [joinTexts_absolute absolute, Path.of, Path.of, absolute, if_pos rfl, if_pos rfl]
  | false =>
    rw [Path.of, isAbsolute_joinTexts absolute, segmentsOf_joinTexts absolute, Path.walk_append]
    simp only [Path.of, absolute, Bool.false_eq_true, if_false]

/-- A name is its only segment. -/
lemma IsName.segmentsOf (isName : IsName name) : segmentsOf name = [name] := by
  have whole : splitOn '/' name.toList = [name.toList] := by
    simpa using splitOn_append (r := []) isName.noSlash (splitOn.eq_1 '/')
  have kept : [name.toList].filter (! ·.isEmpty) = [name.toList] :=
    List.filter_eq_self.2 (by simpa using isName.some)
  rw [File.segmentsOf, whole, kept, List.map_singleton, String.ofList_toList]

/-- A name is no absolute text. -/
lemma IsName.not_isAbsolute (isName : IsName name) : isAbsolute name = false := by
  rw [isAbsolute, beq_eq_false_iff_ne]
  intro slash
  exact isName.noSlash (List.mem_of_head? slash)

/-- The text of a path of names is clean. -/
lemma Path.Normal.isClean (normal : p.Normal) : IsClean p.toText := by
  refine ⟨isAbsolute_toText p, ?_⟩
  by_cases root : p.segments = []
  · refine .inl (String.toList_inj.1 ?_)
    rw [toList_toText, if_pos root]
    rfl
  · right
    rw [toList_toText, if_neg root, splitOn_slashed fun s mem => (normal s mem).noSlash,
      List.tail_cons]
    intro part mem
    obtain ⟨s, found, rfl⟩ := List.mem_map.1 mem
    have isName := normal s found
    exact ⟨by simpa using isName.some, fun e => isName.noDot (String.toList_inj.1 e),
      fun e => isName.noDots (String.toList_inj.1 e)⟩

end Texts

/-! ## File systems whose working directory changes -/

namespace FileSystem

/-- What changes the working directory of a file system. -/
inductive Change where
  | setWorkingDirectory (s : String)
  | connect (t : Tree) (uri mount : String) (workingDirectory : Option String)

/-- The file system after a change. -/
def change (fs : FileSystem) : Change → FileSystem
  | .setWorkingDirectory s => fs.setWorkingDirectory s
  | .connect t uri mount workingDirectory => fs.connect t uri mount workingDirectory

/-- The file system after changes, one after another. -/
def after (fs : FileSystem) (changes : List Change) : FileSystem := changes.foldl change fs

/-- A file system resolves paths by their texts: where the text of a path goes on by one more
segment, so does the path. -/
structure ResolvesByText (fs : FileSystem) : Prop where
  clean : ∀ s, IsClean (fs.qualify s).toText
  again : ∀ s, fs.qualify (fs.qualify s).toText = fs.qualify s
  absolute : ∀ s, isAbsolute s → ∀ fs' : FileSystem, fs'.qualify s = fs.qualify s
  start : fs.qualify "" = fs.workingDirectory ∧ fs.qualify "/" = .root
  along : ∀ s name, IsName name → fs.qualify (joinTexts s name) = (fs.qualify s).child name
  stay : ∀ s, fs.qualify (joinTexts s ".") = fs.qualify s
  up : ∀ s, fs.qualify (joinTexts s "..") = (fs.qualify s).parent?.getD .root
  compose : ∀ a b, (fs.setWorkingDirectory a).qualify b = fs.qualify (joinTexts a b)

variable {fs : FileSystem}

/-- A qualified path is normal. -/
lemma normal_qualify (normal : fs.workingDirectory.Normal) (s : String) : (fs.qualify s).Normal :=
  normal_of normal s

/-- A change leaves the working directory normal. -/
lemma normal_change (normal : fs.workingDirectory.Normal) (ch : Change) :
    (fs.change ch).workingDirectory.Normal := by
  cases ch with
  | setWorkingDirectory s => exact normal_qualify normal s
  | connect t uri mount workingDirectory =>
    rw [change, connect]
    split_ifs
    · exact normal
    · cases workingDirectory with
      | none => exact normal
      | some s => exact normal_qualify normal s

/-- The working directory stays normal under all changes. -/
lemma normal_after (normal : fs.workingDirectory.Normal) (changes : List Change) :
    (fs.after changes).workingDirectory.Normal := by
  induction changes generalizing fs with
  | nil => exact normal
  | cons ch changes ih => exact ih (normal_change normal ch)

/-- A joined text is qualified part by part. -/
lemma qualify_joinTexts (fs : FileSystem) (a b : String) :
    fs.qualify (joinTexts a b) = Path.of (fs.qualify a) b :=
  Path.of_joinTexts fs.workingDirectory a b

/-- Two dots lead to the parent, and from the root to itself. -/
lemma qualify_up (fs : FileSystem) (s : String) :
    fs.qualify (joinTexts s "..") = (fs.qualify s).parent?.getD .root := by
  have one (p : Path) : Path.of p ".." = ⟨p.segments.dropLast⟩ := rfl
  rw [qualify_joinTexts, one, Path.parent?]
  cases (fs.qualify s).segments with
  | nil => rfl
  | cons => rfl

/-- Where the working directory is one of names, paths are resolved by their texts. -/
lemma resolvesByText (normal : fs.workingDirectory.Normal) : fs.ResolvesByText where
  clean s := (normal_qualify normal s).isClean
  again s := qualify_toText fs (normal_qualify normal s)
  absolute s whole fs' := by
    rw [qualify, qualify, Path.of, Path.of, if_pos whole, if_pos whole]
  start := ⟨rfl, rfl⟩
  along s name isName := by
    rw [qualify_joinTexts, Path.of, isName.not_isAbsolute, isName.segmentsOf]
    exact walk_names fun n mem => List.mem_singleton.1 mem ▸ isName
  stay s := qualify_joinTexts fs s "."
  up := qualify_up fs
  compose a b := (qualify_joinTexts fs a b).symm

/-- After any changes of the working directory, it is clean again, and all paths are resolved by
their texts. -/
theorem resolved_by_text (normal : fs.workingDirectory.Normal) (changes : List Change) :
    IsClean (fs.after changes).workingDirectory.toText ∧ (fs.after changes).ResolvesByText :=
  have normal' := normal_after normal changes
  ⟨normal'.isClean, resolvesByText normal'⟩

/-- From the root, through directories that need not exist, up past the root and down again. -/
theorem sample_resolved_by_text :
    (atRoot.after [.setWorkingDirectory "a/./b", .connect .empty "ceph:///" "/mnt"
      (some "../../../srv//x/.."), .setWorkingDirectory "data"]).workingDirectory.toText =
        "/srv/data" ∧
    IsClean "/srv/data" ∧
    (atRoot.after [.setWorkingDirectory "a/./b", .connect .empty "ceph:///" "/mnt"
      (some "../../../srv//x/.."), .setWorkingDirectory "data"]).ResolvesByText := by
  have there : (atRoot.after [.setWorkingDirectory "a/./b", .connect .empty "ceph:///" "/mnt"
      (some "../../../srv//x/.."), .setWorkingDirectory "data"]).workingDirectory.toText =
        "/srv/data" := by
    decide +kernel
  have resolved := resolved_by_text normal_atRoot [.setWorkingDirectory "a/./b",
    .connect .empty "ceph:///" "/mnt" (some "../../../srv//x/.."), .setWorkingDirectory "data"]
  exact ⟨there, there ▸ resolved.1, resolved.2⟩

end FileSystem

end JobCluster.File
