import JobCluster.File.System
import JobCluster.Proofs.File.Path
import Mathlib.Algebra.GroupWithZero.Nat

/-!
# A file system over a tree

Where the working directory is one of names, so is every path that an input names
(`FileSystem.normal_pathOf`). What the file system says about the text of such a path is what the
tree says about it (`FileSystem.status_toText`, `FileSystem.list_toText`).
-/

namespace JobCluster.File

@[simp] lemma FileStatus.path_ofEntry (p : Path) (entry : Entry) :
    (FileStatus.ofEntry p entry).path = p.toText := rfl

/-- The length in a status is the size of the entry, if that is a word. -/
lemma FileStatus.toNat_length_ofEntry (p : Path) {entry : Entry} (small : entry.size < 2 ^ 64) :
    (FileStatus.ofEntry p entry).length.toNat = entry.size := by
  rw [ofEntry, UInt64.toNat_ofNat_of_lt' small]

namespace FileSystem

variable {fs : FileSystem} {t : Tree} {p : Path} {entry : Entry} {place : List String}

/-- The path of an input is normal. -/
lemma normal_pathOf (normal : fs.workingDirectory.Normal) (input : String) :
    (fs.pathOf input).Normal :=
  normal_of normal _

/-- The text of a normal path is qualified to the path. -/
lemma qualify_toText (fs : FileSystem) (normal : p.Normal) : fs.qualify p.toText = p :=
  of_toText normal

/-- The text of a path has no scheme. -/
lemma pathOf_toText (fs : FileSystem) (normal : p.Normal) : fs.pathOf p.toText = p := by
  have noScheme : stripScheme p.toText = p.toText := by
    obtain ⟨rest, text⟩ := List.head?_eq_some_iff.1 (beq_iff_eq.1 (isAbsolute_toText p))
    rw [stripScheme, text]
    exact if_neg (by simp [scheme])
  rw [pathOf, noScheme, qualify_toText fs normal]

/-- A path has the status of what it leads to. -/
lemma status_toText (fs : FileSystem) (normal : p.Normal)
    (found : t.status p.toText = .ok entry) :
    fs.status t p.toText = .ok (.ofEntry p entry) := by
  simp only [status, qualify_toText fs normal, found]

/-- A path that leads to nothing is missing. -/
lemma status_toText_of_notFound (fs : FileSystem) (normal : p.Normal)
    (gone : t.status p.toText = .error .notFound) :
    fs.status t p.toText = .ok (.missing p.toText) := by
  simp only [status, qualify_toText fs normal, gone]

/-- A directory is listed by the paths of its entries. -/
lemma list_toText (fs : FileSystem) (normal : p.Normal)
    (found : t.find .follow p.toText = .ok (place, .directory)) :
    fs.list t p.toText =
      .ok ((t.children place).map fun e => .ofEntry (p.child e.1) e.2) := by
  have told : t.status p.toText = .ok .directory := by rw [Tree.status, found]; rfl
  have listed : t.list p.toText = .ok (t.children place) := by rw [Tree.list, found]; rfl
  rw [list, status_toText fs normal told, qualify_toText fs normal, listed]
  rfl

/-- A file system that works at the root and is not connected. -/
def atRoot : FileSystem := .new .unloaded .root

/-- The root is a normal working directory. -/
lemma normal_atRoot : atRoot.workingDirectory.Normal := fun _ mem => absurd mem List.not_mem_nil

end FileSystem

end JobCluster.File
