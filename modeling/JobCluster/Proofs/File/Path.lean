import JobCluster.File.Path
import JobCluster.Proofs.Text.Split
import Mathlib.Tactic.Lemma
import Mathlib.Tactic.SplitIfs

/-!
# Paths and their texts

The paths that texts name have names for segments (`Path.Normal`, `normal_of`). The text of such a
path names it again, whatever the working directory (`of_toText`).
-/

namespace JobCluster.File

open JobCluster.Text

/-- What a segment of a path may be. -/
structure IsName (s : String) : Prop where
  some : s ≠ ""
  noDot : s ≠ "."
  noDots : s ≠ ".."
  noSlash : '/' ∉ s.toList

instance (s : String) : Decidable (IsName s) :=
  decidable_of_iff (s ≠ "" ∧ s ≠ "." ∧ s ≠ ".." ∧ '/' ∉ s.toList)
    ⟨fun h => ⟨h.1, h.2.1, h.2.2.1, h.2.2.2⟩,
      fun name => ⟨name.some, name.noDot, name.noDots, name.noSlash⟩⟩

/-- The segments of a path are names. -/
def Path.Normal (p : Path) : Prop := ∀ s ∈ p.segments, IsName s

variable {p base : Path} {s name : String} {ss : List String}

/-- A name can be added to a normal path. -/
lemma Path.Normal.child (normal : p.Normal) (isName : IsName name) : (p.child name).Normal := by
  intro s mem
  rcases List.mem_append.1 mem with mem | mem
  · exact normal s mem
  · exact List.mem_singleton.1 mem ▸ isName

/-- The segments of a text are not empty and have no slash. -/
lemma mem_segmentsOf (mem : name ∈ segmentsOf s) : name ≠ "" ∧ '/' ∉ name.toList := by
  obtain ⟨part, found, rfl⟩ := List.mem_map.1 mem
  obtain ⟨cut, some⟩ := List.mem_filter.1 found
  refine ⟨fun none => ?_, ?_⟩
  · have none' : part = [] := by simpa using congrArg String.toList none
    rw [none'] at some
    cases some
  · rw [String.toList_ofList]
    exact notMem_of_mem_splitOn cut

/-! ## The path of a text -/

/-- A walked segment leaves a path of names. -/
lemma normal_walkSegment (normal : ∀ n ∈ ss, IsName n) (some : s ≠ "") (noSlash : '/' ∉ s.toList) :
    ∀ n ∈ walkSegment ss s, IsName n := by
  intro n mem
  rw [walkSegment] at mem
  split_ifs at mem with dot dots
  · exact normal n mem
  · exact normal n (List.dropLast_subset ss mem)
  · rcases List.mem_append.1 mem with mem | mem
    · exact normal n mem
    · rw [List.mem_singleton] at mem
      exact mem ▸ ⟨some, dot, dots, noSlash⟩

/-- A walk along the segments of a text keeps a path normal. -/
lemma normal_walk (normal : base.Normal) (segments : ∀ s ∈ ss, s ≠ "" ∧ '/' ∉ s.toList) :
    (base.walk ss).Normal := by
  induction ss generalizing base with
  | nil => exact normal
  | cons s ss ih =>
    obtain ⟨some, noSlash⟩ := segments s List.mem_cons_self
    exact @ih ⟨walkSegment base.segments s⟩ (normal_walkSegment normal some noSlash)
      fun s mem => segments s (List.mem_cons_of_mem _ mem)

/-- A text names a path of names, seen from such a path. -/
theorem normal_of (normal : base.Normal) (s : String) : (Path.of base s).Normal := by
  refine normal_walk ?_ fun _ => mem_segmentsOf
  split_ifs
  · exact fun s mem => absurd mem List.not_mem_nil
  · exact normal

/-- A walk brings in no segments but those it is given. -/
lemma mem_segments_walk (mem : name ∈ (base.walk ss).segments) :
    name ∈ ss ∨ name ∈ base.segments := by
  induction ss generalizing base with
  | nil => exact .inr mem
  | cons s ss ih =>
    rcases @ih ⟨walkSegment base.segments s⟩ mem with mem | mem
    · exact .inl (List.mem_cons_of_mem _ mem)
    · simp only [walkSegment] at mem
      split_ifs at mem
      · exact .inr mem
      · exact .inr (List.dropLast_subset _ mem)
      · rcases List.mem_append.1 mem with mem | mem
        · exact .inr mem
        · exact .inl (List.mem_singleton.1 mem ▸ List.mem_cons_self)

/-- A segment of a path is one of the text, or of the directory that a relative text starts at. -/
lemma mem_segments_of (mem : name ∈ (Path.of base s).segments) :
    name ∈ segmentsOf s ∨ ¬ isAbsolute s ∧ name ∈ base.segments := by
  rw [Path.of] at mem
  rcases mem_segments_walk mem with mem | mem
  · exact .inl mem
  · split_ifs at mem with absolute
    · exact absurd mem List.not_mem_nil
    · exact .inr ⟨absolute, mem⟩

/-- Names are gone along one after another. -/
lemma walk_names (names : ∀ s ∈ ss, IsName s) : base.walk ss = ⟨base.segments ++ ss⟩ := by
  induction ss generalizing base with
  | nil => rw [List.append_nil]; rfl
  | cons s ss ih =>
    have name := names s List.mem_cons_self
    have step : walkSegment base.segments s = base.segments ++ [s] := by
      rw [walkSegment, if_neg name.noDot, if_neg name.noDots]
    have rest := @ih ⟨base.segments ++ [s]⟩ fun s mem => names s (List.mem_cons_of_mem _ mem)
    rw [Path.walk, List.foldl_cons, step]
    rw [Path.walk] at rest
    rw [rest, List.append_assoc]
    rfl

/-! ## The text of a path -/

/-- The text of a path has a slash before each segment; that of the root is one slash. -/
lemma toList_toText : p.toText.toList = if p.segments = [] then ['/'] else slashed p.segments := by
  obtain ⟨ss⟩ := p
  cases ss with
  | nil => rfl
  | cons s ss =>
    rw [if_neg (List.cons_ne_nil s ss), Path.toText, String.toList_join, List.flatMap_map, slashed]
    simp only [String.toList_append]
    rfl

/-- The text of a path is absolute. -/
lemma isAbsolute_toText (p : Path) : isAbsolute p.toText := by
  rw [isAbsolute, toList_toText]
  obtain ⟨ss⟩ := p
  cases ss with
  | nil => rfl
  | cons => rfl

/-- A normal path is read back from its text. -/
lemma segmentsOf_toText (normal : p.Normal) : segmentsOf p.toText = p.segments := by
  rw [segmentsOf, toList_toText]
  by_cases none : p.segments = []
  · rw [if_pos none, none]
    rfl
  · have keep : ∀ l ∈ p.segments.map String.toList, (! l.isEmpty) = true := by
      intro l mem
      obtain ⟨s, found, rfl⟩ := List.mem_map.1 mem
      have some := (normal s found).some
      simpa using some
    rw [if_neg none, splitOn_slashed fun s mem => (normal s mem).noSlash,
      List.filter_cons_of_neg (by decide), List.filter_eq_self.2 keep, List.map_map]
    refine (List.map_congr_left fun s _ => ?_).trans (List.map_id _)
    exact String.ofList_toList

/-- The text of a path names the path. -/
theorem of_toText (normal : p.Normal) : Path.of base p.toText = p := by
  rw [Path.of, if_pos (isAbsolute_toText p), segmentsOf_toText normal, walk_names normal]
  rfl

end JobCluster.File
