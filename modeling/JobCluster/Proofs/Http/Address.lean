import JobCluster.Http.Address
import JobCluster.Http.Message
import JobCluster.Proofs.Text.Split
import JobCluster.Proofs.Text.Utf8
import Mathlib.Data.List.TakeWhile

/-!
# Names in addresses

A name that is put behind an address becomes one segment of the path, unless it stands for a
directory (`foldl_pushSegment`). What is sent is cut at the same places again (`splitOn_path`), and
the segment is read as the name without its tabs and line breaks (`ofUtf8?_segmentOf`).
-/

namespace JobCluster.Http

open JobCluster.Text

/-- What an address keeps of a name: all but tabs and line breaks. -/
def kept (name : String) : String := String.ofList (name.toList.filter (! isDropped ·))

/-- A name that stands for a directory in an address, and is no segment of its own. -/
def IsDots (name : String) : Prop := kept name = "." ∨ kept name = ".."

instance (name : String) : Decidable (IsDots name) := inferInstanceAs (Decidable (_ ∨ _))

/-- The segment that a name becomes. -/
def segmentOf (name : String) : String :=
  String.ofList (percentEncode isSegmentChar (kept name).toList)

/-- Of a name, all but tabs and line breaks is kept. -/
lemma toList_kept (name : String) : (kept name).toList = name.toList.filter (! isDropped ·) :=
  String.toList_ofList

/-- A name without tabs and line breaks is kept as it is. -/
lemma kept_eq_self_iff {name : String} :
    kept name = name ↔ ∀ c ∈ name.toList, isDropped c = false := by
  rw [← String.toList_inj, toList_kept, List.filter_eq_self]
  simp only [Bool.not_eq_true']

/-! ## Segments of a path -/

/-- A segment that is no dot segment is added at the end. -/
lemma pushSegment_eq {name : String} (noDots : ¬ IsDots name) (path : List String) :
    pushSegment path name = path ++ [segmentOf name] := by
  have plain : (name = "." || name = "..") = false := by
    rw [Bool.or_eq_false_iff, decide_eq_false_iff_not, decide_eq_false_iff_not]
    constructor <;> rintro rfl
    · exact noDots (.inl rfl)
    · exact noDots (.inr rfl)
  have dot : name.toList.filter (! isDropped ·) ≠ ['.'] := fun e => noDots (.inl (by rw [kept, e]))
  have dots : name.toList.filter (! isDropped ·) ≠ ['.', '.'] := fun e =>
    noDots (.inr (by rw [kept, e]))
  rw [pushSegment, plain, if_neg Bool.false_ne_true]
  dsimp only
  rw [if_neg dot, if_neg dots, segmentOf, toList_kept]

/-- Segments are added one after the other, if none is a dot segment. -/
lemma foldl_pushSegment {names : List String} (noDots : ∀ s ∈ names, ¬ IsDots s)
    (path : List String) : names.foldl pushSegment path = path ++ names.map segmentOf := by
  induction names generalizing path with
  | nil => rw [List.map_nil, List.append_nil]; rfl
  | cons s names ih =>
    obtain ⟨first, others⟩ := List.forall_mem_cons.1 noDots
    rw [List.foldl_cons, pushSegment_eq first, ih others, List.append_assoc]
    rfl

/-- No character of a segment ends it, or ends the path. -/
lemma notMem_segmentOf (name : String) :
    '/' ∉ (segmentOf name).toList ∧ '?' ∉ (segmentOf name).toList ∧
      '#' ∉ (segmentOf name).toList := by
  rw [segmentOf, String.toList_ofList]
  refine ⟨?_, ?_, ?_⟩ <;>
    exact notMem_percentEncode (by decide) (by decide) (by decide) _

/-- A segment is read as what an address keeps of the name. -/
lemma ofUtf8?_segmentOf (name : String) :
    ofUtf8? (percentDecode (segmentOf name).toList) = some (kept name) := by
  rw [segmentOf, String.toList_ofList, percentDecode_encode (by decide), ofUtf8?_encode,
    String.ofList_toList]

/-! ## What is sent -/

/-- An address that is sent as it stands: its path has segments, and they and the query hold no
character that would end them. -/
structure Address.Plain (a : Address) : Prop where
  nonempty : a.path ≠ []
  segments : ∀ s ∈ a.path, '/' ∉ s.toList ∧ '?' ∉ s.toList ∧ '#' ∉ s.toList
  query : ∀ q ∈ a.query, '#' ∉ q.toList

variable {a : Address} {r : Request}

/-- Segments after slashes are segments between slashes, after a first one. -/
lemma slashed_eq {ss : List String} (ne : ss ≠ []) :
    slashed ss = '/' :: ("/".intercalate ss).toList := by
  induction ss with
  | nil => exact absurd rfl ne
  | cons s ss ih =>
    cases ss with
    | nil =>
      rw [String.intercalate_singleton, slashed, List.flatMap_singleton]
    | cons t ss =>
      rw [slashed, List.flatMap_cons, String.intercalate_cons_cons, String.toList_append,
        String.toList_append, List.append_assoc, List.cons_append]
      exact congrArg (fun cs => '/' :: (s.toList ++ cs)) (ih (List.cons_ne_nil t ss))

/-- The target of an address is its path, and its query after a question mark. -/
lemma toList_target (ne : a.path ≠ []) :
    a.target.toList = slashed a.path ++ a.query.elim [] fun q => '?' :: q.toList := by
  rw [slashed_eq ne, Address.target, String.toList_append, String.toList_append]
  cases a.query with
  | none => rfl
  | some q =>
    rw [String.toList_append]
    rfl

/-- A character that is in no segment is not between them, unless it is the slash. -/
lemma notMem_slashed {ss : List String} {c : Char} (other : c ≠ '/')
    (notMem : ∀ s ∈ ss, c ∉ s.toList) : c ∉ slashed ss := by
  intro mem
  obtain ⟨s, found, mem⟩ := List.mem_flatMap.1 mem
  rcases List.mem_cons.1 mem with e | mem
  · exact other e
  · exact notMem s found mem

/-- Each character of a text differs from one that is not there. -/
lemma bne_of_notMem {c : Char} {cs : List Char} (notMem : c ∉ cs) : ∀ d ∈ cs, (d != c) = true :=
  fun _ mem => bne_iff_ne.2 fun e => notMem (e ▸ mem)

/-- A plain address has no fragment to lose. -/
lemma withoutFragment_eq (sent : r.target = a.target) (plain : a.Plain) :
    withoutFragment r.target =
      slashed a.path ++ a.query.elim [] fun q => '?' :: q.toList := by
  rw [sent, withoutFragment, toList_target plain.nonempty]
  refine List.takeWhile_eq_self_iff.2 (bne_of_notMem fun mem => ?_)
  rcases List.mem_append.1 mem with mem | mem
  · exact notMem_slashed (by decide) (fun s found => (plain.segments s found).2.2) mem
  · cases found : a.query with
    | none =>
      rw [found] at mem
      cases mem
    | some q =>
      rw [found] at mem
      rcases List.mem_cons.1 mem with e | mem
      · exact absurd e (by decide)
      · exact plain.query q found mem

/-- The path of a request is cut into the segments of its address. -/
lemma splitOn_path (sent : r.target = a.target) (plain : a.Plain) :
    (splitOn '/' r.path.toList).map String.ofList = "" :: a.path := by
  have noMark := notMem_slashed (c := '?') (by decide) fun s found => (plain.segments s found).2.1
  have path : r.path.toList = slashed a.path := by
    rw [Request.path, String.toList_ofList, withoutFragment_eq sent plain,
      List.takeWhile_append_of_pos (bne_of_notMem noMark)]
    cases a.query with
    | none => exact List.append_nil _
    | some q => exact List.append_nil _
  rw [path, splitOn_slashed fun s found => (plain.segments s found).1, List.map_cons, List.map_map]
  refine congrArg (List.cons "") ((List.map_congr_left fun s _ => ?_).trans (List.map_id _))
  exact String.ofList_toList

/-- The query of a request is the query of its address. -/
lemma query_eq (sent : r.target = a.target) (plain : a.Plain) {q : String}
    (found : a.query = some q) : r.query = q := by
  have noMark := notMem_slashed (c := '?') (by decide) fun s found => (plain.segments s found).2.1
  rw [Request.query, withoutFragment_eq sent plain,
    List.dropWhile_append_of_pos (bne_of_notMem noMark), found]
  exact String.ofList_toList

end JobCluster.Http
