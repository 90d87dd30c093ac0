import JobCluster.Proofs.File.System
import Mathlib.Data.List.Nodup

/-!
# The entries of a directory

A walk that arrives can be gone on with (`walk_append`). So the path of an entry of a directory
leads to the entry, if it is no link and the path is not too long (`find_child`). What a walk
through links arrives at is a file or a directory (`find_follow`).

Trees are taken to be as an operating system keeps them: one entry at a place, and names that it
allows (`WellFormed`).
-/

namespace JobCluster.File

open JobCluster.Text (slashed)

/-! ## Texts of paths -/

section Text

variable {p : Path} {name : String} {ss : List String}

/-- The text of segments with one more at the end. -/
lemma slashed_concat (ss : List String) (name : String) :
    slashed (ss ++ [name]) = slashed ss ++ '/' :: name.toList := by
  rw [slashed, List.flatMap_append, List.flatMap_singleton]
  rfl

/-- The text of an entry of a directory is that of the directory, a slash and the name. -/
lemma toList_child (p : Path) (name : String) :
    (p.child name).toText.toList = slashed p.segments ++ '/' :: name.toList := by
  rw [toList_toText, if_neg (by simp [Path.child]), Path.child, slashed_concat]

/-- The segments to walk for a path. Only the text of the root ends in a slash. -/
lemma walkSegments_toText (normal : p.Normal) :
    walkSegments p.toText = if p.segments = [] then [""] else p.segments := by
  obtain ⟨ss⟩ := p
  rcases List.eq_nil_or_concat' ss with rfl | ⟨ss, name, rfl⟩
  · rfl
  · have last : IsName name := normal name (List.mem_append_right _ (List.mem_singleton_self _))
    have nonempty : name.toList ≠ [] := by simpa using last.some
    have noSlash : ¬ (Path.toText ⟨ss ++ [name]⟩).toList.getLast? == some '/' := by
      rw [show (Path.mk (ss ++ [name])) = Path.child ⟨ss⟩ name from rfl, toList_child,
        List.getLast?_append_of_ne_nil _ (List.cons_ne_nil _ _), List.getLast?_cons,
        List.getLast?_eq_some_getLast nonempty]
      intro slash
      have : name.toList.getLast nonempty = '/' := by simpa using slash
      exact last.noSlash (this ▸ List.getLast_mem nonempty)
    rw [walkSegments, if_neg noSlash, segmentsOf_toText normal, if_neg (by simp)]

/-- The path of an entry holds a NUL if that of the directory or the name does. -/
lemma holdsNul_child (clean : holdsNul p.toText = false) (clean' : holdsNul name = false) :
    holdsNul (p.child name).toText = false := by
  have clean'' : '\x00' ∉ slashed p.segments := by
    rw [holdsNul, toList_toText] at clean
    split_ifs at clean with root
    · rw [root]
      exact List.not_mem_nil
    · simpa using clean
  rw [holdsNul] at clean' ⊢
  rw [toList_child]
  have ne : ¬ '\x00' = '/' := by decide
  simpa [clean'', ne] using clean'

end Text

namespace Tree

/-- What holds of the trees that an operating system keeps. -/
structure WellFormed (t : Tree) : Prop where
  distinct : (t.entries.map Prod.fst).Nodup
  names : ∀ e ∈ t.entries, ∀ s ∈ e.1,
    IsName s ∧ holdsNul s = false ∧ Text.utf8Length s ≤ maxNameLength
  sizes : ∀ e ∈ t.entries, e.2.size < 2 ^ 64

/-! ## Walks -/

variable {t : Tree} {links : Nat} {place place' : List String} {entry entry' : Entry} {s : String}
  {pending rest more : List String}

section Step

variable (directory : entry.isDirectory) (noDot : ¬ (s = "" ∨ s = ".")) (noDots : s ≠ "..")
  (short : ¬ maxNameLength < Text.utf8Length s)

include directory noDot noDots short

/-- A walk goes on to what stands under a name, if that is no link. -/
lemma walk_entry {e : Entry} (there : t.entry? (place ++ [s]) = some e)
    (noLink : ∀ target, e ≠ .link target) :
    t.walk .follow links place entry (s :: rest) = t.walk .follow links (place ++ [s]) e rest := by
  rw [walk, if_neg (by rw [directory]; decide), if_neg noDot, if_neg noDots,
    if_neg fun written => absurd written.1 (by decide), if_neg short, there]
  cases e with
  | link target => exact absurd rfl (noLink target)
  | file => rfl
  | directory => rfl

/-- A walk goes on to what a link names. -/
lemma walk_link {target : String} (there : t.entry? (place ++ [s]) = some (.link target)) :
    t.walk .follow (links + 1) place entry (s :: rest) =
      t.walk .follow links (if isAbsolute target then [] else place) .directory
        (walkSegments target ++ rest) := by
  rw [walk, if_neg (by rw [directory]; decide), if_neg noDot, if_neg noDots,
    if_neg fun written => absurd written.1 (by decide), if_neg short, there]
  exact if_neg fun kept => absurd kept.2 (by decide)

end Step

/-- A walk that arrives goes on from there, with the links that are left. -/
theorem walk_append
    (found : t.walk .follow links place entry pending = .ok (.found place' entry')) :
    ∃ links', t.walk .follow links place entry (pending ++ more) =
      t.walk .follow links' place' entry' more := by
  fun_induction Tree.walk t .follow links place entry pending with
  | case1 links place entry =>
    cases found
    exact ⟨links, rfl⟩
  | case2 | case5 | case6 | case7 | case8 | case10 => cases found
  | case3 links place entry s rest directory here ih =>
    rw [List.cons_append, walk, if_neg directory, if_pos here]
    exact ih found
  | case4 links place entry rest directory name ih =>
    rw [List.cons_append, walk, if_neg directory, if_neg name, if_pos rfl]
    exact ih found
  | case9 _ _ _ _ _ _ _ _ _ _ _ _ stays => cases stays.2
  | case11 place entry s rest directory noDot noDots _ short target there _ links start ih =>
    rw [List.cons_append, walk_link (by simpa using directory) noDot noDots short there,
      ← List.append_assoc]
    exact ih found
  | case12 links place entry s rest directory noDot noDots _ short e noLink there ih =>
    rw [List.cons_append, walk_entry (by simpa using directory) noDot noDots short there noLink]
    exact ih found

/-- Where a walk through links arrives, there is no link. -/
theorem walk_follow {P : Entry → Prop} (start : P entry) (directory : P .directory)
    (there : ∀ place e, t.entry? place = some e → (∀ target, e ≠ .link target) → P e)
    (found : t.walk .follow links place entry pending = .ok (.found place' entry')) :
    P entry' := by
  fun_induction Tree.walk t .follow links place entry pending with
  | case1 =>
    cases found
    exact start
  | case2 | case5 | case6 | case7 | case8 | case10 => cases found
  | case3 _ _ _ _ _ _ _ ih => exact ih start found
  | case4 _ _ _ _ _ _ ih => exact ih directory found
  | case9 _ _ _ _ _ _ _ _ _ _ _ _ stays => cases stays.2
  | case11 _ _ _ _ _ _ _ _ _ _ _ _ _ _ ih => exact ih directory found
  | case12 _ place _ s _ _ _ _ _ _ e noLink here ih => exact ih (there _ e here noLink) found

/-- A text arrives if it can be walked: it has no NUL, is not empty and not too long. -/
lemma locate_eq_ok {last : LastLink} {spot : Spot} : t.locate last s = .ok spot ↔
    holdsNul s = false ∧ s ≠ "" ∧ Text.utf8Length s ≤ maxPathLength ∧
      t.walk last maxLinks [] .directory (walkSegments s) = .ok spot := by
  rw [locate]
  split_ifs with nul empty long
  · simp [nul]
  · simp [String.isEmpty_iff.1 empty]
  · simp [Nat.not_le.2 long]
  · have some : s ≠ "" := fun none => empty (String.isEmpty_iff.2 none)
    simp [nul, some, Nat.not_lt.1 long]

/-- A text leads to an entry if its walk arrives at one. -/
lemma find_eq_ok {last : LastLink} : t.find last s = .ok (place, entry) ↔
    t.locate last s = .ok (.found place entry) := by
  rw [find]
  rcases t.locate last s with fault | ⟨place', entry'⟩ | free
  · exact ⟨nofun, nofun⟩
  · constructor
    · intro done
      cases done
      rfl
    · intro done
      cases done
      rfl
  · exact ⟨nofun, nofun⟩

/-- The status of a text is the entry that it leads to through links. -/
lemma status_eq_ok {text : String} :
    t.status text = .ok entry ↔ ∃ place, t.find .follow text = .ok (place, entry) := by
  rw [status]
  rcases t.find .follow text with fault | ⟨place, e⟩
  · constructor
    · intro told
      cases told
    · rintro ⟨place, found⟩
      cases found
  · constructor
    · intro told
      cases told
      exact ⟨place, rfl⟩
    · rintro ⟨place, found⟩
      cases found
      rfl

section Arrival

variable {text : String} (clean : holdsNul text = false) (some : text ≠ "")
  (short : Text.utf8Length text ≤ maxPathLength)

include clean some short

/-- A text leads to the entry at which its walk through links arrives. -/
lemma status_of_walk (place : List String)
    (arrives : t.walk .follow maxLinks [] .directory (walkSegments text) =
      .ok (.found place entry)) : t.status text = .ok entry :=
  status_eq_ok.2 ⟨place, find_eq_ok.2 (locate_eq_ok.2 ⟨clean, some, short, arrives⟩)⟩

/-- A text that leads to a free place leads to nothing. -/
lemma status_of_free (place : List String)
    (arrives : t.walk .follow maxLinks [] .directory (walkSegments text) = .ok (.free place)) :
    t.status text = .error .notFound := by
  have here : t.locate .follow text = .ok (.free place) :=
    locate_eq_ok.2 ⟨clean, some, short, arrives⟩
  rw [status, find, here]
  rfl

end Arrival

/-- A text leads through links to a directory or to a file, whose length is a word. -/
theorem find_follow (wf : t.WellFormed) {text : String}
    (found : t.find .follow text = .ok (place, entry)) :
    entry = .directory ∨ ∃ c, entry = .file c ∧ c.size < 2 ^ 64 := by
  obtain ⟨-, -, -, walked⟩ := locate_eq_ok.1 (find_eq_ok.1 found)
  refine @walk_follow _ _ _ _ _ _ _
    (fun e => e = .directory ∨ ∃ c, e = .file c ∧ c.size < 2 ^ 64) (.inl rfl) (.inl rfl)
    (fun place e here noLink => ?_) walked
  cases e with
  | directory => exact .inl rfl
  | link target => exact absurd rfl (noLink target)
  | file c =>
    rw [ entry?] at here
    split_ifs at here
    · cases here
    · obtain ⟨⟨whole, e⟩, mem, same⟩ := Option.map_eq_some_iff.1 here
      cases same
      exact .inr ⟨c, rfl, wf.sizes _ (List.mem_of_find?_eq_some mem)⟩

/-! ## Directories -/

section Directory

variable {p : Path} {name : String}

/-- The entries in a directory are those one name below it. -/
lemma mem_children : (name, entry) ∈ t.children place ↔ (place ++ [name], entry) ∈ t.entries := by
  simp only [children, List.mem_mergeSort, List.mem_filterMap]
  constructor
  · rintro ⟨⟨whole, e⟩, mem, here⟩
    rcases List.eq_nil_or_concat' whole with rfl | ⟨above, last, rfl⟩
    · cases here
    · simp only [List.getLast?_concat, List.dropLast_concat] at here
      split_ifs at here with same
      cases here
      rwa [← beq_iff_eq.1 same]
  · intro mem
    exact ⟨_, mem, by simp⟩

/-- The entries in a directory are what stands under names in it. -/
lemma mem_children_iff (wf : t.WellFormed) :
    (name, entry) ∈ t.children place ↔ t.entry? (place ++ [name]) = some entry := by
  rw [mem_children, entry?, if_neg (by simp), Option.map_eq_some_iff]
  constructor
  · intro there
    cases found : t.entries.find? fun e => e.1 == place ++ [name] with
    | none =>
      have := List.find?_eq_none.1 found _ there
      simp at this
    | some e =>
      have same : e.1 = place ++ [name] := by simpa using List.find?_some found
      rw [List.inj_on_of_nodup_map wf.distinct (List.mem_of_find?_eq_some found) there same]
      exact ⟨_, rfl, rfl⟩
  · rintro ⟨e, found, rfl⟩
    have same : e.1 = place ++ [name] := by simpa using List.find?_some found
    rw [← same]
    exact List.mem_of_find?_eq_some found

/-- The path of an entry that is no link leads to it. -/
theorem find_child (wf : t.WellFormed) (normal : p.Normal)
    (found : t.find .follow p.toText = .ok (place, .directory))
    (mem : (name, entry) ∈ t.children place) (noLink : ∀ target, entry ≠ .link target)
    (short : Text.utf8Length (p.child name).toText ≤ maxPathLength) :
    t.find .follow (p.child name).toText = .ok (place ++ [name], entry) := by
  obtain ⟨isName, clean', shortName⟩ :=
    wf.names _ (mem_children.1 mem) name (List.mem_append_right _ (List.mem_singleton_self _))
  have normal' : (p.child name).Normal := normal.child isName
  obtain ⟨clean, -, -, walked⟩ := locate_eq_ok.1 (find_eq_ok.1 found)
  have walked' : t.walk .follow maxLinks [] .directory p.segments =
      .ok (.found place .directory) := by
    rw [walkSegments_toText normal] at walked
    split_ifs at walked with root
    · rw [root]
      rwa [walk, if_neg (by decide), if_pos (.inl rfl)] at walked
    · exact walked
  refine find_eq_ok.2 (locate_eq_ok.2 ⟨holdsNul_child clean clean', ?_, short, ?_⟩)
  · intro none
    have := congrArg String.toList none
    rw [toList_child] at this
    simp at this
  · rw [walkSegments_toText normal', if_neg (by simp [Path.child]), Path.child]
    have noDot : ¬ (name = "" ∨ name = ".") := fun h => h.elim isName.some isName.noDot
    obtain ⟨links, rest⟩ := walk_append walked'
    have there : t.entry? (place ++ [name]) = some entry := (mem_children_iff wf).1 mem
    rw [rest, walk_entry rfl noDot isName.noDots (Nat.not_lt.2 shortName) there noLink, walk]

end Directory

end Tree

end JobCluster.File
