import JobCluster.Text.Split

/-!
# Paths

A path is absolute and has no empty, `.` or `..` segment (`Path`). Texts name paths (`Path.of`):
relative texts start at a working directory, and `..` is resolved by dropping the segment before it,
without a look at the files; at the root it does nothing.
-/

namespace JobCluster.File

open JobCluster.Text

/-- An absolute path: the segments from the root. -/
structure Path where
  segments : List String
deriving DecidableEq, Repr, Inhabited

/-- The segments of a text: its parts between slashes that are not empty. -/
def segmentsOf (s : String) : List String :=
  ((splitOn '/' s.toList).filter (! ·.isEmpty)).map String.ofList

/-- Whether a text starts at the root. -/
def isAbsolute (s : String) : Bool := s.toList.head? == some '/'

/-- Goes along one segment. -/
def walkSegment (at_ : List String) (segment : String) : List String :=
  if segment = "." then at_
  else if segment = ".." then at_.dropLast
  else at_ ++ [segment]

namespace Path

/-- The root directory. -/
def root : Path := ⟨[]⟩

/-- The path that segments lead to. -/
def walk (base : Path) (segments : List String) : Path := ⟨segments.foldl walkSegment base.segments⟩

/-- The path that a text names, seen from a working directory. -/
def of (base : Path) (s : String) : Path :=
  (if isAbsolute s then root else base).walk (segmentsOf s)

/-- The text of a path. -/
def toText (p : Path) : String :=
  match p.segments with
  | [] => "/"
  | ss => String.join (ss.map ("/" ++ ·))

/-- The directory that holds a path; the root has none. -/
def parent? (p : Path) : Option Path :=
  match p.segments with
  | [] => none
  | ss => some ⟨ss.dropLast⟩

/-- The path of an entry of a directory. -/
def child (p : Path) (name : String) : Path := ⟨p.segments ++ [name]⟩

end Path

/-- The scheme that may stand before a path. -/
def scheme : String := "ceph://"

/-- A text without the scheme, if it has it. -/
def stripScheme (s : String) : String :=
  if scheme.toList.isPrefixOf s.toList then String.ofList (s.toList.drop scheme.length) else s

end JobCluster.File
