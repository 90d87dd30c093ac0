import JobCluster.File.Path
import JobCluster.Text.Utf8

/-!
# Trees of files

A tree (`Tree`) says which files, directories and symbolic links there are. A text is walked through
a tree segment by segment (`Tree.walk`): links on the way are followed, at most forty of them, and
the walk ends at an entry or at a free place in an existing directory (`Spot`). How a walk or a
change fails is a `Fault`, with the wording of the operating system.
-/

namespace JobCluster.File

open JobCluster.Text

/-- The bytes of a file: some bytes, then zeros. -/
structure Content where
  bytes : List UInt8
  zeros : Nat
deriving DecidableEq, Repr

namespace Content

/-- How many bytes there are. -/
def size (c : Content) : Nat := c.bytes.length + c.zeros

/-- The content of a text. -/
def ofText (s : String) : Content := ⟨utf8 s, 0⟩

/-- All bytes in order. -/
def toList (c : Content) : List UInt8 := c.bytes ++ List.replicate c.zeros 0

/-- The bytes from an offset on, at most `length` of them. -/
def slice (c : Content) (offset length : Nat) : Content :=
  let bytes := (c.bytes.drop offset).take length
  ⟨bytes, min (c.zeros - (offset - c.bytes.length)) (length - bytes.length)⟩

end Content

/-- What stands at a place of a tree. -/
inductive Entry where
  | file (content : Content)
  | directory
  | link (target : String)
deriving DecidableEq, Repr

namespace Entry

/-- Whether an entry is a directory itself. -/
def isDirectory : Entry → Bool
  | .directory => true
  | _ => false

/-- The size of an entry: of a file its bytes, of a link the text of its target. -/
def size : Entry → Nat
  | .file c => c.size
  | .directory => 0
  | .link target => utf8Length target

end Entry

/-- How an operation on files fails. -/
inductive Fault where
  | notFound
  | alreadyExists
  | notADirectory
  | isADirectory
  | directoryNotEmpty
  | invalidArgument
  | nameTooLong
  | linkLoop
  | busy
  | nulInPath
deriving DecidableEq, Repr

/-- The text of a fault; all but that of the last are from the operating system, with its number. -/
def Fault.message : Fault → String
  | .notFound => "No such file or directory (os error 2)"
  | .alreadyExists => "File exists (os error 17)"
  | .notADirectory => "Not a directory (os error 20)"
  | .isADirectory => "Is a directory (os error 21)"
  | .directoryNotEmpty => "Directory not empty (os error 39)"
  | .invalidArgument => "Invalid argument (os error 22)"
  | .nameTooLong => "File name too long (os error 36)"
  | .linkLoop => "Too many levels of symbolic links (os error 40)"
  | .busy => "Device or resource busy (os error 16)"
  | .nulInPath => "file name contained an unexpected NUL byte"

/-- Files, directories and links by the segments from the root, which is a directory itself. -/
structure Tree where
  entries : List (List String × Entry)
deriving DecidableEq, Repr

/-- Where a walk ends: at an entry, or at a free place in an existing directory. -/
inductive Spot where
  | found (place : List String) (entry : Entry)
  | free (place : List String)
deriving DecidableEq, Repr

/-- The longest name of an entry in bytes. -/
def maxNameLength : Nat := 255

/-- The longest text of a path in bytes. -/
def maxPathLength : Nat := 4095

/-- How many links one walk follows. -/
def maxLinks : Nat := 40

/-- Whether a text holds the character that ends a path for the operating system. -/
def holdsNul (s : String) : Bool := s.toList.contains '\x00'

/-- What a walk does with a link at its end: it stops there, goes on to what the link names, or goes
on to a place where a file is to be written. -/
inductive LastLink where
  | keep
  | follow
  | write
deriving DecidableEq, Repr

/-- The segments to walk for a text. A slash at its end asks for a directory: it leaves an empty
segment, which stays where it is as `.` does. -/
def walkSegments (s : String) : List String :=
  if s.toList.getLast? == some '/' then segmentsOf s ++ [""] else segmentsOf s

namespace Tree

/-- The tree that holds the root alone. -/
def empty : Tree := ⟨[]⟩

instance : Inhabited Tree := ⟨empty⟩

/-- The entry at a place. -/
def entry? (t : Tree) (place : List String) : Option Entry :=
  if place.isEmpty then some .directory
  else (t.entries.find? fun e => e.1 == place).map Prod.snd

/-- Puts an entry at a place, instead of one that is there. -/
def put (t : Tree) (place : List String) (entry : Entry) : Tree :=
  ⟨t.entries.filter (·.1 != place) ++ [(place, entry)]⟩

/-- The tree without a place and all that is under it. -/
def prune (t : Tree) (place : List String) : Tree :=
  ⟨t.entries.filter fun e => ! place.isPrefixOf e.1⟩

/-- Moves a place and all that is under it. -/
def move (t : Tree) (source target : List String) : Tree :=
  ⟨(t.prune target).entries.map fun e =>
    if source.isPrefixOf e.1 then (target ++ e.1.drop source.length, e.2) else e⟩

/-- The names and entries in a directory, in the order of the names. -/
def children (t : Tree) (place : List String) : List (String × Entry) :=
  (t.entries.filterMap fun e =>
    match e.1.getLast? with
    | some name => if e.1.dropLast == place then some (name, e.2) else none
    | none => none).mergeSort fun a b => a.1 ≤ b.1

/-- Walks from an entry along segments; `links` says how many links may still be followed. No file
is written where a slash asks for a directory, whatever stands there. -/
def walk (t : Tree) (last : LastLink) (links : Nat) (place : List String) (entry : Entry)
    (pending : List String) : Except Fault Spot :=
  match pending with
  | [] => .ok (.found place entry)
  | s :: rest =>
    if ! entry.isDirectory then .error .notADirectory
    else if s = "" ∨ s = "." then t.walk last links place entry rest
    else if s = ".." then t.walk last links place.dropLast .directory rest
    else if last = .write ∧ rest = [""] then .error .isADirectory
    else if maxNameLength < utf8Length s then .error .nameTooLong
    else match t.entry? (place ++ [s]) with
      | none => if rest.isEmpty then .ok (.free (place ++ [s])) else .error .notFound
      | some (.link target) =>
        if rest.isEmpty ∧ last = .keep then .ok (.found (place ++ [s]) (.link target))
        else match links with
          | 0 => .error .linkLoop
          | links + 1 =>
            let start := if isAbsolute target then [] else place
            t.walk last links start .directory (walkSegments target ++ rest)
      | some e => t.walk last links (place ++ [s]) e rest
termination_by (links, pending.length)

/-- Walks a text from the root. An empty text leads nowhere. -/
def locate (t : Tree) (last : LastLink) (s : String) : Except Fault Spot :=
  if holdsNul s then .error .nulInPath
  else if s.isEmpty then .error .notFound
  else if maxPathLength < utf8Length s then .error .nameTooLong
  else t.walk last maxLinks [] .directory (walkSegments s)

/-- The place and entry that a text leads to. -/
def find (t : Tree) (last : LastLink) (s : String) : Except Fault (List String × Entry) := do
  match ← t.locate last s with
  | .found place entry => .ok (place, entry)
  | .free _ => .error .notFound

/-- The entry that a text leads to through links. -/
def status (t : Tree) (s : String) : Except Fault Entry := (t.find .follow s).map Prod.snd

/-- Whether a text leads to a directory. -/
def leadsToDirectory (t : Tree) (s : String) : Bool :=
  match t.status s with
  | .ok e => e.isDirectory
  | .error _ => false

/-- The names and entries in the directory that a text leads to. -/
def list (t : Tree) (s : String) : Except Fault (List (String × Entry)) := do
  let (place, entry) ← t.find .follow s
  if entry.isDirectory then .ok (t.children place) else .error .notADirectory

/-- The content of the file that a text leads to. -/
def read (t : Tree) (s : String) : Except Fault Content := do
  match ← t.status s with
  | .file c => .ok c
  | _ => .error .isADirectory

/-- Makes a directory. -/
def makeDirectory (t : Tree) (p : Path) : Except Fault Tree := do
  match ← t.locate .keep p.toText with
  | .found .. => .error .alreadyExists
  | .free place => .ok (t.put place .directory)

/-- Makes the directory that the reversed segments name, and those above it that are missing. The
tree stays changed when a later step fails. -/
def makeDirectoriesFrom (t : Tree) : List String → Tree × Except Fault Unit
  | [] => (t, .ok ())
  | s :: above =>
    let p : Path := ⟨(s :: above).reverse⟩
    let settle (t : Tree) (f : Fault) : Tree × Except Fault Unit :=
      (t, if t.leadsToDirectory p.toText then .ok () else .error f)
    match t.makeDirectory p with
    | .ok t' => (t', .ok ())
    | .error .notFound =>
      match t.makeDirectoriesFrom above with
      | (t', .ok ()) =>
        match t'.makeDirectory p with
        | .ok t'' => (t'', .ok ())
        | .error f => settle t' f
      | (t', .error f) => (t', .error f)
    | .error f => settle t f

/-- Makes a directory and those above it that are missing. -/
def makeDirectories (t : Tree) (p : Path) : Tree × Except Fault Unit :=
  t.makeDirectoriesFrom p.segments.reverse

/-- Writes a file. Unless it may replace a file, the place has to be free, and not even a link that
leads nowhere may stand there. -/
def write (t : Tree) (p : Path) (replace : Bool) (content : Content) : Except Fault Tree := do
  match ← t.locate (if replace then .write else .keep) p.toText with
  | .free place => .ok (t.put place (.file content))
  | .found place entry =>
    if ! replace then .error .alreadyExists
    else if entry.isDirectory then .error .isADirectory
    else .ok (t.put place (.file content))

/-- Removes an empty directory; a link to one is no directory. -/
def removeDirectory (t : Tree) (p : Path) : Except Fault Tree := do
  match ← t.find .keep p.toText with
  | ([], _) => .error .busy
  | (place, .directory) =>
    if (t.children place).isEmpty then .ok (t.prune place) else .error .directoryNotEmpty
  | _ => .error .notADirectory

/-- Removes a file or a link. -/
def removeFile (t : Tree) (p : Path) : Except Fault Tree := do
  match ← t.find .keep p.toText with
  | (_, .directory) => .error .isADirectory
  | (place, _) => .ok (t.prune place)

/-- Removes a directory with all that is under it, or a link. -/
def removeAll (t : Tree) (p : Path) : Except Fault Tree := do
  match ← t.find .keep p.toText with
  | ([], _) => .error .busy
  | (place, _) => .ok (t.prune place)

/-- The place of the last segment of a path, in a directory that exists. -/
def placeOf (t : Tree) (p : Path) : Except Fault (List String) := do
  match ← t.locate .keep p.toText with
  | .found place _ => .ok place
  | .free place => .ok place

/-- The place of the directory above a path. -/
def parentPlace (t : Tree) (p : Path) : Except Fault (List String) :=
  match p.parent? with
  | none => .error .busy
  | some parent => do
    let (place, entry) ← t.find .follow parent.toText
    if entry.isDirectory then .ok place else .error .notADirectory

/-- Moves an entry, instead of a file, link or empty directory that is at the target. A directory
takes the place of a directory only, and does not move under itself. -/
def rename (t : Tree) (source target : Path) : Except Fault Tree := do
  if holdsNul source.toText || holdsNul target.toText then throw .nulInPath
  if maxPathLength < max (utf8Length source.toText) (utf8Length target.toText) then
    throw .nameTooLong
  let _ ← t.parentPlace source
  let targetParent ← t.parentPlace target
  let (sourcePlace, entry) ← t.find .keep source.toText
  let targetPlace ← t.placeOf target
  if sourcePlace.isPrefixOf targetParent then .error .invalidArgument
  else if targetPlace.isPrefixOf sourcePlace.dropLast then .error .directoryNotEmpty
  else if sourcePlace = targetPlace then .ok t
  else match t.entry? targetPlace with
    | none => .ok (t.move sourcePlace targetPlace)
    | some old =>
      if entry.isDirectory && ! old.isDirectory then .error .notADirectory
      else if ! entry.isDirectory && old.isDirectory then .error .isADirectory
      else if (t.children targetPlace).isEmpty then .ok (t.move sourcePlace targetPlace)
      else .error .directoryNotEmpty

end Tree

end JobCluster.File
