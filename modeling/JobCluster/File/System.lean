import JobCluster.File.Block
import JobCluster.File.Tree

/-!
# A file system that knows where blocks are

`FileSystem` is a view of a tree with a working directory and one special operation:
`FileSystem.locate` tells which hosts keep each part of a range of a file. It asks a provider that
is loaded at most once (`Native`); where none could be loaded nothing is known, and all other
operations work as before.
-/

namespace JobCluster.File

/-- How an operation of a file system fails. -/
inductive FileError where
  | system (fault : Fault)
  | missing (path : Path)
  | notMounted (mount : String)
  | provider (detail : String)
deriving DecidableEq, Repr

/-- The text of an error. -/
def FileError.message : FileError → String
  | .system fault => fault.message
  | .missing path => path.toText ++ " no existe"
  | .notMounted mount => mount ++ " no es un montaje CephFS"
  | .provider detail => detail

/-- Who knows which blocks of a file, given by its path, share bytes with the range of an offset and
a length. -/
abbrev Provider := Path → UInt64 → UInt64 → Except FileError (List Block)

/-- A provider that is loaded at most once. -/
inductive Native where
  | unloaded
  | failed
  | loaded (provider : Provider)

namespace Native

/-- The provider, if there is one. -/
def provider? : Native → Option Provider
  | .loaded p => some p
  | _ => none

/-- Whether there is a provider. -/
def isAvailable (n : Native) : Bool := n.provider?.isSome

/-- Whether the next load runs its loader. -/
def isUnloaded : Native → Bool
  | .unloaded => true
  | _ => false

/-- Loads a provider. Only the first load counts, even if it fails. -/
def load (n : Native) (loader : Except FileError Provider) : Native :=
  match n, loader with
  | .unloaded, .ok p => .loaded p
  | .unloaded, .error _ => .failed
  | n, _ => n

end Native

/-- What is known about a file. -/
structure FileStatus where
  path : String
  isThere : Bool
  length : UInt64
  isDirectory : Bool
deriving DecidableEq, Repr

namespace FileStatus

/-- The status of a path where nothing is. -/
def missing (path : String) : FileStatus := ⟨path, false, 0, false⟩

/-- The status of an entry at a path. -/
def ofEntry (path : Path) (entry : Entry) : FileStatus :=
  ⟨path.toText, true, .ofNat entry.size, entry.isDirectory⟩

end FileStatus

/-- A question to a provider. -/
structure Query where
  path : Path
  start : UInt64
  length : UInt64
deriving DecidableEq, Repr

/-- What has to be done to locate a range: nothing is known, nothing is to be found, or a provider
has to be asked. -/
inductive Lookup where
  | unknown
  | empty
  | ask (provider : Provider) (query : Query)

/-- A view of a tree. -/
structure FileSystem where
  workingDirectory : Path
  connection : Option String
  isConnected : Bool
  native : Native

namespace FileSystem

/-- The name of the file system. -/
def name : String := "ceph:///"

/-- A file system before it is connected. -/
def new (native : Native) (workingDirectory : Path) : FileSystem :=
  ⟨workingDirectory, none, false, native⟩

/-- Whether blocks can be located. -/
def isLocalityAvailable (fs : FileSystem) : Bool := fs.native.isAvailable

/-- The path that a text names. -/
def qualify (fs : FileSystem) (s : String) : Path := Path.of fs.workingDirectory s

/-- The path that a text names after a scheme, if it has one. -/
def pathOf (fs : FileSystem) (s : String) : Path := fs.qualify (stripScheme s)

/-- Changes the working directory. -/
def setWorkingDirectory (fs : FileSystem) (s : String) : FileSystem :=
  { fs with workingDirectory := fs.qualify s }

/-- Why a directory is no mount of the distributed file system; a tree has no such mounts. -/
def mountError (t : Tree) (mount : String) : FileError :=
  match t.find .follow mount with
  | .ok _ => .notMounted mount
  | .error fault => .system fault

/-- Names the connection, sets the working directory if one is given, and loads the provider of a
mount. Only the first call counts. -/
def connect (fs : FileSystem) (t : Tree) (uri mount : String)
    (workingDirectory : Option String) : FileSystem :=
  if fs.isConnected then fs
  else
    { workingDirectory := (workingDirectory.map fs.qualify).getD fs.workingDirectory
      connection := some uri
      isConnected := true
      native := fs.native.load (.error (mountError t mount)) }

/-- The name that clients are told: that of the connection, if there is one. -/
def displayName (fs : FileSystem) : String := fs.connection.getD name

/-- What has to be done to locate a range. A range that goes past the end of the file ends there. -/
def lookup (fs : FileSystem) (file : Option FileStatus) (start length : UInt64) : Lookup :=
  match file, fs.native.provider? with
  | some file, some provider =>
    if ! file.isThere || file.isDirectory then .unknown
    else if length = 0 ∨ file.length ≤ start then .empty
    else .ask provider ⟨fs.qualify file.path, start, min length (file.length - start)⟩
  | _, _ => .unknown

/-- The blocks that share bytes with a range of a file, each cut to the range. There is no answer
for what is no file or without a provider. -/
def locate (fs : FileSystem) (file : Option FileStatus) (start length : UInt64) :
    Except FileError (Option (List Block)) :=
  match fs.lookup file start length with
  | .unknown => .ok none
  | .empty => .ok (some [])
  | .ask provider q => do
    let blocks ← provider q.path q.start q.length
    pure (some (blocks.filterMap fun b => b.clip q.start (q.start + q.length)))

/-- The status of what a text leads to. -/
def status (fs : FileSystem) (t : Tree) (s : String) : Except FileError FileStatus :=
  let path := fs.qualify s
  match t.status path.toText with
  | .ok entry => .ok (.ofEntry path entry)
  | .error .notFound => .ok (.missing path.toText)
  | .error fault => .error (.system fault)

/-- The entries of a directory by path, links as they are; of anything else its own status. -/
def list (fs : FileSystem) (t : Tree) (s : String) : Except FileError (List FileStatus) := do
  let path := fs.qualify s
  let status ← fs.status t s
  if ! status.isThere then throw (.missing path)
  if ! status.isDirectory then return [status]
  let entries ← (t.list path.toText).mapError .system
  pure (entries.map fun (name, entry) => .ofEntry (path.child name) entry)

/-- The bytes of a file. -/
def read (fs : FileSystem) (t : Tree) (s : String) : Except FileError Content :=
  (t.read (fs.qualify s).toText).mapError .system

/-- Makes a directory and those above it. -/
def makeDirectories (fs : FileSystem) (t : Tree) (s : String) : Tree × Except FileError Unit :=
  let (t, r) := t.makeDirectories (fs.qualify s)
  (t, r.mapError .system)

/-- Writes a file and makes the directories above it. -/
def create (fs : FileSystem) (t : Tree) (s : String) (replace : Bool) (content : Content) :
    Tree × Except FileError Unit :=
  let path := fs.qualify s
  let (t, made) := match path.parent? with
    | some parent => t.makeDirectories parent
    | none => (t, .ok ())
  match made with
  | .error fault => (t, .error (.system fault))
  | .ok () =>
    match t.write path replace content with
    | .ok t => (t, .ok ())
    | .error fault => (t, .error (.system fault))

/-- Removes what a text leads to, and tells whether there was anything. A directory that is not
empty is removed only recursively. -/
def delete (fs : FileSystem) (t : Tree) (s : String) (recursive : Bool) :
    Except FileError (Tree × Bool) := do
  let path := fs.qualify s
  let status ← fs.status t s
  if ! status.isThere then return (t, false)
  let removed :=
    if ! status.isDirectory then t.removeFile path
    else if recursive then t.removeAll path
    else t.removeDirectory path
  pure (← removed.mapError .system, true)

/-- Moves an entry. -/
def rename (fs : FileSystem) (t : Tree) (source target : String) : Except FileError Tree :=
  (t.rename (fs.qualify source) (fs.qualify target)).mapError .system

/-- The permission bits of a mode. -/
def permissionBits : UInt32 := 0o7777

/-- The mode that a file has after it is set. -/
def setMode (fs : FileSystem) (t : Tree) (s : String) (mode : UInt32) : Except FileError UInt32 :=
  match t.status (fs.qualify s).toText with
  | .ok _ => .ok (mode &&& permissionBits)
  | .error fault => .error (.system fault)

end FileSystem

end JobCluster.File
