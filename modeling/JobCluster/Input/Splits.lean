import JobCluster.File.System
import JobCluster.Input.Glob
import JobCluster.Task.Basic

/-!
# Splits of inputs

The inputs of a job are files, directories and patterns. `expandInput` lists the files of one input
and `computeSplits` cuts all files into splits for map tasks, each with the hosts that keep its
bytes. If one input fails, all do.
-/

namespace JobCluster.Input

open JobCluster.File

/-- Why inputs have no splits. -/
inductive InputError where
  | badPattern (input : String)
  | missing (input : String)
  | search (fault : SearchFault)
  | file (error : FileError)
deriving DecidableEq, Repr

/-- The text of an error. -/
def InputError.message : InputError → String
  | .badPattern input => "patrón inválido: " ++ input
  | .missing input => "el input " ++ input ++ " no existe"
  | .search fault => fault.message
  | .file error => error.message

/-- Whether a name is that of no data. -/
def isHiddenName (name : String) : Bool :=
  match name.toList with
  | c :: _ => c = '.' || c = '_'
  | [] => false

/-- Whether a file is no data, by the last segment of its path. -/
def isHidden (file : FileStatus) : Bool :=
  ((segmentsOf file.path).getLast?.map isHiddenName).getD false

/-- Whether a file is an input. -/
def isInput (file : FileStatus) : Bool := ! file.isDirectory && ! isHidden file

/-- The files that a pattern finds. -/
def expandPattern (fs : FileSystem) (t : Tree) (input : String) (path : Path) :
    Except InputError (List FileStatus) := do
  match readPattern path.segments with
  | none => throw (.badPattern input)
  | some segments =>
    let found ← (expand t segments).mapM fun finding => do
      let place ← finding.mapError .search
      (fs.status t place).mapError .file
    pure (found.filter fun s => s.isThere && isInput s)

/-- The files of an input: a file itself, the files in a directory, or those that a pattern finds.
-/
def expandInput (fs : FileSystem) (t : Tree) (input : String) :
    Except InputError (List FileStatus) := do
  let path := fs.pathOf input
  if isPattern path.toText then expandPattern fs t input path
  else
    let status ← (fs.status t path.toText).mapError .file
    if ! status.isThere then throw (.missing input)
    else if ! status.isDirectory then pure [status]
    else
      let entries ← (fs.list t path.toText).mapError .file
      pure (entries.filter isInput)

/-- Texts without repetition, in the order in which they come first. -/
def distinct (ss : List String) : List String :=
  ss.foldl (fun seen s => if seen.contains s then seen else seen ++ [s]) []

/-- The hosts that keep a range of a file. None are known where that cannot be found out. -/
def splitHosts (fs : FileSystem) (file : FileStatus) (offset length : UInt64) : List String :=
  match fs.locate (some file) offset length with
  | .ok (some blocks) => distinct (blocks.flatMap Block.hosts)
  | _ => []

/-- The splits of a file. An empty file has one, so that a map runs for it too. -/
def fileSplits (fs : FileSystem) (splitSize : UInt64) (file : FileStatus) : List InputSplit :=
  if file.length = 0 then [⟨file.path, 0, 0, []⟩]
  else (Piece.cut 0 file.length splitSize).map fun p =>
    ⟨file.path, p.offset, p.length, splitHosts fs file p.offset p.length⟩

/-- The splits of all inputs, in their order. -/
def computeSplits (fs : FileSystem) (t : Tree) (inputs : List String) (splitSize : UInt64) :
    Except InputError (List InputSplit) := do
  let files ← inputs.mapM (expandInput fs t)
  pure (files.flatten.flatMap (fileSplits fs splitSize))

end JobCluster.Input
