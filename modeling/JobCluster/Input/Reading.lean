import JobCluster.File.System
import JobCluster.Task.Basic

/-!
# Reading a split

`readSplit` counts the bytes of a split and its records. A record is a line: it ends with a newline
or with the split.
-/

namespace JobCluster.Input

open JobCluster.File

/-- The byte that ends a line. -/
def newline : UInt8 := 10

/-- How many lines there are; a last one without a newline counts. -/
def countLines (c : Content) : Nat :=
  let ended := c.bytes.count newline
  let isOpen := if c.zeros = 0 then (c.bytes.getLast?.map (· != newline)).getD false else true
  if isOpen then ended + 1 else ended

/-- The largest offset in a file. -/
def maxOffset : Nat := Nat.pow 2 63 - 1

/-- The counts of a content that was read. -/
def readCounters (c : Content) : Counters :=
  (Counters.empty.increment Counters.fileSystemGroup Counters.bytesRead (.ofNat c.size)).increment
    Counters.taskGroup Counters.mapInputRecords (.ofNat (countLines c))

/-- Counts the bytes and records of a split. A directory can be opened but not read. -/
def readSplit (t : Tree) (split : InputSplit) : Except Fault Counters := do
  let entry ← t.status split.path
  if maxOffset < split.offset.toNat then throw .invalidArgument
  match entry with
  | .file c => pure (readCounters (c.slice split.offset.toNat split.length.toNat))
  | _ => if split.length = 0 then pure (readCounters ⟨[], 0⟩) else throw .isADirectory

end JobCluster.Input
