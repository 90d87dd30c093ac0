import JobCluster.Table
import JobCluster.Number.Word

/-!
# Counters

Counts by group and name (`Counters`). A count is a 64-bit word that stops at its largest value;
`Counters.increment` adds to one count, `Counters.merge` adds all counts of another collection, and
`Counters.value` is the view in which both are stated: it is 0 where nothing was counted.
-/

namespace JobCluster

open JobCluster.Number

/-- Counts by group, and in a group by name. -/
structure Counters where
  groups : Table (Table UInt64)
deriving DecidableEq, Repr

namespace Counters

/-- No counts. -/
def empty : Counters := ⟨Table.empty⟩

instance : Inhabited Counters := ⟨empty⟩

/-- Whether there is no group. -/
def isEmpty (c : Counters) : Bool := c.groups.isEmpty

/-- Adds to a count. The count exists from then on, also after adding nothing. -/
def increment (c : Counters) (group name : String) (delta : UInt64) : Counters :=
  ⟨c.groups.alter group fun names =>
    (names.getD Table.empty).alter name fun v => satAdd (v.getD 0) delta⟩

/-- A count, 0 where there is none. -/
def value (c : Counters) (group name : String) : UInt64 :=
  (((c.groups.get? group).bind (·.get? name))).getD 0

/-- Every count with its group and name, in order. -/
def toList (c : Counters) : List (String × String × UInt64) :=
  c.groups.entries.flatMap fun g => g.2.entries.map fun n => (g.1, n.1, n.2)

/-- Adds every count of another collection; a group without counts adds nothing. -/
def merge (c other : Counters) : Counters :=
  other.toList.foldl (fun c e => c.increment e.1 e.2.1 e.2.2) c

/-- The group that a coordinator keeps for each job. -/
def jobGroup : String := "JobCounters"

/-- The group of what file systems report. -/
def fileSystemGroup : String := "FileSystemCounters"

/-- The group of what tasks report. -/
def taskGroup : String := "TaskCounters"

/-- The count of bytes read. -/
def bytesRead : String := "BYTES_READ"

/-- The count of records a map has read. -/
def mapInputRecords : String := "MAP_INPUT_RECORDS"

/-- The count of maps that ran where their data is. -/
def dataLocalMaps : String := "DATA_LOCAL_MAPS"

/-- The count of maps that ran elsewhere. -/
def otherLocalMaps : String := "OTHER_LOCAL_MAPS"

/-- The count of maps by whether they run where their data is. -/
def placement (isLocal : Bool) : String := if isLocal then dataLocalMaps else otherLocalMaps

theorem value_empty (group name : String) : empty.value group name = 0 := rfl

/-- An increment adds to its own counter and leaves the others as they were. -/
theorem value_increment (c : Counters) (group name g n : String) (delta : UInt64) :
    (c.increment group name delta).value g n =
      if g = group ∧ n = name then satAdd (c.value group name) delta else c.value g n := by
  unfold value increment
  rw [Table.get?_alter]
  by_cases hg : g = group
  · subst hg
    simp only [if_true, Option.bind_some, Table.get?_alter, true_and]
    by_cases hn : n = name
    · subst hn
      cases h : c.groups.get? g <;> simp [Table.get?_empty]
    · cases h : c.groups.get? g <;> simp [hn, Table.get?_empty]
  · simp [hg]

end Counters

end JobCluster
