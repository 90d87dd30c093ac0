import JobCluster.Task.Basic

/-!
# Jobs

What a client asks for (`JobDescriptor`) and what it is told about a job (`JobStatus`,
`JobProfile`). A job starts in preparation, runs once its tasks exist, and ends in one of three
terminal states.
-/

namespace JobCluster

open JobCluster.Number JobCluster.Time

/-- Where a job stands. -/
inductive JobState where
  | prep
  | running
  | succeeded
  | failed
  | killed
deriving DecidableEq, Repr

/-- Whether a job has ended. -/
def JobState.isTerminal : JobState → Bool
  | .succeeded | .failed | .killed => true
  | .prep | .running => false

/-- How urgent a job is. -/
inductive JobPriority where
  | veryHigh
  | high
  | normal
  | low
  | veryLow
deriving DecidableEq, Repr

/-- The place of a priority in the order of service, the most urgent first. -/
def JobPriority.rank : JobPriority → Nat
  | .veryHigh => 0
  | .high => 1
  | .normal => 2
  | .low => 3
  | .veryLow => 4

/-- Priorities in the order of service. -/
def JobPriority.sort (ps : List JobPriority) : List JobPriority :=
  ps.mergeSort fun a b => a.rank ≤ b.rank

/-- What a client submits. -/
structure JobDescriptor where
  name : String
  user : String
  inputPaths : List String
  numReduces : UInt32
  priority : JobPriority
  splitSize : Option UInt64
deriving DecidableEq, Repr

/-- The state of a job at one moment. -/
structure JobStatus where
  jobId : JobId
  state : JobState
  mapProgress : Binary single
  reduceProgress : Binary single
  startTime : Instant
  finishTime : Option Instant
  priority : JobPriority
  user : String
  failedTasks : UInt32
  killedTasks : UInt32
deriving DecidableEq, Repr

/-- What stays the same about a job. -/
structure JobProfile where
  jobId : JobId
  name : String
  user : String
  inputPaths : List String
  numReduces : UInt32
  submittedAt : Instant
deriving DecidableEq, Repr

end JobCluster
