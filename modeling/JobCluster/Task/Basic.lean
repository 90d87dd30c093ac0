import JobCluster.Counters.Basic
import JobCluster.Number.Binary
import JobCluster.Time.Instant

/-!
# Tasks

A job is cut into map tasks, one for each split of its input, and reduce tasks. A task is tried in
attempts until one succeeds. This module holds what is said about tasks between the parts of a
cluster: splits, assignments, reports and completion events.
-/

namespace JobCluster

open JobCluster.Number JobCluster.Time

/-- The name of a job. -/
abbrev JobId := String

/-- The name of a task. -/
abbrev TaskId := String

/-- The name of one attempt at a task. -/
abbrev AttemptId := String

/-- The two kinds of tasks. -/
inductive TaskKind where
  | map
  | reduce
deriving DecidableEq, Repr

/-- The letter of a kind in the names of tasks. -/
def TaskKind.tag : TaskKind → String
  | .map => "m"
  | .reduce => "r"

/-- Where a task stands. -/
inductive TaskState where
  | pending
  | running
  | complete
  | failed
  | killed
deriving DecidableEq, Repr

/-- A range of bytes of a file for one map task, and the hosts that hold them, if known. -/
structure InputSplit where
  path : String
  offset : UInt64
  length : UInt64
  hosts : List String
deriving DecidableEq, Repr

/-- What a tracker is given to run. -/
structure TaskAssignment where
  attemptId : AttemptId
  taskId : TaskId
  jobId : JobId
  kind : TaskKind
  split : Option InputSplit
deriving DecidableEq, Repr

/-- What is reported about a task. -/
structure TaskReport where
  taskId : TaskId
  state : TaskState
  progress : Binary single
  startTime : Option Instant
  finishTime : Option Instant
  splitHosts : List String
  diagnostics : List String
  counters : Counters
deriving DecidableEq, Repr

/-- How an attempt ended, as the completion log has it. The last status is that of the failure that
used up the attempts of its task. -/
inductive CompletionStatus where
  | succeeded
  | failed
  | killed
  | obsolete
  | tipFailed
deriving DecidableEq, Repr

/-- An entry of the completion log of a job. -/
structure CompletionEvent where
  eventId : UInt32
  attemptId : AttemptId
  taskIndex : UInt32
  isMap : Bool
  status : CompletionStatus
  trackerHost : String
  runTimeMs : UInt64
deriving DecidableEq, Repr

/-- What a tracker reports when an attempt ends. -/
structure TaskCompletion where
  attemptId : AttemptId
  success : Bool
  counters : Counters
  diagnostics : List String
deriving DecidableEq, Repr

end JobCluster
