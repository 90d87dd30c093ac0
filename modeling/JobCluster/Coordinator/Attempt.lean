import JobCluster.Tracker.Basic
import JobCluster.Text.Natural

/-!
# Attempts and tasks as the coordinator keeps them

A task (`Task`) has a list of attempts in the order in which they were launched. An attempt runs on
one tracker until it is closed, once, by one outcome.
-/

namespace JobCluster.Coordinator

open JobCluster.Text JobCluster.Number JobCluster.Time

/-- Where an attempt stands. -/
inductive AttemptState where
  | running
  | succeeded
  | failed
  | killed
deriving DecidableEq, Repr

/-- How an attempt ends. A failed one counts against the limit of its task, a killed one does not.
-/
inductive Outcome where
  | succeeded
  | failed
  | killed
deriving DecidableEq, Repr

/-- The state of an attempt after an outcome. -/
def Outcome.state : Outcome → AttemptState
  | .succeeded => .succeeded
  | .failed => .failed
  | .killed => .killed

/-- One attempt at a task, on one tracker. -/
structure Attempt where
  id : AttemptId
  tracker : TrackerId
  host : String
  state : AttemptState
  startedAt : Instant
  finishedAt : Option Instant
  diagnostics : List String
deriving DecidableEq, Repr

namespace Attempt

/-- Whether an attempt is still running. -/
def isRunning (a : Attempt) : Bool := a.state == .running

/-- Ends an attempt. -/
def close (a : Attempt) (outcome : Outcome) (now : Instant) (notes : List String) : Attempt :=
  { a with
    state := outcome.state
    finishedAt := some now
    diagnostics := a.diagnostics ++ notes }

/-- How long an attempt ran, in milliseconds; up to `now` if it has no end. -/
def runTime (a : Attempt) (now : Instant) : Nat := (a.finishedAt.getD now).millisSince a.startedAt

end Attempt

/-- A task with its attempts. The counters are those of the attempt that succeeded. -/
structure Task where
  id : TaskId
  kind : TaskKind
  index : UInt32
  split : Option InputSplit
  state : TaskState
  attempts : List Attempt
  failures : Nat
  startTime : Option Instant
  finishTime : Option Instant
  counters : Counters
deriving DecidableEq, Repr

/-- A text without a beginning, if it has it. -/
def dropStart (start s : String) : String :=
  if start.toList.isPrefixOf s.toList then String.ofList (s.toList.drop start.length) else s

/-- How often a task may fail before its job fails. -/
def maxFailures : Nat := 3

namespace Task

/-- The name of a task of a job. -/
def idOf (job : JobId) (kind : TaskKind) (index : UInt32) : TaskId :=
  "task_" ++ dropStart "job_" job ++ "_" ++ kind.tag ++ "_" ++ padded 6 index.toNat

/-- A task before its first attempt. -/
def new (job : JobId) (kind : TaskKind) (index : UInt32) (split : Option InputSplit) : Task where
  id := idOf job kind index
  kind := kind
  index := index
  split := split
  state := .pending
  attempts := []
  failures := 0
  startTime := none
  finishTime := none
  counters := Counters.empty

/-- The name of the next attempt. -/
def nextAttemptId (t : Task) : AttemptId :=
  "attempt_" ++ dropStart "task_" t.id ++ "_" ++ decimal t.attempts.length

/-- The hosts that keep the split of a task. -/
def hosts (t : Task) : List String := (t.split.map InputSplit.hosts).getD []

/-- Whether a task waits for a tracker. -/
def isPending (t : Task) : Bool := t.state == .pending

/-- Whether a task is done. -/
def isComplete (t : Task) : Bool := t.state == .complete

/-- Whether a task may still come to be done. -/
def isOpen (t : Task) : Bool := t.state == .pending || t.state == .running

/-- What is reported about a task. Its progress is all or nothing. -/
def report (t : Task) : TaskReport where
  taskId := t.id
  state := t.state
  progress := Binary.ofNat single (if t.isComplete then 1 else 0)
  startTime := t.startTime
  finishTime := t.finishTime
  splitHosts := t.hosts
  diagnostics := t.attempts.flatMap Attempt.diagnostics
  counters := t.counters

/-- The attempts that are still running. -/
def running (t : Task) : List Attempt := t.attempts.filter Attempt.isRunning

/-- The attempt with a name. -/
def attempt? (t : Task) (id : AttemptId) : Option Attempt := t.attempts.find? (·.id == id)

/-- Starts an attempt on a tracker. -/
def launch (t : Task) (tracker : TrackerId) (host : String) (now : Instant) : Task :=
  { t with
    attempts := t.attempts ++ [⟨t.nextAttemptId, tracker, host, .running, now, none, []⟩]
    state := .running
    startTime := t.startTime.or (some now) }

/-- Puts a changed attempt in the place of the one with its name. -/
def replaceAttempt (t : Task) (a : Attempt) : Task :=
  { t with attempts := t.attempts.map fun b => if b.id = a.id then a else b }

/-- What becomes of a task when its running attempt ends. A task that failed too often is given up;
else it waits for its next attempt. -/
def settle (t : Task) (outcome : Outcome) (counters : Counters) (now : Instant) : Task :=
  match outcome with
  | .succeeded => { t with state := .complete, finishTime := some now, counters := counters }
  | .killed => { t with state := .pending }
  | .failed =>
    let failures := t.failures + 1
    if maxFailures ≤ failures then
      { t with state := .failed, finishTime := some now, failures := failures }
    else { t with state := .pending, failures := failures }

/-- Kills a task that is not done yet, together with its running attempts. -/
def abort (t : Task) (reason : String) (now : Instant) : Task :=
  if t.isOpen then
    { t with
      attempts := t.attempts.map fun a =>
        if a.isRunning then a.close .killed now [reason] else a
      state := .killed
      finishTime := some now }
  else t

/-- The attempts that `abort` ends, as it leaves them. -/
def aborted (t : Task) (reason : String) (now : Instant) : List Attempt :=
  if t.isOpen then t.running.map (·.close .killed now [reason]) else []

end Task

end JobCluster.Coordinator
