import JobCluster.Coordinator.Attempt
import JobCluster.Job.Basic

/-!
# Jobs as the coordinator keeps them

A job (`Job`) has its tasks, a log of the attempts that ended, and counters of its own. `Job.close`
ends one attempt and settles what follows from it for the task and the job; `Job.abort` ends all
that is still open. Both tell which attempts they ended, so that trackers can be told.
-/

namespace JobCluster.Coordinator

open JobCluster.Number JobCluster.Time

/-- A job with its tasks. -/
structure Job where
  profile : JobProfile
  priority : JobPriority
  state : JobState
  hasTasks : Bool
  maps : List Task
  reduces : List Task
  events : List CompletionEvent
  counters : Counters
  finishTime : Option Instant
  failedTasks : Nat
  killedTasks : Nat
deriving DecidableEq, Repr

/-- The count of launched attempts of a kind. -/
def launchedName : TaskKind → String
  | .map => "TOTAL_LAUNCHED_MAPS"
  | .reduce => "TOTAL_LAUNCHED_REDUCES"

/-- The count of failed attempts of a kind. -/
def failedName : TaskKind → String
  | .map => "NUM_FAILED_MAPS"
  | .reduce => "NUM_FAILED_REDUCES"

/-- The count of killed attempts of a kind. -/
def killedName : TaskKind → String
  | .map => "NUM_KILLED_MAPS"
  | .reduce => "NUM_KILLED_REDUCES"

namespace Job

/-- A job as it is submitted. -/
def new (id : JobId) (d : JobDescriptor) (now : Instant) : Job where
  profile := ⟨id, d.name, d.user, d.inputPaths, d.numReduces, now⟩
  priority := d.priority
  state := .prep
  hasTasks := false
  maps := []
  reduces := []
  events := []
  counters := Counters.empty
  finishTime := none
  failedTasks := 0
  killedTasks := 0

/-- The name of a job. -/
def id (j : Job) : JobId := j.profile.jobId

/-- The tasks of a kind. -/
def tasks (j : Job) : TaskKind → List Task
  | .map => j.maps
  | .reduce => j.reduces

/-- All tasks, maps first. -/
def allTasks (j : Job) : List Task := j.maps ++ j.reduces

/-- Changes the task at an index. -/
def setTask (j : Job) (kind : TaskKind) (index : Nat) (t : Task) : Job :=
  match kind with
  | .map => { j with maps := j.maps.set index t }
  | .reduce => { j with reduces := j.reduces.set index t }

/-- Whether a job has ended. -/
def isTerminal (j : Job) : Bool := j.state.isTerminal

/-- Whether all maps are done. -/
def mapsDone (j : Job) : Bool := j.maps.all Task.isComplete

/-- Whether all tasks are done. A job without tasks has to be given them first. -/
def allDone (j : Job) : Bool := j.hasTasks && j.mapsDone && j.reduces.all Task.isComplete

/-- The map to run on a host, and whether its split is there: the first pending one with its split
on the host, else the first pending one. -/
def pickMap (j : Job) (host : String) : Option (Nat × Bool) :=
  match j.maps.findIdx? fun t => t.isPending && t.hosts.contains host with
  | some i => some (i, true)
  | none => (j.maps.findIdx? Task.isPending).map fun i => (i, false)

/-- The reduce to run: the first pending one, once all maps are done. -/
def pickReduce (j : Job) : Option Nat :=
  if j.mapsDone then j.reduces.findIdx? Task.isPending else none

/-- The part of the tasks of a kind that is done. Where there are no tasks, it is that of the job.
-/
def progress (j : Job) (kind : TaskKind) : Binary single :=
  match j.tasks kind with
  | [] => Binary.ofNat single (if j.state = .succeeded then 1 else 0)
  | ts => Binary.quotient single (ts.countP Task.isComplete) ts.length

/-- What a client is told about a job at this moment. -/
def status (j : Job) : JobStatus where
  jobId := j.id
  state := j.state
  mapProgress := j.progress .map
  reduceProgress := j.progress .reduce
  startTime := j.profile.submittedAt
  finishTime := j.finishTime
  priority := j.priority
  user := j.profile.user
  failedTasks := .ofNat j.failedTasks
  killedTasks := .ofNat j.killedTasks

/-- The counters of the coordinator for a job and those of all tasks that are done. -/
def totalCounters (j : Job) : Counters :=
  (j.allTasks.filter Task.isComplete).foldl (fun c t => c.merge t.counters) j.counters

/-- Adds one to a count of the coordinator. -/
def count (j : Job) (name : String) : Job :=
  { j with counters := j.counters.increment Counters.jobGroup name 1 }

/-- Writes the end of an attempt at a task to the log, under the next number. -/
def log (j : Job) (t : Task) (a : Attempt) (status : CompletionStatus) (now : Instant) : Job :=
  { j with
    events := j.events ++ [{
      eventId := .ofNat j.events.length
      attemptId := a.id
      taskIndex := t.index
      isMap := t.kind == .map
      status := status
      trackerHost := a.host
      runTimeMs := .ofNat (a.runTime now) }] }

/-- Records that an attempt was killed. -/
def recordKilled (j : Job) (t : Task) (a : Attempt) (now : Instant) : Job :=
  { (j.log t a .killed now).count (killedName t.kind) with killedTasks := j.killedTasks + 1 }

/-- Records that an attempt failed, and with it its task if that is given up. -/
def recordFailed (j : Job) (t : Task) (a : Attempt) (now : Instant) : Job :=
  let status := if t.state = .failed then .tipFailed else .failed
  { (j.log t a status now).count (failedName t.kind) with failedTasks := j.failedTasks + 1 }

/-- Records how an attempt ended. -/
def record (j : Job) (t : Task) (a : Attempt) (outcome : Outcome) (now : Instant) : Job :=
  match outcome with
  | .succeeded => j.log t a .succeeded now
  | .failed => j.recordFailed t a now
  | .killed => j.recordKilled t a now

/-- Ends a job. -/
def finish (j : Job) (state : JobState) (now : Instant) : Job :=
  { j with state := state, finishTime := some now }

/-- Kills all tasks that are not done yet, and tells which attempts that ended. -/
def abort (j : Job) (reason : String) (now : Instant) : Job × List Attempt :=
  let ended := j.allTasks.flatMap fun t => (t.aborted reason now).map fun a => (t, a)
  let killed := { j with
    maps := j.maps.map (·.abort reason now)
    reduces := j.reduces.map (·.abort reason now) }
  (ended.foldl (fun j e => j.recordKilled e.1 e.2 now) killed, ended.map Prod.snd)

/-- Why a job fails when one of its tasks failed too often. -/
def failureReason (t : Task) : String :=
  "la tarea " ++ t.id ++ " falló " ++ Text.decimal maxFailures ++ " veces"

/-- What follows for a job from a task that was settled: it fails if the task is given up, and
succeeds if nothing is left to do. The abort of a failing job reads the clock again. -/
def conclude (j : Job) (t : Task) (clock : Readings) : Job × List Attempt :=
  if t.state = .failed then
    let (aborted, ended) := j.abort (failureReason t) clock.second
    (aborted.finish .failed clock.first, ended)
  else if j.allDone then (j.finish .succeeded clock.first, [])
  else (j, [])

/-- A running attempt that was ended, and those that ended because its job failed. -/
structure Closed where
  job : Job
  attempt : Attempt
  aborted : List Attempt

/-- Ends a running attempt. Nothing happens to one that is not there or not running. -/
def close (j : Job) (kind : TaskKind) (index : Nat) (id : AttemptId) (outcome : Outcome)
    (counters : Counters) (notes : List String) (clock : Readings) : Option Closed := do
  let task ← (j.tasks kind)[index]?
  let running ← task.attempt? id
  if ! running.isRunning then none
  let attempt := running.close outcome clock.first notes
  let settled := (task.replaceAttempt attempt).settle outcome counters clock.first
  let recorded := (j.setTask kind index settled).record settled attempt outcome clock.first
  let (job, aborted) := recorded.conclude settled clock
  pure ⟨job, attempt, aborted⟩

/-- Launches the next attempt at a task on a tracker. -/
def launch (j : Job) (kind : TaskKind) (index : Nat) (isLocal : Option Bool) (tracker : TrackerId)
    (host : String) (now : Instant) : Option (Job × TaskAssignment) := do
  let task ← (j.tasks kind)[index]?
  let launched := (j.setTask kind index (task.launch tracker host now)).count (launchedName kind)
  let placed := match isLocal with
    | some l => launched.count (Counters.placement l)
    | none => launched
  pure (placed, ⟨task.nextAttemptId, task.id, j.id, kind, task.split⟩)

/-- Gives a job its tasks: a map for each split, and as many reduces as it asked for. The index of
a task is a word, so past `2 ^ 32` splits the indices, and with them the names, come again. -/
def install (j : Job) (splits : List InputSplit) : Job :=
  { j with
    maps := splits.mapIdx fun i s => Task.new j.id .map (.ofNat i) (some s)
    reduces := (List.range j.profile.numReduces.toNat).map fun i =>
      Task.new j.id .reduce (.ofNat i) none
    hasTasks := true
    state := .running }

end Job

end JobCluster.Coordinator
