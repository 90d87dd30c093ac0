import JobCluster.Coordinator.State

/-!
# Questions to the coordinator

What clients are told about jobs, tasks, trackers and the cluster. Nothing here changes the state.
-/

namespace JobCluster.Coordinator

open JobCluster.Text JobCluster.Number JobCluster.Time

/-- The state of a job. -/
def jobStatus (c : Coordinator) (id : JobId) : Option JobStatus := (c.job? id).map Job.status

/-- The profile of a job. -/
def jobProfile (c : Coordinator) (id : JobId) : Option JobProfile := (c.job? id).map Job.profile

/-- All counters of a job. -/
def jobCounters (c : Coordinator) (id : JobId) : Option Counters :=
  (c.job? id).map Job.totalCounters

/-- Reports about the tasks of a job; none for an unknown job. -/
def taskReports (c : Coordinator) (id : JobId) (kind : TaskKind) : List TaskReport :=
  match c.job? id with
  | some j => (j.tasks kind).map Task.report
  | none => []

/-- A page of the completion log of a job; empty for an unknown job. -/
def completionEvents (c : Coordinator) (id : JobId) (start max : UInt32) : List CompletionEvent :=
  match c.job? id with
  | some j => (j.events.drop start.toNat).take max.toNat
  | none => []

/-- The diagnostics of an attempt; none for an unknown one. -/
def taskDiagnostics (c : Coordinator) (id : JobId) (task : TaskId) (attempt : AttemptId) :
    List String :=
  (do
    let j ← c.job? id
    let t ← j.allTasks.find? (·.id == task)
    let a ← t.attempt? attempt
    pure a.diagnostics : Option (List String)).getD []

/-- The states of the jobs that have not ended. -/
def incompleteJobs (c : Coordinator) : List JobStatus :=
  (c.jobs.filter fun j => ! j.isTerminal).map Job.status

/-- The states of all jobs. -/
def allJobs (c : Coordinator) : List JobStatus := c.jobs.map Job.status

/-- The live trackers. -/
def liveTrackers (c : Coordinator) : List Tracker :=
  (c.trackers.filter fun e => ! e.2.dead).map Prod.snd

/-- A count as a 32-bit word, unless it is past it. -/
def word32? (n : Nat) : Option UInt32 := if n ≤ maxWord32 then some (.ofNat n) else none

/-- The cluster in figures. There is no answer when a sum is past a 32-bit word. The dead trackers
are not summed: their number is cut to a word. -/
def clusterStatus (c : Coordinator) : Option ClusterStatus := do
  let live := c.liveTrackers
  let taskTrackers ← word32? live.length
  let maxMapTasks ← word32? (live.foldr (fun t n => t.mapSlots.toNat + n) 0)
  let maxReduceTasks ← word32? (live.foldr (fun t n => t.reduceSlots.toNat + n) 0)
  let mapTasks ← word32? (c.running.countP fun e => e.1.kind == .map)
  let reduceTasks ← word32? (c.running.countP fun e => e.1.kind == .reduce)
  pure {
    taskTrackers
    deadTrackers := .ofNat (c.trackers.countP fun e => e.2.dead)
    mapTasks, reduceTasks, maxMapTasks, maxReduceTasks
    state := c.state }

/-- What was counted of a tracker, at a moment. -/
def metricsOf (c : Coordinator) (now : Instant) (id : TrackerId) (t : Tracker) : TrackerMetrics :=
  let finished := t.succeeded + t.failed
  { trackerId := id
    hostname := t.hostname
    dead := t.dead
    mapSlots := t.mapSlots
    reduceSlots := t.reduceSlots
    lastHeartbeatSecsAgo := .ofNat (((now.since? t.lastHeartbeat).map Duration.nanos).getD 0 /
      nanosPerSecond)
    runningAttempts := .ofNat (c.running.countP fun e => e.2.tracker == id)
    tasksStarted := .ofNat t.started
    tasksSucceeded := .ofNat t.succeeded
    tasksFailed := .ofNat t.failed
    avgTaskMs := if finished = 0 then none else some (Binary.quotient double t.taskTime finished)
    cpuPercent := t.cpuPercent
    memBytes := t.memBytes }

/-- Whether metrics come first: by host, then by name. -/
def metricsBefore (a b : TrackerMetrics) : Bool :=
  a.hostname < b.hostname || (a.hostname == b.hostname && a.trackerId ≤ b.trackerId)

/-- What was counted of all trackers, by host. -/
def trackerMetrics (c : Coordinator) (now : Instant) : List TrackerMetrics :=
  (c.trackers.map fun e => c.metricsOf now e.1 e.2).mergeSort metricsBefore

end JobCluster.Coordinator
