import JobCluster.Coordinator.Job

/-!
# The state of the coordinator

`Coordinator` holds the jobs in the order of submission, the names that were given out and not used
yet, the trackers, and an index that tells to which task each attempt belongs.
-/

namespace JobCluster.Coordinator

open JobCluster.Number JobCluster.Time

/-- The task that an attempt belongs to: its job, and its kind and index there. -/
structure AttemptRef where
  job : JobId
  kind : TaskKind
  index : Nat
deriving DecidableEq, Repr

/-- A tracker as the coordinator knows it. -/
structure Tracker where
  hostname : String
  lastHeartbeat : Instant
  dead : Bool
  mapSlots : UInt32
  reduceSlots : UInt32
  started : Nat
  succeeded : Nat
  failed : Nat
  taskTime : Nat
  cpuPercent : Option (Binary single)
  memBytes : Option UInt64
  pendingKills : List AttemptId
deriving DecidableEq, Repr

namespace Tracker

/-- A tracker as it registers. -/
def new (r : Registration) (now : Instant) : Tracker where
  hostname := r.hostname
  lastHeartbeat := now
  dead := false
  mapSlots := r.mapSlots
  reduceSlots := r.reduceSlots
  started := 0
  succeeded := 0
  failed := 0
  taskTime := 0
  cpuPercent := none
  memBytes := none
  pendingKills := []

/-- Counts the end of an attempt and the time that it took. -/
def credit (t : Tracker) (outcome : Outcome) (elapsed : Nat) : Tracker :=
  let timed := { t with taskTime := t.taskTime + elapsed }
  match outcome with
  | .succeeded => { timed with succeeded := t.succeeded + 1 }
  | .failed => { timed with failed := t.failed + 1 }
  | .killed => timed

/-- Remembers to tell the tracker that an attempt was ended. -/
def queueKill (t : Tracker) (attempt : AttemptId) : Tracker :=
  { t with pendingKills := t.pendingKills ++ [attempt] }

/-- Whether the last heartbeat is more than a timeout ago. -/
def isOverdue (t : Tracker) (now : Instant) (timeout : Duration) : Bool :=
  match now.since? t.lastHeartbeat with
  | some age => timeout.nanos < age.nanos
  | none => false

end Tracker

end JobCluster.Coordinator

namespace JobCluster

open JobCluster.Coordinator JobCluster.Time

/-- The whole state of the coordinator. Jobs are in the order of submission, trackers in that of
registration. -/
structure Coordinator where
  state : CoordinatorState
  stamp : String
  issued : Nat
  reserved : List (JobId × Instant)
  jobs : List Job
  index : List (AttemptId × AttemptRef)
  trackers : List (TrackerId × Tracker)
deriving DecidableEq, Repr

namespace Coordinator

/-- The state of a coordinator that starts. The stamp of its start goes into the names of its jobs.
-/
def start (stamp : String) : Coordinator := ⟨.initializing, stamp, 0, [], [], [], []⟩

/-- Says that the coordinator is in service. -/
def markRunning (c : Coordinator) : Coordinator := { c with state := .running }

/-- The job with a name. -/
def job? (c : Coordinator) (id : JobId) : Option Job := c.jobs.find? (·.id == id)

/-- Puts a changed job in the place of the one with its name. -/
def setJob (c : Coordinator) (j : Job) : Coordinator :=
  { c with jobs := c.jobs.map fun k => if k.id = j.id then j else k }

/-- The tracker with a name. -/
def tracker? (c : Coordinator) (id : TrackerId) : Option Tracker :=
  (c.trackers.find? (·.1 == id)).map Prod.snd

/-- Changes the tracker with a name. -/
def changeTracker (c : Coordinator) (id : TrackerId) (f : Tracker → Tracker) : Coordinator :=
  { c with trackers := c.trackers.map fun e => if e.1 = id then (e.1, f e.2) else e }

/-- The task that an attempt belongs to. -/
def ref? (c : Coordinator) (id : AttemptId) : Option AttemptRef :=
  (c.index.find? (·.1 == id)).map Prod.snd

/-- Tells trackers, with their next heartbeats, that attempts of theirs were ended. -/
def notifyKills (c : Coordinator) (ended : List Attempt) : Coordinator :=
  ended.foldl (fun c a => c.changeTracker a.tracker (·.queueKill a.id)) c

/-- The running attempts with their tasks. -/
def running (c : Coordinator) : List (Task × Attempt) :=
  c.jobs.flatMap fun j => j.allTasks.flatMap fun t => t.running.map fun a => (t, a)

/-- How many attempts of a kind run on a tracker. -/
def runningOn (c : Coordinator) (tracker : TrackerId) (kind : TaskKind) : Nat :=
  c.running.countP fun e => e.1.kind == kind && e.2.tracker == tracker

/-- Sets an entry of a list of entries, in its place or at the end. -/
def setEntry {α : Type} (key : String) (value : α) (es : List (String × α)) : List (String × α) :=
  if es.any (·.1 == key) then es.map fun e => if e.1 = key then (e.1, value) else e
  else es ++ [(key, value)]

end Coordinator

end JobCluster
