import JobCluster.Coordinator.State

/-!
# Trackers and their work

Trackers register, send heartbeats and ask for work. `assign` goes through the running jobs by
priority and order of submission and launches the first task that the tracker has a slot for: a map,
if possible one with its split on the host of the tracker, or a reduce of a job whose maps are all
done.
-/

namespace JobCluster.Coordinator

open JobCluster.Time

/-- Registers a tracker under a new name. -/
def register (c : Coordinator) (id : TrackerId) (r : Registration) (now : Instant) : Coordinator :=
  { c with trackers := setEntry id (Tracker.new r now) c.trackers }

/-- Takes a heartbeat. The tracker lives again if it was dead, and is told which attempts to abort.
-/
def heartbeat (c : Coordinator) (h : Heartbeat) (now : Instant) :
    Option (List AttemptId × Coordinator) :=
  (c.tracker? h.trackerId).map fun t =>
    (t.pendingKills, c.changeTracker h.trackerId fun t =>
      { t with
        dead := false
        lastHeartbeat := now
        cpuPercent := some h.cpuPercent
        memBytes := some h.memBytes
        pendingKills := [] })

/-- The running jobs, the most urgent first, and those of one priority in the order of submission.
-/
def candidates (c : Coordinator) : List Job :=
  (c.jobs.filter fun j => j.state == .running && j.hasTasks).mergeSort fun a b =>
    a.priority.rank ≤ b.priority.rank

/-- A task to launch. The flag tells of a map whether its split is on the host. -/
structure Choice where
  job : JobId
  kind : TaskKind
  index : Nat
  isLocal : Option Bool
deriving DecidableEq, Repr

/-- The task of a job that a tracker can run. -/
def chooseTask (j : Job) (host : String) (mapSlot reduceSlot : Bool) : Option Choice :=
  match (if mapSlot then j.pickMap host else none) with
  | some (index, isLocal) => some ⟨j.id, .map, index, some isLocal⟩
  | none =>
    (if reduceSlot then j.pickReduce else none).map fun index => ⟨j.id, .reduce, index, none⟩

/-- The task that a tracker is to run next, if it is alive. -/
def choose (c : Coordinator) (id : TrackerId) : Option Choice :=
  match c.tracker? id with
  | none => none
  | some t =>
    if t.dead then none
    else
      let mapSlot := c.runningOn id .map < t.mapSlots.toNat
      let reduceSlot := c.runningOn id .reduce < t.reduceSlots.toNat
      c.candidates.findSome? fun j => chooseTask j t.hostname mapSlot reduceSlot

/-- Launches a chosen task. -/
def launch (c : Coordinator) (id : TrackerId) (choice : Choice) (now : Instant) :
    Option (TaskAssignment × Coordinator) := do
  let host := ((c.tracker? id).map Tracker.hostname).getD ""
  let j ← c.job? choice.job
  let (launched, assignment) ← j.launch choice.kind choice.index choice.isLocal id host now
  let indexed := { c.setJob launched with
    index := setEntry assignment.attemptId ⟨choice.job, choice.kind, choice.index⟩ c.index }
  pure (assignment, indexed.changeTracker id fun t => { t with started := t.started + 1 })

/-- Gives a tracker its next task, if there is one for it. -/
def assign (c : Coordinator) (id : TrackerId) (now : Instant) :
    Option TaskAssignment × Coordinator :=
  match (c.choose id).bind fun choice => c.launch id choice now with
  | some (assignment, c) => (some assignment, c)
  | none => (none, c)

end JobCluster.Coordinator
