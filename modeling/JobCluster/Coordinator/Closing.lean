import JobCluster.Coordinator.State

/-!
# The end of attempts and jobs

An attempt ends by a report of its tracker, by a user, with its job, or with its tracker. All go
through `finishAttempt`, which does nothing to an attempt that has ended: whatever comes first
decides.
-/

namespace JobCluster.Coordinator

open JobCluster.Time

/-- Ends a running attempt with all that follows, and tells which tracker ran it. -/
def finishAttempt (c : Coordinator) (ref : AttemptRef) (id : AttemptId) (outcome : Outcome)
    (counters : Counters) (notes : List String) (clock : Readings) :
    Option (TrackerId × Coordinator) := do
  let j ← c.job? ref.job
  let closed ← j.close ref.kind ref.index id outcome counters notes clock
  let a := closed.attempt
  let elapsed := a.runTime clock.first
  let credited := (c.setJob closed.job).changeTracker a.tracker (·.credit outcome elapsed)
  pure (a.tracker, credited.notifyKills closed.aborted)

/-- Takes the report that an attempt ended, and tells whether there is such an attempt. -/
def complete (c : Coordinator) (r : TaskCompletion) (clock : Readings) : Bool × Coordinator :=
  match c.ref? r.attemptId with
  | none => (false, c)
  | some ref =>
    let outcome := if r.success then .succeeded else .failed
    match c.finishAttempt ref r.attemptId outcome r.counters r.diagnostics clock with
    | some (_, c) => (true, c)
    | none => (true, c)

/-- What a user's kill of an attempt is noted as. -/
def killNote (shouldFail : Bool) : String :=
  if shouldFail then "intento marcado como fallido por el usuario"
  else "intento matado por el usuario"

/-- Kills an attempt for a user, as a failure if asked, and tells whether there is such an attempt.
-/
def killAttempt (c : Coordinator) (id : AttemptId) (shouldFail : Bool) (clock : Readings) :
    Bool × Coordinator :=
  match c.ref? id with
  | none => (false, c)
  | some ref =>
    let outcome := if shouldFail then .failed else .killed
    match c.finishAttempt ref id outcome Counters.empty [killNote shouldFail] clock with
    | some (tracker, c) => (true, c.changeTracker tracker (·.queueKill id))
    | none => (true, c)

/-- Kills a job for a user. A job that has ended, or that is not there, is left alone. -/
def killJob (c : Coordinator) (id : JobId) (clock : Readings) : Coordinator :=
  match c.job? id with
  | none => c
  | some j =>
    if j.isTerminal then c
    else
      let (aborted, ended) := j.abort "job matado por el usuario" clock.first
      (c.setJob (aborted.finish .killed clock.second)).notifyKills ended

/-- The names of the live trackers whose heartbeats are overdue. -/
def overdueTrackers (c : Coordinator) (now : Instant) (timeout : Duration) : List TrackerId :=
  (c.trackers.filter fun e => ! e.2.dead && e.2.isOverdue now timeout).map Prod.fst

/-- Marks trackers dead. They are not told any more what to abort. -/
def markDead (c : Coordinator) (ids : List TrackerId) : Coordinator :=
  { c with trackers := c.trackers.map fun e =>
      if ids.contains e.1 then (e.1, { e.2 with dead := true, pendingKills := [] }) else e }

/-- The attempt of an entry of the index. -/
def attemptOf? (c : Coordinator) (id : AttemptId) (ref : AttemptRef) : Option Attempt := do
  let j ← c.job? ref.job
  let t ← (j.tasks ref.kind)[ref.index]?
  t.attempt? id

/-- The attempts that run on trackers, in the order of their names. -/
def lostAttempts (c : Coordinator) (ids : List TrackerId) : List (AttemptId × AttemptRef) :=
  (c.index.filter fun e => (c.attemptOf? e.1 e.2).any fun a =>
    a.isRunning && ids.contains a.tracker).mergeSort fun a b => a.1 ≤ b.1

/-- Ends an attempt because its tracker is lost. That does not fail its job, so the clock is read
once. -/
def loseAttempt (c : Coordinator) (id : AttemptId) (ref : AttemptRef) (now : Instant) :
    Coordinator :=
  match c.finishAttempt ref id .killed Counters.empty ["tracker perdido"] (.still now) with
  | some (_, c) => c
  | none => c

/-- Ends attempts, one after another, because their trackers are lost. Each end reads the clock:
`clock` has the reading at the end of each attempt. -/
def loseAttempts (c : Coordinator) (lost : List (AttemptId × AttemptRef))
    (clock : AttemptId → Instant) : Coordinator :=
  lost.foldl (fun c e => c.loseAttempt e.1 e.2 (clock e.1)) c

/-- Marks trackers dead whose heartbeats are overdue, ends the attempts that ran on them, and tells
which trackers these are. -/
def sweep (c : Coordinator) (now : Instant) (timeout : Duration) (clock : AttemptId → Instant) :
    List TrackerId × Coordinator :=
  let ids := c.overdueTrackers now timeout
  let marked := c.markDead ids
  (ids, marked.loseAttempts (marked.lostAttempts ids) clock)

/-- Ends the running jobs that have nothing left to do, and tells which these are. -/
def finishIdle (c : Coordinator) (now : Instant) : List JobId × Coordinator :=
  let isIdle (j : Job) : Bool := j.state == .running && j.allDone
  ((c.jobs.filter isIdle).map Job.id,
    { c with jobs := c.jobs.map fun j => if isIdle j then j.finish .succeeded now else j })

end JobCluster.Coordinator
