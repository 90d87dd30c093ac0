import JobCluster.Tracker.Basic
import JobCluster.Worker.Attempt

/-!
# The state of a worker

A worker holds a permit for each attempt that it runs or has still to report (`Worker`). It asks for
work while it has a permit left. An attempt ends by being run or by being aborted; only one that was
run is reported, and a report is sent once, whether it arrives or not.

An attempt with a split does not read it by itself: it hands the read over to threads of their own
(`Worker.handOver`), where it may wait for a thread (`Worker.beginRead`), and goes on when the read
is over (`Worker.finish`). An abort does not reach those threads. The read of an aborted attempt
goes on there, or is begun there later, and is dropped at its end (`Worker.dropRead`).
-/

namespace JobCluster

open JobCluster.File JobCluster.Worker

/-- Whether an attempt has a split to read: a reduce has no input of its own. -/
def TaskAssignment.hasInput (a : TaskAssignment) : Bool := a.kind == .map && a.split.isSome

/-- The read of an attempt's split, with the threads that read. It waits until one of them begins
it. -/
structure Worker.Read where
  attemptId : AttemptId
  begun : Bool
deriving DecidableEq, Repr

/-- What a worker does at one moment: the attempts that it runs, the reads of their splits and of
those of aborted attempts, and the reports that it is sending. -/
structure Worker where
  tracker : TrackerId
  permits : Nat
  running : List TaskAssignment
  reads : List Worker.Read
  reporting : List TaskCompletion
deriving DecidableEq, Repr

namespace Worker

/-- How many attempts a worker has at once: one for each slot, of whatever kind, and at least one.
-/
def permitsOf (r : Registration) : Nat := max (r.mapSlots.toNat + r.reduceSlots.toNat) 1

/-- A worker that has registered. -/
def new (r : Registration) (tracker : TrackerId) : Worker := ⟨tracker, permitsOf r, [], [], []⟩

/-- The names of the running attempts. -/
def runningIds (w : Worker) : List AttemptId := w.running.map TaskAssignment.attemptId

/-- The names of the attempts whose reads are with the threads that read. -/
def readIds (w : Worker) : List AttemptId := w.reads.map Read.attemptId

/-- Whether there is a permit to ask for work with. The reads of aborted attempts hold none. -/
def hasPermit (w : Worker) : Bool := w.running.length + w.reporting.length < w.permits

/-- Takes the answer to a request for work. An attempt starts to run; one of the same name is
replaced. -/
def accept (w : Worker) : Option TaskAssignment → Worker
  | some a => { w with running := w.running.filter (·.attemptId ≠ a.attemptId) ++ [a] }
  | none => w

/-- Whether the attempt with a name runs and has a split to read. -/
def needsRead (w : Worker) (id : AttemptId) : Bool :=
  w.running.any fun a => a.attemptId == id && a.hasInput

/-- The first step of an attempt with a split, which no abort interrupts: it hands its read over. -/
def handOver (w : Worker) (id : AttemptId) : Worker := { w with reads := w.reads ++ [⟨id, false⟩] }

/-- A thread begins a read. -/
def beginRead (w : Worker) (id : AttemptId) : Worker :=
  { w with reads := w.reads.map fun r => if r.attemptId = id then { r with begun := true } else r }

/-- A read is over for which no attempt waits. Nothing comes of it. -/
def dropRead (w : Worker) (id : AttemptId) : Worker :=
  { w with reads := w.reads.filter (·.attemptId ≠ id) }

/-- Runs the attempt with a name to its end, as its read, if it has one, is over. From then on it
cannot be aborted. -/
def finish (w : Worker) (t : Tree) (id : AttemptId) : Worker :=
  match w.running.find? (·.attemptId == id) with
  | some a =>
    { w with
      running := w.running.filter (·.attemptId ≠ id)
      reads := w.reads.filter (·.attemptId ≠ id)
      reporting := w.reporting ++ [runAttempt t a] }
  | none => w

/-- Runs the attempt with a name from its first step to its end. -/
def execute (w : Worker) (t : Tree) (id : AttemptId) : Worker :=
  let handed := if w.needsRead id then (w.handOver id).beginRead id else w
  handed.finish t id

/-- Gives a report up, as it has arrived or is lost. -/
def settle (w : Worker) (r : TaskCompletion) : Worker := { w with reporting := w.reporting.erase r }

/-- Takes the answer to a heartbeat: aborts the attempts that it names. Their reads are left alone.
-/
def abort (w : Worker) (kills : List AttemptId) : Worker :=
  { w with running := w.running.filter fun a => ! kills.contains a.attemptId }

/-- The attempts that run after an abort are those that `abortAttempts` leaves. -/
theorem runningIds_abort (w : Worker) (kills : List AttemptId) :
    (w.abort kills).runningIds = (abortAttempts w.runningIds kills).2 := by
  simp only [runningIds, abort, abortAttempts, List.filter_map]
  rfl

end Worker

end JobCluster
