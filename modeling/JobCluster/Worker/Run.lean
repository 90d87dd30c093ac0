import JobCluster.Worker.Exchange
import JobCluster.Worker.State

/-!
# Running a worker

The steps of a worker over a link, each one exchange: asking for work, reporting, and sending a
heartbeat. `serve` is the schedule in which every attempt is run and reported before the next one is
asked for. A worker gives up if it cannot register; after that no failure of an exchange ends it.
-/

namespace JobCluster.Worker

open JobCluster.File

variable {σ : Type}

/-- Seconds to pause after a request for work failed. -/
def retryPause : UInt64 := 2

/-- Seconds to pause when there is no work. -/
def idlePause : UInt64 := 1

/-- Registers with the coordinator. -/
def join (c : Connection σ) (r : Registration) (s : σ) : Except PostError Worker × σ :=
  match c.register r s with
  | (.ok tracker, s) => (.ok (Worker.new r tracker), s)
  | (.error e, s) => (.error e, s)

/-- Asks for work if there is a permit, and pauses if there is none or nothing to do. -/
def ask (c : Connection σ) (w : Worker) (s : σ) : Worker × σ :=
  if ! w.hasPermit then (w, c.link.pause idlePause s)
  else match c.nextTask w.tracker s with
    | (.ok (some a), s) => (w.accept a, s)
    | (.ok none, s) => (w, c.link.pause idlePause s)
    | (.error _, s) => (w, c.link.pause retryPause s)

/-- Sends a report. It is not sent again if that fails. -/
def report (c : Connection σ) (w : Worker) (r : TaskCompletion) (s : σ) : Worker × σ :=
  (w.settle r, (c.complete r s).2)

/-- Sends a heartbeat and aborts what its answer names. -/
def beat (c : Connection σ) (w : Worker) (h : Heartbeat) (s : σ) : Worker × σ :=
  match c.heartbeat h s with
  | (.ok answer, s) => (w.abort answer.killAttempts, s)
  | (.error _, s) => (w, s)

/-- Runs all attempts to their ends and sends all reports, in order. -/
def drain (c : Connection σ) (t : Tree) (w : Worker) (s : σ) : Worker × σ :=
  let finished := w.runningIds.foldl (fun w id => w.execute t id) w
  finished.reporting.foldl (fun (w, s) r => report c w r s) (finished, s)

/-- Works for a number of rounds: asks, runs, reports. -/
def serve (c : Connection σ) (t : Tree) : Nat → Worker → σ → Worker × σ
  | 0, w, s => (w, s)
  | rounds + 1, w, s =>
    let (w, s) := ask c w s
    let (w, s) := drain c t w s
    serve c t rounds w s

/-- Registers and works for a number of rounds. -/
def run (c : Connection σ) (t : Tree) (r : Registration) (rounds : Nat) (s : σ) :
    Except PostError Worker × σ :=
  match join c r s with
  | (.ok w, s) =>
    let (w, s) := serve c t rounds w s
    (.ok w, s)
  | (.error e, s) => (.error e, s)

end JobCluster.Worker
