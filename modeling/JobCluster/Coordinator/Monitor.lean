import JobCluster.Coordinator.Closing
import JobCluster.Coordinator.Submission

/-!
# The monitor

What the coordinator does from time to time on its own.
-/

namespace JobCluster.Coordinator

open JobCluster.Time

/-- How long a tracker may be silent. -/
def trackerTimeout : Duration := .ofSeconds 20

/-- How long a name stays reserved. -/
def reservationTtl : Duration := .ofSeconds 600

/-- One turn of the monitor: lost trackers, jobs with nothing left to do, names that were not used.
The clock is read at the start of the turn, at the end of each lost attempt, and when jobs are
finished. -/
def monitor (c : Coordinator) (now : Instant) (clock : AttemptId → Instant) (later : Instant) :
    Coordinator :=
  let (_, swept) := c.sweep now trackerTimeout clock
  let (_, closed) := swept.finishIdle later
  (closed.expireReservations now reservationTtl).2

end JobCluster.Coordinator
