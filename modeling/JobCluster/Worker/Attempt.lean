import JobCluster.Input.Reading

/-!
# Running attempts

What a worker does with an assignment (`runAttempt`): a map reads its split, a reduce has no input
of its own. The attempts that are running can be aborted by name (`abortAttempts`).
-/

namespace JobCluster.Worker

open JobCluster.File JobCluster.Input

/-- The report of an attempt that succeeded. -/
def succeeded (id : AttemptId) (counters : Counters) : TaskCompletion := ⟨id, true, counters, []⟩

/-- The report of an attempt that failed. -/
def failed (id : AttemptId) (reason : String) : TaskCompletion :=
  ⟨id, false, Counters.empty, [reason]⟩

/-- Runs an attempt and reports how it ended. -/
def runAttempt (t : Tree) (a : TaskAssignment) : TaskCompletion :=
  match a.kind, a.split with
  | .map, some split =>
    match readSplit t split with
    | .ok counters => succeeded a.attemptId counters
    | .error fault =>
      failed a.attemptId ("leyendo el split de " ++ a.attemptId ++ ": " ++ fault.message)
  | .map, none => failed a.attemptId "map sin split"
  | .reduce, _ => succeeded a.attemptId Counters.empty

/-- Aborts attempts: which of them were running, and which others still are. -/
def abortAttempts (running kills : List AttemptId) : List AttemptId × List AttemptId :=
  (running.filter kills.contains, running.filter fun id => ! kills.contains id)

end JobCluster.Worker
