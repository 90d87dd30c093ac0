import JobCluster.Http.Query
import JobCluster.Task.Basic

/-!
# Targets of requests

What the path of a request names (`Target.ofSegments`). Each target is asked for with one method.
Names of jobs, tasks and attempts are single segments with percent escapes.
-/

namespace JobCluster.Service

open JobCluster.Text JobCluster.Http

/-- What a request can be about. -/
inductive Target where
  | health
  | protocol
  | jobIds
  | jobs
  | job (id : String)
  | profile (id : String)
  | counters (id : String)
  | kill (id : String)
  | reports (id : String) (kind : TaskKind)
  | events (id : String)
  | diagnostics (id task attempt : String)
  | killAttempt (id : String)
  | cluster
  | incompleteJobs
  | allJobs
  | fileSystem
  | trackers
  | register
  | heartbeat
  | nextTask
  | completeTask
deriving DecidableEq, Repr

namespace Target

/-- The target below the common beginning of the paths of the protocol. A name at the end of a path
is not empty. -/
def ofSegments : List String → Option Target
  | ["protocol"] => some .protocol
  | ["job-ids"] => some .jobIds
  | ["jobs"] => some .jobs
  | ["jobs", id] => if id = "" then none else some (.job id)
  | ["jobs", id, "profile"] => some (.profile id)
  | ["jobs", id, "counters"] => some (.counters id)
  | ["jobs", id, "kill"] => some (.kill id)
  | ["jobs", id, "tasks", "map"] => some (.reports id .map)
  | ["jobs", id, "tasks", "reduce"] => some (.reports id .reduce)
  | ["jobs", id, "events"] => some (.events id)
  | ["jobs", id, "tasks", task, "attempts", attempt, "diagnostics"] =>
    some (.diagnostics id task attempt)
  | ["attempts", id, "kill"] => some (.killAttempt id)
  | ["cluster", "status"] => some .cluster
  | ["cluster", "jobs", "incomplete"] => some .incompleteJobs
  | ["cluster", "jobs", "all"] => some .allJobs
  | ["cluster", "filesystem"] => some .fileSystem
  | ["trackers"] => some .trackers
  | ["trackers", "register"] => some .register
  | ["trackers", "heartbeat"] => some .heartbeat
  | ["trackers", "tasks", "next"] => some .nextTask
  | ["trackers", "tasks", "complete"] => some .completeTask
  | _ => none

/-- The target that a path names, with names as they are written there. -/
def ofPath (path : String) : Option Target :=
  match (splitOn '/' path.toList).map String.ofList with
  | ["", "health"] => some .health
  | "" :: "api" :: "v1" :: rest => ofSegments rest
  | _ => none

/-- Whether a target is asked for with a body or to change something; else it is only read. -/
def isPosted : Target → Bool
  | .jobIds | .jobs | .kill _ | .killAttempt _ | .register | .heartbeat | .nextTask
  | .completeTask => true
  | _ => false

/-- Whether a method asks for a target. What can be read can also be asked for without its body. -/
def accepts (t : Target) (method : String) : Bool :=
  if t.isPosted then method == "POST" else method == "GET" || method == "HEAD"

/-- Whether requests for a target have to announce a version. -/
def isVersioned : Target → Bool
  | .health | .protocol => false
  | _ => true

/-- A name from its segment of a path. -/
def decodeName (s : String) : Option String := ofUtf8? (percentDecode s.toList)

/-- The target with the names that its segments stand for. -/
def decode : Target → Option Target
  | .job id => (decodeName id).map .job
  | .profile id => (decodeName id).map .profile
  | .counters id => (decodeName id).map .counters
  | .kill id => (decodeName id).map .kill
  | .reports id kind => (decodeName id).map fun id => .reports id kind
  | .events id => (decodeName id).map .events
  | .diagnostics id task attempt => do
    pure (.diagnostics (← decodeName id) (← decodeName task) (← decodeName attempt))
  | .killAttempt id => (decodeName id).map .killAttempt
  | t => some t

end Target

end JobCluster.Service
