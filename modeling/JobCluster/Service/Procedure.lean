import JobCluster.Client.Calls
import JobCluster.Service.Answer

/-!
# The operations of the protocol

What can be asked of a coordinator (`Procedure`). The same operation can be carried out where the
coordinator is (`Service.run`), and called from elsewhere over a link (`Client.call`).
-/

namespace JobCluster

open JobCluster.Coordinator JobCluster.Http JobCluster.Input JobCluster.Protocol JobCluster.Time

/-- An operation of the protocol with its arguments, by the type of what it returns. -/
inductive Protocol.Procedure : Type → Type where
  | newJobId : Procedure JobId
  | submitJob (id : JobId) (d : JobDescriptor) : Procedure JobStatus
  | clusterStatus : Procedure ClusterStatus
  | killJob (id : JobId) : Procedure Unit
  | killTask (id : AttemptId) (shouldFail : Bool) : Procedure Bool
  | jobProfile (id : JobId) : Procedure (Option JobProfile)
  | jobStatus (id : JobId) : Procedure (Option JobStatus)
  | jobCounters (id : JobId) : Procedure (Option Counters)
  | mapReports (id : JobId) : Procedure (List TaskReport)
  | reduceReports (id : JobId) : Procedure (List TaskReport)
  | fileSystemName : Procedure String
  | incompleteJobs : Procedure (List JobStatus)
  | allJobs : Procedure (List JobStatus)
  | completionEvents (id : JobId) (start max : UInt32) : Procedure (List CompletionEvent)
  | taskDiagnostics (id : JobId) (task : TaskId) (attempt : AttemptId) : Procedure (List String)

/-- Carries out an operation where the coordinator is. A job that was submitted gets its tasks after
that. There is no outcome where the state of the cluster cannot be told. -/
def Service.run {α : Type} (s : Service) (clock : Readings) :
    Procedure α → Option (Except ProtocolError α × Service)
  | .newJobId =>
    let (id, c) := s.coordinator.newJobId clock.first
    some (.ok id, { s with coordinator := c })
  | .submitJob id d =>
    match s.coordinator.submit id d s.splitSize s.maxJobs clock.first with
    | (.error e, c) => some (.error e, { s with coordinator := c })
    | (.ok submission, c) =>
      let submitted := { s with coordinator := c }
      some (.ok submission.status, match submission.init with
        | some init => submitted.prepare init clock.second
        | none => submitted)
  | .clusterStatus => s.coordinator.clusterStatus.map fun status => (.ok status, s)
  | .killJob id => some (.ok (), { s with coordinator := s.coordinator.killJob id clock })
  | .killTask id shouldFail =>
    let (killed, c) := s.coordinator.killAttempt id shouldFail clock
    some (.ok killed, { s with coordinator := c })
  | .jobProfile id => some (.ok (s.coordinator.jobProfile id), s)
  | .jobStatus id => some (.ok (s.coordinator.jobStatus id), s)
  | .jobCounters id => some (.ok (s.coordinator.jobCounters id), s)
  | .mapReports id => some (.ok (s.coordinator.taskReports id .map), s)
  | .reduceReports id => some (.ok (s.coordinator.taskReports id .reduce), s)
  | .fileSystemName => some (.ok s.files.displayName, s)
  | .incompleteJobs => some (.ok s.coordinator.incompleteJobs, s)
  | .allJobs => some (.ok s.coordinator.allJobs, s)
  | .completionEvents id start max => some (.ok (s.coordinator.completionEvents id start max), s)
  | .taskDiagnostics id task attempt =>
    some (.ok (s.coordinator.taskDiagnostics id task attempt), s)

/-- Calls an operation over a link. -/
def Client.call {σ α : Type} (c : Client σ) : Procedure α → Exchange σ α
  | .newJobId => c.newJobId
  | .submitJob id d => c.submitJob id d
  | .clusterStatus => c.clusterStatus
  | .killJob id => c.killJob id
  | .killTask id shouldFail => c.killTask id shouldFail
  | .jobProfile id => c.jobProfile id
  | .jobStatus id => c.jobStatus id
  | .jobCounters id => c.jobCounters id
  | .mapReports id => c.mapReports id
  | .reduceReports id => c.reduceReports id
  | .fileSystemName => c.fileSystemName
  | .incompleteJobs => c.incompleteJobs
  | .allJobs => c.allJobs
  | .completionEvents id start max => c.completionEvents id start max
  | .taskDiagnostics id task attempt => c.taskDiagnostics id task attempt

/-- The link to a service: each request is answered at once by the service, with readings of
the clock and a new name that are the same each time. A request without an answer breaks off. -/
def Service.link (clock : Readings) (newTracker : TrackerId) : Link Service where
  exchange r s := match s.answer r clock newTracker with
    | some (response, s') => (.ok (.ofResponse response), s')
    | none => (.error "error sending request", s)
  pause _ s := s

end JobCluster
