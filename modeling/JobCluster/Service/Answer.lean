import JobCluster.Coordinator.Closing
import JobCluster.Coordinator.Queries
import JobCluster.Coordinator.Scheduling
import JobCluster.Coordinator.Submission
import JobCluster.Http.MediaType
import JobCluster.Input.Splits
import JobCluster.Service.Failure
import JobCluster.Service.Target

/-!
# The service

`Service.answer` answers a request to the coordinator. Requests to the protocol have to announce its
version before anything else is looked at, and their answers announce it too. A job that was
submitted gets its tasks after the answer.
-/

namespace JobCluster

open JobCluster.Coordinator JobCluster.File JobCluster.Http JobCluster.Input JobCluster.Protocol
  JobCluster.Text JobCluster.Time JobCluster.Wire

/-- The coordinator with the file system it reads inputs from and its limits. -/
structure Service where
  coordinator : Coordinator
  files : FileSystem
  tree : Tree
  splitSize : UInt64
  maxJobs : UInt64

namespace Service

/-- Gives a submitted job its tasks, or lets it fail if its inputs cannot be split. -/
def prepare (s : Service) (init : InitRequest) (now : Instant) : Service :=
  match computeSplits s.files s.tree init.inputPaths init.splitSize with
  | .ok splits =>
    { s with coordinator := (s.coordinator.installTasks init.jobId splits).2 }
  | .error _ => { s with coordinator := s.coordinator.failInit init.jobId now }

/-- Why a request is turned down before it is looked at as a whole. -/
inductive Rejection where
  | badRequest
  | methodNotAllowed
  | tooLarge
  | unsupportedMediaType
  | unprocessable
deriving DecidableEq, Repr

/-- The status of a rejection. -/
def Rejection.status : Rejection → Nat
  | .badRequest => 400
  | .methodNotAllowed => 405
  | .tooLarge => 413
  | .unsupportedMediaType => 415
  | .unprocessable => 422

/-- How a request ends: with a value, with nothing to tell, with a failure, or rejected. -/
inductive Reply where
  | value (v : Json.Value)
  | text (s : String)
  | done
  | failed (f : Failure)
  | rejected (r : Rejection)

/-- The answer of a reply, without a version. A rejection has no body of the protocol. -/
def Reply.response : Reply → Response
  | .value v => ⟨200, none, .json v⟩
  | .text s => ⟨200, none, .text s⟩
  | .done => ⟨204, none, .empty⟩
  | .failed f => f.response
  | .rejected r => ⟨r.status, none, .empty⟩

/-- The most bytes a body may have. -/
def maxBodyLength : Nat := 2 * 1024 * 1024

/-- Reads the body of a request. What follows a message in a body is not looked at. -/
def readBody {α : Type} (c : Codec α) (r : Request) : Except Rejection α :=
  if ! announcesJson r.mediaType then .error .unsupportedMediaType
  else if maxBodyLength < utf8Length r.body then .error .tooLarge
  else match c.readFront r.body with
    | .ok a => .ok a
    | .error .malformed => .error .badRequest
    | .error .mistyped => .error .unprocessable

/-- A value that may be missing, as a reply. -/
def found {α : Type} (c : Codec α) (what : String) : Option α → Reply
  | some a => .value (c.write a)
  | none => .failed (.notFound what)

/-- Carries out a request with a message in its body. -/
def withBody {α : Type} (s : Service) (c : Codec α) (r : Request)
    (run : α → Reply × Service) : Option (Reply × Service) :=
  match readBody c r with
  | .ok a => some (run a)
  | .error e => some (.rejected e, s)

/-- The page of a completion log that a request asks for. -/
def eventsPage (r : Request) : Option EventsQuery := do
  let pairs := readQuery r.query
  pure ⟨← readQueryWord "from" 0 pairs, ← readQueryWord "max" defaultMaxEvents pairs⟩

/-- Submits a job and then gives it its tasks. -/
def submitJob (s : Service) (m : SubmitRequest) (clock : Readings) : Reply × Service :=
  match s.coordinator.submit m.jobId m.descriptor s.splitSize s.maxJobs clock.first with
  | (.error e, c) => (.failed (.protocol e), { s with coordinator := c })
  | (.ok submission, c) =>
    let submitted := { s with coordinator := c }
    (.value (Codec.jobStatus.write submission.status),
      match submission.init with
      | some init => submitted.prepare init clock.second
      | none => submitted)

/-- Carries out a request whose names are decoded. New trackers get the name given. There is no
reply where the state of the cluster cannot be told. -/
def perform (s : Service) (t : Target) (r : Request) (clock : Readings)
    (newTracker : TrackerId) : Option (Reply × Service) :=
  let c := s.coordinator
  let tell (reply : Reply) : Option (Reply × Service) := some (reply, s)
  let become (c : Coordinator) : Service := { s with coordinator := c }
  match t with
  | .health => tell (.text "ok")
  | .protocol => tell (.value (Codec.protocolInfo.write ⟨protocolName, protocolVersion⟩))
  | .jobIds =>
    let (id, c) := c.newJobId clock.first
    some (.value (Codec.jobIdAnswer.write id), become c)
  | .jobs => s.withBody Codec.submitRequest r fun m => s.submitJob m clock
  | .job id => tell (found Codec.jobStatus ("job " ++ id) (c.jobStatus id))
  | .profile id => tell (found Codec.jobProfile ("job " ++ id) (c.jobProfile id))
  | .counters id => tell (found Codec.counters ("job " ++ id) (c.jobCounters id))
  | .kill id => some (.done, become (c.killJob id clock))
  | .reports id kind => tell (.value ((Codec.list Codec.taskReport).write (c.taskReports id kind)))
  | .events id =>
    match eventsPage r with
    | none => tell (.rejected .badRequest)
    | some q => tell (.value ((Codec.list Codec.completionEvent).write
        (c.completionEvents id q.start q.max)))
  | .diagnostics id task attempt =>
    tell (.value ((Codec.list Codec.text).write (c.taskDiagnostics id task attempt)))
  | .killAttempt id => s.withBody Codec.killRequest r fun shouldFail =>
    let (killed, c) := c.killAttempt id shouldFail clock
    (.value (Codec.killAnswer.write killed), become c)
  | .cluster => c.clusterStatus.map fun status => (.value (Codec.clusterStatus.write status), s)
  | .incompleteJobs => tell (.value ((Codec.list Codec.jobStatus).write c.incompleteJobs))
  | .allJobs => tell (.value ((Codec.list Codec.jobStatus).write c.allJobs))
  | .fileSystem => tell (.value (Codec.fileSystemAnswer.write s.files.displayName))
  | .trackers =>
    tell (.value ((Codec.list Codec.trackerMetrics).write (c.trackerMetrics clock.first)))
  | .register => s.withBody Codec.registration r fun registration =>
    (.value (Codec.trackerIdMessage.write newTracker),
      become (c.register newTracker registration clock.first))
  | .heartbeat => s.withBody Codec.heartbeat r fun h =>
    match c.heartbeat h clock.first with
    | some (kills, c) => (.value (Codec.heartbeatAnswer.write ⟨true, kills⟩), become c)
    | none => (.failed (.notFound ("tracker " ++ h.trackerId)), s)
  | .nextTask => s.withBody Codec.trackerIdMessage r fun id =>
    let (assignment, c) := c.assign id clock.first
    (.value (Codec.assignmentAnswer.write assignment), become c)
  | .completeTask => s.withBody Codec.taskCompletion r fun m =>
    match c.complete m clock with
    | (true, c) => (.value (Codec.completionAnswer.write true), become c)
    | (false, _) => (.failed (.notFound ("intento " ++ m.attemptId)), s)

/-- Carries out a request for a target, if it is asked for with the right method. -/
def reply (s : Service) (t : Target) (r : Request) (clock : Readings) (newTracker : TrackerId) :
    Option (Reply × Service) :=
  if ! t.accepts r.method then some (.rejected .methodNotAllowed, s)
  else match t.decode with
    | some t => s.perform t r clock newTracker
    | none => some (.rejected .badRequest, s)

/-- An answer that announces the version. -/
def announce (r : Response) : Response := { r with version := some versionText }

/-- An answer to a request for a target: one that asks for no body gets none. -/
def finish (t : Target) (r : Request) (response : Response) : Response :=
  if t.accepts r.method && r.method == "HEAD" then { response with body := .empty } else response

/-- Answers a request. -/
def answer (s : Service) (r : Request) (clock : Readings) (newTracker : TrackerId) :
    Option (Response × Service) :=
  match Target.ofPath r.path with
  | none => some (announce (Failure.notFound ("ruta " ++ r.path)).response, s)
  | some t =>
    if ! t.isVersioned then
      (s.reply t r clock newTracker).map fun (reply, s) =>
        let response := finish t r reply.response
        (if t == .protocol && t.accepts r.method then announce response else response, s)
    else match ensureVersion (r.version.bind readableHeader) with
      | .error _ =>
        let client := announcedVersion (r.version.bind readableHeader)
        let failure := Failure.protocol (.versionMismatch client protocolVersion)
        some (announce (finish t r failure.response), s)
      | .ok () =>
        (s.reply t r clock newTracker).map fun (reply, s) =>
          (announce (finish t r reply.response), s)

end Service

end JobCluster
