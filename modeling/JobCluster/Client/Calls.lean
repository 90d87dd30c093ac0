import JobCluster.Client.Exchange

/-!
# The calls of the protocol

Each operation of the protocol as a request over a link. What is not there is answered by no value,
an empty list, or, for kills, nothing to do.
-/

namespace JobCluster.Client

open JobCluster.Protocol JobCluster.Text JobCluster.Wire

variable {σ : Type}

/-- Asks for a target. -/
def getOf (c : Client σ) (segments : List String) : Exchange σ Http.Request := do
  pure (plain "GET" (← c.locate segments))

/-- Reserves a name for a job. -/
def newJobId (c : Client σ) : Exchange σ JobId := do
  c.required Codec.jobIdAnswer (plain "POST" (← c.locate ["job-ids"]))

/-- Submits a job under a reserved name. -/
def submitJob (c : Client σ) (id : JobId) (d : JobDescriptor) : Exchange σ JobStatus := do
  c.required Codec.jobStatus (posting (← c.locate ["jobs"]) Codec.submitRequest ⟨id, d⟩)

/-- The cluster in figures. -/
def clusterStatus (c : Client σ) : Exchange σ ClusterStatus := do
  c.required Codec.clusterStatus (← c.getOf ["cluster", "status"])

/-- Kills a job. -/
def killJob (c : Client σ) (id : JobId) : Exchange σ Unit := do
  let _ ← c.execute (plain "POST" (← c.locate ["jobs", id, "kill"]))

/-- Kills an attempt, as a failure if asked, and tells whether there is such an attempt. -/
def killTask (c : Client σ) (id : AttemptId) (shouldFail : Bool) : Exchange σ Bool := do
  let killed ← c.optional Codec.killAnswer
    (posting (← c.locate ["attempts", id, "kill"]) Codec.killRequest shouldFail)
  pure (killed.getD false)

/-- The profile of a job. -/
def jobProfile (c : Client σ) (id : JobId) : Exchange σ (Option JobProfile) := do
  c.optional Codec.jobProfile (← c.getOf ["jobs", id, "profile"])

/-- The state of a job. -/
def jobStatus (c : Client σ) (id : JobId) : Exchange σ (Option JobStatus) := do
  c.optional Codec.jobStatus (← c.getOf ["jobs", id])

/-- The counters of a job. -/
def jobCounters (c : Client σ) (id : JobId) : Exchange σ (Option Counters) := do
  c.optional Codec.counters (← c.getOf ["jobs", id, "counters"])

/-- Reports about the maps of a job. -/
def mapReports (c : Client σ) (id : JobId) : Exchange σ (List TaskReport) := do
  c.listed Codec.taskReport (← c.getOf ["jobs", id, "tasks", "map"])

/-- Reports about the reduces of a job. -/
def reduceReports (c : Client σ) (id : JobId) : Exchange σ (List TaskReport) := do
  c.listed Codec.taskReport (← c.getOf ["jobs", id, "tasks", "reduce"])

/-- The name of the file system of the cluster. -/
def fileSystemName (c : Client σ) : Exchange σ String := do
  c.required Codec.fileSystemAnswer (← c.getOf ["cluster", "filesystem"])

/-- The states of the jobs that have not ended. -/
def incompleteJobs (c : Client σ) : Exchange σ (List JobStatus) := do
  c.listed Codec.jobStatus (← c.getOf ["cluster", "jobs", "incomplete"])

/-- The states of all jobs. -/
def allJobs (c : Client σ) : Exchange σ (List JobStatus) := do
  c.listed Codec.jobStatus (← c.getOf ["cluster", "jobs", "all"])

/-- A page of the completion log of a job. -/
def completionEvents (c : Client σ) (id : JobId) (start max : UInt32) :
    Exchange σ (List CompletionEvent) := do
  let address := (← c.locate ["jobs", id, "events"]).withQuery
    [("from", decimal start.toNat), ("max", decimal max.toNat)]
  c.listed Codec.completionEvent (plain "GET" address)

/-- The diagnostics of an attempt. -/
def taskDiagnostics (c : Client σ) (id : JobId) (task : TaskId) (attempt : AttemptId) :
    Exchange σ (List String) := do
  c.listed Codec.text
    (← c.getOf ["jobs", id, "tasks", task, "attempts", attempt, "diagnostics"])

/-- What was counted of all trackers. -/
def trackers (c : Client σ) : Exchange σ (List TrackerMetrics) := do
  c.listed Codec.trackerMetrics (← c.getOf ["trackers"])

/-- Checks that the coordinator speaks this protocol in this version. -/
def handshake (c : Client σ) : Exchange σ Unit := do
  let info ← c.required Codec.protocolInfo (← c.getOf ["protocol"])
  if info.name ≠ protocolName ∨ info.version ≠ protocolVersion then
    throw (.versionMismatch protocolVersion info.version)

end JobCluster.Client
