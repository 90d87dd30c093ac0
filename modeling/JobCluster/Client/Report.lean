import JobCluster.Job.Basic
import JobCluster.Text.Column
import JobCluster.Text.Natural
import JobCluster.Time.Rfc3339
import JobCluster.Tracker.Basic

/-!
# Reports

How answers of the coordinator are printed, line by line.
-/

namespace JobCluster

/-- The name of a job state. -/
def JobState.title : JobState → String
  | .prep => "Prep"
  | .running => "Running"
  | .succeeded => "Succeeded"
  | .failed => "Failed"
  | .killed => "Killed"

/-- The name of a priority. -/
def JobPriority.title : JobPriority → String
  | .veryHigh => "VeryHigh"
  | .high => "High"
  | .normal => "Normal"
  | .low => "Low"
  | .veryLow => "VeryLow"

/-- The name of a task state. -/
def TaskState.title : TaskState → String
  | .pending => "Pending"
  | .running => "Running"
  | .complete => "Complete"
  | .failed => "Failed"
  | .killed => "Killed"

/-- The name of a completion status. -/
def CompletionStatus.title : CompletionStatus → String
  | .succeeded => "Succeeded"
  | .failed => "Failed"
  | .killed => "Killed"
  | .obsolete => "Obsolete"
  | .tipFailed => "TipFailed"

/-- The name of a coordinator state. -/
def CoordinatorState.title : CoordinatorState → String
  | .initializing => "Initializing"
  | .running => "Running"

end JobCluster

namespace JobCluster.Client

open JobCluster.Number JobCluster.Text JobCluster.Time

/-- A 32-bit word in decimal. -/
def word32Text (n : UInt32) : String := decimal n.toNat

/-- A 64-bit word in decimal. -/
def word64Text (n : UInt64) : String := decimal n.toNat

/-- A share as a whole number of hundredths: the product with 100 in the format of the share,
rounded to an integer, a tie going to the even one. -/
def percent (share : Binary single) : String := (share.mulBy (Binary.ofNat single 100)).toInteger

/-- The lines about a job. -/
def jobStatusLines (s : JobStatus) : List String :=
  ["  id: " ++ s.jobId,
    "  estado: " ++ s.state.title,
    "  progreso: map " ++ percent s.mapProgress ++ "% reduce " ++ percent s.reduceProgress ++ "%",
    "  prioridad: " ++ s.priority.title,
    "  tareas fallidas: " ++ word32Text s.failedTasks ++ "  matadas: " ++
      word32Text s.killedTasks] ++
    (s.finishTime.map fun t => "  terminó: " ++ plain t).toList

/-- The line about a job in a list. -/
def jobRow (s : JobStatus) : String :=
  "  ".intercalate [s.jobId, s.state.title, "map " ++ padLeft 3 (percent s.mapProgress) ++ "%",
    "reduce " ++ padLeft 3 (percent s.reduceProgress) ++ "%", s.user]

/-- The lines of a list of jobs. -/
def jobListLines (jobs : List JobStatus) : List String :=
  if jobs.isEmpty then ["No hay jobs"] else jobs.map jobRow

/-- The lines about what stays the same about a job. -/
def jobProfileLines (p : JobProfile) : List String :=
  ["Job " ++ p.jobId ++ ":",
    "  nombre: " ++ p.name,
    "  usuario: " ++ p.user,
    "  inputs: " ++ ", ".intercalate p.inputPaths,
    "  reduces: " ++ word32Text p.numReduces,
    "  enviado: " ++ plain p.submittedAt]

/-- The lines of counters: each group above its names. -/
def counterLines (c : Counters) : List String :=
  c.groups.entries.flatMap fun group =>
    group.1 :: group.2.entries.map fun entry =>
      "  " ++ padRight 28 entry.1 ++ " " ++ word64Text entry.2

/-- The lines about the cluster. -/
def clusterLines (s : ClusterStatus) : List String :=
  ["Cluster (" ++ s.state.title ++ "):",
    "  trackers: " ++ word32Text s.taskTrackers ++ " vivos, " ++ word32Text s.deadTrackers ++
      " muertos",
    "  maps: " ++ word32Text s.mapTasks ++ "/" ++ word32Text s.maxMapTasks,
    "  reduces: " ++ word32Text s.reduceTasks ++ "/" ++ word32Text s.maxReduceTasks]

/-- What every line about a completion event starts with. -/
def eventHead (e : CompletionEvent) : String :=
  "#" ++ word32Text e.eventId ++ " " ++ e.attemptId ++ " " ++ e.status.title

/-- The line about a completion event. -/
def eventLine (e : CompletionEvent) : String :=
  eventHead e ++ " en " ++ e.trackerHost ++ " (" ++ word64Text e.runTimeMs ++ " ms)"

/-- The lines about a task. -/
def taskLines (r : TaskReport) : List String :=
  (r.taskId ++ "  " ++ r.state.title ++ "  " ++ percent r.progress ++ "%  hosts=[" ++
    ",".intercalate r.splitHosts ++ "]") :: r.diagnostics.map ("    " ++ ·)

/-- The lines of diagnostics. -/
def diagnosticLines (diagnostics : List String) : List String :=
  if diagnostics.isEmpty then ["Sin diagnósticos"] else diagnostics

/-- The line about a tracker. -/
def trackerRow (t : TrackerMetrics) : String :=
  t.trackerId ++ " (" ++ t.hostname ++ ")" ++ (if t.dead then " [muerto]" else "") ++
    "  maps=" ++ word32Text t.mapSlots ++ " reduces=" ++ word32Text t.reduceSlots ++
    "  en curso=" ++ word32Text t.runningAttempts ++ "  ok=" ++ word64Text t.tasksSucceeded ++
    " fallidas=" ++ word64Text t.tasksFailed ++ "  hb hace " ++
    word64Text t.lastHeartbeatSecsAgo ++ "s"

/-- The lines of a list of trackers. -/
def trackerLines (ts : List TrackerMetrics) : List String :=
  if ts.isEmpty then ["No hay trackers registrados"] else ts.map trackerRow

/-- The line about a job that is not there. -/
def noJob (id : JobId) : String := "No se encontró el job con id " ++ id

/-- The line about a job that is asked to end. -/
def killLine (id : JobId) : String := "Pedido de kill enviado para " ++ id

/-- The line about an attempt that is asked to end. -/
def killTaskLine (id : AttemptId) (asFailure found : Bool) : String :=
  if found then
    "Intento " ++ id ++ " " ++ if asFailure then "marcado como fallido" else "matado"
  else "No se encontró el intento " ++ id

end JobCluster.Client
