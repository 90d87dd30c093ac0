import JobCluster.Wire.Codec
import JobCluster.Protocol.Message

/-!
# How messages are written

The codec of every message type: the names of its members, in order, and of the values of its
enumerations.
-/

namespace JobCluster.Wire

open JobCluster.Protocol JobCluster.Number

namespace Codec

/-- Names of job states. -/
def jobState : Codec JobState := enumeration {
  name := fun
    | .prep => "PREP"
    | .running => "RUNNING"
    | .succeeded => "SUCCEEDED"
    | .failed => "FAILED"
    | .killed => "KILLED"
  ofName? := fun
    | "PREP" => some .prep
    | "RUNNING" => some .running
    | "SUCCEEDED" => some .succeeded
    | "FAILED" => some .failed
    | "KILLED" => some .killed
    | _ => none }

/-- Names of priorities. -/
def jobPriority : Codec JobPriority := enumeration {
  name := fun
    | .veryHigh => "VERY_HIGH"
    | .high => "HIGH"
    | .normal => "NORMAL"
    | .low => "LOW"
    | .veryLow => "VERY_LOW"
  ofName? := fun
    | "VERY_HIGH" => some .veryHigh
    | "HIGH" => some .high
    | "NORMAL" => some .normal
    | "LOW" => some .low
    | "VERY_LOW" => some .veryLow
    | _ => none }

/-- Names of the coordinator's states. -/
def coordinatorState : Codec CoordinatorState := enumeration {
  name := fun
    | .initializing => "INITIALIZING"
    | .running => "RUNNING"
  ofName? := fun
    | "INITIALIZING" => some .initializing
    | "RUNNING" => some .running
    | _ => none }

/-- Names of the kinds of tasks. -/
def taskKind : Codec TaskKind := enumeration {
  name := fun
    | .map => "MAP"
    | .reduce => "REDUCE"
  ofName? := fun
    | "MAP" => some .map
    | "REDUCE" => some .reduce
    | _ => none }

/-- Names of task states. -/
def taskState : Codec TaskState := enumeration {
  name := fun
    | .pending => "PENDING"
    | .running => "RUNNING"
    | .complete => "COMPLETE"
    | .failed => "FAILED"
    | .killed => "KILLED"
  ofName? := fun
    | "PENDING" => some .pending
    | "RUNNING" => some .running
    | "COMPLETE" => some .complete
    | "FAILED" => some .failed
    | "KILLED" => some .killed
    | _ => none }

/-- Names of the ends of attempts. -/
def completionStatus : Codec CompletionStatus := enumeration {
  name := fun
    | .succeeded => "SUCCEEDED"
    | .failed => "FAILED"
    | .killed => "KILLED"
    | .obsolete => "OBSOLETE"
    | .tipFailed => "TIP_FAILED"
  ofName? := fun
    | "SUCCEEDED" => some .succeeded
    | "FAILED" => some .failed
    | "KILLED" => some .killed
    | "OBSOLETE" => some .obsolete
    | "TIP_FAILED" => some .tipFailed
    | _ => none }

/-- A job to submit; all but its name and user may be left out. -/
def jobDescriptor : Codec JobDescriptor := record
  (.field "name" text .required <| .field "user" text .required <|
   .field "input_paths" (list text) (.withDefault []) <|
   .field "num_reduces" word32 (.withDefault 0) <|
   .field "priority" jobPriority (.withDefault .normal) <|
   .field "split_size" (option word64) (.withDefault none) .done)
  (fun d => (d.name, d.user, d.inputPaths, d.numReduces, d.priority, d.splitSize, ()))
  (fun (name, user, inputPaths, numReduces, priority, splitSize, _) =>
    { name, user, inputPaths, numReduces, priority, splitSize })

/-- The state of a job. -/
def jobStatus : Codec JobStatus := record
  (.field "job_id" text .required <| .field "state" jobState .required <|
   .field "map_progress" (real single) .required <|
   .field "reduce_progress" (real single) .required <|
   .field "start_time" instant .required <|
   .field "finish_time" (option instant) .optional <|
   .field "priority" jobPriority .required <| .field "user" text .required <|
   .field "failed_tasks" word32 .required <| .field "killed_tasks" word32 .required .done)
  (fun s => (s.jobId, s.state, s.mapProgress, s.reduceProgress, s.startTime, s.finishTime,
    s.priority, s.user, s.failedTasks, s.killedTasks, ()))
  (fun (jobId, state, mapProgress, reduceProgress, startTime, finishTime, priority, user,
      failedTasks, killedTasks, _) =>
    { jobId, state, mapProgress, reduceProgress, startTime, finishTime, priority, user,
      failedTasks, killedTasks })

/-- The profile of a job. -/
def jobProfile : Codec JobProfile := record
  (.field "job_id" text .required <| .field "name" text .required <|
   .field "user" text .required <| .field "input_paths" (list text) .required <|
   .field "num_reduces" word32 .required <| .field "submitted_at" instant .required .done)
  (fun p => (p.jobId, p.name, p.user, p.inputPaths, p.numReduces, p.submittedAt, ()))
  (fun (jobId, name, user, inputPaths, numReduces, submittedAt, _) =>
    { jobId, name, user, inputPaths, numReduces, submittedAt })

/-- The cluster in figures. -/
def clusterStatus : Codec ClusterStatus := record
  (.field "task_trackers" word32 .required <| .field "dead_trackers" word32 .required <|
   .field "map_tasks" word32 .required <| .field "reduce_tasks" word32 .required <|
   .field "max_map_tasks" word32 .required <| .field "max_reduce_tasks" word32 .required <|
   .field "state" coordinatorState .required .done)
  (fun s => (s.taskTrackers, s.deadTrackers, s.mapTasks, s.reduceTasks, s.maxMapTasks,
    s.maxReduceTasks, s.state, ()))
  (fun (taskTrackers, deadTrackers, mapTasks, reduceTasks, maxMapTasks, maxReduceTasks, state, _) =>
    { taskTrackers, deadTrackers, mapTasks, reduceTasks, maxMapTasks, maxReduceTasks, state })

/-- A split. -/
def inputSplit : Codec InputSplit := record
  (.field "path" text .required <| .field "offset" word64 .required <|
   .field "length" word64 .required <| .field "hosts" (list text) .required .done)
  (fun s => (s.path, s.offset, s.length, s.hosts, ()))
  (fun (path, offset, length, hosts, _) => { path, offset, length, hosts })

/-- An assignment. -/
def taskAssignment : Codec TaskAssignment := record
  (.field "attempt_id" text .required <| .field "task_id" text .required <|
   .field "job_id" text .required <| .field "kind" taskKind .required <|
   .field "split" (option inputSplit) .optional .done)
  (fun a => (a.attemptId, a.taskId, a.jobId, a.kind, a.split, ()))
  (fun (attemptId, taskId, jobId, kind, split, _) => { attemptId, taskId, jobId, kind, split })

/-- A report about a task. -/
def taskReport : Codec TaskReport := record
  (.field "task_id" text .required <| .field "state" taskState .required <|
   .field "progress" (real single) .required <|
   .field "start_time" (option instant) .optional <|
   .field "finish_time" (option instant) .optional <|
   .field "split_hosts" (list text) .required <| .field "diagnostics" (list text) .required <|
   .field "counters" counters .required .done)
  (fun r => (r.taskId, r.state, r.progress, r.startTime, r.finishTime, r.splitHosts,
    r.diagnostics, r.counters, ()))
  (fun (taskId, state, progress, startTime, finishTime, splitHosts, diagnostics, counters, _) =>
    { taskId, state, progress, startTime, finishTime, splitHosts, diagnostics, counters })

/-- An entry of a completion log. -/
def completionEvent : Codec CompletionEvent := record
  (.field "event_id" word32 .required <| .field "attempt_id" text .required <|
   .field "task_index" word32 .required <| .field "is_map" bool .required <|
   .field "status" completionStatus .required <| .field "tracker_host" text .required <|
   .field "run_time_ms" word64 .required .done)
  (fun e => (e.eventId, e.attemptId, e.taskIndex, e.isMap, e.status, e.trackerHost,
    e.runTimeMs, ()))
  (fun (eventId, attemptId, taskIndex, isMap, status, trackerHost, runTimeMs, _) =>
    { eventId, attemptId, taskIndex, isMap, status, trackerHost, runTimeMs })

/-- The end of an attempt; counters and diagnostics may be left out. -/
def taskCompletion : Codec TaskCompletion := record
  (.field "attempt_id" text .required <| .field "success" bool .required <|
   .field "counters" counters (.withDefault Counters.empty) <|
   .field "diagnostics" (list text) (.withDefault []) .done)
  (fun c => (c.attemptId, c.success, c.counters, c.diagnostics, ()))
  (fun (attemptId, success, counters, diagnostics, _) =>
    { attemptId, success, counters, diagnostics })

/-- A tracker's registration. -/
def registration : Codec Registration := record
  (.field "hostname" text .required <| .field "map_slots" word32 .required <|
   .field "reduce_slots" word32 .required .done)
  (fun r => (r.hostname, r.mapSlots, r.reduceSlots, ()))
  (fun (hostname, mapSlots, reduceSlots, _) => { hostname, mapSlots, reduceSlots })

/-- A tracker's heartbeat. -/
def heartbeat : Codec Heartbeat := record
  (.field "tracker_id" text .required <| .field "cpu_percent" (real single) .required <|
   .field "mem_bytes" word64 .required .done)
  (fun h => (h.trackerId, h.cpuPercent, h.memBytes, ()))
  (fun (trackerId, cpuPercent, memBytes, _) => { trackerId, cpuPercent, memBytes })

/-- The answer to a heartbeat. -/
def heartbeatAnswer : Codec HeartbeatAnswer := record
  (.field "ok" bool .required <| .field "kill_attempts" (list text) .required .done)
  (fun h => (h.ok, h.killAttempts, ()))
  (fun (ok, killAttempts, _) => { ok, killAttempts })

/-- The figures of a tracker. -/
def trackerMetrics : Codec TrackerMetrics := record
  (.field "tracker_id" text .required <| .field "hostname" text .required <|
   .field "dead" bool .required <| .field "map_slots" word32 .required <|
   .field "reduce_slots" word32 .required <|
   .field "last_heartbeat_secs_ago" word64 .required <|
   .field "running_attempts" word32 .required <| .field "tasks_started" word64 .required <|
   .field "tasks_succeeded" word64 .required <| .field "tasks_failed" word64 .required <|
   .field "avg_task_ms" (option (real double)) .optional <|
   .field "cpu_percent" (option (real single)) .optional <|
   .field "mem_bytes" (option word64) .optional .done)
  (fun m => (m.trackerId, m.hostname, m.dead, m.mapSlots, m.reduceSlots, m.lastHeartbeatSecsAgo,
    m.runningAttempts, m.tasksStarted, m.tasksSucceeded, m.tasksFailed, m.avgTaskMs, m.cpuPercent,
    m.memBytes, ()))
  (fun (trackerId, hostname, dead, mapSlots, reduceSlots, lastHeartbeatSecsAgo, runningAttempts,
      tasksStarted, tasksSucceeded, tasksFailed, avgTaskMs, cpuPercent, memBytes, _) =>
    { trackerId, hostname, dead, mapSlots, reduceSlots, lastHeartbeatSecsAgo, runningAttempts,
      tasksStarted, tasksSucceeded, tasksFailed, avgTaskMs, cpuPercent, memBytes })

/-- A message with one member. -/
def only {α : Type} (name : String) (c : Codec α) (p : Presence α) : Codec α :=
  record (.field name c p .done) (fun a => (a, ())) (fun (a, _) => a)

/-- A job name on its own. -/
def jobIdAnswer : Codec JobId := only "job_id" text .required

/-- Whether an attempt to kill counts as failed. -/
def killRequest : Codec Bool := only "should_fail" bool .required

/-- Whether there was an attempt to kill. -/
def killAnswer : Codec Bool := only "killed" bool .required

/-- The name of a file system. -/
def fileSystemAnswer : Codec String := only "name" text .required

/-- A tracker name in an answer to a registration or in a request for work. -/
def trackerIdMessage : Codec TrackerId := only "tracker_id" text .required

/-- The answer to a request for work. -/
def assignmentAnswer : Codec (Option TaskAssignment) :=
  only "task" (option taskAssignment) .optional

/-- The answer to a report that an attempt ended. -/
def completionAnswer : Codec Bool := only "ok" bool .required

/-- The answer to a handshake. -/
def protocolInfo : Codec ProtocolInfo := record
  (.field "name" text .required <| .field "version" word64 .required .done)
  (fun i => (i.name, i.version, ()))
  (fun (name, version, _) => { name, version })

/-- A submission. -/
def submitRequest : Codec SubmitRequest := record
  (.field "job_id" text .required <| .field "descriptor" jobDescriptor .required .done)
  (fun r => (r.jobId, r.descriptor, ()))
  (fun (jobId, descriptor, _) => { jobId, descriptor })

/-- A page of a completion log. -/
def eventsQuery : Codec EventsQuery := record
  (.field "from" word32 (.withDefault 0) <|
   .field "max" word32 (.withDefault defaultMaxEvents) .done)
  (fun q => (q.start, q.max, ()))
  (fun (start, max, _) => { start, max })

/-- What an answer other than success carries. -/
def errorBody : Codec ErrorBody := record
  (.field "error" text .required <| .field "message" text .required <|
   .field "limit" (option word64) .onlyIfSome <|
   .field "client_version" (option word64) .onlyIfSome .done)
  (fun b => (b.error, b.message, b.limit, b.clientVersion, ()))
  (fun (error, message, limit, clientVersion, _) => { error, message, limit, clientVersion })

end Codec

end JobCluster.Wire
