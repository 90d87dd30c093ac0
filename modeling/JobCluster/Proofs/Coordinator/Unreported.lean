import JobCluster.Proofs.Coordinator.Run

/-!
# The coordinator without reported counters

The counters that a report carries are kept with the task, and the coordinator never looks at them.
To say so, `unreported` takes them away: from a task, a job, the whole state and an operation. What
any function of the coordinator does to the rest is what it does to the whole without them, so
`unreported` moves out of every function, and out of every operation (`Operation.apply_unreported`).
Whether an operation can come does not depend on what was taken away either
(`System.permits_unreported`).

The result is about two runs: operations that are those of a run but for the counters in reports can
come one after the other as well, and lead to a system that is the same but for these counters
(`Run.alike`).
-/

namespace JobCluster.Coordinator

open JobCluster.Time

/-! ## Tasks -/

namespace Task

/-- A task without the counters that were reported of it. -/
def unreported (t : Task) : Task := { t with counters := Counters.empty }

section

variable (t : Task)

lemma unreported_new (job : JobId) (kind : TaskKind) (index : UInt32) (split : Option InputSplit) :
    (Task.new job kind index split).unreported = Task.new job kind index split := rfl

@[simp] lemma isComplete_unreported : t.unreported.isComplete = t.isComplete := rfl

@[simp] lemma isPending_unreported : t.unreported.isPending = t.isPending := rfl

@[simp] lemma isOpen_unreported : t.unreported.isOpen = t.isOpen := rfl

@[simp] lemma hosts_unreported : t.unreported.hosts = t.hosts := rfl

@[simp] lemma running_unreported : t.unreported.running = t.running := rfl

@[simp] lemma attempt?_unreported (id : AttemptId) : t.unreported.attempt? id = t.attempt? id := rfl

@[simp] lemma aborted_unreported (reason : String) (now : Instant) :
    t.unreported.aborted reason now = t.aborted reason now := rfl

lemma launch_unreported (tracker : TrackerId) (host : String) (now : Instant) :
    t.unreported.launch tracker host now = (t.launch tracker host now).unreported := rfl

lemma replaceAttempt_unreported (a : Attempt) :
    t.unreported.replaceAttempt a = (t.replaceAttempt a).unreported := rfl

/-- What a task keeps of the end of an attempt does not depend on the counters reported with it, but
for these counters. -/
lemma settle_unreported (o : Outcome) (cs : Counters) (now : Instant) :
    t.unreported.settle o Counters.empty now = (t.settle o cs now).unreported := by
  cases o with
  | succeeded | killed => rfl
  | failed =>
    have failures : t.unreported.failures = t.failures := rfl
    simp only [settle, failures]
    split <;> rfl

/-- A task is stopped without what was reported on it. -/
lemma abort_unreported (reason : String) (now : Instant) :
    t.unreported.abort reason now = (t.abort reason now).unreported := by
  by_cases op : t.isOpen
  · rw [abort, abort, if_pos op, if_pos (t.isOpen_unreported.trans op)]
    rfl
  · rw [abort, abort, if_neg op, if_neg (t.isOpen_unreported ▸ op)]

end

end Task

/-! ## Jobs -/

namespace Job

/-- A job without the counters that were reported of its tasks. -/
def unreported (j : Job) : Job :=
  { j with
    maps := j.maps.map Task.unreported
    reduces := j.reduces.map Task.unreported }

/-- What an ended attempt leaves behind, without reported counters. -/
def Closed.unreported (cl : Closed) : Closed := { cl with job := cl.job.unreported }

section

variable (j : Job)

lemma unreported_new (id : JobId) (d : JobDescriptor) (now : Instant) :
    (Job.new id d now).unreported = Job.new id d now := rfl

@[simp] lemma id_unreported : j.unreported.id = j.id := rfl

@[simp] lemma state_unreported : j.unreported.state = j.state := rfl

@[simp] lemma hasTasks_unreported : j.unreported.hasTasks = j.hasTasks := rfl

@[simp] lemma isTerminal_unreported : j.unreported.isTerminal = j.isTerminal := rfl

@[simp] lemma tasks_unreported (kind : TaskKind) :
    j.unreported.tasks kind = (j.tasks kind).map Task.unreported := by
  cases kind <;> rfl

@[simp] lemma allTasks_unreported : j.unreported.allTasks = j.allTasks.map Task.unreported :=
  List.map_append.symm

@[simp] lemma mapsDone_unreported : j.unreported.mapsDone = j.mapsDone := by
  simp [mapsDone, unreported, List.all_map, Function.comp_def]

@[simp] lemma allDone_unreported : j.unreported.allDone = j.allDone := by
  simp [allDone, unreported, mapsDone, List.all_map, Function.comp_def]

/-- The status shows no reported counters. -/
lemma status_unreported : j.unreported.status = j.status := by
  have progress (kind : TaskKind) : j.unreported.progress kind = j.progress kind := by
    simp only [progress, tasks_unreported, state_unreported]
    cases j.tasks kind with
    | nil => rfl
    | cons t ts =>
      simp only [List.map_cons, List.countP_cons, List.countP_map, List.length_cons,
        List.length_map, Function.comp_def, Task.isComplete_unreported]
      rfl
  simp only [status, progress]
  rfl

lemma pickMap_unreported (host : String) : j.unreported.pickMap host = j.pickMap host := by
  simp only [pickMap, unreported, List.findIdx?_map, Function.comp_def,
    Task.isPending_unreported, Task.hosts_unreported]

lemma pickReduce_unreported : j.unreported.pickReduce = j.pickReduce := by
  simp only [pickReduce, mapsDone_unreported]
  simp only [unreported, List.findIdx?_map, Function.comp_def, Task.isPending_unreported]

lemma finish_unreported (s : JobState) (now : Instant) :
    j.unreported.finish s now = (j.finish s now).unreported := rfl

lemma count_unreported (name : String) : j.unreported.count name = (j.count name).unreported := rfl

lemma setTask_unreported (kind : TaskKind) (index : Nat) (t : Task) :
    j.unreported.setTask kind index t.unreported = (j.setTask kind index t).unreported := by
  cases kind with
  | map | reduce => simp [setTask, unreported, List.map_set]

lemma record_unreported (t : Task) (a : Attempt) (o : Outcome) (now : Instant) :
    j.unreported.record t.unreported a o now = (j.record t a o now).unreported := by
  cases o <;> rfl

/-- The tasks are made without what was reported. -/
lemma install_unreported (splits : List InputSplit) :
    j.unreported.install splits = (j.install splits).unreported := by
  have maps : (j.install splits).maps.map Task.unreported = (j.install splits).maps := by
    refine List.ext_getElem? fun i => ?_
    simp [install, Function.comp_def, Task.unreported_new]
  have reduces : (j.install splits).reduces.map Task.unreported = (j.install splits).reduces := by
    simp [install, Function.comp_def, Task.unreported_new]
  refine Eq.symm ?_
  rw [unreported, maps, reduces]
  rfl

/-- The records of killed attempts do not depend on the counters of their tasks. -/
lemma foldl_recordKilled_unreported (ended : List (Task × Attempt)) (now : Instant) :
    (ended.map fun e => (e.1.unreported, e.2)).foldl (fun j e => j.recordKilled e.1 e.2 now)
        j.unreported =
      (ended.foldl (fun j e => j.recordKilled e.1 e.2 now) j).unreported := by
  induction ended generalizing j with
  | nil => rfl
  | cons e ended ih =>
    rw [List.map_cons, List.foldl_cons, List.foldl_cons, ← ih]
    rfl

/-- A job is stopped without what was reported. -/
lemma abort_unreported (reason : String) (now : Instant) :
    j.unreported.abort reason now =
      ((j.abort reason now).1.unreported, (j.abort reason now).2) := by
  simp only [abort, ← foldl_recordKilled_unreported, allTasks_unreported, List.flatMap_map,
    Task.aborted_unreported, List.map_flatMap, List.map_map, Function.comp_def]
  simp only [unreported, List.map_map, Function.comp_def, Task.abort_unreported]

/-- What an end means for the job does not depend on reports. -/
lemma conclude_unreported (t : Task) (clock : Readings) :
    j.unreported.conclude t.unreported clock =
      ((j.conclude t clock).1.unreported, (j.conclude t clock).2) := by
  have state : t.unreported.state = t.state := rfl
  have reason : failureReason t.unreported = failureReason t := rfl
  simp only [conclude, state, reason, abort_unreported, allDone_unreported]
  split
  · rfl
  · split <;> rfl

/-- The end of an attempt does to a job what it does to it without reported counters. -/
lemma close_unreported (kind : TaskKind) (index : Nat) (id : AttemptId) (o : Outcome)
    (cs : Counters) (notes : List String) (clock : Readings) :
    j.unreported.close kind index id o Counters.empty notes clock =
      (j.close kind index id o cs notes clock).map Closed.unreported := by
  simp only [close, tasks_unreported, List.getElem?_map]
  cases (j.tasks kind)[index]? with
  | none => rfl
  | some t =>
    simp only [Option.map_some, Option.bind_eq_bind, Option.bind_some, Task.attempt?_unreported]
    cases t.attempt? id with
    | none => rfl
    | some a =>
      simp only [Option.bind_some]
      split
      · rfl
      · simp only [Task.replaceAttempt_unreported, Task.settle_unreported _ _ cs,
          setTask_unreported, record_unreported, conclude_unreported]
        rfl

/-- A job launches the same without what was reported. -/
lemma launch_unreported (kind : TaskKind) (index : Nat) (isLocal : Option Bool)
    (tracker : TrackerId) (host : String) (now : Instant) :
    j.unreported.launch kind index isLocal tracker host now =
      (j.launch kind index isLocal tracker host now).map fun l => (l.1.unreported, l.2) := by
  simp only [launch, tasks_unreported, List.getElem?_map]
  cases (j.tasks kind)[index]? with
  | none => rfl
  | some t =>
    simp only [Option.map_some, Option.bind_eq_bind, Option.bind_some, Task.launch_unreported,
      setTask_unreported, count_unreported]
    cases isLocal <;> rfl

end

end Job

/-! ## The state of the coordinator -/

/-- The state without the counters that were reported. -/
def unreported (c : Coordinator) : Coordinator := { c with jobs := c.jobs.map Job.unreported }

section

variable (c : Coordinator)

@[simp] lemma tracker?_unreported (id : TrackerId) : c.unreported.tracker? id = c.tracker? id := rfl

@[simp] lemma ref?_unreported (id : AttemptId) : c.unreported.ref? id = c.ref? id := rfl

@[simp] lemma isReserved_unreported (id : JobId) :
    c.unreported.isReserved id = c.isReserved id := rfl

@[simp] lemma overdueTrackers_unreported (now : Instant) (timeout : Duration) :
    c.unreported.overdueTrackers now timeout = c.overdueTrackers now timeout := rfl

@[simp] lemma job?_unreported (id : JobId) :
    c.unreported.job? id = (c.job? id).map Job.unreported := by
  simp only [job?, unreported, List.find?_map, Function.comp_def, Job.id_unreported]

lemma setJob_unreported (j : Job) : c.unreported.setJob j.unreported = (c.setJob j).unreported := by
  simp only [setJob, unreported, List.map_map, Function.comp_def, Job.id_unreported, apply_ite]
  rfl

lemma changeTracker_unreported (id : TrackerId) (f : Tracker → Tracker) :
    c.unreported.changeTracker id f = (c.changeTracker id f).unreported := rfl

/-- Names are told without what is reported. -/
lemma notifyKills_unreported (ended : List Attempt) :
    c.unreported.notifyKills ended = (c.notifyKills ended).unreported := by
  unfold notifyKills
  induction ended generalizing c with
  | nil => rfl
  | cons a ended ih => rw [List.foldl_cons, List.foldl_cons, changeTracker_unreported, ih]

lemma running_unreported : c.unreported.running = c.running.map fun e => (e.1.unreported, e.2) := by
  simp only [running, unreported, List.flatMap_map, List.map_flatMap, Job.allTasks_unreported,
    Task.running_unreported, List.map_map, Function.comp_def]

@[simp] lemma runningOn_unreported (tracker : TrackerId) (kind : TaskKind) :
    c.unreported.runningOn tracker kind = c.runningOn tracker kind := by
  rw [runningOn, running_unreported, List.countP_map, runningOn]
  rfl

@[simp] lemma incompleteCount_unreported : c.unreported.incompleteCount = c.incompleteCount := by
  simp only [incompleteCount, unreported, List.countP_map, Function.comp_def,
    Job.isTerminal_unreported]

/-! ### Work for trackers -/

lemma candidates_unreported : c.unreported.candidates = c.candidates.map Job.unreported := by
  simp only [candidates, unreported, List.filter_map, Function.comp_def, Job.state_unreported,
    Job.hasTasks_unreported]
  exact (List.map_mergeSort (f := Job.unreported) fun _ _ _ _ => rfl).symm

lemma chooseTask_unreported (j : Job) (host : String) (mapSlot reduceSlot : Bool) :
    chooseTask j.unreported host mapSlot reduceSlot = chooseTask j host mapSlot reduceSlot := by
  simp only [chooseTask, Job.pickMap_unreported, Job.pickReduce_unreported, Job.id_unreported]

lemma choose_unreported (id : TrackerId) : c.unreported.choose id = c.choose id := by
  simp only [choose, tracker?_unreported, runningOn_unreported, candidates_unreported,
    List.findSome?_map, Function.comp_def, chooseTask_unreported]

/-- The same attempt is launched without what was reported. -/
lemma launch_unreported (id : TrackerId) (ch : Choice) (now : Instant) :
    c.unreported.launch id ch now = (c.launch id ch now).map fun l => (l.1, l.2.unreported) := by
  simp only [launch, tracker?_unreported, job?_unreported]
  cases c.job? ch.job with
  | none => rfl
  | some j =>
    simp only [Option.map_some, Option.bind_eq_bind, Option.bind_some, Job.launch_unreported]
    cases j.launch ch.kind ch.index ch.isLocal id
        (((c.tracker? id).map Tracker.hostname).getD "") now with
    | none => rfl
    | some l =>
      simp only [Option.map_some, Option.bind_some, setJob_unreported]
      rfl

/-- The same assignment is handed out without what was reported. -/
lemma assign_unreported (id : TrackerId) (now : Instant) :
    c.unreported.assign id now = ((c.assign id now).1, (c.assign id now).2.unreported) := by
  simp only [assign, choose_unreported]
  cases c.choose id with
  | none => rfl
  | some ch =>
    simp only [Option.bind_some, launch_unreported]
    cases c.launch id ch now <;> rfl

lemma heartbeat_unreported (h : Heartbeat) (now : Instant) :
    c.unreported.heartbeat h now = (c.heartbeat h now).map fun l => (l.1, l.2.unreported) := by
  simp only [heartbeat, tracker?_unreported, Option.map_map]
  rfl

/-! ### Ends -/

/-- The end of an attempt does to the state what it does to it without reported counters. -/
lemma finishAttempt_unreported (ref : AttemptRef) (id : AttemptId) (o : Outcome) (cs : Counters)
    (notes : List String) (clock : Readings) :
    c.unreported.finishAttempt ref id o Counters.empty notes clock =
      (c.finishAttempt ref id o cs notes clock).map fun l => (l.1, l.2.unreported) := by
  simp only [finishAttempt, job?_unreported]
  cases c.job? ref.job with
  | none => rfl
  | some j =>
    simp only [Option.map_some, Option.bind_eq_bind, Option.bind_some,
      Job.close_unreported j _ _ _ _ cs]
    cases j.close ref.kind ref.index id o cs notes clock with
    | none => rfl
    | some cl =>
      simp only [Option.map_some, Option.bind_some, Job.Closed.unreported, setJob_unreported,
        changeTracker_unreported, notifyKills_unreported]
      rfl

/-- A report closes the same attempt, whatever its counters. -/
lemma complete_unreported (r : TaskCompletion) (clock : Readings) :
    c.unreported.complete { r with counters := Counters.empty } clock =
      ((c.complete r clock).1, (c.complete r clock).2.unreported) := by
  simp only [complete, ref?_unreported]
  cases c.ref? r.attemptId with
  | none => rfl
  | some ref =>
    simp only [finishAttempt_unreported c _ _ _ r.counters]
    cases c.finishAttempt ref r.attemptId (if r.success then .succeeded else .failed) r.counters
      r.diagnostics clock <;> rfl

/-- A kill of an attempt does the same without what was reported. -/
lemma killAttempt_unreported (id : AttemptId) (shouldFail : Bool) (clock : Readings) :
    c.unreported.killAttempt id shouldFail clock =
      ((c.killAttempt id shouldFail clock).1,
        (c.killAttempt id shouldFail clock).2.unreported) := by
  simp only [killAttempt, ref?_unreported]
  cases c.ref? id with
  | none => rfl
  | some ref =>
    simp only [finishAttempt_unreported c _ _ _ Counters.empty]
    cases c.finishAttempt ref id (if shouldFail then .failed else .killed) Counters.empty
      [killNote shouldFail] clock <;> rfl

/-- A kill of a job does the same without what was reported. -/
lemma killJob_unreported (id : JobId) (clock : Readings) :
    c.unreported.killJob id clock = (c.killJob id clock).unreported := by
  simp only [killJob, job?_unreported]
  cases c.job? id with
  | none => rfl
  | some j =>
    simp only [Option.map_some, Job.isTerminal_unreported, Job.abort_unreported]
    split
    · rfl
    · rw [← notifyKills_unreported, ← setJob_unreported]
      rfl

lemma markDead_unreported (ids : List TrackerId) :
    c.unreported.markDead ids = (c.markDead ids).unreported := rfl

/-- An attempt is found by its reference without reports. -/
lemma attemptOf?_unreported (id : AttemptId) (ref : AttemptRef) :
    c.unreported.attemptOf? id ref = c.attemptOf? id ref := by
  simp only [attemptOf?, job?_unreported]
  cases c.job? ref.job with
  | none => rfl
  | some j =>
    simp only [Option.map_some, Option.bind_eq_bind, Option.bind_some, Job.tasks_unreported,
      List.getElem?_map]
    cases (j.tasks ref.kind)[ref.index]? <;> rfl

lemma lostAttempts_unreported (ids : List TrackerId) :
    c.unreported.lostAttempts ids = c.lostAttempts ids := by
  simp only [lostAttempts, attemptOf?_unreported]
  rfl

/-- Losing attempts does the same without what was reported. -/
lemma loseAttempts_unreported (lost : List (AttemptId × AttemptRef))
    (clock : AttemptId → Instant) :
    c.unreported.loseAttempts lost clock = (c.loseAttempts lost clock).unreported := by
  have one (c : Coordinator) (id : AttemptId) (ref : AttemptRef) :
      c.unreported.loseAttempt id ref (clock id) =
        (c.loseAttempt id ref (clock id)).unreported := by
    simp only [loseAttempt, finishAttempt_unreported c _ _ _ Counters.empty]
    cases c.finishAttempt ref id .killed Counters.empty ["tracker perdido"] (.still (clock id)) <;>
      rfl
  unfold loseAttempts
  induction lost generalizing c with
  | nil => rfl
  | cons e lost ih => rw [List.foldl_cons, List.foldl_cons, one, ih]

/-- The same jobs are finished without what was reported. -/
lemma finishIdle_unreported (now : Instant) :
    c.unreported.finishIdle now = ((c.finishIdle now).1, (c.finishIdle now).2.unreported) := by
  simp only [finishIdle, unreported, List.filter_map, List.map_map, Function.comp_def,
    Job.state_unreported, Job.allDone_unreported, Job.finish_unreported, apply_ite]
  rfl

/-! ### Submissions -/

/-- A job is accepted or refused without what was reported. -/
lemma submit_unreported (id : JobId) (d : JobDescriptor) (size maxJobs : UInt64) (now : Instant) :
    c.unreported.submit id d size maxJobs now =
      ((c.submit id d size maxJobs now).1, (c.submit id d size maxJobs now).2.unreported) := by
  simp only [submit, job?_unreported, isReserved_unreported, incompleteCount_unreported]
  cases c.job? id with
  | some j =>
    simp only [Option.map_some, Job.status_unreported]
  | none =>
    simp only [Option.map_none]
    split
    · rfl
    · split
      · rfl
      · split
        · rfl
        · simp only [unreported, List.map_append, List.map_singleton, Job.unreported_new]

/-- Tasks are installed without what was reported. -/
lemma installTasks_unreported (id : JobId) (splits : List InputSplit) :
    c.unreported.installTasks id splits =
      ((c.installTasks id splits).1, (c.installTasks id splits).2.unreported) := by
  simp only [installTasks, job?_unreported]
  cases c.job? id with
  | none => rfl
  | some j =>
    simp only [Option.map_some, Job.state_unreported, Job.install_unreported, setJob_unreported]
    split <;> rfl

/-- A job fails to start without what was reported. -/
lemma failInit_unreported (id : JobId) (now : Instant) :
    c.unreported.failInit id now = (c.failInit id now).unreported := by
  simp only [failInit, job?_unreported]
  cases c.job? id with
  | none => rfl
  | some j =>
    simp only [Option.map_some, Job.isTerminal_unreported, Job.finish_unreported,
      setJob_unreported]
    split <;> rfl

end

/-! ## Operations and runs -/

/-- An operation without the counters that it reports. -/
def Operation.unreported : Operation → Operation
  | .complete r clock => .complete { r with counters := Counters.empty } clock
  | op => op

/-- What an operation does to the state does not depend on reported counters, but for these
counters. -/
theorem Operation.apply_unreported (op : Operation) (c : Coordinator) :
    op.unreported.apply c.unreported = (op.apply c).unreported := by
  cases op with
  | markRunning | newJobId | expireReservations | register => rfl
  | submit id d size maxJobs now => exact congrArg Prod.snd (submit_unreported ..)
  | installTasks id splits => exact congrArg Prod.snd (installTasks_unreported ..)
  | failInit id now => exact failInit_unreported ..
  | killJob id now => exact killJob_unreported ..
  | killAttempt id shouldFail now => exact congrArg Prod.snd (killAttempt_unreported ..)
  | heartbeat h now =>
    simp only [unreported, apply, heartbeat_unreported]
    cases c.heartbeat h now <;> rfl
  | assign id now => exact congrArg Prod.snd (assign_unreported ..)
  | complete r now => exact congrArg Prod.snd (complete_unreported ..)
  | sweep now timeout lost clock =>
    simp only [unreported, apply, overdueTrackers_unreported, markDead_unreported,
      loseAttempts_unreported]
  | finishIdle now => exact congrArg Prod.snd (finishIdle_unreported ..)

namespace System

/-- A system without the counters that were reported. -/
def unreported (s : System) : System := ⟨s.coordinator.unreported, s.preparing⟩

variable (s : System)

/-- Every operation does the same without what was reported, apart from that. -/
lemma next_unreported (op : Operation) :
    s.unreported.next op.unreported = (s.next op).unreported := by
  have preparing : s.unreported.preparingAfter op.unreported = s.preparingAfter op := by
    cases op with
    | submit id d size maxJobs now =>
      simp only [preparingAfter, Operation.unreported, unreported, submit_unreported]
    | markRunning | newJobId | expireReservations | installTasks | failInit | killJob | killAttempt
    | register | heartbeat | assign | complete | sweep | finishIdle => rfl
  rw [next, preparing, unreported, op.apply_unreported]
  rfl

/-- Whether an operation can come does not depend on reported counters. -/
lemma permits_unreported (op : Operation) :
    s.unreported.Permits op.unreported ↔ s.Permits op := by
  cases op with
  | sweep now timeout lost clock =>
    simp only [Operation.unreported, Permits, unreported, overdueTrackers_unreported,
      markDead_unreported, lostAttempts_unreported]
  | markRunning | newJobId | expireReservations | submit | installTasks | failInit | killJob
  | killAttempt | register | heartbeat | assign | complete | finishIdle => exact .rfl

end System

/-- Operations that are those of a run but for reported counters are those of a run, and lead to the
same but for these counters. -/
theorem Run.alike {s s' : System} {ops ops' : List Operation} (run : Run s ops s')
    (same : ops'.map Operation.unreported = ops.map Operation.unreported) :
    ∃ s'', Run s ops' s'' ∧ s''.unreported = s'.unreported := by
  induction run generalizing ops' with
  | nil =>
    rw [List.map_nil, List.map_eq_nil_iff] at same
    exact ⟨s, same ▸ .nil, rfl⟩
  | @snoc ops s' op run ok ih =>
    rw [List.map_append] at same
    obtain ⟨before, last, rfl, eb, el⟩ := List.map_eq_append_iff.1 same
    obtain ⟨op', rfl, eop⟩ := List.map_eq_singleton_iff.1 el
    obtain ⟨s'', run', es⟩ := ih eb
    refine ⟨s''.next op', run'.snoc ?_, ?_⟩
    · rw [← s''.permits_unreported, es, eop, s'.permits_unreported]
      exact ok
    · rw [← s''.next_unreported, es, eop, s'.next_unreported]

end JobCluster.Coordinator
