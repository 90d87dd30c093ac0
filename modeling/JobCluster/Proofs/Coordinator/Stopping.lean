import JobCluster.Proofs.Coordinator.Assignment
import JobCluster.Proofs.Coordinator.Independence
import JobCluster.Proofs.Job.Stopping

/-!
# Jobs that end early in runs

A user kills a job, or the last attempt at one of its tasks fails; either way the job ends before
its tasks are done. `jobs_end_early` says what this comes to, in every reachable state: what becomes
of the job, which trackers are told of which attempts, that no other job changes, and that the job
is over (`IsOver`), whatever comes later.

What the two do to the job is `Job.Stops`; here it is put in its place among the other jobs, and the
attempts that were under way are told to their trackers.
-/

namespace JobCluster.Coordinator

open JobCluster.Time

/-- A job has another in its place in a later state, where all other jobs are as they were. -/
def Replaces (c c' : Coordinator) (j j' : Job) : Prop :=
  ∃ pre post, c.jobs = pre ++ j :: post ∧ c'.jobs = pre ++ j' :: post

/-- A job is over: no run hands out a task of it any more, and to kill it changes nothing. -/
def IsOver (s : System) (id : JobId) : Prop :=
  ∀ ops s', Run s ops s' →
    (∀ tracker now asg, (s'.coordinator.assign tracker now).1 = some asg → asg.jobId ≠ id) ∧
    ∀ clock, s'.coordinator.killJob id clock = s'.coordinator

/-- What the kill of a job comes to. The clock is read when its tasks are aborted, and again when
the job ends. -/
structure StopsByKill (s s' : System) (j : Job) (clock : Readings) (j' : Job) : Prop where
  replaces : Replaces s.coordinator s'.coordinator j j'
  stops : j.Stops .killed "job matado por el usuario" clock.first clock.second (fun _ _ => False)
    j.underWay j'
  records : j.RecordsKill clock.first j'
  told : ∀ k, s'.coordinator.pending k =
    s.coordinator.pending k ++ namesOn k (j.underWay.map Prod.snd)
  isOver : IsOver s' j.id

/-- An attempt runs at a task that has failed as often as it may but once. -/
structure AtLast (c : Coordinator) (j : Job) (kind : TaskKind) (index : Nat) (t : Task)
    (a : Attempt) : Prop where
  job : j ∈ c.jobs
  task : (j.tasks kind)[index]? = some t
  attempt : a ∈ t.attempts
  running : a.isRunning
  last : t.failures + 1 = maxFailures

/-- The ways in which an attempt fails, with what is noted of it, and what its tracker is told: the
tracker reports it, or a user asks for it. -/
inductive FailsBy (a : Attempt) : Operation → Readings → List String → List AttemptId → Prop where
  | report {r clock} :
    r.attemptId = a.id →
    r.success = false →
    FailsBy a (.complete r clock) clock r.diagnostics []
  | request {clock} :
    FailsBy a (.killAttempt a.id true clock) clock ["intento marcado como fallido por el usuario"]
      [a.id]

/-- What the failure of the last attempt at a task comes to. The attempt, its task and the job end
at the first reading of the clock, and what is aborted with them at the second. -/
structure StopsByFailure (s s' : System) (j : Job) (kind : TaskKind) (index : Nat) (t : Task)
    (a : Attempt) (clock : Readings) (notes : List String) (told : List AttemptId) (j' : Job) :
    Prop where
  replaces : Replaces s.coordinator s'.coordinator j j'
  stops : j.Stops .failed (Job.failureReason t) clock.second clock.first
    (fun k i => k = kind ∧ i = index) (j.underWayBut a.id) j'
  givesUp : ∃ t', (j'.tasks kind)[index]? = some t' ∧ t.GivesUp a notes clock.first t'
  records : j.RecordsFailure t a (j.underWayBut a.id) clock j'
  told : ∀ k, s'.coordinator.pending k = s.coordinator.pending k ++
    namesOn k ((j.underWayBut a.id).map Prod.snd) ++ if k = a.tracker then told else []
  isOver : IsOver s' j.id

section Ends

variable {c : Coordinator} {s : System} {j : Job} {kind : TaskKind} {index : Nat} {t : Task}
  {a : Attempt} {op : Operation} {clock : Readings} {notes : List String} {told : List AttemptId}
  {e : Effect} {k : TrackerId}

/-- An effect adds its kills to the lists of the registered trackers. -/
lemma pending_enact : (c.enact e).pending k =
    c.pending k ++ if (c.tracker? k).isSome then (e.due k).kills else [] := by
  have dealt : (c.enact e).tracker? k = (c.tracker? k).map (·.receive (e.due k)) :=
    tracker?_map fun k t => t.receive (e.due k)
  rw [pending, dealt, pending]
  cases c.tracker? k <;> rfl

/-- An effect replaces one job and leaves the others. -/
lemma replaces_enact (nodup : (c.jobs.map Job.id).Nodup) (mem : j ∈ c.jobs)
    (eid : e.job.id = j.id) : Replaces c (c.enact e) j e.job :=
  setJob_jobs nodup (job?_of_mem nodup mem) eid

/-- The job that replaced another is found under its name. -/
lemma job?_of_replaces {c' : Coordinator} {j' : Job} (re : Replaces c c' j j')
    (nodup : (c'.jobs.map Job.id).Nodup) : c'.job? j'.id = some j' := by
  obtain ⟨pre, post, -, cut⟩ := re
  exact job?_of_mem nodup (cut ▸ List.mem_append_right _ List.mem_cons_self)

/-- A job that has ended is over. -/
lemma Reachable.isOver (re : Reachable s) {id : JobId} (found : s.coordinator.job? id = some j)
    (terminal : j.isTerminal) : IsOver s id := by
  intro ops s' run
  have frozen := run.frozen re.lawful found terminal
  have re' := run.reachable re
  refine ⟨fun tracker now asg e here => ?_, fun clock => ?_⟩
  · -- what is handed out is of a job that runs, and this one has ended
    obtain ⟨w, pre, k, post, kind, index, t, hands⟩ := re'.hands e
    have mem : k ∈ s'.coordinator.jobs := by
      rw [hands.jobs]
      exact List.mem_append_right _ List.mem_cons_self
    have same : k.id = id := by rw [← here, hands.told]
    rw [← same, job?_of_mem re'.lawful.nodup mem] at frozen
    cases frozen
    rw [Job.live_of_running hands.eligible.1] at terminal
    cases terminal
  · rw [killJob, frozen]
    exact if_pos terminal

/-- The attempts of a job that are under way run. -/
lemma mem_live_of_underWay (mem : j ∈ c.jobs) {x : Attempt}
    (here : x ∈ j.underWay.map Prod.snd) : x ∈ c.liveAttempts := by
  rw [← Job.running_eq_map_underWay] at here
  exact List.mem_flatMap.2 ⟨j, mem, here⟩

/-- A job that has not ended is stopped when a user kills it. -/
lemma Reachable.stopsByKill (re : Reachable s) (mem : j ∈ s.coordinator.jobs)
    (live : j.isTerminal = false) (clock : Readings) :
    ∃ j', StopsByKill s (s.next (.killJob j.id clock)) j clock j' := by
  have found := job?_of_mem re.lawful.nodup mem
  have tasks := (re.lawful.jobs j mem).tasks
  have comes : (Operation.killJob j.id clock).effect? s.coordinator = some (.ofKilled j clock) := by
    simp [Operation.effect?, found, live]
  have eq : (s.next (.killJob j.id clock)).coordinator =
      s.coordinator.enact (.ofKilled j clock) := by
    rw [System.next, Operation.apply, killJob_eq_enact, comes]
    rfl
  have eid : (Effect.ofKilled j clock).job.id = j.id := (Job.agree_abort ..).id
  have replaces := replaces_enact (e := .ofKilled j clock) re.lawful.nodup mem eid
  have re' : Reachable (s.next (.killJob j.id clock)) := re.next trivial
  rw [← eq] at replaces
  have found' := job?_of_replaces replaces re'.lawful.nodup
  rw [eid] at found'
  refine ⟨_, replaces, Job.stops_abort tasks .killed _ clock.first clock.second,
    Job.recordsKill_abort tasks .killed _ clock.first clock.second, fun k => ?_,
    re'.isOver found' rfl⟩
  rw [eq, pending_enact, ← re.staffed.namesOn fun x => mem_live_of_underWay mem]
  -- the lists get the names in the order in which the attempts are stopped
  have names : ((Effect.ofKilled j clock).due k).kills = namesOn k (j.underWay.map Prod.snd) := by
    show namesOn k (j.abort _ clock.first).2 = _
    rw [Job.abort_snd tasks, namesOn_map_close, Job.running_eq_map_underWay]
  rw [names]

/-- The end of an attempt as it fails. -/
lemma FailsBy.ending (fails : FailsBy a op clock notes told) :
    ∃ en : Ending, (∀ c : Coordinator, op.apply c = c.enact? (en.effect? c)) ∧ en.id = a.id ∧
      en.outcome = .failed ∧ en.notes = notes ∧ en.clock = clock ∧ en.told = told := by
  cases fails with
  | @report r clock here failed =>
    refine ⟨.ofReport r clock, fun c => complete_eq_enact c r clock, here, ?_, rfl, rfl, rfl⟩
    rw [Ending.ofReport, failed]
    rfl
  | @request clock =>
    exact ⟨.ofKill a.id true clock, fun c => killAttempt_eq_enact c a.id true clock, rfl, rfl, rfl,
      rfl, rfl⟩

/-- What the failure of the last attempt at a task comes to, for the trackers too. -/
lemma AtLast.effect? (at' : AtLast c j kind index t a) (ex : Exact c) {en : Ending}
    (here : en.id = a.id) (failed : en.outcome = .failed) :
    en.effect? c = some (.ofClosed ⟨j.failedWith kind index t a en.counters en.notes en.clock,
      a.close .failed en.clock.first en.notes,
      (j.underWayBut a.id).map (·.2.close .killed en.clock.second [Job.failureReason t])⟩ .failed
      en.clock en.told) := by
  have known : c.ref? a.id = some ⟨j.id, kind, index⟩ :=
    (ex.indexed.index _ _).2 ⟨j, at'.job, rfl, t, at'.task, List.mem_map_of_mem at'.attempt⟩
  have closed := Job.close_of_last (ex.lawful j at'.job) at'.task at'.attempt at'.running at'.last
    en.counters en.notes en.clock
  simp only [Ending.effect?, Ending.effectIn?, here, failed, known, Option.bind_some,
    job?_of_mem ex.nodup at'.job, closed, Option.map_some]

/-- The names that trackers get when a job fails: those of the attempts that end with it, and last
what the tracker of the attempt is told of its own end. -/
lemma kills_ofClosed {j' : Job} {es : List (Task × Attempt)} {reason : String} {o : Outcome}
    (k : TrackerId) :
    ((Effect.ofClosed ⟨j', a.close o clock.first notes,
      es.map (·.2.close .killed clock.second [reason])⟩ o clock
      told).due k).kills =
      namesOn k (es.map Prod.snd) ++ if k = a.tracker then told else [] := by
  have tracker : (a.close o clock.first notes).tracker = a.tracker := rfl
  have closed : es.map (·.2.close .killed clock.second [reason]) =
      (es.map Prod.snd).map (·.close .killed clock.second [reason]) := by
    rw [List.map_map]
    rfl
  rw [closed, ← namesOn_map_close k (es.map Prod.snd) reason clock.second]
  by_cases here : k = a.tracker
  · simp [Effect.ofClosed, Due.plus, Due.only, Due.names, Due.ofEnd, tracker, here]
  · simp [Effect.ofClosed, Due.plus, Due.only, Due.names, Due.none, tracker, here]

/-- A job is stopped when the last attempt at one of its tasks fails. -/
lemma Reachable.stopsByFailure (re : Reachable s) (at' : AtLast s.coordinator j kind index t a)
    (permitted : s.Permits op) (fails : FailsBy a op clock notes told) :
    ∃ j', StopsByFailure s (s.next op) j kind index t a clock notes told j' := by
  obtain ⟨en, applied, here, failed, rfl, rfl, rfl⟩ := fails.ending
  obtain ⟨mem, pick, mema, run, last⟩ := at'
  have lw := re.lawful.jobs j mem
  have comes := AtLast.effect? ⟨mem, pick, mema, run, last⟩ re.exact here failed
  -- whatever brought the failure, it is one effect on the job
  generalize ee : Effect.ofClosed _ _ _ _ = e at comes
  have eq : (s.next op).coordinator = s.coordinator.enact e := by
    rw [System.next, applied, comes]
    rfl
  have ejob : e.job = j.failedWith kind index t a en.counters en.notes en.clock := by
    rw [← ee]
    rfl
  have eid : e.job.id = j.id := by
    rw [ejob]
    exact congrArg JobProfile.jobId
      (Job.stops_failedWith lw pick mema run last en.counters en.notes en.clock).profile
  have replaces := replaces_enact re.lawful.nodup mem eid
  rw [← eq] at replaces
  have re' : Reachable (s.next op) := re.next permitted
  have found' := job?_of_replaces replaces re'.lawful.nodup
  rw [eid] at found'
  rw [ejob] at replaces found'
  refine ⟨_, replaces, Job.stops_failedWith lw pick mema run last _ _ _,
    ⟨_, Job.getElem?_failedWith lw pick mema run last _ _ _, Task.givesUp_closed last a _ _ _⟩,
    Job.recordsFailure_failedWith lw pick mema run last _ _ _, fun k => ?_, re'.isOver found' rfl⟩
  have live : a ∈ s.coordinator.liveAttempts :=
    mem_liveAttempts.2 ⟨List.mem_flatMap.2 ⟨j, mem, List.mem_flatMap.2 ⟨t, Job.mem_of_pick pick,
      mema⟩⟩, run⟩
  rw [eq, pending_enact, ← ee, kills_ofClosed, List.append_assoc]
  congr 1
  by_cases known : (s.coordinator.tracker? k).isSome
  · rw [if_pos known]
  · -- nothing runs on a tracker that is not registered
    have none : _ = namesOn k ((j.underWayBut a.id).map Prod.snd) :=
      re.staffed.namesOn fun x here =>
        mem_live_of_underWay mem ((List.filter_sublist.map _).subset here)
    have other : k ≠ a.tracker := fun e => known (e ▸ isSome_of_alive? (re.staffed a live))
    rw [if_neg known] at none ⊢
    rw [← none, if_neg other]
    rfl

end Ends

/-- A job that a user kills before it has ended is stopped, and so is a job of which the last
attempt at a task fails. What was done stays; all that was open ends, is recorded and told to its
trackers, once each; other jobs do not change; and the job is over. -/
theorem jobs_end_early {s : System} (re : Reachable s) :
    (∀ id j clock, s.coordinator.job? id = some j → j.isTerminal = false →
      ∃ j', StopsByKill s (s.next (.killJob id clock)) j clock j') ∧
    ∀ op j kind index t a clock notes told, AtLast s.coordinator j kind index t a →
      FailsBy a op clock notes told →
      ∃ j', StopsByFailure s (s.next op) j kind index t a clock notes told j' := by
  refine ⟨fun id j clock found live => ?_, fun op j kind index t a clock notes told at' fails => ?_⟩
  · obtain ⟨mem, rfl⟩ := job?_mem found
    exact re.stopsByKill mem live clock
  · exact re.stopsByFailure at' (by cases fails <;> trivial) fails

/-- A job of two maps that run on one tracker. An attempt at the first map was made to fail twice,
and runs again. -/
def strainedSystem : System :=
  let clock := Instant.ofSeconds 0
  (System.start "202601020304").after [.newJobId clock,
    .submit oneMapJob ⟨"wc", "ana", ["/datos"], 0, .normal, none⟩ 1024 10 clock,
    .installTasks oneMapJob [⟨"/datos/a", 0, 10, []⟩, ⟨"/datos/b", 0, 10, []⟩],
    .register "t1" ⟨"h1", 2, 0⟩ clock,
    .assign "t1" clock,
    .assign "t1" clock,
    .killAttempt oneMapAttempt true (.still clock),
    .assign "t1" clock,
    .killAttempt "attempt_202601020304_0001_m_000000_1" true (.still clock),
    .assign "t1" clock]

/-- The sample system with a job under strain is reachable. -/
lemma strained_reachable : Reachable strainedSystem := ⟨_, _, .of_permitsAll (by decide +kernel)⟩

/-- The job fails with the third attempt at its first map, as it is killed when a user asks for
that. -/
theorem sample_jobs_end_early :
    (∃ j j', strainedSystem.coordinator.job? oneMapJob = some j ∧
      StopsByKill strainedSystem (strainedSystem.next (.killJob oneMapJob (.ofSeconds 1))) j
        (.ofSeconds 1) j') ∧
    ∃ j t a j', AtLast strainedSystem.coordinator j .map 0 t a ∧
      a.id = "attempt_202601020304_0001_m_000000_2" ∧
      StopsByFailure strainedSystem (strainedSystem.next (.complete ⟨a.id, false, .empty, []⟩
        (.ofSeconds 1))) j .map 0 t a (.ofSeconds 1) [] [] j' := by
  obtain ⟨j, mem, named, live, t, pick, a, mema, run, last, ea⟩ :
      ∃ j ∈ strainedSystem.coordinator.jobs, j.id = oneMapJob ∧ j.isTerminal = false ∧
        ∃ t ∈ j.maps[0]?, ∃ a ∈ t.attempts, a.isRunning ∧ t.failures + 1 = maxFailures ∧
          a.id = "attempt_202601020304_0001_m_000000_2" := by decide +kernel
  have found : strainedSystem.coordinator.job? oneMapJob = some j :=
    named ▸ job?_of_mem strained_reachable.lawful.nodup mem
  have at' : AtLast strainedSystem.coordinator j .map 0 t a := ⟨mem, pick, mema, run, last⟩
  obtain ⟨j', kill⟩ := (jobs_end_early strained_reachable).1 oneMapJob j (.ofSeconds 1) found live
  have fails : FailsBy a (.complete ⟨a.id, false, .empty, []⟩ (.ofSeconds 1)) (.ofSeconds 1) []
      [] := .report rfl rfl
  obtain ⟨k', failure⟩ := (jobs_end_early strained_reachable).2 _ j .map 0 t a _ _ _ at' fails
  exact ⟨⟨j, j', found, kill⟩, j, t, a, k', at', ea, failure⟩

end JobCluster.Coordinator
