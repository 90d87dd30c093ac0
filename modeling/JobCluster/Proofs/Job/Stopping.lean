import JobCluster.Proofs.Job.Killing

/-!
# Jobs that end early

A job ends before its tasks are done when a user kills it, or when one of its tasks has used up its
attempts. Both end all that is still open in the job: `Job.Stops` says what becomes of the job, with
the attempts that are killed with it, and `Task.Stops` what becomes of each task. The task that has
used up its attempts is not among these tasks; it is `Task.GivesUp` for it.

`stops_abort` shows this of the job as it is when the abort begins; for a job that fails, this is
after the end of the last attempt was recorded (`stops_failedWith`). The clock is read twice: an
abort has a reading of its own, and the job does not end with it.
-/

namespace JobCluster.Coordinator

open JobCluster.Number JobCluster.Text JobCluster.Time

/-- What becomes of a task when its job ends early. A task that is done stays as it is; one that is
open is killed, and so are its attempts that run. -/
structure Task.Stops (t : Task) (reason : String) (now : Instant) (t' : Task) : Prop where
  shut : t.state ≠ .pending → t.state ≠ .running → t' = t
  state : t.state = .pending ∨ t.state = .running → t'.state = .killed
  finish : t.state = .pending ∨ t.state = .running → t'.finishTime = some now
  attempts : t'.attempts = t.attempts.map fun a =>
    if a.state = .running then
      { a with
        state := .killed
        finishedAt := some now
        diagnostics := a.diagnostics ++ [reason] }
    else a
  others : { t' with state := t.state, attempts := t.attempts, finishTime := t.finishTime } = t

/-- What becomes of a task when an attempt fails that was its last. -/
structure Task.GivesUp (t : Task) (a : Attempt) (notes : List String) (now : Instant) (t' : Task) :
    Prop where
  state : t'.state = .failed
  finish : t'.finishTime = some now
  failures : t'.failures = t.failures + 1
  attempts : t'.attempts = t.attempts.map fun b =>
    if b.id = a.id then
      { a with
        state := .failed
        finishedAt := some now
        diagnostics := a.diagnostics ++ notes }
    else b
  others : { t' with
    state := t.state
    attempts := t.attempts
    failures := t.failures
    finishTime := t.finishTime } = t

/-- What becomes of a job that ends early, but for its log and its failures. The attempts that were
under way are killed and recorded so, and the tasks that are not spared stop, all at one moment; the
job itself has ended at another reading of the clock. -/
structure Job.Stops (j : Job) (state : JobState) (reason : String) (now ended : Instant)
    (spared : TaskKind → Nat → Prop) (killed : List (Task × Attempt)) (j' : Job) : Prop where
  state : j'.state = state
  finish : j'.finishTime = some ended
  length : ∀ kind, (j'.tasks kind).length = (j.tasks kind).length
  tasks : ∀ kind i t, (j.tasks kind)[i]? = some t → ¬spared kind i →
    ∃ t', (j'.tasks kind)[i]? = some t' ∧ t.Stops reason now t'
  total : j'.killedTasks = j.killedTasks + killed.length
  counted : ∀ kind, (j'.counters.value Counters.jobGroup (killedName kind)).toNat =
    min maxWord64 ((j.counters.value Counters.jobGroup (killedName kind)).toNat +
      killed.countP (·.1.kind == kind))
  uncounted : ∀ g n, (∀ kind, ¬(g = Counters.jobGroup ∧ (n = killedName kind ∨
    n = failedName kind))) → j'.counters.value g n = j.counters.value g n
  profile : j'.profile = j.profile
  priority : j'.priority = j.priority
  hasTasks : j'.hasTasks = j.hasTasks

/-- The log and the failures of a job that is killed. -/
structure Job.RecordsKill (j : Job) (now : Instant) (j' : Job) : Prop where
  events : j'.events = j.events ++ killEvents (fun _ => now) j.events.length j.underWay
  total : j'.failedTasks = j.failedTasks
  counted : ∀ kind, j'.counters.value Counters.jobGroup (failedName kind) =
    j.counters.value Counters.jobGroup (failedName kind)

/-- The log and the failures of a job that fails with an attempt at one of its tasks, and the
attempts that are killed with it. These end at the second reading of the clock. -/
structure Job.RecordsFailure (j : Job) (t : Task) (a : Attempt) (killed : List (Task × Attempt))
    (clock : Readings) (j' : Job) : Prop where
  events : j'.events = j.events ++ endEvent .tipFailed clock.first j.events.length (t, a) ::
    killEvents (fun _ => clock.second) (j.events.length + 1) killed
  total : j'.failedTasks = j.failedTasks + 1
  counted : ∀ kind, (j'.counters.value Counters.jobGroup (failedName kind)).toNat =
    min maxWord64 ((j.counters.value Counters.jobGroup (failedName kind)).toNat +
      if kind = t.kind then 1 else 0)

namespace Task

/-- A task is stopped as it is specified. -/
lemma Lawful.stops_abort {t : Task} (lw : t.Lawful) (reason : String) (now : Instant) :
    t.Stops reason now (t.abort reason now) := by
  by_cases op : t.isOpen
  · have eq : t.abort reason now = { t with
        attempts := t.attempts.map fun a =>
          if a.isRunning then a.close .killed now [reason] else a
        state := .killed
        finishTime := some now } := if_pos op
    rw [eq]
    refine ⟨fun notPending notRunning => ?_, fun _ => rfl, fun _ => rfl, ?_, rfl⟩
    · rcases isOpen_iff.1 op with pending | running
      · exact absurd pending notPending
      · exact absurd running notRunning
    · refine List.map_congr_left fun a _ => ?_
      simp only [Attempt.isRunning, beq_iff_eq]
      rfl
  · have shut := fun here => op (isOpen_iff.2 here)
    rw [abort_of_not_isOpen now reason (by simpa using op)]
    refine ⟨fun _ _ => rfl, fun here => absurd here shut, fun here => absurd here shut, ?_, rfl⟩
    -- a task that is not open has no attempt that runs
    have quiet := List.filter_eq_nil_iff.1 (lw.running_eq_nil fun run => shut (.inr run))
    conv => lhs; rw [← List.map_id t.attempts]
    refine List.map_congr_left fun a mem => ?_
    rw [if_neg fun run => quiet a mem (beq_iff_eq.2 run)]
    rfl

/-- The last failure that a task may have ends it. -/
lemma closed_of_last {t : Task} (last : t.failures + 1 = maxFailures) (a : Attempt) (cs : Counters)
    (notes : List String) (now : Instant) :
    t.closed a .failed cs notes now = { t.replaceAttempt (a.close .failed now notes) with
      state := .failed
      finishTime := some now
      failures := t.failures + 1 } :=
  if_pos (Nat.le_of_eq last.symm)

/-- The last failure that a task is allowed gives it up. -/
lemma givesUp_closed {t : Task} (last : t.failures + 1 = maxFailures) (a : Attempt) (cs : Counters)
    (notes : List String) (now : Instant) :
    t.GivesUp a notes now (t.closed a .failed cs notes now) := by
  rw [closed_of_last last]
  exact ⟨rfl, rfl, rfl, rfl, rfl⟩

end Task

namespace Job

variable {j : Job} {state : JobState} {reason : String}

/-- No counter of kills is one of failures. -/
lemma killedName_ne_failedName (kind kind' : TaskKind) : killedName kind ≠ failedName kind' := by
  cases kind <;> cases kind' <;> decide

/-- All that is open in a job stops with it. -/
lemma stops_abort (tasks : ∀ t ∈ j.allTasks, t.Lawful) (state : JobState) (reason : String)
    (now ended : Instant) : j.Stops state reason now ended (fun _ _ => False) j.underWay
      ((j.abort reason now).1.finish state ended) := by
  have kinds (kind : TaskKind) : ((j.abort reason now).1.finish state ended).tasks kind =
      (j.tasks kind).map (·.abort reason now) :=
    ((agree_abort j reason now).tasks kind).trans (tasks_allAborted j reason now kind)
  -- all that recording adds, in one piece
  have noted := abort_eq_noteKilled tasks reason now
  refine ⟨rfl, rfl, fun kind => ?_, fun kind i t pick _ => ?_, ?_, fun kind => ?_,
    fun g n other => ?_, ?_, ?_, ?_⟩
  · rw [kinds, List.length_map]
  · refine ⟨t.abort reason now, ?_, (tasks t (mem_of_pick pick)).stops_abort reason now⟩
    rw [kinds, List.getElem?_map, pick]
    rfl
  · rw [noted]
    rfl
  · have counts := counts_countKills j.counters (j.underWay.map (·.1.kind)) kind
    rw [List.count, List.countP_map] at counts
    rw [noted]
    exact counts
  · rw [noted]
    exact value_countKills_of_ne fun kind here => other kind ⟨here.1, .inl here.2⟩
  · rw [noted]
    rfl
  · rw [noted]
    rfl
  · rw [noted]
    rfl

/-- Stopping a job records its end and those of its attempts. -/
lemma recordsKill_abort (tasks : ∀ t ∈ j.allTasks, t.Lawful) (state : JobState) (reason : String)
    (now ended : Instant) : j.RecordsKill now ((j.abort reason now).1.finish state ended) := by
  rw [abort_eq_noteKilled tasks]
  refine ⟨rfl, rfl, fun kind => value_countKills_of_ne fun k here => ?_⟩
  exact killedName_ne_failedName k kind here.2.symm

section Failure

variable {kind : TaskKind} {index : Nat} {t : Task} {a : Attempt}

/-- A job that fails with an attempt at one of its tasks. -/
def failedWith (j : Job) (kind : TaskKind) (index : Nat) (t : Task) (a : Attempt) (cs : Counters)
    (notes : List String) (clock : Readings) : Job :=
  ((j.recorded kind index t a .failed cs notes clock.first).abort (failureReason t)
    clock.second).1.finish .failed clock.first

/-- The attempts that are under way besides one. -/
def underWayBut (j : Job) (id : AttemptId) : List (Task × Attempt) :=
  j.underWay.filter (·.2.id != id)

/-- After the end of an attempt, the others are under way. -/
lemma underWay_recorded (lw : j.Lawful) (pick : (j.tasks kind)[index]? = some t)
    (mem : a ∈ t.attempts) (run : a.isRunning) (o : Outcome) (cs : Counters) (notes : List String)
    (now : Instant) :
    (j.recorded kind index t a o cs notes now).underWay = j.underWayBut a.id := by
  have lwt := lw.tasks t (mem_of_pick pick)
  rw [underWayBut, ← underWay_setTask lw pick mem run (lwt.running_closed mem run o cs notes now),
    underWay, (agree_recorded j kind index t a o cs notes now).allTasks, underWay]

/-- When the last attempt at a task has failed, the job fails, and what else was under way ends. -/
lemma close_of_last (lw : j.Lawful) (pick : (j.tasks kind)[index]? = some t)
    (mem : a ∈ t.attempts) (run : a.isRunning) (last : t.failures + 1 = maxFailures)
    (cs : Counters) (notes : List String) (clock : Readings) :
    j.close kind index a.id .failed cs notes clock = some
      ⟨j.failedWith kind index t a cs notes clock, a.close .failed clock.first notes,
        (j.underWayBut a.id).map (·.2.close .killed clock.second [failureReason t])⟩ := by
  have found := (lw.tasks t (mem_of_pick pick)).attempt?_of_mem mem
  have tasks := tasks_recorded_lawful lw.tasks pick mem run .failed cs notes clock.first
  have failed : (t.closed a .failed cs notes clock.first).state = .failed := by
    rw [Task.closed_of_last last]
  have named : failureReason (t.closed a .failed cs notes clock.first) = failureReason t := by
    rw [failureReason, Task.closed_id, failureReason]
  have told : ((j.recorded kind index t a .failed cs notes clock.first).abort (failureReason t)
      clock.second).2 =
      (j.underWayBut a.id).map (·.2.close .killed clock.second [failureReason t]) := by
    rw [abort_snd tasks, running_eq_map_underWay, underWay_recorded lw pick mem run, List.map_map]
    rfl
  rw [close_eq pick found run, conclude, if_pos failed, named, ← told]
  rfl

/-- The end of the last attempt at a task is recorded as one that the task is given up with. -/
lemma recorded_of_last (last : t.failures + 1 = maxFailures) (cs : Counters) (notes : List String)
    (now : Instant) :
    j.recorded kind index t a .failed cs notes now =
      { j.setTask kind index (t.closed a .failed cs notes now) with
        events := j.events ++ [endEvent .tipFailed now j.events.length (t, a)]
        counters := j.counters.increment Counters.jobGroup (failedName t.kind) 1
        failedTasks := j.failedTasks + 1 } := by
  have failed : (t.closed a .failed cs notes now).state = .failed := by
    rw [Task.closed_of_last last]
  simp only [recorded, record, recordFailed, failed, if_true, log, count, Task.closed_kind,
    Task.closed_index, setTask_events, setTask_counters]
  cases kind <;> rfl

/-- The last failure counts once, as a failed task of its kind. -/
lemma value_recorded_of_last (last : t.failures + 1 = maxFailures) (cs : Counters)
    (notes : List String) (now : Instant) (g n : String) :
    (j.recorded kind index t a .failed cs notes now).counters.value g n =
      if g = Counters.jobGroup ∧ n = failedName t.kind then
        satAdd (j.counters.value Counters.jobGroup (failedName t.kind)) 1
      else j.counters.value g n := by
  rw [recorded_of_last last]
  exact Counters.value_increment ..

/-- Once the failure is recorded, all that is still open in the job stops. -/
lemma stops_recorded (lw : j.Lawful) (pick : (j.tasks kind)[index]? = some t)
    (mem : a ∈ t.attempts) (run : a.isRunning) (cs : Counters) (notes : List String)
    (clock : Readings) :
    (j.recorded kind index t a .failed cs notes clock.first).Stops .failed (failureReason t)
        clock.second clock.first (fun _ _ => False) (j.underWayBut a.id)
        (j.failedWith kind index t a cs notes clock) ∧
      (j.recorded kind index t a .failed cs notes clock.first).RecordsKill clock.second
        (j.failedWith kind index t a cs notes clock) := by
  have tasks := tasks_recorded_lawful lw.tasks pick mem run .failed cs notes clock.first
  rw [← underWay_recorded lw pick mem run .failed cs notes clock.first]
  exact ⟨stops_abort tasks .failed (failureReason t) clock.second clock.first,
    recordsKill_abort tasks .failed _ clock.second _⟩

variable (lw : j.Lawful) (pick : (j.tasks kind)[index]? = some t) (mem : a ∈ t.attempts)
  (run : a.isRunning) (last : t.failures + 1 = maxFailures) (cs : Counters) (notes : List String)
  (clock : Readings)

include lw pick mem run last

/-- All that is open in the job stops with it, but for the task of the attempt. -/
lemma stops_failedWith :
    j.Stops .failed (failureReason t) clock.second clock.first
      (fun k i => k = kind ∧ i = index) (j.underWayBut a.id)
      (j.failedWith kind index t a cs notes clock) := by
  have agree := agree_recorded j kind index t a .failed cs notes clock.first
  have eq : j.recorded kind index t a .failed cs notes clock.first = _ :=
    recorded_of_last last cs notes clock.first
  obtain ⟨st, -⟩ := stops_recorded lw pick mem run cs notes clock
  refine ⟨st.state, st.finish, fun k => ?_, fun k i u there apart => ?_, ?_, fun k => ?_,
    fun g n other => ?_, ?_, ?_, ?_⟩
  · -- the failure comes first and the kills after it, so each clause goes through both
    rw [st.length, agree.tasks]
    by_cases same : k = kind
    · subst same
      rw [tasks_setTask, List.length_set]
    · rw [tasks_setTask_ne _ same]
  · refine st.tasks k i u ?_ not_false
    rw [agree.tasks]
    by_cases same : k = kind
    · subst same
      rw [tasks_setTask, List.getElem?_set_ne fun e => apart ⟨rfl, e.symm⟩]
      exact there
    · rw [tasks_setTask_ne _ same]
      exact there
  · rw [st.total, eq]
    cases kind <;> rfl
  · rw [st.counted, value_recorded_of_last last,
      if_neg fun here => killedName_ne_failedName k t.kind here.2]
  · rw [st.uncounted g n other, value_recorded_of_last last,
      if_neg fun here => other t.kind ⟨here.1, .inr here.2⟩]
  · rw [st.profile, eq]
    cases kind <;> rfl
  · rw [st.priority, eq]
    cases kind <;> rfl
  · rw [st.hasTasks, eq]
    cases kind <;> rfl

/-- The failure is recorded before the attempts that are killed with the job. -/
lemma recordsFailure_failedWith :
    j.RecordsFailure t a (j.underWayBut a.id) clock
      (j.failedWith kind index t a cs notes clock) := by
  have eq : j.recorded kind index t a .failed cs notes clock.first = _ :=
    recorded_of_last last cs notes clock.first
  obtain ⟨-, rk⟩ := stops_recorded lw pick mem run cs notes clock
  refine ⟨?_, ?_, fun k => ?_⟩
  · rw [rk.events, underWay_recorded lw pick mem run, eq]
    simp
  · rw [rk.total, eq]
  · rw [rk.counted, value_recorded_of_last last]
    by_cases same : k = t.kind
    · subst same
      rw [if_pos ⟨rfl, rfl⟩, if_pos rfl, toNat_satAdd]
      rfl
    · rw [if_neg fun here => same (failedName_inj.1 here.2), if_neg same]
      exact Counts.self _

/-- The task of the attempt is given up before the others are aborted, so it is not open then. -/
lemma getElem?_failedWith : ((j.failedWith kind index t a cs notes clock).tasks kind)[index]? =
    some (t.closed a .failed cs notes clock.first) := by
  obtain ⟨st, -⟩ := stops_recorded lw pick mem run cs notes clock
  have lt : index < (j.tasks kind).length := (List.getElem?_eq_some_iff.1 pick).1
  have pick' : ((j.recorded kind index t a .failed cs notes clock.first).tasks kind)[index]? =
      some (t.closed a .failed cs notes clock.first) := by
    rw [(agree_recorded ..).tasks, tasks_setTask, List.getElem?_set_self lt]
  obtain ⟨t', here, stop⟩ := st.tasks kind index _ pick' not_false
  have failed : (t.closed a .failed cs notes clock.first).state = .failed := by
    rw [Task.closed_of_last last]
  rw [stop.shut (by rw [failed]; exact nofun) (by rw [failed]; exact nofun)] at here
  exact here

end Failure

end Job

end JobCluster.Coordinator
