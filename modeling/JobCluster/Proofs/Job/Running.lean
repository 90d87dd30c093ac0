import JobCluster.Proofs.Job.Attempts

/-!
# The attempts of a job that run

`Job.running` lists the attempts of a job that run, in the order of its tasks. The module tells what
each step does to this list. A launch adds an attempt (`running_launched`); the end of an attempt
takes it away, and all others with it if the job fails (`running_of_close`, which also tells what is
reported as aborted); no step that is not a launch makes an attempt run (`Step.running_sublist`).

`Step.stay` is about all attempts: none is forgotten, each stays on its tracker, and what has ended
is not touched again.
-/

namespace JobCluster.Coordinator

open JobCluster.Time

namespace Task

/-- Nothing runs in a task that does not run. -/
lemma Lawful.running_eq_nil {t : Task} (lw : t.Lawful) (st : t.state ≠ .running) :
    t.running = [] := by
  refine List.filter_eq_nil_iff.2 fun a mem run => ?_
  obtain ⟨-, -, here, -⟩ := lw.last_running mem run
  exact st here

/-- At most one attempt of a task runs. -/
lemma Lawful.running_eq_singleton {t : Task} (lw : t.Lawful) {a : Attempt} (mem : a ∈ t.attempts)
    (run : a.isRunning) : t.running = [a] := by
  obtain ⟨past, e, -, re, -⟩ := lw.last_running mem run
  have none : past.filter Attempt.isRunning = [] :=
    List.filter_eq_nil_iff.2 fun b mem => by simp [Attempt.isRunning_eq_false (re b mem)]
  simp [Task.running, e, none, run]

/-- A launched attempt runs. -/
lemma running_launch (t : Task) (tracker : TrackerId) (host : String) (now : Instant) :
    (t.launch tracker host now).running =
      t.running ++ [⟨t.nextAttemptId, tracker, host, .running, now, none, []⟩] := by
  rw [Task.running, Task.launch, List.filter_append]
  rfl

/-- A task does not run after its attempt ended. -/
lemma closed_state_ne_running (t : Task) (a : Attempt) (o : Outcome) (cs : Counters)
    (notes : List String) (now : Instant) : (t.closed a o cs notes now).state ≠ .running := by
  cases o with
  | succeeded | killed => exact nofun
  | failed =>
    by_cases last : maxFailures ≤ t.failures + 1 <;>
      simp [closed, settle, replaceAttempt, last]

/-- Nothing of a task runs after its attempt ended. -/
lemma Lawful.running_closed {t : Task} (lw : t.Lawful) {a : Attempt} (mem : a ∈ t.attempts)
    (run : a.isRunning) (o : Outcome) (cs : Counters) (notes : List String) (now : Instant) :
    (t.closed a o cs notes now).running = [] :=
  (lw.closed mem run o cs notes now).running_eq_nil (t.closed_state_ne_running a o cs notes now)

/-- Nothing of a stopped task runs. -/
lemma Lawful.running_abort {t : Task} (lw : t.Lawful) (reason : String) (now : Instant) :
    (t.abort reason now).running = [] := by
  refine (lw.abort reason now).running_eq_nil fun st => ?_
  have shut := t.abort_isOpen reason now
  rw [isOpen_iff.2 (.inr st)] at shut
  cases shut

/-- What stopping a task ends are its running attempts. -/
lemma Lawful.aborted_eq {t : Task} (lw : t.Lawful) (reason : String) (now : Instant) :
    t.aborted reason now = t.running.map (·.close .killed now [reason]) := by
  by_cases op : t.isOpen
  · rw [aborted, if_pos op]
  · rw [aborted, if_neg op, lw.running_eq_nil fun st => op (isOpen_iff.2 (.inr st))]
    rfl

end Task

namespace Job

/-- The attempts that run. -/
def running (j : Job) : List Attempt := j.allTasks.flatMap Task.running

/-- The running attempts of a job, among all of them. -/
lemma running_eq_filter (j : Job) : j.running = j.allAttempts.filter Attempt.isRunning :=
  List.filter_flatMap.symm

variable {j j' : Job} {kind : TaskKind} {index : Nat} {t : Task} {a : Attempt} {m : Move}

/-- Jobs that agree have the same attempts running. -/
lemma Agree.running (ag : Agree j j') : j'.running = j.running := by
  rw [Job.running, ag.allTasks, Job.running]

/-- No two running attempts of a job share a name. -/
lemma Lawful.running_ids_nodup (lw : j.Lawful) : (j.running.map Attempt.id).Nodup := by
  rw [running_eq_filter]
  exact (List.filter_sublist.map _).nodup lw.attempt_ids_nodup

/-- Nothing runs in a job that does not run. -/
lemma Lawful.running_eq_nil (lw : j.Lawful) (ne : j.state ≠ .running) : j.running = [] := by
  rw [running_eq_filter]
  refine List.filter_eq_nil_iff.2 fun a mem run => ?_
  obtain ⟨t, memt, mema⟩ := List.mem_flatMap.1 mem
  exact ne (lw.running_of_attempt memt mema run)

/-! ## Launches and aborts -/

/-- A launch of a pending task adds an attempt. -/
lemma running_launched (lw : j.Lawful) (pick : (j.tasks kind)[index]? = some t)
    (pending : t.state = .pending) (isLocal : Option Bool) (tracker : TrackerId) (host : String)
    (now : Instant) :
    ∃ p q, j.running = p ++ q ∧ (j.launched kind index t isLocal tracker host now).running =
      p ++ ⟨t.nextAttemptId, tracker, host, .running, now, none, []⟩ :: q := by
  obtain ⟨p, q, e, es⟩ := allTasks_setTask pick
  have none : t.running = [] :=
    (lw.tasks t (mem_of_pick pick)).running_eq_nil (by simp [pending])
  refine ⟨p.flatMap Task.running, q.flatMap Task.running, ?_, ?_⟩
  · simp [Job.running, e, none]
  · rw [(agree_launched ..).running]
    simp [Job.running, es, Task.running_launch, none]

/-- Nothing of a stopped job runs. -/
lemma running_abort (tasks : ∀ t ∈ j.allTasks, t.Lawful) (reason : String) (now : Instant) :
    (j.abort reason now).1.running = [] := by
  rw [(agree_abort j reason now).running, Job.running, allTasks_allAborted, List.flatMap_map]
  exact List.flatMap_eq_nil_iff.2 fun t mem => (tasks t mem).running_abort reason now

/-- What stopping a job ends are its running attempts. -/
lemma abort_snd (tasks : ∀ t ∈ j.allTasks, t.Lawful) (reason : String) (now : Instant) :
    (j.abort reason now).2 = j.running.map (·.close .killed now [reason]) := by
  have told : (j.abort reason now).2 = j.allTasks.flatMap (·.aborted reason now) := by
    simp [Job.abort, List.map_flatMap, Function.comp_def]
  rw [told, Job.running, List.map_flatMap]
  exact List.flatMap_congr fun t mem => (tasks t mem).aborted_eq reason now

/-! ## The end of an attempt -/

/-- The attempts that run besides one. -/
def runningBut (j : Job) (id : AttemptId) : List Attempt := j.running.filter (·.id != id)

/-- Without its names a list with distinct names is cut at one of them. -/
lemma filter_ne_of_nodup {p q : List Attempt} {a : Attempt}
    (nodup : ((p ++ a :: q).map Attempt.id).Nodup) :
    (p ++ a :: q).filter (·.id != a.id) = p ++ q := by
  rw [List.map_append, List.map_cons, List.nodup_middle, List.nodup_cons,
    ← List.map_append] at nodup
  have keep : ∀ as : List Attempt, (∀ b ∈ as, b ∈ p ++ q) → as.filter (·.id != a.id) = as := by
    intro as sub
    refine List.filter_eq_self.2 fun b mem => ?_
    have ne : b.id ≠ a.id := fun e => nodup.1 (e ▸ List.mem_map_of_mem (sub b mem))
    simpa using ne
  rw [List.filter_append, List.filter_cons_of_neg (by simp),
    keep p fun b mem => List.mem_append_left _ mem, keep q fun b mem => List.mem_append_right _ mem]

/-- The end of an attempt leaves the others running, before anything follows from it. -/
lemma running_recorded (lw : j.Lawful) (pick : (j.tasks kind)[index]? = some t)
    (mem : a ∈ t.attempts) (run : a.isRunning) (o : Outcome) (cs : Counters) (notes : List String)
    (now : Instant) :
    (j.recorded kind index t a o cs notes now).running = j.runningBut a.id := by
  obtain ⟨p, q, e, es⟩ := allTasks_setTask pick
  have lwt := lw.tasks t (mem_of_pick pick)
  have before : j.running = p.flatMap Task.running ++ a :: q.flatMap Task.running := by
    simp [Job.running, e, lwt.running_eq_singleton mem run]
  have nodup := lw.running_ids_nodup
  rw [before] at nodup
  rw [(agree_recorded ..).running, runningBut, before, filter_ne_of_nodup nodup, Job.running, es]
  simp [lwt.running_closed mem run]

/-- What runs after the end of an attempt, and what was aborted: nothing runs and the other attempts
were aborted if the job fails with it, else the others still run. -/
lemma running_of_close (lw : j.Lawful) {id : AttemptId} {o : Outcome} {cs : Counters}
    {notes : List String} {clock : Readings} {cl : Closed}
    (e : j.close kind index id o cs notes clock = some cl) :
    ∃ a ∈ j.running, a.id = id ∧ cl.attempt = a.close o clock.first notes ∧
      ((o = .failed ∧ cl.job.running = [] ∧
        ∃ reason, cl.aborted = (j.runningBut id).map (·.close .killed clock.second [reason])) ∨
      (cl.job.running = j.runningBut id ∧ cl.aborted = [])) := by
  obtain ⟨t, a, pick, found, run, ended, eq⟩ := close_eq_some e
  obtain ⟨mem, rfl⟩ := Task.attempt?_mem found
  have left := running_recorded lw pick mem run o cs notes clock.first
  have tasks := tasks_recorded_lawful lw.tasks pick mem run o cs notes clock.first
  refine ⟨a, ?_, rfl, ended, ?_⟩
  · rw [running_eq_filter]
    exact List.mem_filter.2 ⟨List.mem_flatMap.2 ⟨t, mem_of_pick pick, mem⟩, run⟩
  -- the job fails if the task of the attempt has run out of attempts
  unfold conclude at eq
  by_cases failed : (t.closed a o cs notes clock.first).state = .failed
  · rw [if_pos failed] at eq
    obtain ⟨ejob, eaborted⟩ := Prod.mk.inj eq
    refine .inl ⟨((Task.closed_failed_iff ..).1 failed).1, ?_,
      failureReason (t.closed a o cs notes clock.first), ?_⟩
    · rw [ejob]
      exact running_abort tasks _ clock.second
    · rw [eaborted, ← left]
      exact abort_snd tasks _ clock.second
  · rw [if_neg failed] at eq
    right
    split at eq
    · obtain ⟨ejob, eaborted⟩ := Prod.mk.inj eq
      exact ⟨by rw [ejob]; exact left, eaborted⟩
    · obtain ⟨ejob, eaborted⟩ := Prod.mk.inj eq
      exact ⟨by rw [ejob]; exact left, eaborted⟩

/-! ## Steps -/

/-- No step that is not a launch makes an attempt run. -/
lemma Step.running_sublist (st : Step j m j') (lw : j.Lawful) (no : ¬m.IsLaunch) :
    j'.running.Sublist j.running := by
  cases st with
  | launch => exact absurd trivial no
  | failInit | closeIdle => exact .refl _
  | @install splits prep =>
    have none : (j.install splits).running = [] := by
      refine List.flatMap_eq_nil_iff.2 fun t mem => ?_
      obtain ⟨_, _, _, rfl⟩ := mem_install mem
      rfl
    rw [none]
    exact List.nil_sublist _
  | @kill reason clock _ =>
    have none : ((j.abort reason clock.first).1.finish .killed clock.second).running = [] :=
      running_abort lw.tasks reason clock.first
    rw [none]
    exact List.nil_sublist _
  | @close kind index t id a o cs notes clock pick found run =>
    obtain ⟨mem, rfl⟩ := Task.attempt?_mem found
    -- first the attempt ends, and then perhaps all that are left
    have left := running_recorded lw pick mem run o cs notes clock.first
    have tasks := tasks_recorded_lawful lw.tasks pick mem run o cs notes clock.first
    refine conclude_induction (P := fun k => k.running.Sublist j.running) ?_
      (fun _ _ sub => sub) fun reason => ?_
    · rw [left]
      exact List.filter_sublist
    · rw [running_abort tasks reason clock.second]
      exact List.nil_sublist _

end Job

/-! ## What stays of an attempt -/

/-- What an attempt can become: it keeps its name and its tracker, and once it has ended it stays as
it is. -/
structure Attempt.Becomes (a a' : Attempt) : Prop where
  id : a'.id = a.id
  tracker : a'.tracker = a.tracker
  ended : a.isRunning = false → a' = a

namespace Attempt.Becomes

variable {a a' a'' : Attempt}

lemma refl (a : Attempt) : a.Becomes a := ⟨rfl, rfl, fun _ => rfl⟩

lemma trans (be : a.Becomes a') (be' : a'.Becomes a'') : a.Becomes a'' where
  id := be'.id.trans be.id
  tracker := be'.tracker.trans be.tracker
  ended no := by
    have same := be.ended no
    subst same
    exact be'.ended no

/-- A running attempt becomes what it is closed as. -/
lemma close (run : a.isRunning) (o : Outcome) (now : Instant) (notes : List String) :
    a.Becomes (a.close o now notes) :=
  ⟨rfl, rfl, fun no => by rw [run] at no; cases no⟩

end Attempt.Becomes

/-- All attempts of one list are still in the other. -/
def Stay (as as' : List Attempt) : Prop := ∀ a ∈ as, ∃ a' ∈ as', a.Becomes a'

namespace Stay

variable {as as' as'' : List Attempt}

lemma refl (as : List Attempt) : Stay as as := fun a mem => ⟨a, mem, .refl a⟩

lemma trans (sy : Stay as as') (sy' : Stay as' as'') : Stay as as'' := by
  intro a mem
  obtain ⟨a', mem', be⟩ := sy a mem
  obtain ⟨a'', mem'', be'⟩ := sy' a' mem'
  exact ⟨a'', mem'', be.trans be'⟩

/-- If the attempts of each part stay in some part, all attempts stay. -/
lemma flatMap {α β : Type} {f : α → List Attempt} {g : β → List Attempt} {l : List α} {l' : List β}
    (each : ∀ x ∈ l, ∃ y ∈ l', Stay (f x) (g y)) : Stay (l.flatMap f) (l'.flatMap g) := by
  intro a mem
  obtain ⟨x, memx, mem⟩ := List.mem_flatMap.1 mem
  obtain ⟨y, memy, sy⟩ := each x memx
  obtain ⟨a', mem', be⟩ := sy a mem
  exact ⟨a', List.mem_flatMap.2 ⟨y, memy, mem'⟩, be⟩

end Stay

namespace Task

/-- The attempts of a task stay when one of them ends. -/
lemma Lawful.stay_closed {t : Task} (lw : t.Lawful) {a : Attempt} (mem : a ∈ t.attempts)
    (run : a.isRunning) (o : Outcome) (cs : Counters) (notes : List String) (now : Instant) :
    Stay t.attempts (t.closed a o cs notes now).attempts := by
  obtain ⟨past, e, -, -, other⟩ := lw.last_running mem run
  rw [closed_attempts e other, e]
  intro b mem
  rcases List.mem_append.1 mem with mem | mem
  · exact ⟨b, List.mem_append_left _ mem, .refl b⟩
  · cases List.mem_singleton.1 mem
    exact ⟨_, List.mem_append_right _ List.mem_cons_self, .close run o now notes⟩

/-- The attempts of a task stay when it is aborted. -/
lemma stay_abort (t : Task) (reason : String) (now : Instant) :
    Stay t.attempts (t.abort reason now).attempts := by
  by_cases op : t.isOpen
  case neg =>
    rw [abort_of_not_isOpen now reason (by simpa using op)]
    exact .refl _
  rw [abort_attempts reason now op]
  intro a mem
  refine ⟨_, List.mem_map_of_mem mem, ?_⟩
  by_cases run : a.isRunning
  · rw [if_pos run]
    exact .close run ..
  · rw [if_neg run]
    exact .refl a

end Task

namespace Job

variable {j j' : Job} {kind : TaskKind} {index : Nat} {t t' : Task}

/-- The attempts of a job stay when those of the changed task do. -/
lemma stay_setTask (pick : (j.tasks kind)[index]? = some t) (sy : Stay t.attempts t'.attempts) :
    Stay j.allAttempts (j.setTask kind index t').allAttempts := by
  obtain ⟨p, q, e, es⟩ := allTasks_setTask pick
  rw [allAttempts, allAttempts, e, es]
  refine .flatMap fun x mem => ?_
  rcases List.mem_append.1 mem with mem | mem
  · exact ⟨x, List.mem_append_left _ mem, .refl _⟩
  · rcases List.mem_cons.1 mem with rfl | mem
    · exact ⟨t', List.mem_append_right _ List.mem_cons_self, sy⟩
    · exact ⟨x, List.mem_append_right _ (List.mem_cons_of_mem _ mem), .refl _⟩

/-- Jobs that agree have the same attempts. -/
lemma Agree.allAttempts (ag : Agree j j') : j'.allAttempts = j.allAttempts := by
  rw [Job.allAttempts, ag.allTasks, Job.allAttempts]

/-- Stopping a job takes no attempt away. -/
lemma stay_abort (j : Job) (reason : String) (now : Instant) :
    Stay j.allAttempts (j.abort reason now).1.allAttempts := by
  rw [(agree_abort j reason now).allAttempts, Job.allAttempts, Job.allAttempts,
    allTasks_allAborted]
  exact .flatMap fun t mem => ⟨_, List.mem_map_of_mem mem, t.stay_abort reason now⟩

/-- The attempts of a job stay with every step. -/
theorem Step.stay {m : Move} (st : Step j m j') (lw : j.Lawful) :
    Stay j.allAttempts j'.allAttempts := by
  cases st with
  | failInit | closeIdle => exact .refl _
  | install prep =>
    rw [Job.allAttempts, lw.allTasks_of_prep prep, List.flatMap_nil]
    exact List.forall_mem_nil _
  | kill => exact stay_abort j _ _
  | launch _ pick =>
    rw [(agree_launched ..).allAttempts]
    refine stay_setTask pick fun a mem => ⟨a, List.mem_append_left _ mem, .refl a⟩
  | @close kind index t id a o cs notes clock pick found run =>
    have lwt := lw.tasks t (mem_of_pick pick)
    have recorded :
        Stay j.allAttempts (j.recorded kind index t a o cs notes clock.first).allAttempts := by
      rw [(agree_recorded ..).allAttempts]
      exact stay_setTask pick
        (lwt.stay_closed (Task.attempt?_mem found).1 run o cs notes clock.first)
    exact conclude_induction (P := fun k => Stay j.allAttempts k.allAttempts) recorded
      (fun _ _ sy => sy) fun reason => recorded.trans (stay_abort _ reason clock.second)

end Job

end JobCluster.Coordinator
