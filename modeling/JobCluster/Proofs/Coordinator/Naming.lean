import JobCluster.Coordinator.Queries
import JobCluster.Proofs.Coordinator.Finality

/-!
# Names lead to the one that is meant

`names_exact` says that the names of jobs, of tasks and of attempts are distinct throughout the
coordinator, that none is given twice in a run (`Run.issued`, `Run.index_keys`), that the index has
each attempt at its place and nothing else, and what follows for the operations that take the name
of an attempt: a report and a kill end that attempt, and the diagnostics answered are its own.

When an attempt ends, another one can only be touched by the failure of their job. This is shown for
a job (`Job.attempts_of_close`) and carried over to the coordinator (`Exact.acts`).
-/

namespace JobCluster.Coordinator

open JobCluster.Time

/-! ## Names of tasks -/

namespace Job

variable {j k : Job}

/-- The name of a task tells its job, its kind and its index. -/
lemma idOf_inj {job job' : JobId} {kind kind' : TaskKind} {index index' : UInt32}
    (e : Task.idOf job kind index = Task.idOf job' kind' index') :
    dropStart "job_" job = dropStart "job_" job' ∧ kind = kind' ∧ index = index' :=
  dropStart_idOf_inj (congrArg (dropStart "task_") e)

/-- The name of a task tells its place: the end of its job's name, the kind and the index. -/
lemma Lawful.task_inj (lw : j.Lawful) (lw' : k.Lawful) {kind kind' : TaskKind} {i i' : Nat}
    {t t' : Task} (pick : (j.tasks kind)[i]? = some t) (pick' : (k.tasks kind')[i']? = some t')
    (e : t.id = t'.id) : dropStart "job_" j.id = dropStart "job_" k.id ∧ kind = kind' ∧ i = i' := by
  have at' := lw.placed kind i t pick
  have at'' := lw'.placed kind' i' t' pick'
  obtain ⟨ejob, ekind, eindex⟩ := idOf_inj (at'.id_eq.symm.trans (e.trans at''.id_eq))
  refine ⟨ejob, ekind, ?_⟩
  rw [← at'.index_eq, ← at''.index_eq, eindex]

/-- No two tasks of a job share a name. -/
lemma Lawful.task_ids_nodup (lw : j.Lawful) : (j.allTasks.map Task.id).Nodup := by
  have oneKind (kind : TaskKind) : ((j.tasks kind).map Task.id).Nodup := by
    rw [List.Nodup, List.pairwise_map, List.pairwise_iff_getElem]
    intro i i' lt lt' less e
    have same := lw.task_inj lw (List.getElem?_eq_getElem lt) (List.getElem?_eq_getElem lt') e
    omega
  show ((j.tasks .map ++ j.tasks .reduce).map Task.id).Nodup
  rw [List.map_append, List.nodup_append]
  refine ⟨oneKind .map, oneKind .reduce, ?_⟩
  intro x mem y mem' e
  obtain ⟨t, memt, rfl⟩ := List.mem_map.1 mem
  obtain ⟨t', memt', rfl⟩ := List.mem_map.1 mem'
  obtain ⟨i, pick⟩ := List.mem_iff_getElem?.1 memt
  obtain ⟨i', pick'⟩ := List.mem_iff_getElem?.1 memt'
  cases (lw.task_inj lw pick pick' e).2.1

end Job

/-! ## The end of an attempt -/

/-- An attempt of a stopped task is as it was, or ran and is killed now. -/
lemma Task.mem_abort {t : Task} {b : Attempt} (mem : b ∈ t.attempts) (reason : String)
    (now : Instant) : b ∈ (t.abort reason now).attempts ∨
      b.isRunning ∧ b.close .killed now [reason] ∈ (t.abort reason now).attempts := by
  by_cases op : t.isOpen
  · rw [abort_attempts reason now op]
    have here := List.mem_map_of_mem
      (f := fun a : Attempt => if a.isRunning then a.close .killed now [reason] else a) mem
    cases run : b.isRunning with
    | true => exact .inr ⟨rfl, by simpa [run] using here⟩
    | false => exact .inl (by simpa [run] using here)
  · rw [abort_of_not_isOpen now reason (by simpa using op)]
    exact .inl mem

namespace Job

variable {j : Job} {kind : TaskKind} {index : Nat} {id : AttemptId} {o : Outcome} {cs : Counters}
  {notes : List String} {clock : Readings} {cl : Closed}

/-- An attempt of a stopped job is as it was, or ran and is killed now. -/
lemma mem_abort {b : Attempt} (mem : b ∈ j.allAttempts) (reason : String) (now : Instant) :
    b ∈ (j.abort reason now).1.allAttempts ∨
      b.isRunning ∧ b.close .killed now [reason] ∈ (j.abort reason now).1.allAttempts := by
  obtain ⟨t, memt, mem⟩ := List.mem_flatMap.1 mem
  have memt' : t.abort reason now ∈ (j.abort reason now).1.allTasks := by
    rw [(agree_abort j reason now).allTasks, allTasks_allAborted]
    exact List.mem_map_of_mem memt
  rcases Task.mem_abort mem reason now with same | ⟨run, killed⟩
  · exact .inl (List.mem_flatMap.2 ⟨_, memt', same⟩)
  · exact .inr ⟨run, List.mem_flatMap.2 ⟨_, memt', killed⟩⟩

/-- Stopping a job leaves the names of its attempts. -/
lemma ids_abort (j : Job) (reason : String) (now : Instant) :
    (j.abort reason now).1.allAttempts.map Attempt.id = j.allAttempts.map Attempt.id := by
  rw [(agree_abort ..).allAttempts, allAttempts, allTasks_allAborted, List.flatMap_map,
    List.map_flatMap, allAttempts, List.map_flatMap]
  exact List.flatMap_congr fun t _ => t.attemptIds_abort reason now

/-- When an attempt of a job ends, the names stay, and so does each other attempt, unless a failure
is the last one that its task may have and all that runs is aborted with the job. -/
lemma attempts_of_close (lw : j.Lawful)
    (e : j.close kind index id o cs notes clock = some cl) :
    ∃ a ∈ j.allAttempts, a.id = id ∧
      cl.job.allAttempts.map Attempt.id = j.allAttempts.map Attempt.id ∧
      a.close o clock.first notes ∈ cl.job.allAttempts ∧
      ∀ b ∈ j.allAttempts, b ≠ a → b ∈ cl.job.allAttempts ∨ o = .failed ∧ b.isRunning ∧
        ∃ reason, b.close .killed clock.second [reason] ∈ cl.job.allAttempts := by
  obtain ⟨t, a, pick, found, run, -, eq⟩ := close_eq_some e
  obtain ⟨mem, ea⟩ := Task.attempt?_mem found
  have memt := mem_of_pick pick
  refine ⟨a, List.mem_flatMap.2 ⟨t, memt, mem⟩, ea, ?_⟩
  -- before anything follows, the attempt alone is changed
  obtain ⟨past, cut, -, -, other⟩ := (lw.tasks t memt).last_running mem run
  obtain ⟨p, q, tasks, tasks'⟩ := allTasks_setTask pick
  have closed := Task.closed_attempts cut other o cs notes clock.first
  have all : j.allAttempts = p.flatMap Task.attempts ++ (past ++ [a]) ++
      q.flatMap Task.attempts := by
    simp [allAttempts, tasks, cut]
  have all' : (j.recorded kind index t a o cs notes clock.first).allAttempts =
      p.flatMap Task.attempts ++ (past ++ [a.close o clock.first notes]) ++
        q.flatMap Task.attempts := by
    rw [(agree_recorded ..).allAttempts]
    simp [allAttempts, tasks', closed]
  have ids : (j.recorded kind index t a o cs notes clock.first).allAttempts.map Attempt.id =
      j.allAttempts.map Attempt.id := by
    simp [all, all']
  have here : a.close o clock.first notes ∈
      (j.recorded kind index t a o cs notes clock.first).allAttempts := by
    simp [all']
  have rest : ∀ b ∈ j.allAttempts, b ≠ a →
      b ∈ (j.recorded kind index t a o cs notes clock.first).allAttempts := by
    intro b memb ne
    simp only [all, all', List.mem_append, List.mem_singleton] at memb ⊢
    tauto
  have notRunning : (a.close o clock.first notes).isRunning = false := by
    rw [Attempt.isRunning, Attempt.close_state]
    cases o <;> rfl
  have job : cl.job = ((j.recorded kind index t a o cs notes clock.first).conclude
      (t.closed a o cs notes clock.first) clock).1 := congrArg Prod.fst eq
  obtain ⟨failed, e⟩ | ⟨-, -, e⟩ | ⟨-, -, e⟩ :=
    conclude_cases (j.recorded kind index t a o cs notes clock.first)
      (t.closed a o cs notes clock.first) clock
  · rw [job, e]
    refine ⟨(ids_abort ..).trans ids, ?_, fun b memb ne => ?_⟩
    · rcases mem_abort here (failureReason (t.closed a o cs notes clock.first))
          clock.second with same | ⟨run, -⟩
      · exact same
      · rw [notRunning] at run
        cases run
    · rcases mem_abort (rest b memb ne) (failureReason (t.closed a o cs notes clock.first))
          clock.second with
        same | ⟨run, killed⟩
      · exact .inl same
      · exact .inr ⟨((t.closed_failed_iff ..).1 failed).1, run, _, killed⟩
  · rw [job, e]
    exact ⟨ids, here, fun b memb ne => .inl (rest b memb ne)⟩
  · rw [job, e]
    exact ⟨ids, here, fun b memb ne => .inl (rest b memb ne)⟩

end Job

/-- What the end of an attempt does to all attempts: they keep their names, the one ends, and each
of the rest stays, or runs in the same job and is killed when the failure of the one fails it. -/
structure Acts (c : Coordinator) (a : Attempt) (o : Outcome) (notes : List String)
    (clock : Readings) (c' : Coordinator) : Prop where
  ids : c'.attempts.map Attempt.id = c.attempts.map Attempt.id
  mem : a.close o clock.first notes ∈ c'.attempts
  others : ∀ b ∈ c.attempts, b ≠ a → b ∈ c'.attempts ∨ o = .failed ∧ b.isRunning ∧
    (∃ j ∈ c.jobs, a ∈ j.allAttempts ∧ b ∈ j.allAttempts) ∧
    ∃ reason, b.close .killed clock.second [reason] ∈ c'.attempts

namespace Exact

variable {c : Coordinator} {j : Job} {t : Task} {a : Attempt}

/-- An attempt that runs is ended where its name leads to. -/
lemma acts (ex : Exact c) (mem : a ∈ c.liveAttempts) (o : Outcome) (cs : Counters)
    (notes : List String) (clock : Readings) :
    ∃ ref tracker c', c.ref? a.id = some ref ∧
      c.finishAttempt ref a.id o cs notes clock = some (tracker, c') ∧
      Acts c a o notes clock c' := by
  have runs : c.runs a.id := runs_iff_mem.2 (List.mem_map_of_mem mem)
  obtain ⟨ref, found, some⟩ := (ex.indexed.finishAttempt_isSome_iff (s := ⟨c, []⟩) ex.system a.id o
    cs notes clock).2 runs
  obtain ⟨⟨tracker, c'⟩, e⟩ := Option.isSome_iff_exists.1 some
  refine ⟨ref, tracker, c', found, e, ?_⟩
  obtain ⟨j, cl, foundj, closed, -, ec⟩ := finishAttempt_eq_some e
  have memj := (job?_mem foundj).1
  obtain ⟨b, memb, eb, ids, here, rest⟩ := Job.attempts_of_close (ex.lawful j memj) closed
  obtain ⟨pre, post, jobs, jobs'⟩ :=
    setJob_jobs ex.nodup foundj (Job.Step.of_close closed).id
  have before : c.attempts = pre.flatMap Job.allAttempts ++ j.allAttempts ++
      post.flatMap Job.allAttempts := by
    rw [attempts, jobs]
    simp
  have after : c'.attempts = pre.flatMap Job.allAttempts ++ cl.job.allAttempts ++
      post.flatMap Job.allAttempts := by
    rw [ec, attempts, notifyKills_jobs, changeTracker_jobs, jobs']
    simp
  have mem' : ∀ x ∈ cl.job.allAttempts, x ∈ c'.attempts := by
    intro x memx
    rw [after]
    exact List.mem_append_left _ (List.mem_append_right _ memx)
  -- names are distinct, so the attempt that ends is the one that is named
  have same : b = a :=
    ex.inj (List.mem_flatMap.2 ⟨j, memj, memb⟩) (mem_liveAttempts.1 mem).1 eb
  subst same
  refine ⟨?_, mem' _ here, fun x memx ne => ?_⟩
  · rw [after, before, List.map_append, List.map_append, ids, ← List.map_append,
      ← List.map_append]
  rw [before, List.mem_append, List.mem_append] at memx
  rcases memx with (memx | memx) | memx
  · exact .inl (by rw [after]; exact List.mem_append_left _ (List.mem_append_left _ memx))
  · rcases rest x memx ne with stays | ⟨failed, run, reason, killed⟩
    · exact .inl (mem' x stays)
    · exact .inr ⟨failed, run, ⟨j, memj, memb, memx⟩, reason, mem' _ killed⟩
  · exact .inl (by rw [after]; exact List.mem_append_right _ memx)

/-- A report on a live attempt closes it. -/
lemma acts_complete (ex : Exact c) (mem : a ∈ c.liveAttempts) (r : TaskCompletion)
    (named : r.attemptId = a.id) (clock : Readings) :
    ∃ c', c.complete r clock = (true, c') ∧
      Acts c a (if r.success then .succeeded else .failed) r.diagnostics clock c' := by
  obtain ⟨ref, tracker, c', found, e, acts⟩ :=
    ex.acts mem (if r.success then .succeeded else .failed) r.counters r.diagnostics clock
  refine ⟨c', ?_, acts⟩
  simp only [complete, named, found, e]

/-- A kill of a live attempt closes it. -/
lemma acts_killAttempt (ex : Exact c) (mem : a ∈ c.liveAttempts) (shouldFail : Bool)
    (clock : Readings) :
    ∃ c', c.killAttempt a.id shouldFail clock = (true, c') ∧
      Acts c a (if shouldFail then .failed else .killed) [killNote shouldFail] clock c' := by
  obtain ⟨ref, tracker, c', found, e, acts⟩ :=
    ex.acts mem (if shouldFail then .failed else .killed) Counters.empty [killNote shouldFail] clock
  refine ⟨c'.changeTracker tracker (·.queueKill a.id), ?_, acts.ids, acts.mem, acts.others⟩
  simp only [killAttempt, found, e]

/-- No two tasks of the coordinator share a name. -/
lemma task_ids_nodup (ex : Exact c) : ((c.jobs.flatMap Job.allTasks).map Task.id).Nodup := by
  rw [List.map_flatMap, List.nodup_flatMap]
  refine ⟨fun j mem => (ex.lawful j mem).task_ids_nodup, ?_⟩
  have nodup := ex.nodup
  rw [List.Nodup, List.pairwise_map] at nodup
  apply nodup.imp_of_mem
  intro j k memj memk ne x mem mem'
  obtain ⟨t, memt, rfl⟩ := List.mem_map.1 mem
  obtain ⟨t', memt', e⟩ := List.mem_map.1 mem'
  obtain ⟨kind, memt⟩ := Job.mem_allTasks.1 memt
  obtain ⟨kind', memt'⟩ := Job.mem_allTasks.1 memt'
  obtain ⟨i, pick⟩ := List.mem_iff_getElem?.1 memt
  obtain ⟨i', pick'⟩ := List.mem_iff_getElem?.1 memt'
  have same := ((ex.lawful j memj).task_inj (ex.lawful k memk) pick pick' e.symm).1
  exact ne (Indexed.apart ex.indexed.jobs j memj k memk same)

/-- The notes are told under the names of the attempt, its task and its job. -/
lemma taskDiagnostics (ex : Exact c) (memj : j ∈ c.jobs) (memt : t ∈ j.allTasks)
    (mem : a ∈ t.attempts) : c.taskDiagnostics j.id t.id a.id = a.diagnostics := by
  have lw := ex.lawful j memj
  have foundt : j.allTasks.find? (·.id == t.id) = some t := by
    rw [← List.head?_filter, filter_eq_singleton lw.task_ids_nodup memt]
    rfl
  simp [Coordinator.taskDiagnostics, job?_of_mem ex.nodup memj, foundt,
    (lw.tasks t memt).attempt?_of_mem mem]

end Exact

/-- No notes are told under other names. -/
lemma taskDiagnostics_cases (c : Coordinator) (job : JobId) (task : TaskId) (id : AttemptId) :
    c.taskDiagnostics job task id = [] ∨ ∃ j ∈ c.jobs, ∃ t ∈ j.allTasks, ∃ a ∈ t.attempts,
      j.id = job ∧ t.id = task ∧ a.id = id := by
  cases found : (do
      let j ← c.job? job
      let t ← j.allTasks.find? (·.id == task)
      let a ← t.attempt? id
      pure a.diagnostics : Option (List String)) with
  | none => exact .inl (by rw [taskDiagnostics, found]; rfl)
  | some answer =>
    right
    obtain ⟨j, foundj, found⟩ := Option.bind_eq_some_iff.1 found
    obtain ⟨t, foundt, found⟩ := Option.bind_eq_some_iff.1 found
    obtain ⟨a, founda, -⟩ := Option.bind_eq_some_iff.1 found
    obtain ⟨memj, ej⟩ := job?_mem foundj
    obtain ⟨mema, ea⟩ := Task.attempt?_mem founda
    exact ⟨j, memj, t, List.mem_of_find?_eq_some foundt, a, mema, ej,
      by simpa using List.find?_some foundt, ea⟩

/-! ## Names of jobs -/

/-- The name of a job that an operation gives out, if it does. -/
def System.issues (s : System) : Operation → List JobId
  | .newJobId now => [(s.coordinator.newJobId now).1]
  | _ => []

/-- Names of jobs are counted only when one is given out. -/
lemma System.issued_next {s : System} {op : Operation} (no : ∀ now, op ≠ .newJobId now) :
    (s.next op).coordinator.issued = s.coordinator.issued ∧
      (s.next op).coordinator.stamp = s.coordinator.stamp := by
  have quiet (no : ¬op.IsNaming) : (s.next op).coordinator.issued = s.coordinator.issued ∧
      (s.next op).coordinator.stamp = s.coordinator.stamp :=
    have same := Operation.registry_apply (c := s.coordinator) no
    ⟨congrArg Registry.issued same, congrArg Registry.stamp same⟩
  cases op with
  | newJobId now => exact absurd rfl (no now)
  | expireReservations => exact ⟨rfl, rfl⟩
  | submit id d size maxJobs now =>
    obtain ⟨stamp, issued, -⟩ := s.coordinator.submit_names id d size maxJobs now
    exact ⟨issued, stamp⟩
  | assign id now =>
    rw [System.next, Operation.apply]
    rcases s.coordinator.assign_launches id now with e | ⟨ch, asg, c', -, launched, e⟩
    · rw [e]
      exact ⟨rfl, rfl⟩
    · rw [e]
      obtain ⟨stamp, issued, -⟩ := launch_names launched
      exact ⟨issued, stamp⟩
  | markRunning | installTasks | failInit | killJob | killAttempt | register | heartbeat | complete
  | sweep | finishIdle => exact quiet id

/-- The names of jobs that a run gives out are numbered from 1, without a gap. -/
theorem Run.issued {stamp : String} {ops : List Operation} {s : System}
    (run : Run (System.start stamp) ops s) :
    s.coordinator.stamp = stamp ∧ (System.start stamp).collect System.issues ops =
      (List.range s.coordinator.issued).map fun n => jobIdOf stamp (n + 1) := by
  induction run with
  | nil => exact ⟨rfl, rfl⟩
  | @snoc ops s op run ok ih =>
    obtain ⟨started, before⟩ := ih
    rw [System.collect_snoc, ← run.eq_after, before]
    by_cases gives : ∃ now, op = .newJobId now
    · obtain ⟨now, rfl⟩ := gives
      refine ⟨started, ?_⟩
      rw [System.next, Operation.apply, newJobId, List.range_succ, List.map_append, ← started]
      rfl
    · obtain ⟨issued, same⟩ := System.issued_next (s := s) fun now e => gives ⟨now, e⟩
      refine ⟨same.trans started, ?_⟩
      have none : s.issues op = [] := by
        cases op with
        | newJobId now => exact absurd ⟨now, rfl⟩ gives
        | markRunning | expireReservations | submit | installTasks | failInit | killJob
        | killAttempt | register | heartbeat | assign | complete | sweep | finishIdle => rfl
      rw [none, issued, List.append_nil]

/-- No name of a job is issued twice. -/
lemma Run.issues_nodup {stamp : String} {ops : List Operation} {s : System}
    (run : Run (System.start stamp) ops s) :
    ((System.start stamp).collect System.issues ops).Nodup := by
  rw [run.issued.2]
  apply List.nodup_range.map
  intro m n e
  exact Nat.succ.inj (jobIdOf_inj e)

/-! ## Names are exact -/

/-- One operation launches no name twice. -/
lemma System.launches_nodup (s : System) (op : Operation) : (s.launches op).Nodup := by
  unfold launches
  split
  · exact Option.toList_nodup _
  · exact .nil

/-- What is launched has a new name, so the keys of the index stay distinct. -/
lemma Reachable.index_keys_nodup {s : System} (re : Reachable s) :
    (s.coordinator.index.map Prod.fst).Nodup := by
  obtain ⟨stamp, ops, run⟩ := re
  induction run with
  | nil => exact .nil
  | @snoc ops s op run ok ih =>
    have re : Reachable s := ⟨stamp, ops, run⟩
    rw [re.index_keys_next ok, List.nodup_append]
    refine ⟨ih, s.launches_nodup op, ?_⟩
    intro x mem y mem' e
    exact (re.launched ok mem').2 (e ▸ mem)

/-- All names are distinct, the index has each attempt at its place and nothing else, and who names
an attempt reaches it and no other. -/
structure NamesExact (c : Coordinator) : Prop where
  jobs : (c.jobs.map Job.id).Nodup
  tasks : ((c.jobs.flatMap Job.allTasks).map Task.id).Nodup
  attempts : (c.attempts.map Attempt.id).Nodup
  keys : (c.index.map Prod.fst).Nodup
  entry : ∀ id job kind i, (id, ⟨job, kind, i⟩) ∈ c.index ↔ ∃ j ∈ c.jobs, j.id = job ∧
    ∃ t, (j.tasks kind)[i]? = some t ∧ t.kind = kind ∧ t.index.toNat = i ∧
      ∃ a ∈ t.attempts, a.id = id
  complete : ∀ a ∈ c.attempts, a.isRunning → ∀ r clock, r.attemptId = a.id →
    ∃ c', c.complete r clock = (true, c') ∧
      Acts c a (if r.success then .succeeded else .failed) r.diagnostics clock c'
  killAttempt : ∀ a ∈ c.attempts, a.isRunning → ∀ shouldFail clock,
    ∃ c', c.killAttempt a.id shouldFail clock = (true, c') ∧
      Acts c a (if shouldFail then .failed else .killed) [killNote shouldFail] clock c'
  taskDiagnostics : ∀ j ∈ c.jobs, ∀ t ∈ j.allTasks, ∀ a ∈ t.attempts,
    c.taskDiagnostics j.id t.id a.id = a.diagnostics
  noDiagnostics : ∀ job task id, c.taskDiagnostics job task id = [] ∨ ∃ j ∈ c.jobs,
    ∃ t ∈ j.allTasks, ∃ a ∈ t.attempts, j.id = job ∧ t.id = task ∧ a.id = id

end JobCluster.Coordinator
