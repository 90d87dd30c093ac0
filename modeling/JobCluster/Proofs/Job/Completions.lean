import JobCluster.Proofs.Job.Ledger

/-!
# What counts for a job

The counters of a job are its own and those of its complete tasks. `Job.completions` lists the
latter with the names of the attempts that succeeded. `Step.completions` says where they come from:
a step adds to the list what it ended with success, with the counters that were reported, and
nothing else does.

The counters of its own are in one group (`Step.own`), so all other counts come from reports.
-/

namespace JobCluster.Coordinator

open JobCluster.Number JobCluster.Time

namespace Task

/-- The attempt that succeeded, if there is one, and the counters that are kept of it. -/
def completions (t : Task) : List (AttemptId × Counters) :=
  (t.attempts.filter (·.state == .succeeded)).map fun a => (a.id, t.counters)

/-- No retired attempt succeeded. -/
lemma filter_succeeded_of_retired {past : List Attempt} (re : ∀ a ∈ past, a.isRetired) :
    past.filter (·.state == .succeeded) = [] := by
  refine List.filter_eq_nil_iff.2 fun a mem => ?_
  rcases Attempt.isRetired_iff.1 (re a mem) with e | e <;> simp [e]

/-- A launch completes nothing. -/
lemma completions_launch (t : Task) (tracker : TrackerId) (host : String) (now : Instant) :
    (t.launch tracker host now).completions = t.completions := by
  simp [completions, launch]

/-- An abort completes nothing. -/
lemma completions_abort (t : Task) (reason : String) (now : Instant) :
    (t.abort reason now).completions = t.completions := by
  by_cases op : t.isOpen
  case neg => rw [abort_of_not_isOpen now reason (by simpa using op)]
  have counters : (t.abort reason now).counters = t.counters := by rw [abort, if_pos op]
  rw [completions, completions, counters, abort_attempts reason now op, List.filter_map,
    List.map_map]
  have same : ((·.state == .succeeded) ∘ fun a : Attempt =>
      if a.isRunning then a.close .killed now [reason] else a) = (·.state == .succeeded) := by
    funext a
    by_cases run : a.isRunning
    · have st : a.state = .running := by simpa [Attempt.isRunning] using run
      simp [run, st, Outcome.state]
    · simp [run]
  rw [same]
  refine List.map_congr_left fun a _ => ?_
  by_cases run : a.isRunning <;> simp [run]

/-- A task whose running attempt ends is complete if that succeeded. -/
lemma Lawful.completions_closed {t : Task} (lw : t.Lawful) {a : Attempt} (mem : a ∈ t.attempts)
    (run : a.isRunning) (o : Outcome) (cs : Counters) (notes : List String) (now : Instant) :
    (t.closed a o cs notes now).completions =
      t.completions ++ if o = .succeeded then [(a.id, cs)] else [] := by
  obtain ⟨past, e, -, re, other⟩ := lw.last_running mem run
  have st : a.state = .running := by simpa [Attempt.isRunning] using run
  have before : t.completions = [] := by
    rw [completions, e, List.filter_append, filter_succeeded_of_retired re]
    simp [st]
  rw [before, completions, closed_attempts e other, List.filter_append,
    filter_succeeded_of_retired re]
  cases o with
  | succeeded => rfl
  | failed | killed => rfl

/-- A complete task has one attempt that succeeded, and its counters are those kept of it. -/
lemma Lawful.completions_eq {t : Task} (lw : t.Lawful) (complete : t.state = .complete) :
    ∃ a ∈ t.attempts, a.state = .succeeded ∧ t.completions = [(a.id, t.counters)] := by
  have ph := lw.phase
  rw [complete] at ph
  generalize eas : t.attempts = as at ph
  cases ph with
  | @complete past a re st =>
    refine ⟨a, List.mem_append_right _ (List.mem_singleton_self a), st, ?_⟩
    rw [completions, eas, List.filter_append, filter_succeeded_of_retired re]
    simp [st]

/-- A completion is that of an attempt that succeeded, with the counters of its task. -/
lemma mem_completions {t : Task} {e : AttemptId × Counters} (mem : e ∈ t.completions) :
    ∃ a ∈ t.attempts, a.state = .succeeded ∧ e = (a.id, t.counters) := by
  obtain ⟨a, mema, rfl⟩ := List.mem_map.1 mem
  obtain ⟨mema, st⟩ := List.mem_filter.1 mema
  exact ⟨a, mema, by simpa using st, rfl⟩

end Task

namespace Job

/-- The attempts of a job that succeeded, with the counters that are kept of them. -/
def completions (j : Job) : List (AttemptId × Counters) := j.allTasks.flatMap Task.completions

/-- What a move ends with success, and the counters that were reported of it. -/
def Move.completions : Move → List (AttemptId × Counters)
  | .close _ _ id .succeeded cs _ _ => [(id, cs)]
  | _ => []

/-- Stopping a job leaves its completions. -/
lemma completions_allAborted (j : Job) (reason : String) (now : Instant) :
    (j.allAborted reason now).completions = j.completions := by
  rw [completions, allTasks_allAborted, List.flatMap_map, completions]
  exact congrArg (j.allTasks.flatMap ·) (funext fun t => t.completions_abort reason now)

/-- A step completes what it ends with success. -/
theorem Step.completions {j j' : Job} {m : Move} (st : Step j m j') (lw : j.Lawful) :
    j'.completions.Perm (j.completions ++ m.completions) := by
  have agree {k k' : Job} (ag : Agree k k') : k'.completions = k.completions := by
    rw [Job.completions, ag.allTasks, Job.completions]
  have aborted (k : Job) (reason : String) (now : Instant) :
      (k.abort reason now).1.completions = k.completions :=
    (agree (agree_abort k reason now)).trans (completions_allAborted k reason now)
  cases st with
  | failInit | closeIdle => exact .of_eq (List.append_nil _).symm
  | install prep =>
    have before : j.completions = [] := by
      rw [Job.completions, lw.allTasks_of_prep prep, List.flatMap_nil]
    have after : ∀ splits, (j.install splits).completions = [] := by
      refine fun splits => List.flatMap_eq_nil_iff.2 fun t mem => ?_
      obtain ⟨_, _, _, rfl⟩ := mem_install mem
      rfl
    rw [before, after]
    exact .nil
  | kill => exact .of_eq ((aborted ..).trans (List.append_nil _).symm)
  | launch run pick pending isLocal barrier =>
    rw [agree (agree_launched ..)]
    exact flatMap_setTask pick ((Task.completions_launch ..).trans (List.append_nil _).symm)
  -- only the end of an attempt completes, and what it means for the job does not
  | @close kind index t id a o cs notes clock pick found running =>
    obtain ⟨mema, ea⟩ := Task.attempt?_mem found
    have lwt := lw.tasks t (mem_of_pick pick)
    have recorded : (j.recorded kind index t a o cs notes clock.first).completions.Perm
        (j.completions ++ (Move.close kind index id o cs notes clock).completions) := by
      rw [agree (agree_recorded ..)]
      refine flatMap_setTask pick ?_
      rw [lwt.completions_closed mema running, ea]
      cases o <;> rfl
    refine conclude_induction (P := fun k => k.completions.Perm _) recorded
      (fun _ _ same => same) fun reason => ?_
    rwa [aborted]

/-! ## Counters of its own -/

/-- The counters of its own are those of one group. -/
def CountsOwn (j : Job) : Prop := ∀ g n, g ≠ Counters.jobGroup → j.counters.value g n = 0

/-- What the job counts goes to its own group. -/
lemma CountsOwn.count {j : Job} (own : j.CountsOwn) (name : String) : (j.count name).CountsOwn := by
  intro g n ne
  rw [Job.count, Counters.value_increment, if_neg fun e => ne e.1]
  exact own g n ne

/-- Recording an end counts in the job's own group only. -/
lemma CountsOwn.record {j : Job} (own : j.CountsOwn) (t : Task) (a : Attempt) (o : Outcome)
    (now : Instant) : (j.record t a o now).CountsOwn := by
  cases o with
  | succeeded => exact own
  | failed => exact CountsOwn.count (j := j.log t a _ now) own _
  | killed => exact CountsOwn.count (j := j.log t a .killed now) own _

/-- A job counts in one group. -/
theorem Step.own {j j' : Job} {m : Move} (st : Step j m j') (own : j.CountsOwn) :
    j'.CountsOwn := by
  have setTask (kind : TaskKind) (index : Nat) (t : Task) :
      (j.setTask kind index t).CountsOwn := by
    rw [CountsOwn, setTask_counters]
    exact own
  have abort {k : Job} (own : k.CountsOwn) (reason : String) (now : Instant) :
      (k.abort reason now).1.CountsOwn :=
    abort_induction (fun _ t a own => own.record t a .killed now) own
  cases st with
  | install | failInit | closeIdle => exact own
  | kill => exact abort own _ _
  | launch =>
    unfold launched
    split
    · exact ((setTask _ _ _).count _).count _
    · exact (setTask _ _ _).count _
  | @close kind index t id a o cs notes clock =>
    have recorded : (j.recorded kind index t a o cs notes clock.first).CountsOwn :=
      (setTask _ _ _).record _ _ _ _
    exact conclude_induction recorded (fun _ _ own => own) fun reason =>
      abort recorded reason clock.second

end Job

end JobCluster.Coordinator
