import JobCluster.Proofs.Coordinator.Moves

/-!
# The life of tasks and jobs

What every run of the coordinator keeps about the states of tasks and jobs. `tasks_consistent` says
how the state of a task, its attempts, its failures and the state of its job go together;
`jobs_orderly_and_frozen` says in which states a job can be, how it gets from one to the next, and
that a job that has ended stays as it is.

Both are read off the invariant of the system (`System.Lawful`): a phase tells everything about the
attempts of a task (`Task.Phase`) or the tasks of a job (`Job.Phase`).
-/

namespace JobCluster.Coordinator

open JobCluster.Time

namespace Task

/-! ## What the phase of a task tells -/

section Phase

variable {s : TaskState} {as : List Attempt}

/-- In every phase the attempts but the last are retired. -/
lemma Phase.retired (ph : Phase s as) :
    ∀ i a, as[i]? = some a → i + 1 < as.length → a.isRetired := by
  have inPast {past : List Attempt} {b : Attempt} (re : ∀ b ∈ past, b.isRetired) :
      ∀ i a, (past ++ [b])[i]? = some a → i + 1 < (past ++ [b]).length → a.isRetired := by
    intro i a found lt
    have lt : i < past.length := by simpa using lt
    rw [List.getElem?_append_left lt] at found
    exact re a (List.mem_of_getElem? found)
  cases ph with
  | pending re | killed re => exact fun i a found _ => re a (List.mem_of_getElem? found)
  | running re _ | complete re _ | failed re _ => exact inPast re

/-- Only the last attempt of a task is not retired. -/
lemma Phase.last (ph : Phase s as) {i : Nat} {a : Attempt} (found : as[i]? = some a)
    (ne : a.isRetired = false) : i + 1 = as.length := by
  have lt := (List.getElem?_eq_some_iff.1 found).1
  by_contra more
  rw [ph.retired i a found (by omega)] at ne
  cases ne

/-- At most one attempt is in a state that retired ones are not in. -/
lemma Phase.countP_le_one (ph : Phase s as) {p : Attempt → Bool}
    (no : ∀ a, a.isRetired → p a = false) : as.countP p ≤ 1 := by
  have past {past : List Attempt} (re : ∀ b ∈ past, b.isRetired) : past.countP p = 0 :=
    List.countP_eq_zero.2 fun a mem => by simp [no a (re a mem)]
  cases ph with
  | pending re | killed re => rw [past re]; exact Nat.zero_le _
  | @running _ a re _ | @complete _ a re _ | @failed _ a re _ =>
    rw [List.countP_append, past re, Nat.zero_add]
    exact List.countP_le_length

/-- Retired attempts failed or were killed. -/
lemma state_ne_of_retired {past : List Attempt} (re : ∀ b ∈ past, b.isRetired) {r : AttemptState}
    (nf : r ≠ .failed) (nk : r ≠ .killed) : ¬∃ a ∈ past, a.state = r := by
  rintro ⟨a, mem, rfl⟩
  rcases Attempt.isRetired_iff.1 (re a mem) with e | e
  · exact nf e
  · exact nk e

/-- Any other state is looked for in the last attempt. -/
lemma exists_state_iff {past : List Attempt} (re : ∀ b ∈ past, b.isRetired) {r : AttemptState}
    (nf : r ≠ .failed) (nk : r ≠ .killed) (a : Attempt) :
    (∃ b ∈ past ++ [a], b.state = r) ↔ a.state = r := by
  simp only [List.mem_append, List.mem_singleton, or_and_right, exists_or, exists_eq_left,
    state_ne_of_retired re nf nk, false_or]

/-- A task runs while an attempt does. -/
lemma Phase.running_iff (ph : Phase s as) : s = .running ↔ ∃ a ∈ as, a.state = .running := by
  cases ph with
  | pending re | killed re =>
    exact iff_of_false (by decide) (state_ne_of_retired re (by decide) (by decide))
  | running re st | complete re st | failed re st =>
    rw [exists_state_iff re (by decide) (by decide), st]
    decide

/-- A task is complete when an attempt succeeded. -/
lemma Phase.complete_iff (ph : Phase s as) : s = .complete ↔ ∃ a ∈ as, a.state = .succeeded := by
  cases ph with
  | pending re | killed re =>
    exact iff_of_false (by decide) (state_ne_of_retired re (by decide) (by decide))
  | running re st | complete re st | failed re st =>
    rw [exists_state_iff re (by decide) (by decide), st]
    decide

end Phase

/-- How the state of a task goes with its attempts, its failures and its job. -/
structure Consistent (j : Job) (t : Task) : Prop where
  running_le : t.attempts.countP (·.state == .running) ≤ 1
  running_last : ∀ i a, t.attempts[i]? = some a → a.state = .running → i + 1 = t.attempts.length
  running_iff : t.state = .running ↔ ∃ a ∈ t.attempts, a.state = .running
  succeeded_le : t.attempts.countP (·.state == .succeeded) ≤ 1
  succeeded_last :
    ∀ i a, t.attempts[i]? = some a → a.state = .succeeded → i + 1 = t.attempts.length
  complete_iff : t.state = .complete ↔ ∃ a ∈ t.attempts, a.state = .succeeded
  failures_eq : t.failures = t.attempts.countP (·.state == .failed)
  failures_le : t.failures ≤ maxFailures
  failed_iff : t.state = .failed ↔ t.failures = maxFailures
  terminal : t.state = .failed ∨ t.state = .killed → j.isTerminal
  failed : t.state = .failed → j.state = .failed

end Task

/-- A task that was given up is one of a failed job. -/
lemma Job.Lawful.failed_of_task {j : Job} (lw : j.Lawful) {t : Task} (mem : t ∈ j.allTasks)
    (failed : t.state = .failed) : j.state = .failed := by
  have ph := lw.phase
  have mem' : TaskState.failed ∈ j.allTasks.map Task.state := failed ▸ List.mem_map_of_mem mem
  generalize j.state = s at *
  generalize j.hasTasks = b at *
  generalize j.allTasks.map Task.state = ss at *
  cases ph with
  | failed => rfl
  | prep => cases mem'
  | running ok _ => exact absurd rfl (ok _ mem').1
  | succeeded ok => cases ok _ mem'
  | killed ok => rcases ok _ mem' with e | e <;> cases e

/-- The tasks of a lawful job are consistent. -/
lemma Job.Lawful.consistent {j : Job} (lw : j.Lawful) {t : Task} (mem : t ∈ j.allTasks) :
    t.Consistent j := by
  have lwt := lw.tasks t mem
  have notRetired {a : Attempt} {s : AttemptState} (e : a.state = s) (nf : s ≠ .failed)
      (nk : s ≠ .killed) : a.isRetired = false := by
    simp [Attempt.isRetired, e, nf, nk]
  -- only the last attempt can be in a state that retired ones are not in
  have count {s : AttemptState} (nf : s ≠ .failed) (nk : s ≠ .killed) :
      t.attempts.countP (·.state == s) ≤ 1 := by
    refine lwt.phase.countP_le_one fun a re => ?_
    rcases Attempt.isRetired_iff.1 re with e | e
    · simpa [e] using nf.symm
    · simpa [e] using nk.symm
  refine ⟨count (by decide) (by decide), ?_, lwt.phase.running_iff, count (by decide) (by decide),
    ?_, lwt.phase.complete_iff, ?_, ?_, ?_, ?_, lw.failed_of_task mem⟩
  · exact fun i a found e => lwt.phase.last found (notRetired e (by decide) (by decide))
  · exact fun i a found e => lwt.phase.last found (notRetired e (by decide) (by decide))
  · rw [lwt.failures_eq, Task.failedAttempts, List.countP_eq_length_filter]
  · by_cases failed : t.state = .failed
    · exact Nat.le_of_eq (lwt.failures_max failed)
    · exact Nat.le_of_lt (lwt.failures_lt failed)
  · refine ⟨lwt.failures_max, fun e => ?_⟩
    by_contra ne
    have := lwt.failures_lt ne
    omega
  · intro ended
    by_contra live
    obtain ⟨notFailed, notKilled⟩ := lw.task_of_live (by simpa using live) t mem
    rcases ended with e | e
    · exact notFailed e
    · exact notKilled e

/-- In every run, the state of every task goes with its attempts, its failures and its job. -/
theorem tasks_consistent {s : System} (re : Reachable s) :
    ∀ j ∈ s.coordinator.jobs, ∀ t ∈ j.allTasks, t.Consistent j :=
  fun j mem _ memt => (re.lawful.jobs j mem).consistent memt

/-- In the small run a task is complete at its second attempt. -/
theorem sample_tasks_consistent : ∃ j ∈ sampleSystem.coordinator.jobs, ∃ t ∈ j.allTasks,
    (t.state = .complete ∧ t.attempts.length = 2 ∧ t.failures = 1) ∧ t.Consistent j := by
  obtain ⟨j, mem, t, memt, second⟩ : ∃ j ∈ sampleSystem.coordinator.jobs, ∃ t ∈ j.allTasks,
      t.state = .complete ∧ t.attempts.length = 2 ∧ t.failures = 1 := by decide +kernel
  exact ⟨j, mem, t, memt, second, tasks_consistent sample_reachable j mem t memt⟩

/-! ## Jobs -/

/-- How the state of a job goes with the time of its end and its tasks. -/
structure Job.Orderly (j : Job) : Prop where
  finishTime_iff : j.finishTime.isSome ↔ j.isTerminal
  succeeded : j.state = .succeeded → j.hasTasks ∧ ∀ t ∈ j.allTasks, t.state = .complete
  terminal : j.isTerminal → ∀ t ∈ j.allTasks, t.state ≠ .pending ∧ t.state ≠ .running ∧
    ∀ a ∈ t.attempts, a.state ≠ .running
  idle : j.state = .running → (∀ t ∈ j.allTasks, t.state = .complete) → j.allTasks = []

/-- A lawful job is orderly. -/
lemma Job.Lawful.orderly {j : Job} (lw : j.Lawful) : j.Orderly := by
  refine ⟨by rw [lw.finishTime], lw.done_of_succeeded, fun terminal t mem => ?_,
    fun run complete => ?_⟩
  · obtain ⟨notPending, notRunning⟩ := lw.task_of_terminal terminal t mem
    refine ⟨notPending, notRunning, fun a mema run => ?_⟩
    exact notRunning ((lw.tasks t mem).phase.running_iff.2 ⟨a, mema, run⟩)
  · by_contra some
    obtain ⟨t, memt, no⟩ := lw.undone_of_running run some
    exact no (complete t memt)

namespace System.Lawful

variable {s : System} {op : Operation}

/-- An operation keeps the state of a job or moves it one step on, even where it makes several
moves. -/
lemma follows_next (lw : s.Lawful) (ok : s.Permits op) {id : JobId} {j : Job}
    (found : s.coordinator.job? id = some j) :
    ∃ j', (s.next op).coordinator.job? id = some j' ∧
      (j'.state = j.state ∨ Job.Follows j.state j'.state) := by
  cases op with
  | sweep now timeout lost clock =>
    -- the end of a lost attempt never changes the state of its job
    obtain ⟨j', found', same⟩ := lw.follow ok (R := fun j j' => j'.state = j.state) (fun _ => rfl)
      (fun _ _ _ _ ij jk => jk.trans ij)
      (fun _ _ _ ad st _ => by cases ad; exact st.state_of_killed) found
    exact ⟨j', found', .inl same⟩
  | finishIdle now =>
    -- a job that was ended as idle does not run any more
    obtain ⟨j', found', rel⟩ := lw.follow ok
      (R := fun j j' => j'.state = j.state ∨ j.state = .running ∧ j'.state = .succeeded)
      (fun _ => .inl rfl)
      (fun _ i j k ij jk => by
        rcases jk with e | ⟨run, done⟩
        · rw [e]; exact ij
        · rcases ij with e | ⟨-, done'⟩
          · exact .inr ⟨e ▸ run, done⟩
          · rw [done'] at run; cases run)
      (fun _ _ _ ad st _ => by cases ad; cases st with | closeIdle run => exact .inr ⟨run, rfl⟩)
      found
    refine ⟨j', found', rel.imp_right fun ⟨run, done⟩ => ?_⟩
    rw [run, done]
    exact .succeed
  | markRunning | newJobId | expireReservations | submit | installTasks | failInit | killJob
  | killAttempt | register | heartbeat | assign | complete =>
    exact lw.follow ok (fun _ => .inl rfl) (fun wide => wide.elim)
      (fun _ _ _ _ st lw => st.follows lw) found

/-- A job that an operation adds is in preparation. -/
lemma prep_next (lw : s.Lawful) (ok : s.Permits op) {id : JobId} {j : Job}
    (absent : s.coordinator.job? id = none) (found : (s.next op).coordinator.job? id = some j) :
    j.state = .prep := by
  obtain ⟨mem, eid⟩ := job?_mem found
  have no := job?_eq_none absent
  generalize (s.next op).coordinator.jobs = js', lw.changes ok = ch at mem
  cases ch with
  | moves pf _ _ =>
    have memid : id ∈ s.coordinator.jobs.map Job.id := by
      rw [← pf.ids, ← eid]
      exact List.mem_map_of_mem mem
    obtain ⟨k, memk, ek⟩ := List.mem_map.1 memid
    exact absurd ek (no k memk)
  | added _ _ =>
    rcases List.mem_append.1 mem with mem | mem
    · exact absurd eid (no j mem)
    · rw [List.mem_singleton.1 mem]
      rfl

end System.Lawful

/-- Runs keep systems lawful. -/
lemma Run.lawful {s s' : System} {ops : List Operation} (run : Run s ops s') (lw : s.Lawful) :
    s'.Lawful := by
  induction run with
  | nil => exact lw
  | snoc _ ok ih => exact ih.next ok

/-- A run follows each job: a relation that steps of lawful jobs keep leads from the job at the
start to the same job at the end. -/
lemma Run.follow {s s' : System} {ops : List Operation} (run : Run s ops s') (lw : s.Lawful)
    {R : Job → Job → Prop} (refl : ∀ j, R j j) (trans : ∀ i j k, R i j → R j k → R i k)
    (step : ∀ j m j', Job.Step j m j' → j.Lawful → R j j') {id : JobId} {j : Job}
    (found : s.coordinator.job? id = some j) :
    ∃ j', s'.coordinator.job? id = some j' ∧ R j j' := by
  induction run with
  | nil => exact ⟨j, found, refl j⟩
  | snoc run ok ih =>
    obtain ⟨k, foundk, before⟩ := ih
    obtain ⟨j', found', more⟩ := (run.lawful lw).follow ok refl (fun _ => trans)
      (fun _ _ _ _ st lw => step _ _ _ st lw) foundk
    exact ⟨j', found', trans _ _ _ before more⟩

/-- A job that is over never changes. -/
lemma Run.frozen {s s' : System} {ops : List Operation} (run : Run s ops s') (lw : s.Lawful)
    {id : JobId} {j : Job} (found : s.coordinator.job? id = some j) (terminal : j.isTerminal) :
    s'.coordinator.job? id = some j := by
  obtain ⟨j', found', same⟩ := run.follow lw (R := fun j j' => j.isTerminal → j' = j)
    (fun _ _ => rfl) (fun _ _ _ ij jk terminal => by cases ij terminal; exact jk terminal)
    (fun _ _ _ st lw terminal => by rw [st.live lw] at terminal; cases terminal) found
  rw [found', same terminal]

/-- In every run, each job is orderly, starts in preparation, and goes from one state to the next by
the ways of `Job.Follows`, at most one with each operation; once it has ended, no run changes
anything of it. -/
theorem jobs_orderly_and_frozen {s : System} (re : Reachable s) :
    (∀ j ∈ s.coordinator.jobs, j.Orderly) ∧
    (∀ op, s.Permits op → ∀ id j', (s.next op).coordinator.job? id = some j' →
      match s.coordinator.job? id with
      | some j => j'.state = j.state ∨ Job.Follows j.state j'.state
      | none => j'.state = .prep) ∧
    (∀ op, s.Permits op → ∀ id j, s.coordinator.job? id = some j →
      ((s.next op).coordinator.job? id).isSome) ∧
    (∀ ops s', Run s ops s' → ∀ id j, s.coordinator.job? id = some j → j.isTerminal →
      s'.coordinator.job? id = some j) := by
  have lw := re.lawful
  refine ⟨fun j mem => (lw.jobs j mem).orderly, fun op ok id j' found' => ?_,
    fun op ok id j found => ?_, fun ops s' run id j found terminal => run.frozen lw found terminal⟩
  · cases found : s.coordinator.job? id with
    | none => exact lw.prep_next ok found found'
    | some j =>
      obtain ⟨k, foundk, rel⟩ := lw.follows_next ok found
      rw [found'] at foundk
      cases foundk
      exact rel
  · obtain ⟨j', found', -⟩ := lw.follows_next ok found
    rw [found']
    rfl

/-- In the small run the job succeeds, and a kill that comes later does not change it. -/
theorem sample_job_frozen : ∃ j ∈ sampleSystem.coordinator.jobs, j.state = .succeeded ∧ j.Orderly ∧
    (sampleSystem.next (.killJob j.id (.ofSeconds 1))).coordinator.job? j.id = some j := by
  obtain ⟨j, mem, st⟩ : ∃ j ∈ sampleSystem.coordinator.jobs, j.state = .succeeded := by
    decide +kernel
  obtain ⟨orderly, -, -, frozen⟩ := jobs_orderly_and_frozen sample_reachable
  have terminal : j.isTerminal := by rw [Job.isTerminal, st]; rfl
  have found := job?_of_mem sample_reachable.lawful.nodup mem
  have kill : Run sampleSystem [.killJob j.id (.ofSeconds 1)]
      (sampleSystem.next (.killJob j.id (.ofSeconds 1))) := .snoc .nil trivial
  exact ⟨j, mem, st, orderly j mem, frozen _ _ kill _ j found terminal⟩

end JobCluster.Coordinator
