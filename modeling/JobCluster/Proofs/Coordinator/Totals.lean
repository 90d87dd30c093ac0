import JobCluster.Coordinator.Queries
import JobCluster.Proofs.Coordinator.Index
import JobCluster.Proofs.Coordinator.Lifecycle
import JobCluster.Proofs.Job.Completions

/-!
# Counters are counted once

`System.closings` lists the reports of a run that end an attempt with success: those of an attempt
that runs when they come. Reports of other attempts, late ones and repeated ones are not among them.
`counters_counted_once` says that the counters of a job are its own and those of one such report for
each complete task, added up once and cut off once, in whatever order the reports came.

The invariant along a run is that the tasks that are complete are those that such a report completed
(`Run.completions`). Names are distinct, so it can be read for each task.
-/

namespace JobCluster.Coordinator

open JobCluster.Text JobCluster.Number JobCluster.Time

/-! ## Reports that count -/

namespace System

/-- The report that an operation brings, if it ends a running attempt with success. -/
def closing (s : System) : Operation → Option TaskCompletion
  | .complete r _ => if r.success && s.coordinator.runs r.attemptId then some r else none
  | _ => none

/-- The reports of a run that end a running attempt with success, in the order in which they come.
-/
def closings (s : System) : List Operation → List TaskCompletion
  | [] => []
  | op :: ops => (s.closing op).toList ++ (s.next op).closings ops

/-- One more operation adds the report that it closes an attempt with. -/
lemma closings_snoc (s : System) (ops : List Operation) (op : Operation) :
    s.closings (ops ++ [op]) = s.closings ops ++ ((s.after ops).closing op).toList := by
  induction ops generalizing s with
  | nil => exact List.append_nil _
  | cons x ops ih =>
    rw [List.cons_append, closings, ih, closings, List.append_assoc]
    rfl

end System

/-- What a report says of the attempt that it ends. -/
def completionOf (r : TaskCompletion) : AttemptId × Counters := (r.attemptId, r.counters)

/-- Moves complete what they end with success. -/
lemma Performs.completions {js js' : List Job} {ms : List (JobId × Job.Move)}
    (pf : Performs js ms js') (lw : ∀ j ∈ js, j.Lawful) :
    (js'.flatMap Job.completions).Perm
      (js.flatMap Job.completions ++ ms.flatMap fun e => e.2.completions) := by
  induction pf with
  | nil => rw [List.flatMap_nil, List.append_nil]
  | @cons pre j m j' post ms js' st pf ih =>
    refine (ih ((Performs.single st).lawful lw)).trans ?_
    simp only [List.flatMap_append, List.flatMap_cons, ← List.append_assoc]
    refine List.Perm.append_right _ ?_
    have one := st.completions (lw j (by simp))
    simp only [List.append_assoc]
    refine List.Perm.append_left _ ?_
    refine (one.append_right _).trans ?_
    rw [List.append_assoc]
    exact List.perm_append_comm.append_left _

namespace System.Lawful

variable {s : System} {op : Operation}

/-- A report changes nothing unless it names an attempt that runs, and then ends that attempt. -/
lemma complete_cases (lw : s.Lawful) (ix : Indexed s.coordinator) (r : TaskCompletion)
    (clock : Readings) :
    (s.coordinator.runs r.attemptId = false ∧ (s.coordinator.complete r clock).2 = s.coordinator) ∨
    (s.coordinator.runs r.attemptId = true ∧ ∃ job kind index,
      Performs s.coordinator.jobs
        [(job, .close kind index r.attemptId (if r.success then .succeeded else .failed) r.counters
          r.diagnostics clock)] (s.coordinator.complete r clock).2.jobs) := by
  -- with an exact index, a report is accepted when its attempt runs
  have accepted := ix.finishAttempt_isSome_iff lw r.attemptId
    (if r.success then .succeeded else .failed) r.counters r.diagnostics clock
  unfold Coordinator.complete
  cases found : s.coordinator.ref? r.attemptId with
  | none =>
    refine .inl ⟨?_, rfl⟩
    rw [Bool.eq_false_iff, ne_eq, ← accepted]
    rintro ⟨ref, e, -⟩
    rw [found] at e
    cases e
  | some ref =>
    cases e : s.coordinator.finishAttempt ref r.attemptId
        (if r.success then .succeeded else .failed) r.counters r.diagnostics clock with
    | none =>
      refine .inl ⟨?_, by simp only [e]⟩
      rw [Bool.eq_false_iff, ne_eq, ← accepted]
      rintro ⟨ref', found', some⟩
      rw [found] at found'
      cases found'
      rw [e] at some
      cases some
    | some p =>
      refine .inr ⟨accepted.1 ⟨ref, found, by rw [e]; rfl⟩, ref.job, ref.kind, ref.index, ?_⟩
      simp only [e]
      exact finishAttempt_performs lw.nodup e

/-- A report completes what it ends with success. -/
lemma completions_complete (lw : s.Lawful) (ix : Indexed s.coordinator) (r : TaskCompletion)
    (clock : Readings) :
    ((s.coordinator.complete r clock).2.jobs.flatMap Job.completions).Perm
      (s.coordinator.jobs.flatMap Job.completions ++
        (s.closing (.complete r clock)).toList.map completionOf) := by
  rw [closing]
  obtain ⟨no, same⟩ | ⟨yes, job, kind, index, pf⟩ := lw.complete_cases ix r clock
  · simp [no, same]
  · refine (pf.completions lw.jobs).trans (.append_left _ ?_)
    cases success : r.success <;> simp [yes, Job.Move.completions, completionOf]

/-- An operation that is no report completes nothing. -/
lemma completions_quiet (lw : s.Lawful) (ok : s.Permits op)
    (no : ∀ r clock, op ≠ .complete r clock) :
    ((s.next op).coordinator.jobs.flatMap Job.completions).Perm
      (s.coordinator.jobs.flatMap Job.completions) := by
  have none {id : JobId} {m : Job.Move} (ad : op.Admits id m) : m.completions = [] := by
    cases op with
    | complete r now => exact absurd rfl (no r now)
    | killAttempt id shouldFail now =>
      cases ad
      cases shouldFail <;> rfl
    | markRunning | newJobId | expireReservations | submit | installTasks | failInit | killJob
    | register | heartbeat | assign | sweep | finishIdle => cases ad <;> rfl
  generalize (s.next op).coordinator.jobs = js', lw.changes ok = ch
  cases ch with
  | moves pf ad _ =>
    have perm := pf.completions lw.jobs
    rwa [List.flatMap_eq_nil_iff.2 fun e mem => none (ad e mem), List.append_nil] at perm
  | added _ _ =>
    rw [List.flatMap_append, show [Job.new _ _ _].flatMap Job.completions = [] from rfl,
      List.append_nil]

/-- An operation adds to the completions what was reported with it. -/
lemma completions_next (lw : s.Lawful) (ix : Indexed s.coordinator) (ok : s.Permits op) :
    ((s.next op).coordinator.jobs.flatMap Job.completions).Perm
      (s.coordinator.jobs.flatMap Job.completions ++ (s.closing op).toList.map completionOf) := by
  cases op with
  | complete r now => exact lw.completions_complete ix r now
  | markRunning | newJobId | expireReservations | submit | installTasks | failInit | killJob
  | killAttempt | register | heartbeat | assign | sweep | finishIdle =>
    exact (lw.completions_quiet ok nofun).trans (.of_eq (List.append_nil _).symm)

end System.Lawful

/-- What is complete after a run was completed by the reports of the run. -/
lemma Run.completions {stamp : String} {ops : List Operation} {s : System}
    (run : Run (System.start stamp) ops s) :
    (s.coordinator.jobs.flatMap Job.completions).Perm
      (((System.start stamp).closings ops).map completionOf) := by
  induction run with
  | nil => exact .nil
  | @snoc ops s op run ok ih =>
    have re : Reachable s := ⟨stamp, ops, run⟩
    refine (re.lawful.completions_next re.indexed ok).trans ?_
    rw [System.closings_snoc, ← run.eq_after, List.map_append]
    exact ih.append_right _

/-! ## Names of what is complete -/

/-- The completions are those of the attempts that succeeded. -/
lemma Job.ids_completions (j : Job) :
    j.completions.map Prod.fst = (j.allAttempts.filter (·.state == .succeeded)).map Attempt.id := by
  simp only [Job.completions, Job.allAttempts, Task.completions, List.map_flatMap,
    List.filter_flatMap, List.map_map, Function.comp_def]

/-- No attempt completes twice. -/
lemma completions_nodup {c : Coordinator} (ix : Indexed c) (lw : ∀ j ∈ c.jobs, j.Lawful)
    (nodup : (c.jobs.map Job.id).Nodup) :
    ((c.jobs.flatMap Job.completions).map Prod.fst).Nodup := by
  have ids : (c.jobs.flatMap Job.completions).map Prod.fst =
      ((c.jobs.flatMap Job.allAttempts).filter (·.state == .succeeded)).map Attempt.id := by
    simp only [List.map_flatMap, List.filter_flatMap, Job.ids_completions]
  rw [ids]
  exact (List.filter_sublist.map _).nodup (ix.attempt_ids_nodup lw nodup)

/-- No attempt is closed twice by a report. -/
lemma Run.closings_nodup {stamp : String} {ops : List Operation} {s : System}
    (run : Run (System.start stamp) ops s) :
    (((System.start stamp).closings ops).map TaskCompletion.attemptId).Nodup := by
  have re : Reachable s := ⟨stamp, ops, run⟩
  have ids := run.completions.map Prod.fst
  rw [List.map_map] at ids
  exact ids.nodup_iff.1 (completions_nodup re.indexed re.lawful.jobs re.lawful.nodup)

namespace Job

/-- What is complete of a job, task by task. -/
lemma Lawful.completions_eq_map {j : Job} (lw : j.Lawful) {f : Task → AttemptId × Counters}
    (each : ∀ t ∈ j.allTasks, t.state = .complete → t.completions = [f t]) :
    j.completions = (j.allTasks.filter Task.isComplete).map f := by
  have tasks := lw.tasks
  rw [completions]
  generalize j.allTasks = ts at each tasks
  induction ts with
  | nil => rfl
  | cons t ts ih =>
    have rest := ih (fun x mem => each x (List.mem_cons_of_mem _ mem))
      fun x mem => tasks x (List.mem_cons_of_mem _ mem)
    rw [List.flatMap_cons, rest]
    by_cases complete : t.state = .complete
    · rw [each t List.mem_cons_self complete, List.filter_cons_of_pos (by simpa [Task.isComplete])]
      rfl
    · have none : t.completions = [] := by
        refine List.eq_nil_iff_forall_not_mem.2 fun e mem => ?_
        obtain ⟨a, mema, st, -⟩ := Task.mem_completions mem
        exact complete ((tasks t List.mem_cons_self).phase.complete_iff.2 ⟨a, mema, st⟩)
      rw [none, List.filter_cons_of_neg (by simpa [Task.isComplete])]
      rfl

/-- Each complete task has a report that counts, which carries its counters. -/
def Reports (j : Job) (cl : List TaskCompletion) (report : Task → TaskCompletion) : Prop :=
  ∀ t ∈ j.allTasks, t.state = .complete → report t ∈ cl ∧ ∃ a ∈ t.attempts,
    a.state = .succeeded ∧ completionOf (report t) = (a.id, t.counters) ∧
      t.completions = [(a.id, t.counters)]

namespace Reports

variable {j : Job} {cl : List TaskCompletion} {report : Task → TaskCompletion} {js : List Job}

/-- Where what is complete was completed by reports, each complete task has one. -/
lemma exists_of_perm (lw : j.Lawful) (mem : j ∈ js)
    (completed : (js.flatMap completions).Perm (cl.map completionOf)) :
    ∃ report, j.Reports cl report := by
  have each : ∀ t, ∃ r, t ∈ j.allTasks → t.state = .complete → r ∈ cl ∧ ∃ a ∈ t.attempts,
      a.state = .succeeded ∧ completionOf r = (a.id, t.counters) ∧
        t.completions = [(a.id, t.counters)] := by
    intro t
    by_cases here : t ∈ j.allTasks ∧ t.state = .complete
    case neg =>
      exact ⟨⟨"", false, Counters.empty, []⟩, fun memt complete => absurd ⟨memt, complete⟩ here⟩
    obtain ⟨a, mema, st, e⟩ := (lw.tasks t here.1).completions_eq here.2
    -- what succeeded is among what was completed, and that came from a report
    have memc : (a.id, t.counters) ∈ js.flatMap completions :=
      List.mem_flatMap.2 ⟨j, mem, List.mem_flatMap.2 ⟨t, here.1, by rw [e]; exact .head _⟩⟩
    obtain ⟨r, memr, er⟩ := List.mem_map.1 (completed.mem_iff.1 memc)
    exact ⟨r, fun _ _ => ⟨memr, a, mema, st, er, e⟩⟩
  exact Classical.skolem.1 each

/-- The reports tell what is complete. -/
lemma completions (rp : j.Reports cl report) (lw : j.Lawful) :
    ((j.allTasks.filter Task.isComplete).map report).map completionOf = j.completions := by
  rw [lw.completions_eq_map (f := completionOf ∘ report), List.map_map]
  intro t memt complete
  obtain ⟨-, a, -, -, e, ec⟩ := rp t memt complete
  rw [ec, Function.comp_apply, e]

/-- The reports of a job are those that count and name an attempt of it. -/
lemma perm (rp : j.Reports cl report) (lw : j.Lawful)
    (nodup : (cl.map TaskCompletion.attemptId).Nodup)
    (only : ∀ r ∈ cl, (∃ a ∈ j.allAttempts, a.id = r.attemptId) → completionOf r ∈ j.completions) :
    ((j.allTasks.filter Task.isComplete).map report).Perm
      (cl.filter fun r => j.allAttempts.any (·.id == r.attemptId)) := by
  have names : (((j.allTasks.filter Task.isComplete).map report).map
      TaskCompletion.attemptId).Nodup := by
    have ids := congrArg (List.map Prod.fst) (rp.completions lw)
    rw [List.map_map, j.ids_completions] at ids
    have eq : ((j.allTasks.filter Task.isComplete).map report).map TaskCompletion.attemptId = _ :=
      ids
    rw [eq]
    exact (List.filter_sublist.map _).nodup lw.attempt_ids_nodup
  have counted : ∀ r ∈ (j.allTasks.filter Task.isComplete).map report, r ∈ cl ∧
      ∃ a ∈ j.allAttempts, a.id = r.attemptId := by
    intro r mem
    obtain ⟨t, memt, rfl⟩ := List.mem_map.1 mem
    obtain ⟨memt, complete⟩ := List.mem_filter.1 memt
    obtain ⟨memr, a, mema, -, e, -⟩ := rp t memt (by simpa [Task.isComplete] using complete)
    exact ⟨memr, a, List.mem_flatMap.2 ⟨t, memt, mema⟩, (congrArg Prod.fst e).symm⟩
  -- neither list repeats itself, so it is enough that they have the same elements
  refine (List.perm_ext_iff_of_nodup names.of_map (nodup.of_map.filter _)).2 fun r => ?_
  simp only [List.mem_filter, List.any_eq_true, beq_iff_eq]
  refine ⟨counted r, fun here => ?_⟩
  obtain ⟨memr, named⟩ := here
  have memc := only r memr named
  rw [← rp.completions lw] at memc
  obtain ⟨r', mem', e⟩ := List.mem_map.1 memc
  have same : r'.attemptId = r.attemptId := congrArg Prod.fst e
  rwa [List.inj_on_of_nodup_map nodup (counted r' mem').1 memr same] at mem'

/-- The counters of a job add up, in any order, to what its reports carry. -/
lemma counts_total (rp : j.Reports cl report) {order : List TaskCompletion}
    (perm : order.Perm ((j.allTasks.filter Task.isComplete).map report)) (group name : String) :
    Counts ((order.foldl (fun c r => c.merge r.counters) j.counters).value group name)
      ((j.counters.value group name).toNat + ((j.allTasks.filter Task.isComplete).map fun t =>
        ((report t).counters.value group name).toNat).sum) ∧
    (order.foldl (fun c r => c.merge r.counters) j.counters).value group name =
      j.totalCounters.value group name := by
  have sum (l : List TaskCompletion) :
      Counts ((l.foldl (fun c r => c.merge r.counters) j.counters).value group name)
        ((j.counters.value group name).toNat +
          (l.map fun r => (r.counters.value group name).toNat).sum) := by
    have merged := Counters.counts_foldl_merge j.counters (l.map TaskCompletion.counters) group name
    rwa [List.foldl_map, List.map_map] at merged
  have same : (order.map fun r => (r.counters.value group name).toNat).sum =
      ((j.allTasks.filter Task.isComplete).map fun t =>
        ((report t).counters.value group name).toNat).sum := by
    rw [(perm.map _).sum_nat, List.map_map]
    rfl
  have total : j.totalCounters =
      ((j.allTasks.filter Task.isComplete).map report).foldl (fun c r => c.merge r.counters)
        j.counters := by
    rw [totalCounters, List.foldl_map]
    refine List.foldl_ext _ _ _ fun c t mem => ?_
    obtain ⟨memt, complete⟩ := List.mem_filter.1 mem
    obtain ⟨-, a, -, -, e, -⟩ := rp t memt (by simpa [Task.isComplete] using complete)
    rw [show (report t).counters = t.counters from congrArg Prod.snd e]
  -- both orders add up to the same number, which the words are cut off from
  have left := sum order
  have right := sum ((j.allTasks.filter Task.isComplete).map report)
  rw [same] at left
  rw [← total, List.map_map] at right
  exact ⟨left, UInt64.toNat_inj.1 (Eq.trans left (Eq.symm right))⟩

end Reports

/-- The counters of a job are its own and those of one report for each complete task, added up once:
each is the one report that counts for the attempt of the task that succeeded, and no other report
that counts is one of the job. -/
structure CountedOnce (j : Job) (closings : List TaskCompletion) (total : Counters)
    (report : Task → TaskCompletion) : Prop where
  once : ∀ t ∈ j.allTasks, t.state = .complete → ∃ a ∈ t.attempts, a.state = .succeeded ∧
    closings.filter (·.attemptId == a.id) = [report t]
  reports : ((j.allTasks.filter Task.isComplete).map report).Perm
    (closings.filter fun r => j.allAttempts.any (·.id == r.attemptId))
  total_eq : ∀ group name, (total.value group name).toNat =
    min maxWord64 ((j.counters.value group name).toNat +
      ((j.allTasks.filter Task.isComplete).map fun t =>
        ((report t).counters.value group name).toNat).sum)
  any_order : ∀ order : List TaskCompletion,
    order.Perm ((j.allTasks.filter Task.isComplete).map report) → ∀ group name,
    (order.foldl (fun c r => c.merge r.counters) j.counters).value group name =
      total.value group name
  own : ∀ group name, group ≠ Counters.jobGroup → j.counters.value group name = 0

end Job

/-- A job keeps counters of its own group only, in any reachable system. -/
lemma Reachable.countsOwn {s : System} (re : Reachable s) :
    ∀ j ∈ s.coordinator.jobs, j.CountsOwn :=
  re.forall_jobs (fun _ _ _ _ _ _ => rfl) fun _ _ _ st _ own => st.own own

/-- In every run, the counters of a job are its own and those of the one report that ended each of
its complete tasks, each counted once and in no order. -/
theorem counters_counted_once {stamp : String} {ops : List Operation} {s : System}
    (run : Run (System.start stamp) ops s) {id : JobId} {j : Job}
    (found : s.coordinator.job? id = some j) :
    ∃ total report, s.coordinator.jobCounters id = some total ∧
      j.CountedOnce ((System.start stamp).closings ops) total report := by
  have re : Reachable s := ⟨stamp, ops, run⟩
  have mem := (job?_mem found).1
  have lw := re.lawful.jobs j mem
  have nodup := run.closings_nodup
  obtain ⟨report, rp⟩ := Job.Reports.exists_of_perm lw mem run.completions
  refine ⟨j.totalCounters, report, by rw [jobCounters, found]; rfl, ?_, ?_, ?_, ?_,
    re.countsOwn j mem⟩
  · intro t memt complete
    obtain ⟨memr, a, mema, st, e, -⟩ := rp t memt complete
    have eid : (report t).attemptId = a.id := congrArg Prod.fst e
    exact ⟨a, mema, st, eid ▸ filter_eq_singleton nodup memr⟩
  · refine rp.perm lw nodup fun r memr ⟨a, mema, ea⟩ => ?_
    -- what the report completed is of the job whose attempt it names
    have memc := run.completions.mem_iff.2 (List.mem_map_of_mem memr)
    obtain ⟨k, memk, memc⟩ := List.mem_flatMap.1 memc
    have named : r.attemptId ∈ k.allAttempts.map Attempt.id := by
      have memId := List.mem_map_of_mem (f := Prod.fst) memc
      rw [k.ids_completions] at memId
      exact (List.filter_sublist.map _).subset memId
    have same := re.indexed.job_inj re.lawful.jobs memk mem named
      (ea ▸ List.mem_map_of_mem mema)
    rwa [List.inj_on_of_nodup_map re.lawful.nodup memk mem same] at memc
  · intro group name
    obtain ⟨counts, same⟩ := rp.counts_total (.refl _) group name
    rw [← same]
    exact counts
  · exact fun order perm group name => (rp.counts_total perm group name).2

/-- In the small run three reports count of the five that come. -/
theorem sample_counters_counted_once :
    ((System.start "202601020304").closings sampleOperations).length = 3 ∧
    ∃ j ∈ sampleSystem.coordinator.jobs, ∃ total report,
      sampleSystem.coordinator.jobCounters j.id = some total ∧
        j.CountedOnce ((System.start "202601020304").closings sampleOperations) total report := by
  refine ⟨by decide +kernel, ?_⟩
  obtain ⟨j, mem⟩ : ∃ j, j ∈ sampleSystem.coordinator.jobs :=
    List.exists_mem_of_ne_nil _ (by decide +kernel)
  have found := job?_of_mem sample_reachable.lawful.nodup mem
  exact ⟨j, mem, counters_counted_once sample_run found⟩

end JobCluster.Coordinator
