import JobCluster.Coordinator.Closing
import JobCluster.Coordinator.Scheduling
import JobCluster.Coordinator.Submission
import Mathlib.Tactic.Lemma

/-!
# Runs of the coordinator

An `Operation` is what the coordinator is asked to do, with all arguments and the readings of its
clock. A `System` is the coordinator together with the jobs that were submitted and still wait for
their tasks; `System.Permits` says which operations can come next, and `Run s ops s'` that the
operations `ops`, each of which could come when it came, lead from `s` to `s'`.

Three operations cannot come at any time. A job is prepared or fails to be prepared once, and only
after it was submitted, and it is given no more splits than there are indices for its maps; a
tracker registers under a name that no tracker has; and a sweep ends the attempts of lost trackers
in an order of its own, which the operation holds.
-/

namespace JobCluster.Coordinator

open JobCluster.Time

/-- What the coordinator is asked to do. -/
inductive Operation where
  | markRunning
  | newJobId (now : Instant)
  | expireReservations (now : Instant) (ttl : Duration)
  | submit (id : JobId) (d : JobDescriptor) (defaultSplitSize maxJobs : UInt64) (now : Instant)
  | installTasks (id : JobId) (splits : List InputSplit)
  | failInit (id : JobId) (now : Instant)
  | killJob (id : JobId) (clock : Readings)
  | killAttempt (id : AttemptId) (shouldFail : Bool) (clock : Readings)
  | register (id : TrackerId) (r : Registration) (now : Instant)
  | heartbeat (h : Heartbeat) (now : Instant)
  | assign (id : TrackerId) (now : Instant)
  | complete (r : TaskCompletion) (clock : Readings)
  | sweep (now : Instant) (timeout : Duration) (lost : List (AttemptId × AttemptRef))
      (clock : AttemptId → Instant)
  | finishIdle (now : Instant)

/-- The state of the coordinator after an operation. -/
def Operation.apply (op : Operation) (c : Coordinator) : Coordinator :=
  match op with
  | .markRunning => c.markRunning
  | .newJobId now => (c.newJobId now).2
  | .expireReservations now ttl => (c.expireReservations now ttl).2
  | .submit id d size maxJobs now => (c.submit id d size maxJobs now).2
  | .installTasks id splits => (c.installTasks id splits).2
  | .failInit id now => c.failInit id now
  | .killJob id clock => c.killJob id clock
  | .killAttempt id shouldFail clock => (c.killAttempt id shouldFail clock).2
  | .register id r now => c.register id r now
  | .heartbeat h now => ((c.heartbeat h now).map Prod.snd).getD c
  | .assign id now => (c.assign id now).2
  | .complete r clock => (c.complete r clock).2
  | .sweep now timeout lost clock =>
    (c.markDead (c.overdueTrackers now timeout)).loseAttempts lost clock
  | .finishIdle now => (c.finishIdle now).2

/-- The coordinator and the submitted jobs that wait for their tasks. -/
structure System where
  coordinator : Coordinator
  preparing : List JobId

namespace System

/-- A system that starts. -/
def start (stamp : String) : System := ⟨.start stamp, []⟩

/-- Which jobs wait for their tasks after an operation. -/
def preparingAfter (s : System) : Operation → List JobId
  | .submit id d size maxJobs now =>
    match (s.coordinator.submit id d size maxJobs now).1 with
    | .ok ⟨_, some init⟩ => s.preparing ++ [init.jobId]
    | _ => s.preparing
  | .installTasks id _ => s.preparing.erase id
  | .failInit id _ => s.preparing.erase id
  | _ => s.preparing

/-- The system after an operation. -/
def next (s : System) (op : Operation) : System :=
  ⟨op.apply s.coordinator, s.preparingAfter op⟩

/-- Whether an operation can come next. The index of a map is a word, so that a job with more splits
than words would have maps of one name. -/
def Permits (s : System) : Operation → Prop
  | .installTasks id splits => id ∈ s.preparing ∧ splits.length ≤ UInt32.size
  | .failInit id _ => id ∈ s.preparing
  | .register id _ _ => ∀ e ∈ s.coordinator.trackers, e.1 ≠ id
  | .sweep now timeout lost _ =>
    let overdue := s.coordinator.overdueTrackers now timeout
    lost.Perm ((s.coordinator.markDead overdue).lostAttempts overdue)
  | _ => True

instance (s : System) : (op : Operation) → Decidable (s.Permits op)
  | .installTasks id splits =>
    inferInstanceAs (Decidable (id ∈ s.preparing ∧ splits.length ≤ UInt32.size))
  | .failInit id _ => inferInstanceAs (Decidable (id ∈ s.preparing))
  | .register id _ _ =>
    inferInstanceAs (Decidable (∀ e ∈ s.coordinator.trackers, e.1 ≠ id))
  | .sweep now timeout lost _ =>
    inferInstanceAs (Decidable (lost.Perm
      ((s.coordinator.markDead (s.coordinator.overdueTrackers now timeout)).lostAttempts
        (s.coordinator.overdueTrackers now timeout))))
  | .markRunning | .newJobId _ | .expireReservations .. | .submit .. | .killJob .. | .killAttempt ..
  | .heartbeat .. | .assign .. | .complete .. | .finishIdle _ => isTrue trivial

end System

/-- The runs from one system to another, with their operations. -/
inductive Run (s : System) : List Operation → System → Prop where
  | nil :
    Run s [] s
  | snoc {ops s' op} :
    Run s ops s' →
    s'.Permits op →
    Run s (ops ++ [op]) (s'.next op)

namespace System

/-- The system after operations. -/
def after (s : System) (ops : List Operation) : System := ops.foldl next s

/-- Whether operations can come one after the other. -/
def PermitsAll (s : System) : List Operation → Prop
  | [] => True
  | op :: ops => s.Permits op ∧ (s.next op).PermitsAll ops

instance decidablePermitsAll (s : System) : (ops : List Operation) → Decidable (s.PermitsAll ops)
  | [] => isTrue trivial
  | op :: ops =>
    have := decidablePermitsAll (s.next op) ops
    inferInstanceAs (Decidable (s.Permits op ∧ (s.next op).PermitsAll ops))

end System

namespace Run

variable {s s' s'' : System} {ops ops' : List Operation}

/-- Two runs in a row are a run. -/
lemma append (run : Run s ops s') (run' : Run s' ops' s'') : Run s (ops ++ ops') s'' := by
  induction run' with
  | nil => rw [List.append_nil]; exact run
  | snoc _ ok ih => rw [← List.append_assoc]; exact .snoc ih ok

/-- Operations have one outcome. -/
lemma eq_after (run : Run s ops s') : s' = s.after ops := by
  induction run with
  | nil => rfl
  | snoc run ok ih =>
    rw [System.after, List.foldl_append, ih]
    rfl

/-- A run of one operation is a permitted step. -/
lemma of_single {op : Operation} (run : Run s [op] s') : s.Permits op ∧ s' = s.next op := by
  generalize one : [op] = ops at run
  cases run with
  | nil => cases one
  | @snoc before _ last run ok =>
    cases before with
    | nil =>
      cases run.eq_after
      cases one
      exact ⟨ok, rfl⟩
    | cons => simp at one

/-- Permitted operations make a run. -/
lemma of_permitsAll (ok : s.PermitsAll ops) : Run s ops (s.after ops) := by
  induction ops generalizing s with
  | nil => exact .nil
  | cons op ops ih => exact (Run.snoc .nil ok.1).append (ih ok.2)

end Run

/-- The systems that runs lead to. -/
def Reachable (s : System) : Prop := ∃ stamp ops, Run (System.start stamp) ops s

/-- What a run leads to from a reachable system is reachable. -/
lemma Run.reachable {s s' : System} {ops : List Operation} (run : Run s ops s')
    (re : Reachable s) : Reachable s' := by
  obtain ⟨stamp, before, lead⟩ := re
  exact ⟨stamp, before ++ ops, lead.append run⟩

/-- What a permitted operation leads to from a reachable system is reachable. -/
lemma Reachable.next {s : System} {op : Operation} (re : Reachable s) (ok : s.Permits op) :
    Reachable (s.next op) :=
  (Run.snoc .nil ok).reachable re

/-- A system leads to another if a run does. -/
def System.Leads (s s' : System) : Prop := ∃ ops, Run s ops s'

namespace System.Leads

variable {s s' s'' : System}

lemma refl (s : System) : s.Leads s := ⟨[], .nil⟩

lemma trans (le : s.Leads s') (le' : s'.Leads s'') : s.Leads s'' := by
  obtain ⟨ops, run⟩ := le
  obtain ⟨ops', run'⟩ := le'
  exact ⟨ops ++ ops', run.append run'⟩

/-- What a reachable system leads to is reachable. -/
lemma reachable (le : s.Leads s') (re : Reachable s) : Reachable s' := by
  obtain ⟨ops, run⟩ := le
  exact run.reachable re

end System.Leads

/-- What holds at the start and is kept by every operation holds in every reachable system. -/
lemma Reachable.induction {P : System → Prop} (start : ∀ stamp, P (System.start stamp))
    (next : ∀ s op, P s → s.Permits op → P (s.next op)) {s : System} (re : Reachable s) : P s := by
  obtain ⟨stamp, ops, run⟩ := re
  induction run with
  | nil => exact start stamp
  | snoc _ ok ih => exact next _ _ ih ok

/-! ## Small runs -/

/-- The operations of a small run: a job of two maps and a reduce, whose first map fails once and
whose success is then reported twice. -/
def sampleOperations : List Operation :=
  let clock := Instant.ofSeconds 0
  let job := "job_202601020304_0001"
  let records := Counters.empty.increment Counters.taskGroup Counters.mapInputRecords 7
  let report (id : AttemptId) (success : Bool) : Operation :=
    .complete ⟨id, success, records, []⟩ (.still clock)
  [.newJobId clock,
    .submit job ⟨"wc", "ana", ["/datos"], 1, .normal, none⟩ 1024 10 clock,
    .installTasks job [⟨"/datos/a", 0, 10, ["h1"]⟩, ⟨"/datos/b", 0, 10, []⟩],
    .register "t1" ⟨"h1", 1, 1⟩ clock,
    .assign "t1" clock,
    report "attempt_202601020304_0001_m_000000_0" false,
    .assign "t1" clock,
    report "attempt_202601020304_0001_m_000000_1" true,
    report "attempt_202601020304_0001_m_000000_1" true,
    .assign "t1" clock,
    report "attempt_202601020304_0001_m_000001_0" true,
    .assign "t1" clock,
    report "attempt_202601020304_0001_r_000000_0" true]

/-- The system after the small run. -/
def sampleSystem : System := (System.start "202601020304").after sampleOperations

/-- The sample operations are permitted. -/
lemma sample_run : Run (System.start "202601020304") sampleOperations sampleSystem :=
  .of_permitsAll (by decide +kernel)

/-- The sample system is reachable. -/
lemma sample_reachable : Reachable sampleSystem := ⟨_, _, sample_run⟩

/-- The name of the first job of a coordinator. -/
def oneMapJob : JobId := "job_202601020304_0001"

/-- The name of the first attempt at its first map. -/
def oneMapAttempt : AttemptId := "attempt_202601020304_0001_m_000000_0"

/-- A coordinator with a job of one map. -/
def oneMapSystem : System :=
  let clock := Instant.ofSeconds 0
  (System.start "202601020304").after [.newJobId clock,
    .submit oneMapJob ⟨"wc", "ana", ["/datos"], 0, .normal, none⟩ 1024 10 clock,
    .installTasks oneMapJob [⟨"/datos/a", 0, 10, []⟩]]

/-- The sample system with one map is reachable. -/
lemma oneMap_reachable : Reachable oneMapSystem :=
  ⟨"202601020304", _, .of_permitsAll (by decide +kernel)⟩

end JobCluster.Coordinator
