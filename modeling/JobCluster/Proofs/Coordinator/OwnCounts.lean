import JobCluster.Proofs.Coordinator.Books
import JobCluster.Proofs.Coordinator.Placement
import JobCluster.Proofs.Coordinator.Totals
import JobCluster.Proofs.Coordinator.Unreported

/-!
# The counts of the coordinator and those of reports

The coordinator counts launches, failures, kills and places of a job in a group of its own. What a
client is told is merged from this group and the counters of the reports, whose groups are not
looked at. `own_counts_kept` says how far the two are apart: the group that is kept has the numbers
of attempts that were recorded, whatever was reported, in this run and in every run that differs
from it in reported counters only; the group that is told is the same unless a report that counts
has a count of it, and is too large by just that count otherwise (`forged_count_told`).
-/

namespace JobCluster.Coordinator

open JobCluster.Text JobCluster.Number JobCluster.Time

/-! ## What the coordinator counts -/

/-- A count that the coordinator keeps of a job. -/
inductive OwnCount where
  | launched (kind : TaskKind)
  | failed (kind : TaskKind)
  | killed (kind : TaskKind)
  | ran (isLocal : Bool)

namespace OwnCount

/-- The name of a count, in the group of the coordinator. -/
def name : OwnCount → String
  | .launched kind => launchedName kind
  | .failed kind => failedName kind
  | .killed kind => killedName kind
  | .ran isLocal => Counters.placement isLocal

/-- The number of attempts that a count is about. -/
def of (j : Job) : OwnCount → Nat
  | .launched kind => (j.attempts kind).length
  | .failed kind => (j.attempts kind).countP (·.state == .failed)
  | .killed kind => (j.attempts kind).countP (·.state == .killed)
  | .ran isLocal => j.ranBy isLocal

/-- The numbers of attempts do not depend on reported counters. -/
lemma of_unreported (j : Job) (f : OwnCount) : f.of j.unreported = f.of j := by
  have attempts (kind : TaskKind) : j.unreported.attempts kind = j.attempts kind := by
    rw [Job.attempts, Job.tasks_unreported, List.flatMap_map]
    rfl
  cases f with
  | launched kind | failed kind | killed kind => simp only [of, attempts]
  | ran l =>
    rw [of, Job.ranBy, Job.unreported, List.map_map]
    rfl

end OwnCount

namespace Job

/-- The counts that the coordinator keeps of a job are numbers of attempts. -/
lemma Balanced.counts {j : Job} (b : j.Balanced) (loc : j.Located) (lw : j.Lawful)
    (f : OwnCount) : Counts (j.counters.value Counters.jobGroup f.name) (f.of j) := by
  cases f with
  | launched kind => exact b.dispatched.launched kind
  | failed kind =>
    have ended := b.logged.countP_kind lw kind (s := .failed) nofun
    rw [OwnCount.of, ← ended]
    exact b.kept.failed.counts kind
  | killed kind =>
    have ended := b.logged.countP_kind lw kind (s := .killed) nofun
    rw [OwnCount.of, ← ended]
    exact b.kept.killed.counts kind
  | ran l => exact loc l

/-- No report that counts for a job has a count of the group of the coordinator. -/
def Spared (j : Job) (closings : List TaskCompletion) : Prop :=
  ∀ r ∈ closings, r.attemptId ∈ j.allAttempts.map Attempt.id → r.counters.Spares Counters.jobGroup

/-- The counts of the coordinator for a job, as they are kept and as they are told. Those that are
kept are numbers of attempts. Those that are told have in addition what the reports say of them that
completed tasks; where no report says anything of them, the group is told as it is kept. -/
structure KeepsCounts (j : Job) (closings : List TaskCompletion) (total : Counters) : Prop where
  kept : ∀ f : OwnCount, Counts (j.counters.value Counters.jobGroup f.name) (f.of j)
  told : ∀ f : OwnCount, Counts (total.value Counters.jobGroup f.name)
    (f.of j + ((j.allTasks.filter Task.isComplete).map fun t =>
      (t.counters.value Counters.jobGroup f.name).toNat).sum)
  reported : ∀ t ∈ j.allTasks, t.state = .complete →
    ∃ r ∈ closings, r.counters = t.counters ∧ ∃ a ∈ t.attempts, a.id = r.attemptId
  spared : j.Spared closings →
    total.groups.get? Counters.jobGroup = j.counters.groups.get? Counters.jobGroup

end Job

/-- In every run, the counts that the coordinator keeps of a job are told with what is reported of
them. -/
lemma Run.keepsCounts {stamp : String} {ops : List Operation} {s : System}
    (run : Run (System.start stamp) ops s) {id : JobId} {j : Job}
    (found : s.coordinator.job? id = some j) :
    j.KeepsCounts ((System.start stamp).closings ops) j.totalCounters := by
  have re : Reachable s := ⟨stamp, ops, run⟩
  have mem := (job?_mem found).1
  have lw := re.lawful.jobs j mem
  have kept := (re.balanced j mem).counts (re.located j mem) lw
  have total : j.totalCounters =
      ((j.allTasks.filter Task.isComplete).map Task.counters).foldl Counters.merge j.counters := by
    rw [Job.totalCounters, List.foldl_map]
  -- each complete task was completed by a report, whose counters it has
  have reported : ∀ t ∈ j.allTasks, t.state = .complete →
      ∃ r ∈ (System.start stamp).closings ops, r.counters = t.counters ∧
        ∃ a ∈ t.attempts, a.id = r.attemptId := by
    obtain ⟨report, rp⟩ := Job.Reports.exists_of_perm lw mem run.completions
    intro t memt complete
    obtain ⟨memr, a, mema, -, e, -⟩ := rp t memt complete
    obtain ⟨ea, ec⟩ := Prod.mk.inj e
    exact ⟨report t, memr, ec, a, mema, ea.symm⟩
  refine ⟨kept, fun f => ?_, reported, fun spared => ?_⟩
  · have own := kept f
    have sum := Counters.counts_foldl_merge j.counters
      ((j.allTasks.filter Task.isComplete).map Task.counters) Counters.jobGroup f.name
    rw [← total, List.map_map] at sum
    rw [Counts] at *
    simp only [Function.comp_def] at sum
    omega
  · rw [total]
    refine Counters.get?_foldl_merge _ fun cs memcs => ?_
    obtain ⟨t, memt, rfl⟩ := List.mem_map.1 memcs
    obtain ⟨memt, complete⟩ := List.mem_filter.1 memt
    obtain ⟨r, memr, ec, a, mema, ea⟩ := reported t memt (by simpa [Task.isComplete] using complete)
    rw [← ec]
    exact spared r memr (List.mem_map.2 ⟨a, List.mem_flatMap.2 ⟨t, memt, mema⟩, ea⟩)

/-- Runs that differ in reported counters only keep the same counts of each job. -/
lemma Run.keeps_alike {s s' : System} {ops ops' : List Operation} (run : Run s ops s')
    (same : ops'.map Operation.unreported = ops.map Operation.unreported) {id : JobId} {j : Job}
    (found : s'.coordinator.job? id = some j) :
    ∃ s'' j', Run s ops' s'' ∧ s''.coordinator.job? id = some j' ∧ j'.counters = j.counters ∧
      ∀ f : OwnCount, f.of j' = f.of j := by
  obtain ⟨s'', run', es⟩ := run.alike same
  have jobs := congrArg (fun s => s.coordinator.job? id) es
  simp only [System.unreported, job?_unreported, found, Option.map_some] at jobs
  obtain ⟨j', found', ej⟩ := Option.map_eq_some_iff.1 jobs
  have counters : j'.unreported.counters = j.unreported.counters := by rw [ej]
  refine ⟨s'', j', run', found', counters, fun f => ?_⟩
  rw [← f.of_unreported j', ej, f.of_unreported]

/-- In every run, the counts that the coordinator keeps of a job are the numbers of its attempts,
and are told with what is reported of them; and every other run with the same operations but for
reported counters is possible, keeps the same counts, and tells the same unless one of the runs has
a report of them. -/
theorem own_counts_kept {stamp : String} {ops : List Operation} {s : System}
    (run : Run (System.start stamp) ops s) {id : JobId} {j : Job}
    (found : s.coordinator.job? id = some j) :
    ∃ total, s.coordinator.jobCounters id = some total ∧
      j.KeepsCounts ((System.start stamp).closings ops) total ∧
      ∀ ops', ops'.map Operation.unreported = ops.map Operation.unreported →
        ∃ s' j' total', Run (System.start stamp) ops' s' ∧ s'.coordinator.job? id = some j' ∧
          s'.coordinator.jobCounters id = some total' ∧
          j'.KeepsCounts ((System.start stamp).closings ops') total' ∧
          j'.counters = j.counters ∧ (∀ f : OwnCount, f.of j' = f.of j) ∧
          (j.Spared ((System.start stamp).closings ops) →
            j'.Spared ((System.start stamp).closings ops') →
            total'.groups.get? Counters.jobGroup = total.groups.get? Counters.jobGroup) := by
  have told {s : System} {j : Job} (found : s.coordinator.job? id = some j) :
      s.coordinator.jobCounters id = some j.totalCounters := by
    rw [jobCounters, found]
    rfl
  have keeps := run.keepsCounts found
  refine ⟨j.totalCounters, told found, keeps, fun ops' same => ?_⟩
  -- the other run differs in what is reported, and the job does not count that
  obtain ⟨s', j', run', found', counters, counts⟩ := run.keeps_alike same found
  have keeps' := run'.keepsCounts found'
  refine ⟨s', j', j'.totalCounters, run', found', told found', keeps', counters, counts, ?_⟩
  intro spared spared'
  rw [keeps.spared spared, keeps'.spared spared', counters]

/-! ## Runs of one map -/

/-- The operations of a run of one map, whose end is reported with these counters. -/
def reportedOperations (cs : Counters) : List Operation :=
  let clock := Instant.ofSeconds 0
  [.newJobId clock,
    .submit oneMapJob ⟨"wc", "ana", ["/datos"], 0, .normal, none⟩ 1024 10 clock,
    .installTasks oneMapJob [⟨"/datos/a", 0, 10, ["h1"]⟩],
    .register "t1" ⟨"h1", 1, 0⟩ clock,
    .assign "t1" clock,
    .complete ⟨oneMapAttempt, true, cs, []⟩ (.still clock)]

/-- The system after such a run. -/
def reportedSystem (cs : Counters) : System :=
  (System.start "202601020304").after (reportedOperations cs)

/-- The sample operations are permitted, whatever is reported. -/
lemma reported_run (cs : Counters) :
    Run (System.start "202601020304") (reportedOperations cs) (reportedSystem cs) := by
  refine .of_permitsAll ⟨trivial, trivial, ?_, ?_, trivial, trivial, trivial⟩
  · decide +kernel
  · decide +kernel

lemma reported_alike (cs cs' : Counters) : (reportedOperations cs').map Operation.unreported =
    (reportedOperations cs).map Operation.unreported := rfl

/-- In runs of one map whose reports are of records that were read, the counts of the coordinator
are told as they are kept, and alike. -/
theorem sample_own_counts_kept :
    let records (n : UInt64) :=
      Counters.empty.increment Counters.taskGroup Counters.mapInputRecords n
    let closings (n : UInt64) :=
      (System.start "202601020304").closings (reportedOperations (records n))
    ∃ j total, (reportedSystem (records 7)).coordinator.job? oneMapJob = some j ∧
      (reportedSystem (records 7)).coordinator.jobCounters oneMapJob = some total ∧
      j.KeepsCounts (closings 7) total ∧
      total.groups.get? Counters.jobGroup = j.counters.groups.get? Counters.jobGroup ∧
      ∃ s' j' total', Run (System.start "202601020304") (reportedOperations (records 8)) s' ∧
        s'.coordinator.job? oneMapJob = some j' ∧
        s'.coordinator.jobCounters oneMapJob = some total' ∧
        j'.KeepsCounts (closings 8) total' ∧
        total'.groups.get? Counters.jobGroup = total.groups.get? Counters.jobGroup := by
  intro records closings
  -- neither report has counts in the job's own group
  have spares : (∀ r ∈ closings 7, r.counters.Spares Counters.jobGroup) ∧
      ∀ r ∈ closings 8, r.counters.Spares Counters.jobGroup := by decide +kernel
  obtain ⟨j, found⟩ := Option.isSome_iff_exists.1
    (show ((reportedSystem (records 7)).coordinator.job? oneMapJob).isSome by decide +kernel)
  obtain ⟨total, told, keeps, alike⟩ := own_counts_kept (reported_run (records 7)) found
  obtain ⟨s', j', total', run', found', told', keeps', -, -, same⟩ :=
    alike _ (reported_alike (records 7) (records 8))
  have spared : j.Spared (closings 7) := fun r mem _ => spares.1 r mem
  have spared' : j'.Spared (closings 8) := fun r mem _ => spares.2 r mem
  exact ⟨j, total, found, told, keeps, keeps.spared spared, s', j', total', run', found', told',
    keeps', same spared spared'⟩

/-- What a client is told of a count of the coordinator after a run of one map whose end is reported
with these counters. -/
def toldCount (cs : Counters) (f : OwnCount) : Option UInt64 :=
  ((reportedSystem cs).coordinator.jobCounters oneMapJob).map (·.value Counters.jobGroup f.name)

/-- The number of attempts that the count is about, and the count as it is kept. -/
def keptCount (cs : Counters) (f : OwnCount) : Option (Nat × UInt64) :=
  ((reportedSystem cs).coordinator.job? oneMapJob).map fun j =>
    (f.of j, j.counters.value Counters.jobGroup f.name)

/-- Two runs of one map that differ only in the counters of their report. In both one attempt was
launched and counted; but where the report has launches in the group of the coordinator, it is these
and the one that are told. -/
theorem forged_count_told :
    let forged := Counters.empty.increment Counters.jobGroup (launchedName .map) 41
    Run (System.start "202601020304") (reportedOperations Counters.empty)
      (reportedSystem Counters.empty) ∧
    Run (System.start "202601020304") (reportedOperations forged) (reportedSystem forged) ∧
    (reportedOperations forged).map Operation.unreported =
      (reportedOperations Counters.empty).map Operation.unreported ∧
    keptCount Counters.empty (.launched .map) = some (1, 1) ∧
    keptCount forged (.launched .map) = some (1, 1) ∧
    toldCount Counters.empty (.launched .map) = some 1 ∧
    toldCount forged (.launched .map) = some 42 :=
  ⟨reported_run _, reported_run _, rfl, by decide +kernel, by decide +kernel, by decide +kernel,
    by decide +kernel⟩

end JobCluster.Coordinator
