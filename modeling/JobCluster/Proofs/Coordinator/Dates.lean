import JobCluster.Proofs.Coordinator.Moves

/-!
# Where the times of jobs come from

The times that a job and its tasks bear are readings of the clock by the operations that came
(`Run.dated`). A step writes no time but that of its move (`Job.Step.dated`).
-/

namespace JobCluster.Coordinator

open JobCluster.Time

variable {P : Instant → Prop} {now : Instant}

/-! ## Tasks -/

namespace Task

/-- The times of a task are as wanted. -/
structure Dated (P : Instant → Prop) (t : Task) : Prop where
  startTime : ∀ i ∈ t.startTime, P i
  finishTime : ∀ i ∈ t.finishTime, P i

/-- A new task has no dates. -/
lemma Dated.new (job : JobId) (kind : TaskKind) (index : UInt32) (split : Option InputSplit) :
    (Task.new job kind index split).Dated P :=
  ⟨nofun, nofun⟩

variable {t : Task}

/-- A launch is dated by the clock. -/
lemma Dated.launch (clock : P now) (dated : t.Dated P) (tracker : TrackerId) (host : String) :
    (t.launch tracker host now).Dated P where
  startTime i mem := by
    rcases Option.or_eq_some_iff.1 mem with mem | ⟨-, mem⟩
    · exact dated.startTime i mem
    · cases mem
      exact clock
  finishTime := dated.finishTime

/-- The end of a task is dated by the clock. -/
lemma Dated.settle (clock : P now) (dated : t.Dated P) (o : Outcome) (cs : Counters) :
    (t.settle o cs now).Dated P := by
  have ended : ∀ i ∈ some now, P i := by
    rintro i ⟨⟩
    exact clock
  cases o with
  | succeeded => exact ⟨dated.startTime, ended⟩
  | killed => exact ⟨dated.startTime, dated.finishTime⟩
  | failed =>
    rw [Task.settle]
    split_ifs
    · exact ⟨dated.startTime, ended⟩
    · exact ⟨dated.startTime, dated.finishTime⟩

/-- The end of an attempt is dated by the clock. -/
lemma Dated.closed (clock : P now) (dated : t.Dated P) (a : Attempt) (o : Outcome) (cs : Counters)
    (notes : List String) : (t.closed a o cs notes now).Dated P :=
  have replaced : (t.replaceAttempt (a.close o now notes)).Dated P :=
    ⟨dated.startTime, dated.finishTime⟩
  replaced.settle clock o cs

/-- The ends of the attempts of a stopped task are dated by the clock. -/
lemma Dated.abort (clock : P now) (dated : t.Dated P) (reason : String) :
    (t.abort reason now).Dated P := by
  rw [Task.abort]
  split_ifs
  · refine ⟨dated.startTime, ?_⟩
    rintro i ⟨⟩
    exact clock
  · exact dated

end Task

/-! ## Jobs -/

namespace Job

/-- The times of a job and of its tasks are as wanted. -/
structure Dated (P : Instant → Prop) (j : Job) : Prop where
  submittedAt : P j.profile.submittedAt
  finishTime : ∀ i ∈ j.finishTime, P i
  tasks : ∀ t ∈ j.allTasks, t.Dated P

/-- The readings of the clock that a move is made with. -/
def Move.clocks : Move → List Instant
  | .install _ => []
  | .failInit now | .launch _ _ _ _ _ now | .closeIdle now => [now]
  | .kill _ clock | .close _ _ _ _ _ _ clock => [clock.first, clock.second]

variable {j j' : Job}

/-- A new job is dated by the clock. -/
lemma Dated.new (id : JobId) (d : JobDescriptor) (clock : P now) : (Job.new id d now).Dated P :=
  ⟨clock, nofun, List.forall_mem_nil _⟩

/-- What agrees with a job has its dates. -/
lemma Agree.dated (ag : Agree j j') (dated : j.Dated P) : j'.Dated P where
  submittedAt := ag.profile ▸ dated.submittedAt
  finishTime := ag.finishTime ▸ dated.finishTime
  tasks := ag.allTasks ▸ dated.tasks

/-- The end of a job is dated by the clock. -/
lemma Dated.finish (clock : P now) (dated : j.Dated P) (s : JobState) :
    (j.finish s now).Dated P where
  submittedAt := dated.submittedAt
  finishTime := by
    rintro i ⟨⟩
    exact clock
  tasks := dated.tasks

/-- A job stays dated when one of its tasks is replaced by a dated one. -/
lemma Dated.setTask {kind : TaskKind} {index : Nat} {t t' : Task}
    (pick : (j.tasks kind)[index]? = some t) (dated : j.Dated P) (task : t'.Dated P) :
    (j.setTask kind index t').Dated P where
  submittedAt := by cases kind <;> exact dated.submittedAt
  finishTime := by rw [setTask_finishTime]; exact dated.finishTime
  tasks x mem := by
    rcases mem_setTask pick mem with rfl | mem
    · exact task
    · exact dated.tasks x mem

/-- The ends of the attempts of a stopped job are dated by the clock. -/
lemma Dated.abort (clock : P now) (dated : j.Dated P) (reason : String) :
    (j.abort reason now).1.Dated P := by
  refine (agree_abort j reason now).dated ⟨dated.submittedAt, dated.finishTime, fun t mem => ?_⟩
  rw [allTasks_allAborted] at mem
  obtain ⟨x, memx, rfl⟩ := List.mem_map.1 mem
  exact (dated.tasks x memx).abort clock reason

/-- A step writes no times but those of its move. -/
theorem Step.dated {m : Move} (st : Step j m j') (read : ∀ i ∈ m.clocks, P i)
    (dated : j.Dated P) : j'.Dated P := by
  cases st with
  | install =>
    refine ⟨dated.submittedAt, dated.finishTime, fun t mem => ?_⟩
    obtain ⟨kind, i, split, rfl⟩ := mem_install mem
    exact .new ..
  | failInit | closeIdle => exact dated.finish (List.forall_mem_singleton.1 read) _
  | @kill reason clock _ =>
    have first : P clock.first := read _ List.mem_cons_self
    have second : P clock.second := read _ (List.mem_cons_of_mem _ List.mem_cons_self)
    exact (dated.abort first _).finish second _
  | launch _ pick _ _ _ =>
    exact (agree_launched ..).dated (dated.setTask pick
      ((dated.tasks _ (mem_of_pick pick)).launch (List.forall_mem_singleton.1 read) _ _))
  | @close kind index t _ a o cs notes clock pick _ _ =>
    have first : P clock.first := read _ List.mem_cons_self
    have second : P clock.second := read _ (List.mem_cons_of_mem _ List.mem_cons_self)
    have closed := (dated.tasks t (mem_of_pick pick)).closed first a o cs notes
    have recorded := (agree_recorded j kind index t a o cs notes clock.first).dated
      (dated.setTask pick closed)
    exact conclude_induction recorded (fun k s here => here.finish first s)
      fun reason => recorded.abort second reason

end Job

/-! ## Runs -/

/-- The readings of the clock that an operation is done with. -/
def Operation.clocks : Operation → List Instant
  | .markRunning | .installTasks .. => []
  | .newJobId now | .expireReservations now _ | .submit _ _ _ _ now | .failInit _ now
  | .register _ _ now | .heartbeat _ now | .assign _ now | .finishIdle now => [now]
  | .killJob _ clock | .killAttempt _ _ clock | .complete _ clock => [clock.first, clock.second]
  | .sweep now _ lost clock => now :: lost.map fun e => clock e.1

/-- The readings of a move are those of the operation that makes it. -/
lemma Operation.Admits.clocks {op : Operation} {id : JobId} {m : Job.Move}
    (ad : op.Admits id m) : m.clocks ⊆ op.clocks := by
  cases ad with
  | installTasks => exact List.nil_subset _
  | failInit | killJob | killAttempt | assign | complete | finishIdle => exact List.Subset.refl _
  | @sweep now timeout lost clock job kind index id named =>
    obtain ⟨e, mem, rfl⟩ := List.mem_map.1 named
    have read : clock e.1 ∈ lost.map fun e => clock e.1 := List.mem_map_of_mem mem
    refine List.cons_subset.2 ⟨List.mem_cons_of_mem _ read, ?_⟩
    exact List.cons_subset.2 ⟨List.mem_cons_of_mem _ read, List.nil_subset _⟩

/-- The times of jobs are those that operations read from the clock. -/
theorem Run.dated {stamp : String} {ops : List Operation} {s : System}
    (run : Run (.start stamp) ops s) (clocks : ∀ op ∈ ops, ∀ i ∈ op.clocks, P i) :
    ∀ j ∈ s.coordinator.jobs, j.Dated P := by
  induction run with
  | nil => exact List.forall_mem_nil _
  | @snoc ops s op run ok ih =>
    obtain ⟨before, clock⟩ := List.forall_mem_append.1 clocks
    have all := ih before
    have clock : ∀ i ∈ op.clocks, P i := clock op List.mem_cons_self
    have lw : s.Lawful := Reachable.lawful ⟨stamp, ops, run⟩
    generalize (s.next op).coordinator.jobs = js', lw.changes ok = ch
    cases ch with
    | moves pf ad _ =>
      exact pf.forall_of_mem
        (fun j m j' mem st => st.dated fun i read => clock i ((ad _ mem).clocks read)) all
    | @added id d _ _ now e _ =>
      refine List.forall_mem_append.2 ⟨all, List.forall_mem_singleton.2 (.new id d (clock now ?_))⟩
      rw [e]
      exact List.mem_cons_self

end JobCluster.Coordinator
