import JobCluster.Proofs.Job.Attempts
import Mathlib.Algebra.Order.Field.Basic
import Mathlib.Algebra.Order.Ring.Rat
import Mathlib.Data.List.Forall2

/-!
# Progress of a job

A task that is done is never touched again: `Step.advances` says that each step of a job leaves the
tasks that are done as they are, at their places. So the count of tasks that are done never falls
(`Advances.completed_le`), and neither does the part of the tasks that is done
(`Advances.fraction_le`).

`Barred` is the barrier between maps and reduces: where a reduce was attempted, all maps are done.
It is checked only when a reduce is launched; that it holds afterwards rests on `Step.keepsDone`.

`Unfinished.fraction_iff` says that all is done only of a job that has succeeded. An abort finishes
nothing, so a job that failed or was killed keeps a task that is not done, unless it has none.
-/

namespace JobCluster.Coordinator

open JobCluster.Number JobCluster.Time

namespace Task

/-- A task is left as it is if it is done. -/
def Keeps (t t' : Task) : Prop := t.state = .complete → t' = t

instance : Std.Refl Keeps := ⟨fun _ _ => rfl⟩

lemma Keeps.trans {t t' t'' : Task} (kp : t.Keeps t') (kp' : t'.Keeps t'') : t.Keeps t'' := by
  intro complete
  cases kp complete
  exact kp' complete

/-- Stopping a task keeps it if it is complete. -/
lemma keeps_abort (t : Task) (reason : String) (now : Instant) :
    t.Keeps (t.abort reason now) := by
  intro complete
  apply abort_of_not_isOpen
  rw [isOpen, complete]
  rfl

/-- Stopping completes no task. -/
lemma abort_ne_complete {t : Task} (no : t.state ≠ .complete) (reason : String) (now : Instant) :
    (t.abort reason now).state ≠ .complete := by
  cases op : t.isOpen with
  | true =>
    rw [abort_state reason now op]
    exact nofun
  | false =>
    rw [abort_of_not_isOpen now reason op]
    exact no

end Task

namespace Job

/-! ## What is done stays done -/

/-- A job that keeps its tasks, and those that are done as they are. -/
def KeepsDone (j j' : Job) : Prop :=
  ∀ kind, List.Forall₂ Task.Keeps (j.tasks kind) (j'.tasks kind)

section Keeps

variable {j j' j'' : Job}

lemma KeepsDone.refl (j : Job) : j.KeepsDone j :=
  fun _ => List.forall₂_refl _

/-- Keeping tasks one by one is transitive. -/
lemma forall₂_trans {ts ts' ts'' : List Task} (kp : List.Forall₂ Task.Keeps ts ts')
    (kp' : List.Forall₂ Task.Keeps ts' ts'') : List.Forall₂ Task.Keeps ts ts'' := by
  induction kp generalizing ts'' with
  | nil => exact kp'
  | cons here _ ih =>
    cases kp' with
    | cons here' rest' => exact .cons (here.trans here') (ih rest')

lemma KeepsDone.trans (kd : j.KeepsDone j') (kd' : j'.KeepsDone j'') : j.KeepsDone j'' :=
  fun kind => forall₂_trans (kd kind) (kd' kind)

/-- What agrees with a job keeps its complete tasks. -/
lemma Agree.keepsDone (ag : Agree j j') : j.KeepsDone j' := by
  intro kind
  rw [ag.tasks]
  exact List.forall₂_refl _

/-- If one task is replaced by one that keeps it, all are kept. -/
lemma forall₂_set {ts : List Task} {i : Nat} {t t' : Task} (pick : ts[i]? = some t)
    (here : t.Keeps t') : List.Forall₂ Task.Keeps ts (ts.set i t') := by
  induction ts generalizing i with
  | nil => exact .nil
  | cons x ts ih =>
    cases i with
    | zero =>
      cases pick
      exact .cons here (List.forall₂_refl _)
    | succ i => exact .cons (Std.Refl.refl x) (ih pick)

/-- A job keeps its complete tasks when one is replaced by one that keeps it. -/
lemma keepsDone_setTask {kind : TaskKind} {i : Nat} {t t' : Task}
    (pick : (j.tasks kind)[i]? = some t) (here : t.Keeps t') :
    j.KeepsDone (j.setTask kind i t') := by
  intro kind'
  by_cases same : kind' = kind
  · cases same
    rw [tasks_setTask]
    exact forall₂_set pick here
  · rw [tasks_setTask_ne j same]
    exact List.forall₂_refl _

/-- Stopping a job keeps its complete tasks. -/
lemma keepsDone_abort (j : Job) (reason : String) (now : Instant) :
    j.KeepsDone (j.abort reason now).1 := by
  have all : j.KeepsDone (j.allAborted reason now) := by
    intro kind
    rw [tasks_allAborted, List.forall₂_map_right_iff]
    exact List.forall₂_same.2 fun t _ => t.keeps_abort reason now
  exact all.trans (agree_abort _ _ _).keepsDone

/-- Ending a job keeps its complete tasks. -/
lemma keepsDone_finish (j : Job) (s : JobState) (now : Instant) : j.KeepsDone (j.finish s now) := by
  intro kind
  cases kind <;> exact List.forall₂_refl _

/-- A task at which an attempt runs is not done. -/
lemma Lawful.ne_complete_of_running (lw : j.Lawful) {t : Task} (mem : t ∈ j.allTasks) {a : Attempt}
    (mema : a ∈ t.attempts) (run : a.isRunning) : t.state ≠ .complete := by
  obtain ⟨past, -, st, -⟩ := (lw.tasks t mem).last_running mema run
  rw [st]
  exact nofun

/-- A job in preparation has no tasks. -/
lemma Lawful.started (lw : j.Lawful) {t : Task} (mem : t ∈ j.allTasks) : j.state ≠ .prep := by
  intro prep
  rw [lw.allTasks_of_prep prep] at mem
  cases mem

/-- No step of a job that was given its tasks touches one that is done. -/
theorem Step.keepsDone {m : Move} (st : Step j m j') (lw : j.Lawful) (started : j.state ≠ .prep) :
    j.KeepsDone j' := by
  cases st with
  | install prep | failInit prep => exact absurd prep started
  | kill => exact (keepsDone_abort _ _ _).trans (keepsDone_finish _ _ _)
  | launch _ pick pending =>
    apply (keepsDone_setTask pick ?_).trans (agree_launched ..).keepsDone
    intro complete
    rw [pending] at complete
    cases complete
  | @close kind index t id a o cs notes clock pick found run =>
    have no := lw.ne_complete_of_running (mem_of_pick pick) (Task.attempt?_mem found).1 run
    have recorded : j.KeepsDone (j.recorded kind index t a o cs notes clock.first) :=
      (keepsDone_setTask pick fun complete => absurd complete no).trans
        (agree_recorded ..).keepsDone
    apply conclude_induction (P := fun k => j.KeepsDone k) recorded
    · exact fun k s kept => kept.trans (keepsDone_finish _ _ _)
    · exact fun reason => recorded.trans (keepsDone_abort _ _ _)
  | closeIdle => exact keepsDone_finish _ _ _

/-- How a job goes on: once it was given its tasks it keeps what is done, and once it has ended it
does not change. -/
structure Advances (j j' : Job) : Prop where
  started : j.state ≠ .prep → j'.state ≠ .prep
  kept : j.state ≠ .prep → j.KeepsDone j'
  frozen : j.isTerminal → j' = j

lemma Advances.refl (j : Job) : j.Advances j :=
  ⟨fun started => started, fun _ => .refl j, fun _ => rfl⟩

lemma Advances.trans (ad : j.Advances j') (ad' : j'.Advances j'') : j.Advances j'' := by
  refine ⟨fun started => ad'.started (ad.started started), fun started => ?_, fun terminal => ?_⟩
  · exact (ad.kept started).trans (ad'.kept (ad.started started))
  · cases ad.frozen terminal
    exact ad'.frozen terminal

/-- No state leads back to preparation. -/
lemma Follows.ne_prep {s s' : JobState} (fo : Follows s s') : s' ≠ .prep := by
  cases fo <;> exact nofun

/-- Every step of a job advances it. -/
theorem Step.advances {m : Move} (st : Step j m j') (lw : j.Lawful) : j.Advances j' := by
  refine ⟨fun started prep => ?_, st.keepsDone lw, fun terminal => ?_⟩
  · rcases st.follows lw with same | follows
    · exact started (same ▸ prep)
    · exact follows.ne_prep prep
  · rw [st.live lw] at terminal
    cases terminal

end Keeps

/-! ## The barrier -/

/-- Where a reduce was attempted, all maps are done. -/
def Barred (j : Job) : Prop :=
  ∀ i id, j.Has .reduce i id → ∀ t ∈ j.tasks .map, t.state = .complete

section Barrier

variable {j j' : Job} {kind : TaskKind} {i : Nat} {id : AttemptId}

/-- Tasks that are all complete are kept as they are. -/
lemma eq_of_keeps {ts ts' : List Task} (kp : List.Forall₂ Task.Keeps ts ts')
    (done : ∀ t ∈ ts, t.state = .complete) : ts' = ts := by
  induction kp with
  | nil => rfl
  | cons here _ ih =>
    rw [here (done _ List.mem_cons_self), ih fun t mem => done t (List.mem_cons_of_mem _ mem)]

/-- A job with an attempt is no longer in preparation. -/
lemma Has.started (h : j.Has kind i id) (lw : j.Lawful) : j.state ≠ .prep := by
  obtain ⟨t, pick, -⟩ := h
  exact lw.started (mem_of_pick pick)

/-- No step starts a reduce before the maps are done. -/
theorem Step.barred {m : Move} (st : Step j m j') (lw : j.Lawful) (br : j.Barred) :
    j'.Barred := by
  intro i id has
  have kept (started : j.state ≠ .prep) (done : ∀ t ∈ j.tasks .map, t.state = .complete) :
      ∀ t ∈ j'.tasks .map, t.state = .complete := by
    rw [eq_of_keeps (st.keepsDone lw started .map) done]
    exact done
  by_cases launches : m.IsLaunch
  · cases st with
    | launch run pick pending isLocal barrier =>
      rcases (has_launched pick ..).1 has with before | ⟨rfl, -, -⟩
      · exact kept (before.started lw) (br i id before)
      · apply kept
        · rw [run]
          exact nofun
        · -- a reduce is launched only behind the barrier
          have done := barrier rfl
          rw [mapsDone, List.all_eq_true] at done
          exact fun t mem => by simpa [Task.isComplete] using done t mem
    | install | failInit | kill | close | closeIdle => cases launches
  · have before := (st.has_iff lw launches).1 has
    exact kept (before.started lw) (br i id before)

end Barrier

/-! ## The part that is done -/

/-- How many tasks of a kind are done. -/
def completed (j : Job) (kind : TaskKind) : Nat := (j.tasks kind).countP Task.isComplete

/-- How many tasks of a kind are done, and of how many. Where there are none, the job itself is
counted. -/
def share (j : Job) (kind : TaskKind) : Nat × Nat :=
  match j.tasks kind with
  | [] => (if j.state = .succeeded then 1 else 0, 1)
  | ts => (ts.countP Task.isComplete, ts.length)

/-- The part of the tasks of a kind that is done. -/
def fraction (j : Job) (kind : TaskKind) : ℚ := (j.share kind).1 / (j.share kind).2

/-- What a client is told is that part as a rounded quotient. -/
lemma progress_eq (j : Job) (kind : TaskKind) :
    j.progress kind = .quotient single (j.share kind).1 (j.share kind).2 := by
  unfold progress share
  cases j.tasks kind with
  | nil =>
    by_cases succeeded : j.state = .succeeded
    · simp only [succeeded, if_true]
      decide +kernel
    · simp only [succeeded, if_false]
      decide +kernel
  | cons t ts => rfl

section Shares

variable {j j' : Job} {kind : TaskKind}

/-- Without tasks of a kind, its share is all or nothing, by the state of the job. -/
lemma share_of_nil (none : j.tasks kind = []) :
    j.share kind = (if j.state = .succeeded then 1 else 0, 1) := by
  rw [share, none]

/-- With tasks of a kind, its share is the part of them that is complete. -/
lemma share_of_ne_nil (some : j.tasks kind ≠ []) :
    j.share kind = (j.completed kind, (j.tasks kind).length) := by
  unfold share completed
  cases e : j.tasks kind with
  | nil => exact absurd e some
  | cons t ts => rfl

/-- A share never divides by zero. -/
lemma share_pos (j : Job) (kind : TaskKind) : 0 < (j.share kind).2 := by
  by_cases none : j.tasks kind = []
  · rw [share_of_nil none]
    exact Nat.one_pos
  · rw [share_of_ne_nil none]
    exact List.length_pos_iff.2 none

/-- The part is one where all is done. -/
lemma fraction_eq_one : j.fraction kind = 1 ↔ (j.share kind).1 = (j.share kind).2 := by
  have pos : ((j.share kind).2 : ℚ) ≠ 0 := Nat.cast_ne_zero.2 (j.share_pos kind).ne'
  rw [fraction, div_eq_one_iff_eq pos, Nat.cast_inj]

/-- The number of complete tasks does not go down. -/
lemma countP_le_of_keeps {ts ts' : List Task} (kp : List.Forall₂ Task.Keeps ts ts') :
    ts.countP Task.isComplete ≤ ts'.countP Task.isComplete := by
  induction kp with
  | nil => exact Nat.le_refl _
  | @cons t t' ts ts' here _ ih =>
    rw [List.countP_cons, List.countP_cons]
    by_cases complete : t.isComplete
    · rw [here (by simpa [Task.isComplete] using complete)]
      exact Nat.add_le_add_right ih _
    · rw [if_neg complete]
      exact Nat.le_trans ih (Nat.le_add_right _ _)

/-- The count of tasks that are done never falls. -/
theorem Advances.completed_le (ad : j.Advances j') (lw : j.Lawful) (kind : TaskKind) :
    j.completed kind ≤ j'.completed kind := by
  by_cases prep : j.state = .prep
  · rw [completed, List.countP_eq_zero.2]
    · exact Nat.zero_le _
    · intro t mem
      exact absurd prep (lw.started (mem_allTasks.2 ⟨kind, mem⟩))
  · exact countP_le_of_keeps (ad.kept prep kind)

/-- The part of the tasks that is done never falls. -/
theorem Advances.fraction_le (ad : j.Advances j') (lw : j.Lawful) (kind : TaskKind) :
    j.fraction kind ≤ j'.fraction kind := by
  have nonneg : 0 ≤ j'.fraction kind := div_nonneg (Nat.cast_nonneg _) (Nat.cast_nonneg _)
  by_cases none : j.tasks kind = []
  · by_cases succeeded : j.state = .succeeded
    · rw [ad.frozen (by rw [isTerminal, succeeded]; rfl)]
    · rw [fraction, share_of_nil none, if_neg succeeded, Nat.cast_zero, zero_div]
      exact nonneg
  · obtain ⟨t, mem⟩ := List.exists_mem_of_ne_nil _ none
    have started := lw.started (mem_allTasks.2 ⟨kind, mem⟩)
    have length := (ad.kept started kind).length_eq
    have none' : j'.tasks kind ≠ [] := by
      intro none'
      rw [none'] at length
      exact none (List.length_eq_zero_iff.1 length)
    rw [fraction, fraction, share_of_ne_nil none, share_of_ne_nil none', length]
    exact div_le_div_of_nonneg_right (Nat.cast_le.2 (ad.completed_le lw kind)) (Nat.cast_nonneg _)

end Shares

/-! ## All done is success -/

/-- A job that has not succeeded has a task that is not done, or none at all. -/
def Unfinished (j : Job) : Prop :=
  j.state ≠ .succeeded → j.allTasks ≠ [] → ∃ t ∈ j.allTasks, t.state ≠ .complete

section Success

variable {j j' : Job}

/-- A job that is not over has a task that is not complete, if it has any. -/
lemma Lawful.unfinished_of_live (lw : j.Lawful) (live : j.isTerminal = false) :
    j.Unfinished := by
  intro _ some
  cases state : j.state with
  | prep => exact absurd (lw.allTasks_of_prep state) some
  | running => exact lw.undone_of_running state some
  | succeeded | failed | killed =>
    rw [isTerminal, state] at live
    cases live

/-- An abort finishes nothing. -/
lemma undone_abort {t : Task} (mem : t ∈ j.allTasks) (no : t.state ≠ .complete) (reason : String)
    (now : Instant) : ∃ t' ∈ (j.abort reason now).1.allTasks, t'.state ≠ .complete := by
  refine ⟨t.abort reason now, ?_, Task.abort_ne_complete no reason now⟩
  rw [(agree_abort ..).allTasks, allTasks_allAborted]
  exact List.mem_map_of_mem mem

/-- No step completes the last task without a success of the job. -/
theorem Step.unfinished {m : Move} (st : Step j m j') (lw : j.Lawful) (un : j.Unfinished) :
    j'.Unfinished := by
  have lw' := st.lawful lw
  cases st with
  | install => exact lw'.unfinished_of_live rfl
  | failInit prep => exact fun _ some => absurd (lw.allTasks_of_prep prep) some
  | @kill reason clock live =>
    intro _ some
    have some : j.allTasks ≠ [] := by
      intro none
      apply some
      show (j.abort reason clock.first).1.allTasks = []
      rw [(agree_abort ..).allTasks, allTasks_allAborted, none]
      rfl
    have notSucceeded : j.state ≠ .succeeded := by
      intro succeeded
      rw [isTerminal, succeeded] at live
      cases live
    obtain ⟨t, mem, no⟩ := un notSucceeded some
    exact undone_abort mem no reason clock.first
  | launch run =>
    apply lw'.unfinished_of_live
    apply live_of_running
    rw [(agree_launched ..).state, setTask_state, run]
  | @close kind index t id a o cs notes clock pick found run =>
    -- the job fails by this task, succeeds, or goes on
    obtain ⟨failed, e⟩ | ⟨-, -, e⟩ | ⟨-, -, e⟩ :=
      conclude_cases (j.recorded kind index t a o cs notes clock.first)
        (t.closed a o cs notes clock.first) clock
    · rw [e]
      intro _ _
      apply undone_abort (t := t.closed a o cs notes clock.first)
      · rw [(agree_recorded ..).allTasks]
        exact mem_setTask_self pick _
      · rw [failed]
        decide
    · rw [e]
      exact fun no => absurd rfl no
    · rw [e] at lw' ⊢
      apply lw'.unfinished_of_live
      apply live_of_running
      rw [(agree_recorded ..).state, setTask_state]
      exact lw.running_of_attempt (mem_of_pick pick) (Task.attempt?_mem found).1 run
  | closeIdle => exact fun no => absurd rfl no

/-- All parts are one when a job has succeeded, and only then. -/
theorem Unfinished.fraction_iff (un : j.Unfinished) (lw : j.Lawful) :
    (∀ kind, j.fraction kind = 1) ↔ j.state = .succeeded := by
  constructor
  · intro all
    by_contra no
    -- a kind without tasks has its whole share in a job that succeeded only
    have some (kind : TaskKind) : j.tasks kind ≠ [] := by
      intro none
      have one := fraction_eq_one.1 (all kind)
      rw [share_of_nil none, if_neg no] at one
      cases one
    have complete : ∀ t ∈ j.allTasks, t.isComplete := by
      intro t mem
      obtain ⟨kind, mem⟩ := mem_allTasks.1 mem
      have one := fraction_eq_one.1 (all kind)
      rw [share_of_ne_nil (some kind)] at one
      exact List.countP_eq_length.1 one t mem
    have nonempty : j.allTasks ≠ [] := fun none => some .map (List.append_eq_nil_iff.1 none).1
    obtain ⟨t, mem, undone⟩ := un no nonempty
    exact undone (by simpa [Task.isComplete] using complete t mem)
  · intro succeeded kind
    rw [fraction_eq_one]
    by_cases none : j.tasks kind = []
    · rw [share_of_nil none, if_pos succeeded]
    · rw [share_of_ne_nil none]
      apply List.countP_eq_length.2
      intro t mem
      have complete := (lw.done_of_succeeded succeeded).2 t (mem_allTasks.2 ⟨kind, mem⟩)
      simp [Task.isComplete, complete]

end Success

end Job

end JobCluster.Coordinator
