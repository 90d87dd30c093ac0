import JobCluster.Proofs.Job.Step
import Mathlib.Tactic.ByContra

/-!
# Phases of a job

`Job.Phase` relates the state of a job to the states of its tasks: a job in preparation has none, a
running job has tasks left to do or none at all, and a job that ended has no task that is open.
`Job.Lawful` adds that its tasks are lawful and named by their places, and that the time of its end
is set with its end.

The main statement is `Step.lawful`: every step keeps a job lawful. It rests on
`Lawful.running_of_attempt`: an attempt runs only in a running job, so the step that ends it never
overwrites the state of a job that has ended.
-/

namespace JobCluster.Coordinator.Job

open JobCluster.Time

/-- How the state of a job goes with the states of its tasks. The flag tells whether it was given
its tasks. -/
inductive Phase : JobState → Bool → List TaskState → Prop where
  | prep :
    Phase .prep false []
  | running {ss} :
    (∀ s ∈ ss, s ≠ .failed ∧ s ≠ .killed) →
    (ss ≠ [] → ∃ s ∈ ss, s ≠ .complete) →
    Phase .running true ss
  | succeeded {ss} :
    (∀ s ∈ ss, s = .complete) →
    Phase .succeeded true ss
  | failed {b ss} :
    (∀ s ∈ ss, s ≠ .pending ∧ s ≠ .running) →
    Phase .failed b ss
  | killed {b ss} :
    (∀ s ∈ ss, s = .complete ∨ s = .killed) →
    Phase .killed b ss

/-- A task is where its kind and its index say, and named by them. -/
structure Placed (job : JobId) (kind : TaskKind) (index : Nat) (t : Task) : Prop where
  kind_eq : t.kind = kind
  index_eq : t.index.toNat = index
  id_eq : t.id = Task.idOf job kind t.index

/-- What holds of a job at all times. -/
structure Lawful (j : Job) : Prop where
  placed : ∀ kind i t, (j.tasks kind)[i]? = some t → Placed j.id kind i t
  tasks : ∀ t ∈ j.allTasks, t.Lawful
  finishTime : j.finishTime.isSome = j.isTerminal
  phase : Phase j.state j.hasTasks (j.allTasks.map Task.state)

/-! ## What a phase tells -/

section Reading

variable {j : Job}

/-- A job in preparation has no tasks. -/
lemma Lawful.allTasks_of_prep (lw : j.Lawful) (prep : j.state = .prep) : j.allTasks = [] := by
  have ph := lw.phase
  rw [prep] at ph
  generalize e : j.allTasks.map Task.state = ss at ph
  generalize j.hasTasks = b at ph
  cases ph with
  | prep => exact List.map_eq_nil_iff.1 e

/-- A job that has not ended has no task that was given up or killed. -/
lemma Lawful.task_of_live (lw : j.Lawful) (live : j.isTerminal = false) :
    ∀ t ∈ j.allTasks, t.state ≠ .failed ∧ t.state ≠ .killed := by
  have ph := lw.phase
  intro t mem
  have mem' : t.state ∈ j.allTasks.map Task.state := List.mem_map_of_mem mem
  generalize es : j.state = s at ph
  generalize j.hasTasks = b at ph
  generalize j.allTasks.map Task.state = ss at ph mem'
  rw [isTerminal, es] at live
  cases ph with
  | prep => rw [lw.allTasks_of_prep es] at mem; cases mem
  | running ok _ => exact ok _ mem'
  | succeeded | failed | killed => cases live

/-- A job that has ended has no open task. -/
lemma Lawful.task_of_terminal (lw : j.Lawful) (terminal : j.isTerminal = true) :
    ∀ t ∈ j.allTasks, t.state ≠ .pending ∧ t.state ≠ .running := by
  have ph := lw.phase
  intro t mem
  have mem' : t.state ∈ j.allTasks.map Task.state := List.mem_map_of_mem mem
  generalize es : j.state = s at ph
  generalize j.hasTasks = b at ph
  generalize j.allTasks.map Task.state = ss at ph mem'
  rw [isTerminal, es] at terminal
  cases ph with
  | prep | running => cases terminal
  | succeeded ok => simp [ok _ mem']
  | failed ok => exact ok _ mem'
  | killed ok => rcases ok _ mem' with e | e <;> simp [e]

/-- A job with a running attempt is running. -/
lemma Lawful.running_of_attempt (lw : j.Lawful) {t : Task} (mem : t ∈ j.allTasks) {a : Attempt}
    (mema : a ∈ t.attempts) (run : a.isRunning) : j.state = .running := by
  obtain ⟨_, _, st, _⟩ := (lw.tasks t mem).last_running mema run
  by_cases terminal : j.isTerminal
  · exact absurd st (lw.task_of_terminal terminal t mem).2
  · cases es : j.state with
    | running => rfl
    | prep => rw [lw.allTasks_of_prep es] at mem; cases mem
    | succeeded | failed | killed => simp [isTerminal, es, JobState.isTerminal] at terminal

/-- A running job has its tasks. -/
lemma Lawful.hasTasks_of_running (lw : j.Lawful) (run : j.state = .running) :
    j.hasTasks = true := by
  have ph := lw.phase
  rw [run] at ph
  generalize j.hasTasks = b at ph
  cases ph with
  | running => rfl

/-- A running job that has tasks has one that is not done. -/
lemma Lawful.undone_of_running (lw : j.Lawful) (run : j.state = .running) (some : j.allTasks ≠ []) :
    ∃ t ∈ j.allTasks, t.state ≠ .complete := by
  have ph := lw.phase
  rw [run] at ph
  generalize ess : j.allTasks.map Task.state = ss at ph
  generalize j.hasTasks = b at ph
  cases ph with
  | running _ more =>
    obtain ⟨s, mem, ns⟩ := more (ess ▸ by simpa using some)
    obtain ⟨t, memt, rfl⟩ := List.mem_map.1 (ess ▸ mem)
    exact ⟨t, memt, ns⟩

/-- A job that has succeeded was given tasks, and all are done. -/
lemma Lawful.done_of_succeeded (lw : j.Lawful) (succeeded : j.state = .succeeded) :
    j.hasTasks = true ∧ ∀ t ∈ j.allTasks, t.state = .complete := by
  have ph := lw.phase
  rw [succeeded] at ph
  generalize ess : j.allTasks.map Task.state = ss at ph
  generalize j.hasTasks = b at ph
  cases ph with
  | succeeded ok => exact ⟨rfl, fun t mem => ok _ (ess ▸ List.mem_map_of_mem mem)⟩

/-- A running job is not over. -/
lemma live_of_running (run : j.state = .running) : j.isTerminal = false := by
  rw [isTerminal, run]
  rfl

end Reading

/-! ## What keeps a job lawful -/

/-- What agrees with a lawful job is lawful. -/
lemma Agree.lawful {j j' : Job} (ag : Agree j j') (lw : j.Lawful) : j'.Lawful where
  placed kind i t pick := by
    rw [ag.tasks] at pick
    exact ag.id ▸ lw.placed kind i t pick
  tasks := by rw [ag.allTasks]; exact lw.tasks
  finishTime := by rw [ag.finishTime, isTerminal, ag.state]; exact lw.finishTime
  phase := by rw [ag.state, ag.hasTasks, ag.allTasks]; exact lw.phase

/-- A new job is lawful. -/
lemma Lawful.new (id : JobId) (d : JobDescriptor) (now : Instant) : (Job.new id d now).Lawful where
  placed kind i t pick := by cases kind <;> cases pick
  tasks := List.forall_mem_nil _
  finishTime := rfl
  phase := .prep

/-- A job with lawful tasks ends lawfully, if its state fits theirs. -/
lemma Lawful.finish {j : Job} {s : JobState} {now : Instant}
    (placed : ∀ kind i t, (j.tasks kind)[i]? = some t → Placed j.id kind i t)
    (tasks : ∀ t ∈ j.allTasks, t.Lawful) (terminal : s.isTerminal)
    (phase : Phase s j.hasTasks (j.allTasks.map Task.state)) : (j.finish s now).Lawful where
  placed kind i t pick := placed kind i t (by cases kind <;> exact pick)
  tasks := tasks
  finishTime := terminal.symm
  phase := phase

/-- The tasks that a job is given are new. -/
lemma getElem?_install {j : Job} {splits : List InputSplit} {kind : TaskKind} {i : Nat} {t : Task}
    (pick : ((j.install splits).tasks kind)[i]? = some t) :
    ∃ split, t = Task.new j.id kind (.ofNat i) split := by
  cases kind with
  | map =>
    have pick : (splits.mapIdx fun i s => Task.new j.id .map (.ofNat i) (some s))[i]? = some t :=
      pick
    rw [List.getElem?_mapIdx] at pick
    obtain ⟨s, -, rfl⟩ := Option.map_eq_some_iff.1 pick
    exact ⟨some s, rfl⟩
  | reduce =>
    have pick : ((List.range j.profile.numReduces.toNat).map
        fun i => Task.new j.id .reduce (.ofNat i) none)[i]? = some t := pick
    rw [List.getElem?_map] at pick
    obtain ⟨k, hk, rfl⟩ := Option.map_eq_some_iff.1 pick
    obtain ⟨_, ek⟩ := List.getElem?_eq_some_iff.1 hk
    rw [List.getElem_range] at ek
    exact ⟨none, by rw [ek]⟩

/-- There is an index for each of the tasks that a job is given. -/
lemma length_tasks_install {j : Job} {splits : List InputSplit} (fits : splits.length ≤ UInt32.size)
    (kind : TaskKind) : ((j.install splits).tasks kind).length ≤ UInt32.size := by
  cases kind with
  | map =>
    show (splits.mapIdx _).length ≤ _
    rw [List.length_mapIdx]
    exact fits
  | reduce =>
    show ((List.range _).map _).length ≤ _
    rw [List.length_map, List.length_range]
    exact Nat.le_of_lt (UInt32.toNat_lt_size _)

/-- A task that a job is given is new, of whatever kind. -/
lemma mem_install {j : Job} {splits : List InputSplit} {t : Task}
    (mem : t ∈ (j.install splits).allTasks) : ∃ kind i split, t = Task.new j.id kind i split := by
  obtain ⟨kind, mem⟩ := mem_allTasks.1 mem
  obtain ⟨i, pick⟩ := List.mem_iff_getElem?.1 mem
  obtain ⟨split, e⟩ := getElem?_install pick
  exact ⟨kind, _, split, e⟩

/-- A job that is given its tasks is lawful. -/
lemma Lawful.install {j : Job} (lw : j.Lawful) (prep : j.state = .prep) {splits : List InputSplit}
    (fits : splits.length ≤ UInt32.size) : (j.install splits).Lawful := by
  have pending : ∀ s ∈ (j.install splits).allTasks.map Task.state, s = .pending := by
    intro s mem
    obtain ⟨t, memt, rfl⟩ := List.mem_map.1 mem
    obtain ⟨_, _, _, rfl⟩ := mem_install memt
    rfl
  refine ⟨?_, ?_, ?_, .running ?_ ?_⟩
  · intro kind i t pick
    have lt : i < UInt32.size :=
      Nat.lt_of_lt_of_le (List.getElem?_eq_some_iff.1 pick).1 (length_tasks_install fits kind)
    obtain ⟨_, rfl⟩ := getElem?_install pick
    exact ⟨rfl, UInt32.toNat_ofNat_of_lt lt, rfl⟩
  · intro t mem
    obtain ⟨_, _, _, rfl⟩ := mem_install mem
    exact .new ..
  · have := lw.finishTime
    rw [isTerminal, prep] at this
    exact this
  · intro s mem
    rw [pending s mem]
    exact ⟨nofun, nofun⟩
  · intro ne
    obtain ⟨s, mem⟩ := List.exists_mem_of_ne_nil _ ne
    exact ⟨s, mem, by rw [pending s mem]; nofun⟩

/-- The tasks of a job stay in place when one of them is changed. -/
lemma placed_setTask {j : Job} {kind : TaskKind} {index : Nat} {t t' : Task}
    (placed : ∀ kind i t, (j.tasks kind)[i]? = some t → Placed j.id kind i t)
    (pick : (j.tasks kind)[index]? = some t) (eid : t'.id = t.id) (ekind : t'.kind = t.kind)
    (eindex : t'.index = t.index) :
    ∀ k i x, ((j.setTask kind index t').tasks k)[i]? = some x →
      Placed (j.setTask kind index t').id k i x := by
  intro k i x hx
  rw [setTask_id]
  by_cases ek : k = kind
  case neg => exact placed k i x (by rwa [tasks_setTask_ne _ ek] at hx)
  subst ek
  rw [tasks_setTask, List.getElem?_set] at hx
  split at hx
  · next ei =>
    subst ei
    split at hx
    · cases hx
      obtain ⟨hk, hi, hid⟩ := placed k index t pick
      exact ⟨ekind.trans hk, eindex ▸ hi, eindex ▸ eid.trans hid⟩
    · cases hx
  · exact placed k i x hx

/-- Closing all attempts leaves the tasks in their places. -/
lemma placed_allAborted {j : Job} (reason : String) (now : Instant)
    (placed : ∀ kind i t, (j.tasks kind)[i]? = some t → Placed j.id kind i t) :
    ∀ k i x, ((j.allAborted reason now).tasks k)[i]? = some x →
      Placed (j.allAborted reason now).id k i x := by
  intro k i x hx
  rw [tasks_allAborted, List.getElem?_map] at hx
  obtain ⟨t, pick, rfl⟩ := Option.map_eq_some_iff.1 hx
  obtain ⟨hk, hi, hid⟩ := placed k i t pick
  exact ⟨by simpa using hk, by simpa using hi, by rw [Task.abort_id, Task.abort_index]; exact hid⟩

/-- Closing all attempts leaves the tasks lawful. -/
lemma tasks_allAborted_lawful {j : Job} (reason : String) (now : Instant)
    (tasks : ∀ t ∈ j.allTasks, t.Lawful) : ∀ t ∈ (j.allAborted reason now).allTasks, t.Lawful := by
  intro t mem
  rw [allTasks_allAborted] at mem
  obtain ⟨x, memx, rfl⟩ := List.mem_map.1 mem
  exact (tasks x memx).abort reason now

/-- Once all attempts are closed, no task waits or runs. -/
lemma state_allAborted (j : Job) (reason : String) (now : Instant) :
    ∀ s ∈ (j.allAborted reason now).allTasks.map Task.state, s ≠ .pending ∧ s ≠ .running := by
  intro s mem
  rw [allTasks_allAborted, List.map_map] at mem
  obtain ⟨x, -, rfl⟩ := List.mem_map.1 mem
  refine not_or.1 fun op => ?_
  have shut := Task.abort_isOpen x reason now
  rw [Task.isOpen_iff.2 op] at shut
  cases shut

/-- A job that fails with its tasks aborted is lawful. -/
lemma Lawful.abort_failed {j : Job} (reason : String) (now later : Instant)
    (placed : ∀ kind i t, (j.tasks kind)[i]? = some t → Placed j.id kind i t)
    (tasks : ∀ t ∈ j.allTasks, t.Lawful) :
    ((j.abort reason now).1.finish .failed later).Lawful := by
  have ag := agree_abort j reason now
  refine .finish (fun kind i t pick => ?_) ?_ rfl ?_
  · rw [ag.tasks] at pick
    exact ag.id ▸ placed_allAborted reason now placed kind i t pick
  · rw [ag.allTasks]
    exact tasks_allAborted_lawful reason now tasks
  · rw [ag.allTasks]
    exact .failed (state_allAborted j reason now)

/-- A job that is killed before its end is lawful. -/
lemma Lawful.kill {j : Job} (lw : j.Lawful) (live : j.isTerminal = false) (reason : String)
    (now later : Instant) : ((j.abort reason now).1.finish .killed later).Lawful := by
  have ag := agree_abort j reason now
  refine .finish (fun kind i t pick => ?_) ?_ rfl (.killed ?_)
  · rw [ag.tasks] at pick
    exact ag.id ▸ placed_allAborted reason now lw.placed kind i t pick
  · rw [ag.allTasks]
    exact tasks_allAborted_lawful reason now lw.tasks
  · intro s mem
    rw [ag.allTasks, allTasks_allAborted, List.map_map] at mem
    obtain ⟨t, memt, rfl⟩ := List.mem_map.1 mem
    by_cases op : t.isOpen
    · exact .inr (Task.abort_state reason now op)
    · -- a task that is not open was complete, since the job had not ended
      have shut : t.isOpen = false := by simpa using op
      obtain ⟨notFailed, notKilled⟩ := lw.task_of_live live t memt
      rw [Function.comp_apply, Task.abort_of_not_isOpen now reason shut]
      cases es : t.state with
      | complete => exact .inl rfl
      | pending | running => simp [Task.isOpen, es] at shut
      | failed => exact absurd es notFailed
      | killed => exact absurd es notKilled

/-- A job stays lawful when a pending task of it is launched. -/
lemma Lawful.launched {j : Job} (lw : j.Lawful) (run : j.state = .running) {kind : TaskKind}
    {index : Nat} {t : Task} (pick : (j.tasks kind)[index]? = some t) (pending : t.state = .pending)
    (isLocal : Option Bool) (tracker : TrackerId) (host : String) (now : Instant) :
    (j.launched kind index t isLocal tracker host now).Lawful := by
  apply (agree_launched ..).lawful
  have live := live_of_running run
  refine ⟨placed_setTask lw.placed pick rfl rfl rfl, ?_, ?_, ?_⟩
  · intro x mem
    rcases mem_setTask pick mem with rfl | mem
    · exact (lw.tasks t (mem_of_pick pick)).launch pending tracker host now
    · exact lw.tasks x mem
  · rw [setTask_finishTime, isTerminal, setTask_state]
    exact lw.finishTime
  · rw [setTask_state, setTask_hasTasks, run, lw.hasTasks_of_running run]
    refine .running ?_ fun _ => ⟨.running, ?_, nofun⟩
    · intro s mem
      obtain ⟨x, memx, rfl⟩ := List.mem_map.1 mem
      rcases mem_setTask pick memx with rfl | memx
      · exact ⟨nofun, nofun⟩
      · exact lw.task_of_live live x memx
    · exact List.mem_map.2 ⟨_, mem_setTask_self pick _, rfl⟩

/-- The tasks of a job stay in place when an attempt at one of them ends. -/
lemma placed_recorded {j : Job} {kind : TaskKind} {index : Nat} {t : Task}
    (placed : ∀ kind i t, (j.tasks kind)[i]? = some t → Placed j.id kind i t)
    (pick : (j.tasks kind)[index]? = some t) (a : Attempt) (o : Outcome) (cs : Counters)
    (notes : List String) (now : Instant) :
    ∀ k i x, ((j.recorded kind index t a o cs notes now).tasks k)[i]? = some x →
      Placed (j.recorded kind index t a o cs notes now).id k i x := by
  have ag := agree_recorded j kind index t a o cs notes now
  intro k i x hx
  rw [ag.tasks] at hx
  exact ag.id ▸ placed_setTask placed pick (Task.closed_id ..) (Task.closed_kind ..)
    (Task.closed_index ..) k i x hx

/-- Lawful tasks stay so when a running attempt at one of them ends. -/
lemma tasks_recorded_lawful {j : Job} {kind : TaskKind} {index : Nat} {t : Task} {a : Attempt}
    (tasks : ∀ t ∈ j.allTasks, t.Lawful) (pick : (j.tasks kind)[index]? = some t)
    (mema : a ∈ t.attempts) (running : a.isRunning) (o : Outcome) (cs : Counters)
    (notes : List String) (now : Instant) :
    ∀ x ∈ (j.recorded kind index t a o cs notes now).allTasks, x.Lawful := by
  intro x mem
  rw [(agree_recorded ..).allTasks] at mem
  rcases mem_setTask pick mem with rfl | mem
  · exact (tasks t (mem_of_pick pick)).closed mema running o cs notes now
  · exact tasks x mem

/-- A job that goes on after the end of a running attempt is lawful. -/
lemma Lawful.recorded {j : Job} (lw : j.Lawful) {kind : TaskKind} {index : Nat} {t : Task}
    {a : Attempt} (pick : (j.tasks kind)[index]? = some t) (mema : a ∈ t.attempts)
    (running : a.isRunning) {o : Outcome} {cs : Counters} {notes : List String} {now : Instant}
    (notFailed : (t.closed a o cs notes now).state ≠ .failed)
    (more : (j.recorded kind index t a o cs notes now).allDone = false) :
    (j.recorded kind index t a o cs notes now).Lawful := by
  have ag := agree_recorded j kind index t a o cs notes now
  have run := lw.running_of_attempt (mem_of_pick pick) mema running
  have live := live_of_running run
  have est : (j.recorded kind index t a o cs notes now).state = .running := by
    rw [ag.state, setTask_state, run]
  have hasTasks : (j.recorded kind index t a o cs notes now).hasTasks = true := by
    rw [ag.hasTasks, setTask_hasTasks, lw.hasTasks_of_running run]
  refine ⟨placed_recorded lw.placed pick a o cs notes now,
    tasks_recorded_lawful lw.tasks pick mema running o cs notes now, ?_, ?_⟩
  · rw [ag.finishTime, setTask_finishTime, isTerminal, est, lw.finishTime, live]
    rfl
  · -- the job goes on, so none of its tasks has failed or is killed
    rw [est, hasTasks]
    refine .running ?_ fun _ => ?_
    · intro s mem
      obtain ⟨x, memx, rfl⟩ := List.mem_map.1 mem
      rw [ag.allTasks] at memx
      rcases mem_setTask pick memx with rfl | memx
      · exact ⟨notFailed, Task.closed_state_ne_killed t a o cs notes now⟩
      · exact lw.task_of_live live x memx
    · -- were all tasks complete, the job would be done
      by_contra none
      have done : (j.recorded kind index t a o cs notes now).allDone = true := by
        refine allDone_iff.2 ⟨hasTasks, fun x mem => ?_⟩
        by_contra ne
        exact none ⟨x.state, List.mem_map_of_mem mem, ne⟩
      rw [done] at more
      cases more

/-- A job stays lawful when a running attempt of it ends, with all that follows. -/
lemma Lawful.close {j : Job} (lw : j.Lawful) {kind : TaskKind} {index : Nat} {t : Task}
    {a : Attempt} (pick : (j.tasks kind)[index]? = some t) (mema : a ∈ t.attempts)
    (running : a.isRunning) (o : Outcome) (cs : Counters) (notes : List String) (clock : Readings) :
    ((j.recorded kind index t a o cs notes clock.first).conclude
      (t.closed a o cs notes clock.first) clock).1.Lawful := by
  have placed := placed_recorded lw.placed pick a o cs notes clock.first
  have tasks := tasks_recorded_lawful lw.tasks pick mema running o cs notes clock.first
  obtain ⟨-, e⟩ | ⟨-, done, e⟩ | ⟨notFailed, more, e⟩ :=
    conclude_cases (j.recorded kind index t a o cs notes clock.first)
      (t.closed a o cs notes clock.first) clock
  · rw [e]
    exact .abort_failed _ _ _ placed tasks
  · obtain ⟨hasTasks, complete⟩ := allDone_iff.1 done
    rw [e]
    refine .finish placed tasks rfl ?_
    rw [hasTasks]
    exact .succeeded (by simpa using complete)
  · rw [e]
    exact lw.recorded pick mema running notFailed more

/-- Every step keeps a job lawful. -/
theorem Step.lawful {j j' : Job} {m : Move} (st : Step j m j') (lw : j.Lawful) : j'.Lawful := by
  cases st with
  | install prep fits => exact lw.install prep fits
  | failInit prep =>
    refine .finish lw.placed lw.tasks rfl (.failed ?_)
    rw [lw.allTasks_of_prep prep]
    exact nofun
  | kill live => exact lw.kill live ..
  | launch run pick pending _ _ => exact lw.launched run pick pending _ _ _ _
  | close pick found run => exact lw.close pick (Task.attempt?_mem found).1 run _ _ _ _
  | closeIdle run done =>
    obtain ⟨hasTasks, complete⟩ := allDone_iff.1 done
    refine .finish lw.placed lw.tasks rfl ?_
    rw [hasTasks]
    exact .succeeded (by simpa using complete)

/-! ## What a step does to the state -/

/-- The ways from one state of a job to the next. -/
inductive Follows : JobState → JobState → Prop where
  | start : Follows .prep .running
  | failPrep : Follows .prep .failed
  | killPrep : Follows .prep .killed
  | succeed : Follows .running .succeeded
  | fail : Follows .running .failed
  | kill : Follows .running .killed

/-- A job that has ended makes no step. -/
theorem Step.live {j j' : Job} {m : Move} (st : Step j m j') (lw : j.Lawful) :
    j.isTerminal = false := by
  cases st with
  | install prep | failInit prep => rw [isTerminal, prep]; rfl
  | kill live => exact live
  | launch run _ _ _ _ | closeIdle run _ => exact live_of_running run
  | close pick found run =>
    exact live_of_running (lw.running_of_attempt (mem_of_pick pick) (Task.attempt?_mem found).1 run)

lemma Step.id {j j' : Job} {m : Move} (st : Step j m j') : j'.id = j.id := by
  cases st with
  | install | failInit | closeIdle => rfl
  | kill => exact (agree_abort ..).id
  | launch => exact launched_id ..
  | close =>
    refine conclude_induction (P := fun k => k.id = j.id) ?_ (fun _ _ same => same) fun reason => ?_
    · exact recorded_id ..
    · exact (agree_abort ..).id.trans (recorded_id ..)

/-- A step keeps the state of a job or moves it one step on. -/
theorem Step.follows {j j' : Job} {m : Move} (st : Step j m j') (lw : j.Lawful) :
    j'.state = j.state ∨ Follows j.state j'.state := by
  cases st with
  | install prep => rw [prep]; exact .inr .start
  | failInit prep => rw [prep]; exact .inr .failPrep
  | kill live =>
    right
    cases es : j.state with
    | prep => exact .killPrep
    | running => exact .kill
    | succeeded | failed | killed => simp [isTerminal, es, JobState.isTerminal] at live
  | launch => exact .inl ((agree_launched ..).state.trans (setTask_state ..))
  | closeIdle run => rw [run]; exact .inr .succeed
  | @close kind index t id a o cs notes clock pick found running =>
    have run := lw.running_of_attempt (mem_of_pick pick) (Task.attempt?_mem found).1 running
    obtain ⟨-, e⟩ | ⟨-, -, e⟩ | ⟨-, -, e⟩ :=
      conclude_cases (j.recorded kind index t a o cs notes clock.first)
        (t.closed a o cs notes clock.first) clock
    · rw [e, run]; exact .inr .fail
    · rw [e, run]; exact .inr .succeed
    · rw [e]; exact .inl ((agree_recorded ..).state.trans (setTask_state ..))

/-- Killing an attempt keeps the state of its job. -/
lemma Step.state_of_killed {j j' : Job} {kind : TaskKind} {index : Nat} {id : AttemptId}
    {cs : Counters} {notes : List String} {clock : Readings}
    (st : Step j (.close kind index id .killed cs notes clock) j') : j'.state = j.state := by
  cases st with
  | @close _ _ t _ a _ _ _ _ pick found running =>
    have ag := agree_recorded j kind index t a .killed cs notes clock.first
    obtain ⟨failed, -⟩ | ⟨-, done, -⟩ | ⟨-, -, e⟩ :=
      conclude_cases (j.recorded kind index t a .killed cs notes clock.first)
        (t.closed a .killed cs notes clock.first) clock
    · cases failed
    · have mem := ag.allTasks ▸ mem_setTask_self pick (t.closed a .killed cs notes clock.first)
      cases (allDone_iff.1 done).2 _ mem
    · rw [e, ag.state, setTask_state]

end JobCluster.Coordinator.Job
