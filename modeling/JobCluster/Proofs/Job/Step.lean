import JobCluster.Proofs.Task.Phase

/-!
# Steps of a job

Whatever the coordinator does to a job is one of six moves. `Job.Step j m j'` says that the job `j`
may make the move `m` and is `j'` after it; a rule holds all that the coordinator has checked before
it makes the move. Facts about jobs are shown by cases on `Step` and never by unfolding the
coordinator.

The second half of the module tells what the parts of a step do to the tasks: `allTasks_setTask`
cuts the list of tasks at the one that is changed, and `Agree` says of a job that only its records
changed.
-/

namespace JobCluster.Coordinator.Job

open JobCluster.Time

/-- What can happen to a job. -/
inductive Move where
  | install (splits : List InputSplit)
  | failInit (now : Instant)
  | kill (reason : String) (clock : Readings)
  | launch (kind : TaskKind) (index : Nat) (isLocal : Option Bool) (tracker : TrackerId)
      (host : String) (now : Instant)
  | close (kind : TaskKind) (index : Nat) (id : AttemptId) (outcome : Outcome)
      (counters : Counters) (notes : List String) (clock : Readings)
  | closeIdle (now : Instant)

/-- A job with the next attempt at one of its tasks launched. -/
def launched (j : Job) (kind : TaskKind) (index : Nat) (t : Task) (isLocal : Option Bool)
    (tracker : TrackerId) (host : String) (now : Instant) : Job :=
  let counted := (j.setTask kind index (t.launch tracker host now)).count (launchedName kind)
  match isLocal with
  | some l => counted.count (Counters.placement l)
  | none => counted

/-- A job with a running attempt ended and the end recorded, before anything follows from it. -/
def recorded (j : Job) (kind : TaskKind) (index : Nat) (t : Task) (a : Attempt) (o : Outcome)
    (cs : Counters) (notes : List String) (now : Instant) : Job :=
  (j.setTask kind index (t.closed a o cs notes now)).record (t.closed a o cs notes now)
    (a.close o now notes) o now

/-- The moves that a job may make. -/
inductive Step : Job → Move → Job → Prop where
  | install {j splits} :
    j.state = .prep →
    splits.length ≤ UInt32.size →
    Step j (.install splits) (j.install splits)
  | failInit {j now} :
    j.state = .prep →
    Step j (.failInit now) (j.finish .failed now)
  | kill {j reason clock} :
    j.isTerminal = false →
    Step j (.kill reason clock) ((j.abort reason clock.first).1.finish .killed clock.second)
  | launch {j kind index t isLocal tracker host now} :
    j.state = .running →
    (j.tasks kind)[index]? = some t →
    t.state = .pending →
    (isLocal.isSome ↔ kind = .map) →
    (kind = .reduce → j.mapsDone) →
    Step j (.launch kind index isLocal tracker host now)
      (j.launched kind index t isLocal tracker host now)
  | close {j kind index t id a o cs notes clock} :
    (j.tasks kind)[index]? = some t →
    t.attempt? id = some a →
    a.isRunning →
    Step j (.close kind index id o cs notes clock)
      ((j.recorded kind index t a o cs notes clock.first).conclude
        (t.closed a o cs notes clock.first) clock).1
  | closeIdle {j now} :
    j.state = .running →
    j.allDone →
    Step j (.closeIdle now) (j.finish .succeeded now)

/-- What an ended attempt leaves behind. -/
lemma close_eq_some {j : Job} {kind : TaskKind} {index : Nat} {id : AttemptId} {o : Outcome}
    {cs : Counters} {notes : List String} {clock : Readings} {cl : Closed}
    (e : j.close kind index id o cs notes clock = some cl) :
    ∃ t a, (j.tasks kind)[index]? = some t ∧ t.attempt? id = some a ∧ a.isRunning ∧
      cl.attempt = a.close o clock.first notes ∧
      (cl.job, cl.aborted) = (j.recorded kind index t a o cs notes clock.first).conclude
        (t.closed a o cs notes clock.first) clock := by
  unfold close at e
  obtain ⟨t, pick, e⟩ := Option.bind_eq_some_iff.1 e
  obtain ⟨a, found, e⟩ := Option.bind_eq_some_iff.1 e
  by_cases run : a.isRunning
  · simp only [run, Bool.not_true, Bool.false_eq_true, if_false] at e
    cases Option.some.inj e
    exact ⟨t, a, pick, found, run, rfl, rfl⟩
  · simp [run] at e

/-- What the end of a running attempt leaves behind. -/
lemma close_eq {j : Job} {kind : TaskKind} {index : Nat} {t : Task} {id : AttemptId} {a : Attempt}
    (pick : (j.tasks kind)[index]? = some t) (found : t.attempt? id = some a) (run : a.isRunning)
    (o : Outcome) (cs : Counters) (notes : List String) (clock : Readings) :
    j.close kind index id o cs notes clock =
      let ended := (j.recorded kind index t a o cs notes clock.first).conclude
        (t.closed a o cs notes clock.first) clock
      some ⟨ended.1, a.close o clock.first notes, ended.2⟩ := by
  simp only [close, pick, found, run, Option.bind_eq_bind, Option.bind_some, Bool.not_true,
    Bool.false_eq_true, if_false]
  rfl

/-- A running attempt can be closed. -/
lemma isSome_close {j : Job} {kind : TaskKind} {index : Nat} {t : Task} {id : AttemptId}
    {a : Attempt} (pick : (j.tasks kind)[index]? = some t) (found : t.attempt? id = some a)
    (run : a.isRunning) (o : Outcome) (cs : Counters) (notes : List String) (clock : Readings) :
    (j.close kind index id o cs notes clock).isSome := by
  rw [close_eq pick found run]
  rfl

/-- Closing an attempt is a step of its job. -/
lemma Step.of_close {j : Job} {kind : TaskKind} {index : Nat} {id : AttemptId} {o : Outcome}
    {cs : Counters} {notes : List String} {clock : Readings} {cl : Closed}
    (e : j.close kind index id o cs notes clock = some cl) :
    Step j (.close kind index id o cs notes clock) cl.job := by
  obtain ⟨t, a, pick, found, run, _, eq⟩ := close_eq_some e
  rw [(Prod.mk.inj eq).1]
  exact .close pick found run

/-! ## Tasks of a changed job -/

/-- The tasks of a kind are among all tasks. -/
lemma mem_allTasks {j : Job} {t : Task} : t ∈ j.allTasks ↔ ∃ kind, t ∈ j.tasks kind := by
  constructor
  · intro mem
    rcases List.mem_append.1 mem with mem | mem
    · exact ⟨.map, mem⟩
    · exact ⟨.reduce, mem⟩
  · rintro ⟨kind, mem⟩
    cases kind with
    | map => exact List.mem_append_left _ mem
    | reduce => exact List.mem_append_right _ mem

/-- A task at an index is one of the job. -/
lemma mem_of_pick {j : Job} {kind : TaskKind} {index : Nat} {t : Task}
    (pick : (j.tasks kind)[index]? = some t) : t ∈ j.allTasks :=
  mem_allTasks.2 ⟨kind, List.mem_of_getElem? pick⟩

/-- A replaced task is seen at its index. -/
lemma tasks_setTask (j : Job) (kind : TaskKind) (index : Nat) (t : Task) :
    (j.setTask kind index t).tasks kind = (j.tasks kind).set index t := by
  cases kind <;> rfl

/-- Replacing a task leaves the other kind. -/
lemma tasks_setTask_ne (j : Job) {kind kind' : TaskKind} (ne : kind' ≠ kind) (index : Nat)
    (t : Task) : (j.setTask kind index t).tasks kind' = j.tasks kind' := by
  cases kind <;> cases kind' <;> first | rfl | exact absurd rfl ne

section Frame

variable (j : Job) (kind : TaskKind) (index : Nat) (t : Task)

@[simp] lemma setTask_id : (j.setTask kind index t).id = j.id := by cases kind <;> rfl

@[simp] lemma setTask_state : (j.setTask kind index t).state = j.state := by cases kind <;> rfl

@[simp] lemma setTask_hasTasks : (j.setTask kind index t).hasTasks = j.hasTasks := by
  cases kind <;> rfl

@[simp] lemma setTask_finishTime : (j.setTask kind index t).finishTime = j.finishTime := by
  cases kind <;> rfl

@[simp] lemma setTask_events : (j.setTask kind index t).events = j.events := by cases kind <;> rfl

@[simp] lemma setTask_counters : (j.setTask kind index t).counters = j.counters := by
  cases kind <;> rfl

end Frame

/-- A list is cut at the element that is changed. -/
lemma set_eq_append {α : Type} {l : List α} {i : Nat} {a : α} (e : l[i]? = some a) :
    ∃ p q, l = p ++ a :: q ∧ ∀ b, l.set i b = p ++ b :: q := by
  induction l generalizing i with
  | nil => cases e
  | cons x l ih =>
    cases i with
    | zero => cases e; exact ⟨[], l, rfl, fun b => rfl⟩
    | succ i =>
      obtain ⟨p, q, el, es⟩ := ih e
      exact ⟨x :: p, q, by rw [el]; rfl, fun b => by rw [List.set_cons_succ, es]; rfl⟩

/-- All tasks are cut at the one that is changed. -/
lemma allTasks_setTask {j : Job} {kind : TaskKind} {index : Nat} {t : Task}
    (pick : (j.tasks kind)[index]? = some t) :
    ∃ p q, j.allTasks = p ++ t :: q ∧
      ∀ t', (j.setTask kind index t').allTasks = p ++ t' :: q := by
  obtain ⟨p, q, e, es⟩ := set_eq_append pick
  cases kind with
  | map =>
    refine ⟨p, q ++ j.reduces, ?_, fun t' => ?_⟩
    · show j.maps ++ j.reduces = _
      rw [show j.maps = _ from e, List.append_assoc, List.cons_append]
    · show j.maps.set index t' ++ j.reduces = _
      rw [show j.maps.set index t' = _ from es t', List.append_assoc, List.cons_append]
  | reduce =>
    refine ⟨j.maps ++ p, q, ?_, fun t' => ?_⟩
    · show j.maps ++ j.reduces = _
      rw [show j.reduces = _ from e, List.append_assoc]
    · show j.maps ++ j.reduces.set index t' = _
      rw [show j.reduces.set index t' = _ from es t', List.append_assoc]

/-- A task of a changed job is the changed one or was there before. -/
lemma mem_setTask {j : Job} {kind : TaskKind} {index : Nat} {t t' x : Task}
    (pick : (j.tasks kind)[index]? = some t) (mem : x ∈ (j.setTask kind index t').allTasks) :
    x = t' ∨ x ∈ j.allTasks := by
  obtain ⟨p, q, e, es⟩ := allTasks_setTask pick
  rw [es] at mem
  rw [e]
  rcases List.mem_append.1 mem with mem | mem
  · exact .inr (List.mem_append_left _ mem)
  · rcases List.mem_cons.1 mem with eq | mem
    · exact .inl eq
    · exact .inr (List.mem_append_right _ (List.mem_cons_of_mem _ mem))

/-- The new task is one of the job. -/
lemma mem_setTask_self {j : Job} {kind : TaskKind} {index : Nat} {t : Task}
    (pick : (j.tasks kind)[index]? = some t) (t' : Task) :
    t' ∈ (j.setTask kind index t').allTasks := by
  obtain ⟨p, q, -, es⟩ := allTasks_setTask pick
  rw [es]
  exact List.mem_append_right _ List.mem_cons_self

/-! ## Jobs that differ in their records -/

/-- Two jobs agree but for the log and the counts. -/
structure Agree (j j' : Job) : Prop where
  profile : j'.profile = j.profile
  state : j'.state = j.state
  hasTasks : j'.hasTasks = j.hasTasks
  maps : j'.maps = j.maps
  reduces : j'.reduces = j.reduces
  finishTime : j'.finishTime = j.finishTime

namespace Agree

variable {j j' j'' : Job}

lemma refl (j : Job) : Agree j j := ⟨rfl, rfl, rfl, rfl, rfl, rfl⟩

lemma trans (ag : Agree j j') (ag' : Agree j' j'') : Agree j j'' where
  profile := ag'.profile.trans ag.profile
  state := ag'.state.trans ag.state
  hasTasks := ag'.hasTasks.trans ag.hasTasks
  maps := ag'.maps.trans ag.maps
  reduces := ag'.reduces.trans ag.reduces
  finishTime := ag'.finishTime.trans ag.finishTime

lemma id (ag : Agree j j') : j'.id = j.id := congrArg JobProfile.jobId ag.profile

/-- Jobs that agree have the same tasks of each kind. -/
lemma tasks (ag : Agree j j') (kind : TaskKind) : j'.tasks kind = j.tasks kind := by
  cases kind with
  | map => exact ag.maps
  | reduce => exact ag.reduces

/-- Jobs that agree have the same tasks. -/
lemma allTasks (ag : Agree j j') : j'.allTasks = j.allTasks := by
  rw [Job.allTasks, ag.maps, ag.reduces]; rfl

/-- Jobs that agree are done together. -/
lemma allDone (ag : Agree j j') : j'.allDone = j.allDone := by
  simp only [Job.allDone, Job.mapsDone, ag.maps, ag.reduces, ag.hasTasks]

end Agree

/-- Counting changes the counters only. -/
lemma agree_count (j : Job) (name : String) : Agree j (j.count name) :=
  ⟨rfl, rfl, rfl, rfl, rfl, rfl⟩

/-- Recording an end changes the counters and the log only. -/
lemma agree_record (j : Job) (t : Task) (a : Attempt) (o : Outcome) (now : Instant) :
    Agree j (j.record t a o now) := by
  cases o <;> exact ⟨rfl, rfl, rfl, rfl, rfl, rfl⟩

/-- Recording several kills changes the counters and the log only. -/
lemma agree_recordKilled (j : Job) (ended : List (Task × Attempt)) (now : Instant) :
    Agree j (ended.foldl (fun j e => j.recordKilled e.1 e.2 now) j) := by
  induction ended generalizing j with
  | nil => exact .refl j
  | cons e ended ih =>
    have ag : Agree j (j.recordKilled e.1 e.2 now) := agree_record j e.1 e.2 .killed now
    exact ag.trans (ih _)

/-- Apart from counters, a launch is a change of one task. -/
lemma agree_launched (j : Job) (kind : TaskKind) (index : Nat) (t : Task) (isLocal : Option Bool)
    (tracker : TrackerId) (host : String) (now : Instant) :
    Agree (j.setTask kind index (t.launch tracker host now))
      (j.launched kind index t isLocal tracker host now) := by
  cases isLocal with
  | none => exact agree_count ..
  | some l => exact (agree_count ..).trans (agree_count ..)

/-- Apart from counters and log, the end of an attempt is a change of one task. -/
lemma agree_recorded (j : Job) (kind : TaskKind) (index : Nat) (t : Task) (a : Attempt)
    (o : Outcome) (cs : Counters) (notes : List String) (now : Instant) :
    Agree (j.setTask kind index (t.closed a o cs notes now))
      (j.recorded kind index t a o cs notes now) :=
  agree_record ..

/-- A launch leaves the name of the job. -/
lemma launched_id (j : Job) (kind : TaskKind) (index : Nat) (t : Task) (isLocal : Option Bool)
    (tracker : TrackerId) (host : String) (now : Instant) :
    (j.launched kind index t isLocal tracker host now).id = j.id :=
  (agree_launched ..).id.trans (setTask_id ..)

/-- Recording an end leaves the name of the job. -/
lemma recorded_id (j : Job) (kind : TaskKind) (index : Nat) (t : Task) (a : Attempt)
    (o : Outcome) (cs : Counters) (notes : List String) (now : Instant) :
    (j.recorded kind index t a o cs notes now).id = j.id :=
  (agree_recorded ..).id.trans (setTask_id ..)

/-- A job with all its tasks aborted but nothing recorded. -/
def allAborted (j : Job) (reason : String) (now : Instant) : Job :=
  { j with
    maps := j.maps.map (·.abort reason now)
    reduces := j.reduces.map (·.abort reason now) }

/-- Apart from counters and log, stopping a job closes its attempts. -/
lemma agree_abort (j : Job) (reason : String) (now : Instant) :
    Agree (j.allAborted reason now) (j.abort reason now).1 :=
  agree_recordKilled (j.allAborted reason now) _ now

/-- Closing all attempts stops each task. -/
lemma allTasks_allAborted (j : Job) (reason : String) (now : Instant) :
    (j.allAborted reason now).allTasks = j.allTasks.map (·.abort reason now) :=
  List.map_append.symm

/-- Closing all attempts stops each task of each kind. -/
lemma tasks_allAborted (j : Job) (reason : String) (now : Instant) (kind : TaskKind) :
    (j.allAborted reason now).tasks kind = (j.tasks kind).map (·.abort reason now) := by
  cases kind <;> rfl

/-- What follows from a settled task: the job fails with it, or ends with success, or goes on. -/
lemma conclude_cases (j : Job) (t : Task) (clock : Readings) :
    (t.state = .failed ∧ (j.conclude t clock).1 =
      (j.abort (failureReason t) clock.second).1.finish .failed clock.first) ∨
    (t.state ≠ .failed ∧ j.allDone ∧
      (j.conclude t clock).1 = j.finish .succeeded clock.first) ∨
    (t.state ≠ .failed ∧ j.allDone = false ∧ (j.conclude t clock).1 = j) := by
  unfold conclude
  by_cases failed : t.state = .failed
  · rw [if_pos failed]
    exact .inl ⟨failed, rfl⟩
  · rw [if_neg failed]
    by_cases done : j.allDone
    · rw [if_pos done]
      exact .inr (.inl ⟨failed, done, rfl⟩)
    · rw [if_neg done]
      exact .inr (.inr ⟨failed, by simpa using done, rfl⟩)

/-- What an abort and an end keep is kept by all that follows from a settled task. -/
lemma conclude_induction {P : Job → Prop} {j : Job} {t : Task} {clock : Readings} (here : P j)
    (finish : ∀ k s, P k → P (k.finish s clock.first))
    (abort : ∀ reason, P (j.abort reason clock.second).1) : P (j.conclude t clock).1 := by
  obtain ⟨-, e⟩ | ⟨-, -, e⟩ | ⟨-, -, e⟩ := conclude_cases j t clock
  · rw [e]
    exact finish _ _ (abort _)
  · rw [e]
    exact finish _ _ here
  · rw [e]
    exact here

/-- A job is done when it has its tasks and each is complete. -/
lemma allDone_iff {j : Job} :
    j.allDone = true ↔ j.hasTasks = true ∧ ∀ t ∈ j.allTasks, t.state = .complete := by
  simp only [allDone, mapsDone, Task.isComplete, allTasks, Bool.and_eq_true, List.all_eq_true,
    beq_iff_eq, List.mem_append, or_imp, forall_and, and_assoc]

end JobCluster.Coordinator.Job
