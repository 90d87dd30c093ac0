import JobCluster.Proofs.Job.Ledger
import JobCluster.Proofs.Job.Running
import Mathlib.Algebra.BigOperators.Group.List.Basic

/-!
# Sums over the attempts of a job

A weight gives each attempt a number, and `Job.weight` sums it over the attempts of a job. A launch
adds the weight of the new attempt (`weight_launched`); the end of an attempt puts the weight of
what it becomes in the place of its own (`weight_of_close`); and no other step changes the sum
(`Step.weight_eq`).

An attempt may end with others: when a job fails or is killed, all its running attempts are killed
with it. The sums here are of weights that overlook such ends (`Overlooks`), so that of all that
ends with an attempt only the attempt itself is counted.
-/

namespace JobCluster.Coordinator

open JobCluster.Time

/-- A weight overlooks a reason if it is the same before and after an end for that reason. -/
def Overlooks (w : Attempt → Nat) (reason : String) : Prop :=
  ∀ a now, a.isRunning → w (a.close .killed now [reason]) = w a

variable {w : Attempt → Nat}

namespace Task

/-- The weight of the attempts at a task. -/
def weight (w : Attempt → Nat) (t : Task) : Nat := (t.attempts.map w).sum

/-- The end of an attempt changes its own weight only. -/
lemma Lawful.weight_closed {t : Task} (lw : t.Lawful) {a : Attempt} (mem : a ∈ t.attempts)
    (run : a.isRunning) (o : Outcome) (cs : Counters) (notes : List String) (now : Instant) :
    (t.closed a o cs notes now).weight w + w a = t.weight w + w (a.close o now notes) := by
  obtain ⟨past, e, -, -, other⟩ := lw.last_running mem run
  rw [weight, weight, closed_attempts e other, e]
  simp only [List.map_append, List.map_cons, List.map_nil, List.sum_append, List.sum_cons,
    List.sum_nil]
  omega

/-- Stopping a task changes no weight that overlooks the reason. -/
lemma weight_abort {reason : String} (blind : Overlooks w reason) (t : Task) (now : Instant) :
    (t.abort reason now).weight w = t.weight w := by
  by_cases op : t.isOpen
  case neg => rw [abort_of_not_isOpen now reason (by simpa using op)]
  rw [weight, weight, abort_attempts reason now op, List.map_map]
  refine congrArg List.sum (List.map_congr_left fun a _ => ?_)
  by_cases run : a.isRunning
  · rw [Function.comp_apply, if_pos run, blind a now run]
  · rw [Function.comp_apply, if_neg run]

/-- A launch adds the weight of one running attempt. -/
lemma weight_launch (t : Task) (tracker : TrackerId) (host : String) (now : Instant) :
    (t.launch tracker host now).weight w =
      t.weight w + w ⟨t.nextAttemptId, tracker, host, .running, now, none, []⟩ := by
  simp [weight, launch]

end Task

namespace Job

/-- The weight of the attempts of a job. -/
def weight (w : Attempt → Nat) (j : Job) : Nat := (j.allAttempts.map w).sum

variable {j j' : Job} {kind : TaskKind} {index : Nat} {t : Task} {a : Attempt} {m : Move}

/-- The weight of a job, task by task. -/
lemma weight_eq_sum (w : Attempt → Nat) (j : Job) :
    j.weight w = (j.allTasks.map (Task.weight w)).sum := by
  rw [weight, allAttempts, List.map_flatMap, List.flatMap, List.sum_flatten, List.map_map]
  rfl

/-- Jobs that agree have the same weight. -/
lemma Agree.weight (ag : Agree j j') : j'.weight w = j.weight w := by
  rw [Job.weight, ag.allAttempts, Job.weight]

/-- A replaced task changes the weight by the difference of the two. -/
lemma weight_setTask (pick : (j.tasks kind)[index]? = some t) (t' : Task) :
    (j.setTask kind index t').weight w + t.weight w = j.weight w + t'.weight w := by
  obtain ⟨p, q, e, es⟩ := allTasks_setTask pick
  rw [weight_eq_sum, weight_eq_sum, e, es]
  simp only [List.map_append, List.map_cons, List.sum_append, List.sum_cons]
  omega

/-- A launch adds the weight of the new attempt. -/
lemma weight_launched (pick : (j.tasks kind)[index]? = some t) (isLocal : Option Bool)
    (tracker : TrackerId) (host : String) (now : Instant) :
    (j.launched kind index t isLocal tracker host now).weight w =
      j.weight w + w ⟨t.nextAttemptId, tracker, host, .running, now, none, []⟩ := by
  have changed := weight_setTask (w := w) pick (t.launch tracker host now)
  rw [Task.weight_launch] at changed
  rw [(agree_launched ..).weight]
  omega

/-- An abort does not count if its reason is overlooked. -/
lemma weight_abort {reason : String} (blind : Overlooks w reason) (j : Job) (now : Instant) :
    (j.abort reason now).1.weight w = j.weight w := by
  rw [(agree_abort j reason now).weight, weight_eq_sum, allTasks_allAborted, List.map_map,
    weight_eq_sum]
  exact congrArg List.sum (List.map_congr_left fun t _ => t.weight_abort blind now)

/-- Recording an end changes the weight of one attempt. -/
lemma weight_recorded (lw : j.Lawful) (pick : (j.tasks kind)[index]? = some t)
    (mem : a ∈ t.attempts) (run : a.isRunning) (o : Outcome) (cs : Counters) (notes : List String)
    (now : Instant) :
    (j.recorded kind index t a o cs notes now).weight w + w a =
      j.weight w + w (a.close o now notes) := by
  have changed := weight_setTask (w := w) pick (t.closed a o cs notes now)
  have ended := (lw.tasks t (mem_of_pick pick)).weight_closed (w := w) mem run o cs notes now
  rw [(agree_recorded ..).weight]
  omega

/-- What an end means for the job changes no weight, as those stopped with it are overlooked. -/
lemma weight_conclude (blind : ∀ t, Overlooks w (failureReason t)) (j : Job) (t : Task)
    (clock : Readings) : (j.conclude t clock).1.weight w = j.weight w := by
  obtain ⟨-, e⟩ | ⟨-, -, e⟩ | ⟨-, -, e⟩ := conclude_cases j t clock
  · rw [e]
    exact weight_abort (blind t) j clock.second
  · rw [e]
    rfl
  · rw [e]

/-- The end of an attempt puts the weight of what it becomes in the place of its own. -/
lemma weight_of_close (lw : j.Lawful) (blind : ∀ t, Overlooks w (failureReason t)) {o : Outcome}
    {cs : Counters} {notes : List String} {clock : Readings} {cl : Closed}
    (e : j.close kind index a.id o cs notes clock = some cl) (mem : a ∈ j.running) :
    cl.job.weight w + w a = j.weight w + w (a.close o clock.first notes) := by
  obtain ⟨t, b, pick, found, run, -, eq⟩ := close_eq_some e
  obtain ⟨memb, eb⟩ := Task.attempt?_mem found
  -- attempts of a job are told apart by their names, so it is this one that ended
  have same : b = a := by
    refine List.inj_on_of_nodup_map lw.attempt_ids_nodup
      (List.mem_flatMap.2 ⟨t, mem_of_pick pick, memb⟩) ?_ eb
    exact List.mem_of_mem_filter (j.running_eq_filter ▸ mem)
  subst same
  have job : cl.job = (conclude _ _ clock).1 := (Prod.mk.inj eq).1
  rw [job, weight_conclude blind]
  exact weight_recorded lw pick memb run o cs notes clock.first

/-- The moves that do not change sums of a weight, whatever the job. -/
def Move.Leaves (w : Attempt → Nat) : Move → Prop
  | .launch .. | .close .. => False
  | .kill reason _ => Overlooks w reason
  | .install _ | .failInit _ | .closeIdle _ => True

/-- A step that neither launches nor ends an attempt by itself keeps the sum. -/
lemma Step.weight_eq (st : Step j m j') (lw : j.Lawful) (le : m.Leaves w) :
    j'.weight w = j.weight w := by
  cases st with
  | launch | close => exact le.elim
  | failInit | closeIdle => rfl
  | kill => exact weight_abort le j _
  | @install splits prep =>
    have none : (j.install splits).allAttempts = [] := by
      rw [allAttempts_eq, Balanced.attempts_install, Balanced.attempts_install]
      rfl
    have before : j.allAttempts = [] := by
      rw [allAttempts, lw.allTasks_of_prep prep]
      rfl
    rw [weight, none, weight, before]

/-- Where no attempt that runs or ends has a weight, no step makes a sum larger. -/
lemma Step.weight_le (st : Step j m j') (lw : j.Lawful) (running : ∀ a, a.isRunning → w a = 0)
    (ended : ∀ (a : Attempt) o now notes, w (a.close o now notes) = 0) :
    j'.weight w ≤ j.weight w := by
  have blind (reason : String) : Overlooks w reason := fun a now run => by
    rw [ended, running a run]
  cases st with
  | failInit prep => exact Nat.le_of_eq (Step.weight_eq (.failInit prep) lw trivial)
  | closeIdle run done => exact Nat.le_of_eq (Step.weight_eq (.closeIdle run done) lw trivial)
  | install prep fits => exact Nat.le_of_eq (Step.weight_eq (.install prep fits) lw trivial)
  | kill live => exact Nat.le_of_eq (Step.weight_eq (.kill live) lw (blind _))
  | launch _ pick =>
    rw [weight_launched pick, running _ rfl]
    exact Nat.le_refl _
  | @close kind index t id a o cs notes clock pick found run =>
    rw [weight_conclude fun t => blind _]
    have changed := weight_recorded (w := w) lw pick (Task.attempt?_mem found).1 run o cs notes
      clock.first
    rw [running a run, ended] at changed
    exact Nat.le_of_eq changed

end Job

end JobCluster.Coordinator
