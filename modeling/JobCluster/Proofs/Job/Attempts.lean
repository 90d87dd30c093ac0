import JobCluster.Proofs.Job.Phase
import Mathlib.Data.List.Nodup

/-!
# The attempts of a job

`Job.Has` says at which place of a job the name of an attempt is. The name tells the place
(`Has.inj`), so the attempts of a job have distinct names (`Lawful.attempt_ids_nodup`); and of all
steps only a launch makes a new name (`Step.has_iff`).
-/

namespace JobCluster.Coordinator

open JobCluster.Time

/-- Among elements with distinct names, one is found by its name. -/
lemma filter_eq_singleton {α : Type} {f : α → String} {l : List α} (nodup : (l.map f).Nodup) {a : α}
    (mem : a ∈ l) : l.filter (f · == f a) = [a] := by
  induction l with
  | nil => cases mem
  | cons b l ih =>
    obtain ⟨fresh, nodup⟩ := List.nodup_cons.1 nodup
    rcases List.mem_cons.1 mem with rfl | mem
    · rw [List.filter_cons_of_pos (by simp), List.filter_eq_nil_iff.2]
      intro x memx e
      exact fresh ((by simpa using e : f x = f a) ▸ List.mem_map_of_mem memx)
    · rw [List.filter_cons_of_neg, ih nodup mem]
      intro e
      exact fresh ((by simpa using e : f b = f a) ▸ List.mem_map_of_mem mem)

namespace Task

variable (t : Task)

/-- The names of the attempts. -/
def attemptIds : List AttemptId := t.attempts.map Attempt.id

@[simp] lemma attemptIds_closed (a : Attempt) (o : Outcome) (cs : Counters) (notes : List String)
    (now : Instant) : (t.closed a o cs notes now).attemptIds = t.attemptIds := by
  rw [attemptIds, closed, settle_attempts, replaceAttempt, List.map_map]
  refine List.map_congr_left fun b _ => ?_
  by_cases e : b.id = (a.close o now notes).id
  · rw [Function.comp_apply, if_pos e, e]
  · rw [Function.comp_apply, if_neg e]

@[simp] lemma attemptIds_abort (reason : String) (now : Instant) :
    (t.abort reason now).attemptIds = t.attemptIds := by
  by_cases op : t.isOpen
  · rw [attemptIds, abort_attempts reason now op, List.map_map]
    refine List.map_congr_left fun a _ => ?_
    by_cases run : a.isRunning <;> simp [run]
  · rw [abort_of_not_isOpen now reason (by simpa using op)]

@[simp] lemma attemptIds_launch (tracker : TrackerId) (host : String) (now : Instant) :
    (t.launch tracker host now).attemptIds = t.attemptIds ++ [t.nextAttemptId] :=
  List.map_append

/-- No two attempts of a task share a name. -/
lemma Lawful.attemptIds_nodup {t : Task} (lw : t.Lawful) : t.attemptIds.Nodup := by
  rw [attemptIds, List.nodup_iff_getElem?_ne_getElem?]
  intro n n' lt lt' e
  rw [List.length_map] at lt'
  rw [List.getElem?_map, List.getElem?_map, List.getElem?_eq_getElem lt',
    List.getElem?_eq_getElem (Nat.lt_trans lt lt'), Option.map_some, Option.map_some,
    Option.some_inj] at e
  have := lw.index_inj (List.getElem?_eq_getElem _) (List.getElem?_eq_getElem _) e
  omega

end Task

namespace Job

/-! ## Places -/

/-- Whether a job has an attempt with a name at a place. -/
def Has (j : Job) (kind : TaskKind) (index : Nat) (id : AttemptId) : Prop :=
  ∃ t, (j.tasks kind)[index]? = some t ∧ id ∈ t.attemptIds

variable {j j' : Job} {kind : TaskKind} {index : Nat} {id : AttemptId}

/-- The name of an attempt tells its place: the end of its job's name, the kind and the index. -/
lemma Has.inj {kind' : TaskKind} {index' : Nat} (h : j.Has kind index id)
    (h' : j'.Has kind' index' id) (lw : j.Lawful) (lw' : j'.Lawful) :
    dropStart "job_" j.id = dropStart "job_" j'.id ∧ kind = kind' ∧ index = index' := by
  obtain ⟨t, pick, mem⟩ := h
  obtain ⟨t', pick', mem'⟩ := h'
  obtain ⟨a, mema, rfl⟩ := List.mem_map.1 mem
  obtain ⟨a', mema', e⟩ := List.mem_map.1 mem'
  obtain ⟨n, at_n⟩ := List.mem_iff_getElem?.1 mema
  obtain ⟨n', at_n'⟩ := List.mem_iff_getElem?.1 mema'
  rw [(lw.tasks t (mem_of_pick pick)).named n a at_n,
    (lw'.tasks t' (mem_of_pick pick')).named n' a' at_n'] at e
  have e := (attemptIdOf_inj e).1
  rw [(lw.placed kind index t pick).id_eq, (lw'.placed kind' index' t' pick').id_eq] at e
  obtain ⟨ejob, ekind, eindex⟩ := dropStart_idOf_inj e
  refine ⟨ejob.symm, ekind.symm, ?_⟩
  rw [← (lw.placed kind index t pick).index_eq, ← (lw'.placed kind' index' t' pick').index_eq,
    eindex]

/-- Jobs that agree have the same attempts. -/
lemma Agree.has (ag : Agree j j') : j'.Has kind index id ↔ j.Has kind index id := by
  rw [Has, ag.tasks, Has]

/-- A stopped job has the same attempts. -/
lemma has_allAborted (reason : String) (now : Instant) :
    (j.allAborted reason now).Has kind index id ↔ j.Has kind index id := by
  rw [Has, tasks_allAborted, List.getElem?_map, Has]
  cases (j.tasks kind)[index]? <;> simp

/-- Changing a task changes the names of attempts at its place. -/
lemma has_setTask {k : TaskKind} {i : Nat} {t t' : Task} (pick : (j.tasks k)[i]? = some t) :
    (j.setTask k i t').Has kind index id ↔
      if kind = k ∧ index = i then id ∈ t'.attemptIds else j.Has kind index id := by
  by_cases ek : kind = k
  case neg => rw [Has, tasks_setTask_ne j ek, if_neg fun e => ek e.1, Has]
  subst ek
  have lt := (List.getElem?_eq_some_iff.1 pick).1
  rw [Has, tasks_setTask, List.getElem?_set]
  by_cases ei : i = index
  · subst ei
    simp [lt]
  · rw [if_neg ei, if_neg fun e => ei e.2.symm, Has]

/-- A launch adds one attempt to one task. -/
lemma has_launched {k : TaskKind} {i : Nat} {t : Task} (pick : (j.tasks k)[i]? = some t)
    (isLocal : Option Bool) (tracker : TrackerId) (host : String) (now : Instant) :
    (j.launched k i t isLocal tracker host now).Has kind index id ↔
      j.Has kind index id ∨ kind = k ∧ index = i ∧ id = t.nextAttemptId := by
  rw [(agree_launched ..).has, has_setTask pick, Task.attemptIds_launch]
  by_cases here : kind = k ∧ index = i
  · obtain ⟨rfl, rfl⟩ := here
    simp [Has, pick]
  · rw [if_neg here, ← and_assoc, or_iff_left fun e => here e.1]

/-- Whether a move launches an attempt. -/
def Move.IsLaunch : Move → Prop
  | .launch .. => True
  | _ => False

/-- Only a launch changes the names of attempts. -/
lemma Step.has_iff {m : Move} (st : Step j m j') (lw : j.Lawful) (no : ¬m.IsLaunch) :
    j'.Has kind index id ↔ j.Has kind index id := by
  have finish (k : Job) (s : JobState) (now : Instant) :
      (k.finish s now).Has kind index id ↔ k.Has kind index id := by
    cases kind <;> exact Iff.rfl
  -- an install finds no attempt, and all other steps leave the names where they are
  cases st with
  | launch => exact absurd trivial no
  | failInit | closeIdle => exact finish _ _ _
  | install prep =>
    have before : ¬j.Has kind index id := by
      rintro ⟨t, pick, -⟩
      have mem := mem_of_pick pick
      rw [lw.allTasks_of_prep prep] at mem
      cases mem
    refine iff_of_false ?_ before
    rintro ⟨t, pick, mem⟩
    obtain ⟨_, rfl⟩ := getElem?_install pick
    cases mem
  | kill => rw [finish, (agree_abort ..).has, has_allAborted]
  | @close k i t name a o cs notes clock pick found running =>
    have recorded : (j.recorded k i t a o cs notes clock.first).Has kind index id ↔
        j.Has kind index id := by
      rw [(agree_recorded ..).has, has_setTask pick, Task.attemptIds_closed]
      by_cases here : kind = k ∧ index = i
      · obtain ⟨rfl, rfl⟩ := here
        simp [Has, pick]
      · rw [if_neg here]
    refine conclude_induction (P := fun k => k.Has kind index id ↔ j.Has kind index id) recorded
      (fun k s same => (finish k s clock.first).trans same) fun reason => ?_
    rw [(agree_abort ..).has, has_allAborted, recorded]

/-! ## All attempts -/

/-- The attempts at the tasks of a kind. -/
def attempts (j : Job) (kind : TaskKind) : List Attempt := (j.tasks kind).flatMap Task.attempts

/-- All attempts, those at maps first. -/
def allAttempts (j : Job) : List Attempt := j.allTasks.flatMap Task.attempts

/-- The attempts are those of the maps and those of the reduces. -/
lemma allAttempts_eq (j : Job) : j.allAttempts = j.attempts .map ++ j.attempts .reduce :=
  List.flatMap_append

/-- The attempts of a job are those that it has at its places. -/
lemma mem_allAttempts : id ∈ j.allAttempts.map Attempt.id ↔ ∃ kind index, j.Has kind index id := by
  rw [allAttempts, List.map_flatMap]
  constructor
  · intro mem
    obtain ⟨t, memt, mem⟩ := List.mem_flatMap.1 mem
    obtain ⟨kind, memt⟩ := mem_allTasks.1 memt
    obtain ⟨index, pick⟩ := List.mem_iff_getElem?.1 memt
    exact ⟨kind, index, t, pick, mem⟩
  · rintro ⟨kind, index, t, pick, mem⟩
    exact List.mem_flatMap.2 ⟨t, mem_of_pick pick, mem⟩

/-- The attempts of a job have distinct names. -/
lemma Lawful.attempt_ids_nodup (lw : j.Lawful) : (j.allAttempts.map Attempt.id).Nodup := by
  have oneKind (kind : TaskKind) : ((j.attempts kind).map Attempt.id).Nodup := by
    rw [attempts, List.map_flatMap, List.nodup_flatMap]
    refine ⟨fun t mem => (lw.tasks t (mem_allTasks.2 ⟨kind, mem⟩)).attemptIds_nodup, ?_⟩
    rw [List.pairwise_iff_getElem]
    intro i i' lt lt' less x mem mem'
    have h : j.Has kind i x := ⟨_, List.getElem?_eq_getElem lt, mem⟩
    have h' : j.Has kind i' x := ⟨_, List.getElem?_eq_getElem lt', mem'⟩
    obtain ⟨-, -, e⟩ := h.inj h' lw lw
    omega
  have hasOf {kind : TaskKind} {x : AttemptId} (mem : x ∈ (j.attempts kind).map Attempt.id) :
      ∃ index, j.Has kind index x := by
    rw [attempts, List.map_flatMap] at mem
    obtain ⟨t, memt, mem⟩ := List.mem_flatMap.1 mem
    obtain ⟨index, pick⟩ := List.mem_iff_getElem?.1 memt
    exact ⟨index, t, pick, mem⟩
  rw [allAttempts_eq, List.map_append, List.nodup_append]
  refine ⟨oneKind .map, oneKind .reduce, fun x mem y mem' e => ?_⟩
  obtain ⟨i, h⟩ := hasOf mem
  obtain ⟨i', h'⟩ := hasOf mem'
  obtain ⟨-, ekind, -⟩ := h.inj (e ▸ h') lw lw
  cases ekind

end Job

end JobCluster.Coordinator
