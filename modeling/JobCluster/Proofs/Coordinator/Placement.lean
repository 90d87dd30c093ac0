import JobCluster.Proofs.Coordinator.Moves
import JobCluster.Proofs.Job.Ledger

/-!
# Where maps ran

A launch of a map is counted as near or as far, by a flag that the choice of the task carries. Here
the flag is tied to the hosts: `chooseTask_isLocal` says that it tells whether the host of the
tracker keeps the split, and `Reachable.located` that the two counts of a job are the numbers of its
attempts at maps that ran where their split is, and elsewhere.

The flag means something only in the launch that an assignment makes, so this invariant does not
hold along every `Job.Step`: `Step.located` is about the other moves, and the launch is followed
from the choice (`System.Lawful.located_assign`).
-/

namespace JobCluster.Coordinator

open JobCluster.Number JobCluster.Time

/-! ## Attempts by their place -/

namespace Task

/-- How many attempts at a task ran where its split is, or elsewhere. -/
def ranBy (t : Task) (isLocal : Bool) : Nat :=
  t.attempts.countP fun a => t.hosts.contains a.host == isLocal

/-- The end of a task leaves it its hosts. -/
lemma settle_hosts (t : Task) (o : Outcome) (cs : Counters) (now : Instant) :
    (t.settle o cs now).hosts = t.hosts := by
  unfold settle
  cases o with
  | succeeded | killed => rfl
  | failed =>
    simp only
    split <;> rfl

/-- Stopping a task leaves it its hosts. -/
lemma abort_hosts (t : Task) (reason : String) (now : Instant) :
    (t.abort reason now).hosts = t.hosts := by
  unfold abort
  split <;> rfl

/-- An attempt that ends stays on its host. -/
lemma Lawful.ranBy_closed {t : Task} (lw : t.Lawful) {a : Attempt} (mem : a ∈ t.attempts)
    (run : a.isRunning) (o : Outcome) (cs : Counters) (notes : List String) (now : Instant)
    (l : Bool) : (t.closed a o cs notes now).ranBy l = t.ranBy l := by
  obtain ⟨past, e, -, -, other⟩ := lw.last_running mem run
  have hosts : (t.closed a o cs notes now).hosts = t.hosts := settle_hosts ..
  rw [ranBy, ranBy, hosts, closed_attempts e other, e, List.countP_append, List.countP_append,
    List.countP_singleton, List.countP_singleton]
  rfl

/-- What is stopped has still been near or not. -/
lemma ranBy_abort (t : Task) (reason : String) (now : Instant) (l : Bool) :
    (t.abort reason now).ranBy l = t.ranBy l := by
  by_cases op : t.isOpen
  · rw [ranBy, ranBy, abort_hosts, abort_attempts reason now op, List.countP_map]
    refine List.countP_congr fun a _ => ?_
    have host : (if a.isRunning then a.close .killed now [reason] else a).host = a.host := by
      split <;> rfl
    rw [Function.comp_apply, host]
  · rw [abort_of_not_isOpen now reason (by simpa using op)]

/-- A launch counts as near if the host is one of the task's. -/
lemma ranBy_launch (t : Task) (tracker : TrackerId) (host : String) (now : Instant) (l : Bool) :
    (t.launch tracker host now).ranBy l =
      t.ranBy l + if t.hosts.contains host = l then 1 else 0 := by
  have hosts : (t.launch tracker host now).hosts = t.hosts := rfl
  rw [ranBy, ranBy, hosts, launch, List.countP_append, List.countP_singleton]
  simp only [beq_iff_eq]

end Task

namespace Job

/-- How many attempts at maps ran where their split is, or elsewhere. -/
def ranBy (j : Job) (isLocal : Bool) : Nat := (j.maps.map (·.ranBy isLocal)).sum

/-- The counts of maps by their place are the numbers of attempts there. -/
def Located (j : Job) : Prop :=
  ∀ l, Counts (j.counters.value Counters.jobGroup (Counters.placement l)) (j.ranBy l)

/-- The number of attempts at a place changes with those at the changed map. -/
lemma ranBy_setTask {j : Job} {kind : TaskKind} {index : Nat} {t t' : Task} {l : Bool} {more : Nat}
    (pick : (j.tasks kind)[index]? = some t) (e : t'.ranBy l = t.ranBy l + more) :
    (j.setTask kind index t').ranBy l = j.ranBy l + if kind = .map then more else 0 := by
  cases kind with
  | reduce => rfl
  | map =>
    obtain ⟨p, q, es, es'⟩ := set_eq_append pick
    have before : j.maps = p ++ t :: q := es
    have after : (j.setTask .map index t').maps = p ++ t' :: q := es' t'
    rw [ranBy, ranBy, before, after, if_pos rfl]
    simp only [List.map_append, List.map_cons, List.sum_append, List.sum_cons, e]
    omega

/-- Stopping all tasks leaves the count. -/
lemma ranBy_allAborted (j : Job) (reason : String) (now : Instant) (l : Bool) :
    (j.allAborted reason now).ranBy l = j.ranBy l := by
  simp only [ranBy, allAborted, List.map_map, Function.comp_def, Task.ranBy_abort]

/-- The counters of placement are not those of failures. -/
lemma placement_ne_failedName (l : Bool) (kind : TaskKind) :
    Counters.placement l ≠ failedName kind := by
  cases l <;> cases kind <;> decide

/-- The counters of placement are not those of kills. -/
lemma placement_ne_killedName (l : Bool) (kind : TaskKind) :
    Counters.placement l ≠ killedName kind := by
  cases l <;> cases kind <;> decide

/-- The counters of placement are not those of launches. -/
lemma placement_ne_launchedName (l : Bool) (kind : TaskKind) :
    Counters.placement l ≠ launchedName kind := by
  cases l <;> cases kind <;> decide

/-- The two counters of placement differ. -/
lemma placement_inj {l l' : Bool} : Counters.placement l = Counters.placement l' ↔ l = l' := by
  cases l <;> cases l' <;> decide

namespace Located

variable {j : Job}

/-- A new job has counted nothing. -/
lemma new (id : JobId) (d : JobDescriptor) (now : Instant) : (Job.new id d now).Located :=
  fun _ => .zero

/-- The end of an attempt is not counted by its place. -/
lemma record (loc : j.Located) (t : Task) (a : Attempt) (o : Outcome) (now : Instant) :
    (j.record t a o now).Located := by
  intro l
  have same : (j.record t a o now).ranBy l = j.ranBy l := by
    rw [ranBy, (agree_record j t a o now).maps, ranBy]
  rw [same, value_record, if_neg]
  · exact loc l
  · rintro (⟨-, e⟩ | ⟨-, e⟩)
    · exact placement_ne_failedName l _ e
    · exact placement_ne_killedName l _ e

/-- Stopping a job leaves the counts of placement. -/
lemma abort (loc : j.Located) (reason : String) (now : Instant) :
    (j.abort reason now).1.Located := by
  refine abort_induction (fun _ t a loc => loc.record t a .killed now) fun l => ?_
  rw [ranBy_allAborted]
  exact loc l

/-- Recording an end leaves the counts of placement. -/
lemma recorded (loc : j.Located) (lw : j.Lawful) {kind : TaskKind} {index : Nat} {t : Task}
    {a : Attempt} (pick : (j.tasks kind)[index]? = some t) (mem : a ∈ t.attempts)
    (run : a.isRunning) (o : Outcome) (cs : Counters) (notes : List String) (now : Instant) :
    (j.recorded kind index t a o cs notes now).Located := by
  refine record (fun l => ?_) _ _ _ _
  have lwt := lw.tasks t (mem_of_pick pick)
  have closed : (t.closed a o cs notes now).ranBy l = t.ranBy l + 0 :=
    lwt.ranBy_closed mem run o cs notes now l
  rw [ranBy_setTask pick closed, ite_self, Nat.add_zero, setTask_counters]
  exact loc l

/-- The tasks that a job is given have no attempts, and neither had the job before. -/
lemma install (loc : j.Located) (lw : j.Lawful) (prep : j.state = .prep)
    (splits : List InputSplit) : (j.install splits).Located := by
  intro l
  have before : j.ranBy l = 0 := by
    rw [ranBy, (List.append_eq_nil_iff.1 (lw.allTasks_of_prep prep)).1]
    rfl
  have after : (j.install splits).ranBy l = 0 := by
    refine List.sum_eq_zero_iff_forall_eq_nat.2 fun n mem => ?_
    obtain ⟨t, memt, rfl⟩ := List.mem_map.1 mem
    obtain ⟨_, _, _, rfl⟩ := mem_install (List.mem_append_left _ memt)
    rfl
  rw [after, ← before]
  exact loc l

/-- A launch is counted by its place, if the flag tells whether the split is on the host. -/
lemma launched (loc : j.Located) {kind : TaskKind} {index : Nat} {t : Task}
    (pick : (j.tasks kind)[index]? = some t) {isLocal : Option Bool} {host : String}
    (place : isLocal = if kind = .map then some (t.hosts.contains host) else none)
    (tracker : TrackerId) (now : Instant) :
    (j.launched kind index t isLocal tracker host now).Located := by
  intro l
  have same : (j.launched kind index t isLocal tracker host now).ranBy l =
      (j.setTask kind index (t.launch tracker host now)).ranBy l := by
    rw [ranBy, (agree_launched ..).maps, ranBy]
  rw [same, ranBy_setTask pick (t.ranBy_launch tracker host now l), value_launched]
  cases kind with
  | reduce =>
    rw [if_neg]
    · exact loc l
    · rintro (e | e)
      · exact placement_ne_launchedName l _ e
      · rw [place] at e
        cases e
  | map =>
    -- of the two counters of placement, the launch counts in the one that fits
    have counted : (Counters.placement l = launchedName .map ∨
        isLocal.map Counters.placement = some (Counters.placement l)) ↔
        t.hosts.contains host = l := by
      rw [place, if_pos rfl, Option.map_some, Option.some_inj, placement_inj]
      exact or_iff_right (placement_ne_launchedName l _)
    simp only [counted, if_true]
    by_cases here : t.hosts.contains host = l
    · rw [if_pos here, if_pos here]
      exact (loc l).add .one
    · rw [if_neg here, if_neg here]
      exact loc l

end Located

/-- Every step but a launch keeps the counts of maps by their place. -/
theorem Step.located {j j' : Job} {m : Move} (st : Step j m j') (no : ¬m.IsLaunch) (lw : j.Lawful)
    (loc : j.Located) : j'.Located := by
  cases st with
  | install prep => exact loc.install lw prep _
  | failInit | closeIdle => exact loc
  | kill => exact loc.abort _ _
  | launch => exact absurd trivial no
  | @close kind index t id a o cs notes clock pick found run =>
    have mem := (Task.attempt?_mem found).1
    have recorded := loc.recorded lw pick mem run o cs notes clock.first
    exact conclude_induction recorded (fun _ _ loc => loc) fun reason =>
      recorded.abort reason clock.second

end Job

/-! ## The launch of a choice -/

/-- The flag of a chosen map tells whether its split is on the host. -/
lemma pickMap_isLocal {j : Job} {host : String} {i : Nat} {l : Bool}
    (e : j.pickMap host = some (i, l)) : ∃ t, j.maps[i]? = some t ∧ t.hosts.contains host = l := by
  unfold Job.pickMap at e
  split at e
  · next found =>
    cases e
    obtain ⟨lt, ok, -⟩ := List.findIdx?_eq_some_iff_getElem.1 found
    exact ⟨_, List.getElem?_eq_getElem lt, (Bool.and_eq_true_iff.1 ok).2⟩
  · next none =>
    obtain ⟨k, found, e⟩ := Option.map_eq_some_iff.1 e
    cases e
    obtain ⟨lt, pending, -⟩ := List.findIdx?_eq_some_iff_getElem.1 found
    -- a pending map with its split on the host would have been chosen first
    have far := List.findIdx?_eq_none_iff.1 none _ (List.getElem_mem lt)
    rw [pending, Bool.true_and] at far
    exact ⟨_, List.getElem?_eq_getElem lt, far⟩

/-- A chosen map is marked by whether it is near; a reduce is not marked. -/
lemma chooseTask_isLocal {j : Job} {host : String} {mapSlot reduceSlot : Bool} {ch : Choice}
    (e : chooseTask j host mapSlot reduceSlot = some ch) {t : Task}
    (pick : (j.tasks ch.kind)[ch.index]? = some t) :
    ch.isLocal = if ch.kind = .map then some (t.hosts.contains host) else none := by
  unfold chooseTask at e
  split at e
  · next i l picked =>
    cases e
    split at picked
    · obtain ⟨t', pick', place⟩ := pickMap_isLocal picked
      have same : t' = t := Option.some.inj (pick'.symm.trans pick)
      rw [if_pos rfl, ← same, place]
    · cases picked
  · obtain ⟨i, -, rfl⟩ := Option.map_eq_some_iff.1 e
    rfl

/-- A choice is made of the tasks of a job, for the host of the tracker. -/
lemma choose_host {c : Coordinator} {id : TrackerId} {ch : Choice} (e : c.choose id = some ch) :
    ∃ w j, c.tracker? id = some w ∧ j ∈ c.jobs ∧ ch.job = j.id ∧
      ∃ mapSlot reduceSlot, chooseTask j w.hostname mapSlot reduceSlot = some ch := by
  unfold choose at e
  split at e
  · cases e
  · next w here =>
    split at e
    · cases e
    · obtain ⟨j, mem, chosen⟩ := List.exists_of_findSome?_eq_some e
      have memj := (List.mem_filter.1 (List.mem_mergeSort.1 mem)).1
      exact ⟨w, j, here, memj, (chooseTask_spec chosen).1, _, _, chosen⟩

/-- A launch happens on the host of the tracker. -/
lemma launch_jobs {c c' : Coordinator} {id : TrackerId} {ch : Choice} {now : Instant}
    {asg : TaskAssignment} {w : Tracker} (here : c.tracker? id = some w)
    (e : c.launch id ch now = some (asg, c')) :
    ∃ j t, c.job? ch.job = some j ∧ (j.tasks ch.kind)[ch.index]? = some t ∧
      c'.jobs = (c.setJob (j.launched ch.kind ch.index t ch.isLocal id w.hostname now)).jobs := by
  obtain ⟨j, found, e⟩ := Option.bind_eq_some_iff.1 e
  obtain ⟨⟨j', asg'⟩, launched, e⟩ := Option.bind_eq_some_iff.1 e
  cases Option.some.inj e
  obtain ⟨t, pick, e⟩ := Option.bind_eq_some_iff.1 launched
  cases Option.some.inj e
  refine ⟨j, t, found, pick, ?_⟩
  rw [here]
  rfl

namespace System.Lawful

variable {s : System}

/-- An assignment counts what it launches by its place. -/
lemma located_assign (lw : s.Lawful) (id : TrackerId) (now : Instant)
    (loc : ∀ j ∈ s.coordinator.jobs, j.Located) :
    ∀ j ∈ (s.coordinator.assign id now).2.jobs, j.Located := by
  obtain e | ⟨ch, asg, c', chosen, launched, e⟩ := assign_launches s.coordinator id now
  · rw [e]
    exact loc
  obtain ⟨w, j, here, mem, ej, _, _, taken⟩ := choose_host chosen
  obtain ⟨j', t, found, pick, jobs⟩ := launch_jobs here launched
  rw [ej, job?_of_mem lw.nodup mem] at found
  cases found
  rw [e, jobs]
  intro k memk
  obtain ⟨i, memi, rfl⟩ := List.mem_map.1 memk
  split
  · exact (loc j mem).launched pick (chooseTask_isLocal taken pick) id now
  · exact loc i memi

/-- Every operation keeps the counts of maps by their place. -/
lemma located_next (lw : s.Lawful) {op : Operation} (ok : s.Permits op)
    (loc : ∀ j ∈ s.coordinator.jobs, j.Located) :
    ∀ j ∈ (s.next op).coordinator.jobs, j.Located := by
  by_cases assigns : ∃ id now, op = .assign id now
  · obtain ⟨id, now, rfl⟩ := assigns
    exact lw.located_assign id now loc
  generalize (s.next op).coordinator.jobs = js', lw.changes ok = ch
  cases ch with
  | moves pf ad _ =>
    have still : ∀ j ∈ js', j.Lawful ∧ j.Located := by
      refine pf.forall_of_mem (P := fun j => j.Lawful ∧ j.Located) ?_
        fun j mem => ⟨lw.jobs j mem, loc j mem⟩
      intro j m j' mem st both
      refine ⟨st.lawful both.1, st.located (fun launch => ?_) both.1 both.2⟩
      -- only an assignment admits a launch
      have admitted := ad _ mem
      cases admitted with
      | assign => exact assigns ⟨_, _, rfl⟩
      | installTasks | failInit | killJob | killAttempt | complete | sweep | finishIdle =>
        exact launch
    exact fun j mem => (still j mem).2
  | added _ _ =>
    intro j mem
    rcases List.mem_append.1 mem with mem | mem
    · exact loc j mem
    · rw [List.mem_singleton.1 mem]
      exact Job.Located.new _ _ _

end System.Lawful

/-- In every run, the counts of maps by their place are the numbers of attempts there. -/
theorem Reachable.located {s : System} (re : Reachable s) :
    ∀ j ∈ s.coordinator.jobs, j.Located := by
  obtain ⟨stamp, ops, run⟩ := re
  induction run with
  | nil => exact List.forall_mem_nil _
  | @snoc ops s op run ok ih =>
    have re : Reachable s := ⟨stamp, ops, run⟩
    exact re.lawful.located_next ok ih

end JobCluster.Coordinator
