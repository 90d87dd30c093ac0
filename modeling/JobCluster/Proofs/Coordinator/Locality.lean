import JobCluster.Proofs.Coordinator.Assignment
import JobCluster.Proofs.Coordinator.Lifecycle
import JobCluster.Proofs.Job.Progress

/-!
# Maps and the hosts of their splits

A job that was given its tasks has a map for each split, and keeps it so while it runs
(`Job.Reads`, `Run.reads`): whatever happens to a map, its split stays. So the hosts that decide
where a map is launched are those of the split that the job was given (`Reachable.nears`).
-/

namespace JobCluster.Coordinator

open JobCluster.Text JobCluster.Time

/-! ## Tasks keep their splits -/

namespace Task

variable (t : Task)

/-- The end of an attempt leaves the task its split. -/
lemma split_closed (a : Attempt) (o : Outcome) (cs : Counters) (notes : List String)
    (now : Instant) : (t.closed a o cs notes now).split = t.split := by
  unfold closed settle
  cases o with
  | succeeded | killed => rfl
  | failed =>
    simp only
    split_ifs <;> rfl

/-- Stopping a task leaves it its split. -/
lemma split_abort (reason : String) (now : Instant) : (t.abort reason now).split = t.split := by
  rw [abort]
  split_ifs <;> rfl

end Task

namespace Job

/-- The splits of the maps, in their order. -/
def splits (j : Job) : List (Option InputSplit) := j.maps.map Task.split

section Splits

variable {j j' : Job} {kind : TaskKind} {index : Nat} {t t' : Task} {m : Move}

/-- The tasks are made from the splits, in their order. -/
lemma splits_install (j : Job) (given : List InputSplit) :
    (j.install given).splits = given.map some := by
  refine List.ext_getElem? fun i => ?_
  simp only [splits, install, List.getElem?_map, List.getElem?_mapIdx, Option.map_map]
  rfl

/-- What agrees with a job has its splits. -/
lemma Agree.splits (ag : Agree j j') : j'.splits = j.splits :=
  congrArg (List.map Task.split) ag.maps

/-- A task that keeps its split can be replaced. -/
lemma splits_setTask (pick : (j.tasks kind)[index]? = some t) (same : t'.split = t.split) :
    (j.setTask kind index t').splits = j.splits := by
  cases kind with
  | reduce => rfl
  | map =>
    obtain ⟨p, q, before, after⟩ := set_eq_append pick
    rw [splits, splits, show j.maps = _ from before, show (j.setTask .map index t').maps = _ from
      after t', List.map_append, List.map_append, List.map_cons, List.map_cons, same]

/-- Stopping a job leaves the splits. -/
lemma splits_abort (j : Job) (reason : String) (now : Instant) :
    (j.abort reason now).1.splits = j.splits := by
  rw [(agree_abort j reason now).splits, splits, allAborted, List.map_map]
  exact List.map_congr_left fun t _ => t.split_abort reason now

/-- Only with its tasks is a job given splits. -/
lemma Step.splits (st : Step j m j') (no : ∀ given, m ≠ .install given) : j'.splits = j.splits := by
  cases st with
  | install => exact absurd rfl (no _)
  | failInit | closeIdle => rfl
  | @kill reason clock => exact splits_abort j reason clock.first
  | launch _ pick =>
    exact (agree_launched ..).splits.trans (splits_setTask pick rfl)
  | @close kind index t id a o cs notes clock pick =>
    have recorded : (j.recorded kind index t a o cs notes clock.first).splits = j.splits :=
      (agree_recorded ..).splits.trans
        (splits_setTask pick (t.split_closed a o cs notes clock.first))
    refine conclude_induction (P := fun k => k.splits = j.splits) recorded (fun _ _ same => same) ?_
    exact fun reason => (splits_abort ..).trans recorded

end Splits

/-- A job that does not wait for its tasks any more and, while it runs, has a map for each of some
splits. -/
structure Reads (given : List InputSplit) (j : Job) : Prop where
  started : j.state ≠ .prep
  maps : j.state = .running → j.splits = given.map some

/-- Every step leaves the maps the splits they read. -/
lemma Step.reads {j j' : Job} {m : Move} {given : List InputSplit} (st : Step j m j')
    (lw : j.Lawful) (reads : j.Reads given) : j'.Reads given := by
  have no : ∀ more, m ≠ .install more := by
    rintro more rfl
    cases st with
    | install prep => exact reads.started prep
  refine ⟨(st.advances lw).started reads.started, fun run => ?_⟩
  by_cases before : j.state = .running
  · rw [st.splits no, reads.maps before]
  · exact absurd run (st.not_running lw before no)

end Job

/-! ## Jobs that were given their tasks -/

section Runs

variable {s s' : System} {ops : List Operation} {id : JobId} {given : List InputSplit} {j : Job}

/-- A job that waits for its tasks reads the splits that it is given. -/
lemma System.Lawful.reads_next (lw : s.Lawful) (ok : s.Permits (.installTasks id given)) :
    ∃ j, (s.next (.installTasks id given)).coordinator.job? id = some j ∧ j.Reads given := by
  obtain ⟨j, mem, rfl, waits⟩ := lw.waiting id ok.1
  have found := job?_of_mem lw.nodup mem
  by_cases prep : j.state = .prep
  · refine ⟨j.install given, ?_, nofun, fun _ => j.splits_install given⟩
    have installs : (s.next (.installTasks j.id given)).coordinator =
        s.coordinator.setJob (j.install given) := by
      simp only [System.next, Operation.apply, Coordinator.installTasks, found, if_pos prep]
    rw [installs, job?_setJob, found]
    exact congrArg some (if_pos rfl)
  · refine ⟨j, ?_, prep, fun run => absurd run waits⟩
    have stays : (s.next (.installTasks j.id given)).coordinator = s.coordinator := by
      simp only [System.next, Operation.apply, Coordinator.installTasks, found, if_neg prep]
    rw [stays, found]

/-- In every run after that it reads them still. -/
theorem Run.reads (run : Run s ops s') (lw : s.Lawful) (found : s.coordinator.job? id = some j)
    (reads : j.Reads given) : ∃ j', s'.coordinator.job? id = some j' ∧ j'.Reads given := by
  obtain ⟨j', found', still⟩ := run.follow lw (R := fun j j' => j.Reads given → j'.Reads given)
    (fun _ reads => reads) (fun _ _ _ before after reads => after (before reads))
    (fun _ _ _ st lw reads => st.reads lw reads) found
  exact ⟨j', found', still reads⟩

end Runs

/-! ## Maps that are handed out -/

/-- A map of a job that reads some splits is launched on a host. -/
structure Nears (given : List InputSplit) (host : String) (asg : TaskAssignment) (j j' : Job)
    (split : InputSplit) : Prop where
  maps : j.splits = given.map some
  map : ∃ index, given[index]? = some split ∧ asg.taskId = Task.idOf j.id .map (.ofNat index)
  told : asg.split = some split
  near : host ∈ split.hosts → (j'.counters.value Counters.jobGroup Counters.dataLocalMaps).toNat =
    min maxWord64 ((j.counters.value Counters.jobGroup Counters.dataLocalMaps).toNat + 1)
  far : host ∉ split.hosts → j'.counters.value Counters.jobGroup Counters.dataLocalMaps =
    j.counters.value Counters.jobGroup Counters.dataLocalMaps
  nearest : host ∉ split.hosts → ∀ (k : Nat) (t : Task) (other : InputSplit),
    j.maps[k]? = some t → t.state = .pending → given[k]? = some other → host ∉ other.hosts

section Hands

variable {s : System} {tracker : TrackerId} {now : Instant} {asg : TaskAssignment} {j : Job}
  {given : List InputSplit}

/-- The split of a map is the one at its place. -/
lemma split_of_pick (maps : j.splits = given.map some) {index : Nat} {t : Task}
    (pick : j.maps[index]? = some t) :
    ∃ split, given[index]? = some split ∧ t.split = some split := by
  have same : (j.maps.map Task.split)[index]? = (given.map some)[index]? :=
    congrArg (·[index]?) maps
  rw [List.getElem?_map, List.getElem?_map, pick, Option.map_some] at same
  obtain ⟨split, here, e⟩ := Option.map_eq_some_iff.1 same.symm
  exact ⟨split, here, e.symm⟩

/-- A map is near the hosts of its split. -/
lemma hosts_of_split {t : Task} {split : InputSplit} (e : t.split = some split) :
    t.hosts = split.hosts := by
  rw [Task.hosts, e]
  rfl

/-- A map that is launched on a host off its split is counted so, and only if no map with its split
on the host waits. -/
lemma Hands.nears {c c' : Coordinator} {w : Tracker} {pre post : List Job} {index : Nat} {t : Task}
    (hands : Hands c tracker now asg c' w pre j post .map index t) (lw : j.Lawful)
    (reads : j.Reads given) : ∃ j' split, c'.jobs = pre ++ j' :: post ∧ j'.id = j.id ∧
      Nears given w.hostname asg j j' split := by
  obtain ⟨j', launches, changed⟩ := hands.changes
  have maps := reads.maps hands.eligible.1
  obtain ⟨split, here, e⟩ := split_of_pick maps hands.task
  have hosts := hosts_of_split e
  have told := hands.told
  have same := congrArg Job.id launches.others
  refine ⟨j', split, by rw [changed], same, maps, ⟨index, here, ?_⟩, ?_, fun near => ?_,
    fun far => ?_, fun far k t' other pick waits there => ?_⟩
  · rw [told]
    have placed := lw.placed .map index t hands.task
    rw [← placed.index_eq, UInt32.ofNat_toNat]
    exact placed.id_eq
  · rw [told, e]
  · refine launches.counted _ (.inr ⟨rfl, ?_⟩)
    rw [hosts, List.contains_iff_mem.2 near]
    rfl
  · refine launches.uncounted _ _ fun counted => ?_
    rcases counted.2 with name | ⟨-, place⟩
    · exact Job.placement_ne_launchedName true .map name
    · have here : true = t.hosts.contains w.hostname := Job.placement_inj.1 place
      rw [hosts, Eq.comm, List.contains_iff_mem] at here
      exact far here
  · obtain ⟨split', here', e'⟩ := split_of_pick maps pick
    cases there.symm.trans here'
    -- a far map is given only when no near one waits
    cases hands.gives with
    | near _ first =>
      obtain ⟨t'', pick', -, near⟩ := first.here
      cases hands.task.symm.trans pick'
      rw [hosts] at near
      exact absurd near far
    | far _ none _ =>
      rw [← hosts_of_split e']
      exact none t' (List.mem_of_getElem? pick) waits

/-- In every run after a job was given its tasks for some splits, a map of it that a tracker is
given reads the split at its place, and the tracker is off the hosts of that split only if no map
that waits has one on the tracker. -/
theorem Reachable.nears {s' : System} {id : JobId} {ops : List Operation} (re : Reachable s)
    (ok : s.Permits (.installTasks id given)) (run : Run (s.next (.installTasks id given)) ops s')
    (e : (s'.coordinator.assign tracker now).1 = some asg) (job : asg.jobId = id)
    (map : asg.kind = .map) :
    ∃ w j j' split, s'.coordinator.tracker? tracker = some w ∧ s'.coordinator.job? id = some j ∧
      (s'.coordinator.assign tracker now).2.job? id = some j' ∧
      Nears given w.hostname asg j j' split := by
  have re' : Reachable s' := run.reachable (re.next ok)
  obtain ⟨w, pre, j, post, kind, index, t, hands⟩ := re'.hands e
  have told := hands.told
  obtain rfl : kind = .map := by rw [told] at map; exact map
  obtain rfl : j.id = id := by rw [told] at job; exact job
  have mem : j ∈ s'.coordinator.jobs := by
    rw [hands.jobs]
    exact List.mem_append_right _ List.mem_cons_self
  have found := job?_of_mem re'.lawful.nodup mem
  -- since their tasks were installed, the job has kept the splits in their places
  obtain ⟨start, found₀, reads₀⟩ := re.lawful.reads_next ok
  obtain ⟨j₁, found₁, reads⟩ := run.reads (re.lawful.next ok) found₀ reads₀
  cases found.symm.trans found₁
  obtain ⟨j', split, jobs, same, nears⟩ := hands.nears (re'.lawful.jobs j mem) reads
  have after : Reachable (s'.next (.assign tracker now)) := re'.next trivial
  have mem' : j' ∈ (s'.coordinator.assign tracker now).2.jobs := by
    rw [jobs]
    exact List.mem_append_right _ List.mem_cons_self
  have found' := job?_of_mem after.lawful.nodup mem'
  rw [same] at found'
  exact ⟨w, j, j', split, hands.tracker, found, found', nears⟩

end Hands

end JobCluster.Coordinator
