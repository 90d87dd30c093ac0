import JobCluster.Proofs.Coordinator.Placement
import JobCluster.Proofs.Coordinator.Reservations
import JobCluster.Proofs.Coordinator.Slots

/-!
# What a tracker is given

`assign` searches the running jobs in the order of service, and a job for a task that the tracker
can run. Here the search is compared with a description of what should be found: a job that is
eligible (`Eligible`) with no eligible job before it in the order of service, and in it the task
that the tracker is to run (`Job.Gives`). The order of service is a stable sort by priority, so of
equally urgent jobs the one that was submitted first comes first (`first_of_mergeSort`).

The main statement is `assign_exact`: an eligible job is enough for an assignment, and `Hands` says
what the assignment is and all that it changes.
-/

namespace JobCluster.Coordinator

open JobCluster.Number JobCluster.Text JobCluster.Time

/-! ## What a job has for a tracker -/

/-- The first of some tasks with a property. -/
structure FirstAt (ts : List Task) (p : Task → Prop) (i : Nat) : Prop where
  here : ∃ t, ts[i]? = some t ∧ p t
  earlier : ∀ k < i, ∀ t, ts[k]? = some t → ¬p t

namespace Job

/-- What a job has for a tracker with slots that are free: a map that waits, or a reduce that waits
once all maps are done. -/
inductive Offers (j : Job) (free : TaskKind → Prop) : Prop where
  | map :
    free .map →
    (∃ t ∈ j.maps, t.state = .pending) →
    Offers j free
  | reduce :
    free .reduce →
    (∀ t ∈ j.maps, t.state = .complete) →
    (∃ t ∈ j.reduces, t.state = .pending) →
    Offers j free

/-- The task that a job gives to a tracker on a host: the first map that waits with its split on the
host, or if there is none the first map that waits, or the first reduce that waits. -/
inductive Gives (j : Job) (free : TaskKind → Prop) (host : String) : TaskKind → Nat → Prop where
  | near {i} :
    free .map →
    FirstAt j.maps (fun t => t.state = .pending ∧ host ∈ t.hosts) i →
    Gives j free host .map i
  | far {i} :
    free .map →
    (∀ t ∈ j.maps, t.state = .pending → host ∉ t.hosts) →
    FirstAt j.maps (·.state = .pending) i →
    Gives j free host .map i
  | reduce {i} :
    free .reduce →
    (free .map → ∀ t ∈ j.maps, t.state ≠ .pending) →
    (∀ t ∈ j.maps, t.state = .complete) →
    FirstAt j.reduces (·.state = .pending) i →
    Gives j free host .reduce i

end Job

section Choices

variable {ts : List Task} {p q : Task → Prop} {i : Nat} {j : Job} {free : TaskKind → Prop}
  {host : String} {mapSlot reduceSlot : Bool} {ch : Choice}

/-- A first one is there. -/
lemma FirstAt.mem (first : FirstAt ts p i) : ∃ t ∈ ts, p t := by
  obtain ⟨t, pick, holds⟩ := first.here
  exact ⟨t, List.mem_of_getElem? pick, holds⟩

/-- The search through tasks finds the first. -/
lemma firstAt_of_findIdx? {b : Task → Bool} (iff : ∀ t, b t = true ↔ p t)
    (e : ts.findIdx? b = some i) : FirstAt ts p i := by
  obtain ⟨lt, ok, before⟩ := List.findIdx?_eq_some_iff_getElem.1 e
  refine ⟨⟨ts[i], List.getElem?_eq_getElem lt, (iff _).1 ok⟩, fun k less t pick holds => ?_⟩
  rw [List.getElem?_eq_getElem (Nat.lt_trans less lt)] at pick
  cases pick
  exact before k less ((iff _).2 holds)

/-- The test of a task is its state. -/
lemma isPending_iff (t : Task) : t.isPending = true ↔ t.state = .pending := beq_iff_eq

/-- A task is near a host if it waits and the host has its split. -/
lemma isNear_iff (host : String) (t : Task) :
    (t.isPending && t.hosts.contains host) = true ↔ t.state = .pending ∧ host ∈ t.hosts := by
  rw [Bool.and_eq_true, isPending_iff, List.contains_iff_mem]

/-- A waiting task is found if there is one. -/
lemma isSome_findIdx?_isPending :
    (ts.findIdx? Task.isPending).isSome ↔ ∃ t ∈ ts, t.state = .pending := by
  rw [List.findIdx?_isSome, List.any_eq_true]
  simp only [isPending_iff]

/-- The maps are done when each of them is complete. -/
lemma mapsDone_iff : j.mapsDone = true ↔ ∀ t ∈ j.maps, t.state = .complete := by
  simp only [Job.mapsDone, List.all_eq_true, Task.isComplete, beq_iff_eq]

/-- A map is picked if one waits, near or not. -/
lemma isSome_pickMap : (j.pickMap host).isSome ↔ ∃ t ∈ j.maps, t.state = .pending := by
  unfold Job.pickMap
  split
  · next i found =>
    obtain ⟨t, mem, waits, -⟩ := (firstAt_of_findIdx? (isNear_iff host) found).mem
    exact iff_of_true rfl ⟨t, mem, waits⟩
  · rw [Option.isSome_map, isSome_findIdx?_isPending]

/-- What is chosen of a job is what it gives. -/
lemma chooseTask_gives (maps : mapSlot = true ↔ free .map)
    (reduces : reduceSlot = true ↔ free .reduce)
    (e : chooseTask j host mapSlot reduceSlot = some ch) : j.Gives free host ch.kind ch.index := by
  unfold chooseTask at e
  split at e
  · next i l picked =>
    cases e
    split at picked
    · next slot =>
      unfold Job.pickMap at picked
      split at picked
      · -- a near map is looked for first
        next found =>
        cases picked
        exact .near (maps.1 slot) (firstAt_of_findIdx? (isNear_iff host) found)
      · next none =>
        obtain ⟨k, found, e⟩ := Option.map_eq_some_iff.1 picked
        cases e
        refine .far (maps.1 slot) (fun t mem waits here => ?_)
          (firstAt_of_findIdx? isPending_iff found)
        have no := List.findIdx?_eq_none_iff.1 none t mem
        rw [(isNear_iff host t).2 ⟨waits, here⟩] at no
        cases no
    · cases picked
  · next none =>
    obtain ⟨i, picked, rfl⟩ := Option.map_eq_some_iff.1 e
    split at picked
    · next slot =>
      unfold Job.pickReduce at picked
      split at picked
      · next done =>
        refine .reduce (reduces.1 slot) (fun _ t mem waits => ?_) (mapsDone_iff.1 done)
          (firstAt_of_findIdx? isPending_iff picked)
        have complete := mapsDone_iff.1 done t mem
        rw [waits] at complete
        cases complete
      · cases picked
    · cases picked

/-- A job that gives a task has offered one. -/
lemma Job.Gives.offers {kind : TaskKind} (gives : j.Gives free host kind i) : j.Offers free := by
  cases gives with
  | near slot first =>
    obtain ⟨t, mem, waits, -⟩ := first.mem
    exact .map slot ⟨t, mem, waits⟩
  | far slot _ first => exact .map slot first.mem
  | reduce slot _ done first => exact .reduce slot done first.mem

/-- Something is chosen of a job that has something to offer. -/
lemma isSome_chooseTask (maps : mapSlot = true ↔ free .map)
    (reduces : reduceSlot = true ↔ free .reduce) :
    (chooseTask j host mapSlot reduceSlot).isSome ↔ j.Offers free := by
  constructor
  · intro some
    obtain ⟨ch, e⟩ := Option.isSome_iff_exists.1 some
    exact (chooseTask_gives maps reduces e).offers
  · intro offers
    unfold chooseTask
    split
    · rfl
    · next none =>
      rw [Option.isSome_map]
      cases offers with
      | map slot waits =>
        rw [if_pos (maps.2 slot)] at none
        have some : (j.pickMap host).isSome := isSome_pickMap.2 waits
        rw [none] at some
        cases some
      | reduce slot done waits =>
        rw [if_pos (reduces.2 slot), Job.pickReduce, if_pos (mapsDone_iff.2 done)]
        exact isSome_findIdx?_isPending.2 waits

end Choices

/-! ## The order of service -/

section Order

variable {α β : Type}

/-- What stands before an element, without repetition, is in the part before it. -/
lemma mem_of_pair_sublist {k a : α} {p q : List α} (nodup : (p ++ a :: q).Nodup)
    (sub : [k, a].Sublist (p ++ a :: q)) : k ∈ p := by
  rw [List.nodup_middle, List.nodup_cons, List.mem_append, not_or] at nodup
  obtain ⟨⟨-, last⟩, -⟩ := nodup
  obtain ⟨m, n, e, front, back⟩ := List.sublist_append_iff.1 sub
  cases m with
  | nil =>
    cases e
    cases back with
    | cons _ rest => exact absurd (rest.subset (by simp)) last
    | cons_cons _ rest => exact absurd (rest.subset (by simp)) last
  | cons x m =>
    rw [(List.cons.inj e).1]
    exact front.subset List.mem_cons_self

/-- What is found first in a list that was sorted by rank is of the least rank, and of those of its
rank it was the first before sorting too. -/
lemma first_of_mergeSort {xs : List α} (nodup : xs.Nodup) (rank : α → Nat) {f : α → Option β}
    {b : β} (e : (xs.mergeSort fun x y => rank x ≤ rank y).findSome? f = some b) :
    ∃ a ∈ xs, f a = some b ∧ ∀ k ∈ xs, (f k).isSome →
      rank a ≤ rank k ∧ ([k, a].Sublist xs → rank a < rank k) := by
  have trans (x y z : α) : decide (rank x ≤ rank y) = true → decide (rank y ≤ rank z) = true →
      decide (rank x ≤ rank z) = true := by
    simp only [decide_eq_true_eq]
    exact Nat.le_trans
  have total (x y : α) : (decide (rank x ≤ rank y) || decide (rank y ≤ rank x)) = true := by
    simp only [Bool.or_eq_true, decide_eq_true_eq]
    exact Nat.le_total ..
  obtain ⟨p, a, q, cut, found, before⟩ := List.findSome?_eq_some_iff.1 e
  have perm := List.mergeSort_perm xs fun x y => decide (rank x ≤ rank y)
  have sorted := List.pairwise_mergeSort trans total xs
  have apart := perm.nodup_iff.2 nodup
  rw [cut] at perm sorted apart
  refine ⟨a, perm.mem_iff.1 (by simp), found, fun k mem some => ?_⟩
  have after : k ∉ p := fun memp => by
    rw [before k memp] at some
    cases some
  have least : rank a ≤ rank k := by
    rcases List.mem_append.1 (perm.mem_iff.2 mem) with memp | memq
    · exact absurd memp after
    · rcases List.mem_cons.1 memq with rfl | memq
      · exact Nat.le_refl _
      · have rest := (List.pairwise_append.1 sorted).2.1
        exact of_decide_eq_true (List.rel_of_pairwise_cons rest memq)
  refine ⟨least, fun sub => Nat.lt_of_not_le fun le => ?_⟩
  -- the sort is stable, so what was before and is as urgent would have been found first
  have stays := List.pair_sublist_mergeSort trans total (decide_eq_true le) sub
  rw [cut] at stays
  exact after (mem_of_pair_sublist apart stays)

end Order

/-! ## The choice of a task -/

/-- Whether a tracker has a slot free for a kind of task. -/
def HasSlot (c : Coordinator) (id : TrackerId) (w : Tracker) (kind : TaskKind) : Prop :=
  c.runningOn id kind < (w.slots kind).toNat

/-- Whether a job can give a tracker something to run. -/
def Eligible (c : Coordinator) (id : TrackerId) (w : Tracker) (j : Job) : Prop :=
  j.state = .running ∧ j.Offers (c.HasSlot id w)

section Choose

variable {c : Coordinator} {id : TrackerId} {w : Tracker} {ch : Choice} {j : Job}

/-- The test for a free slot counts the attempts that run on the tracker. -/
lemma slot_iff (c : Coordinator) (id : TrackerId) (w : Tracker) (kind : TaskKind) :
    decide (c.runningOn id kind < (w.slots kind).toNat) = true ↔ c.HasSlot id w kind :=
  decide_eq_true_iff

/-- What an eligible job gives is found in it. -/
lemma eligible_iff (lw : j.Lawful) :
    (j.state = .running ∧ j.hasTasks = true) ∧ (chooseTask j w.hostname
      (c.runningOn id .map < w.mapSlots.toNat)
      (c.runningOn id .reduce < w.reduceSlots.toNat)).isSome ↔ c.Eligible id w j := by
  refine and_congr ⟨And.left, fun run => ⟨run, lw.hasTasks_of_running run⟩⟩ ?_
  exact isSome_chooseTask (slot_iff c id w .map) (slot_iff c id w .reduce)

/-- Tasks are taken from running jobs that have their tasks. -/
lemma mem_candidates : j ∈ c.candidates ↔ j ∈ c.jobs ∧ j.state = .running ∧ j.hasTasks = true := by
  rw [candidates, List.mem_mergeSort, List.mem_filter, Bool.and_eq_true, beq_iff_eq]

/-- A task is chosen for a live tracker for which some job is eligible. -/
lemma isSome_choose (lw : ∀ j ∈ c.jobs, j.Lawful) : (c.choose id).isSome ↔
    ∃ w, c.tracker? id = some w ∧ w.dead = false ∧ ∃ j ∈ c.jobs, c.Eligible id w j := by
  unfold choose
  split
  · next none =>
    refine iff_of_false nofun ?_
    rintro ⟨w, found, -⟩
    rw [none] at found
    cases found
  · next w found =>
    rw [found]
    split
    · next dead =>
      refine iff_of_false nofun ?_
      rintro ⟨w', e, live, -⟩
      cases e
      rw [dead] at live
      cases live
    · next live =>
      -- a live tracker gets a task if one of the jobs that are looked through has one
      rw [List.findSome?_isSome_iff]
      constructor
      · rintro ⟨j, mem, some⟩
        obtain ⟨memj, ready⟩ := mem_candidates.1 mem
        exact ⟨w, rfl, by simpa using live, j, memj, (eligible_iff (lw j memj)).1 ⟨ready, some⟩⟩
      · rintro ⟨w', e, -, j, memj, eligible⟩
        cases e
        obtain ⟨ready, some⟩ := (eligible_iff (lw j memj)).2 eligible
        exact ⟨j, mem_candidates.2 ⟨memj, ready⟩, some⟩

/-- The task is chosen of the first eligible job in the order of service. -/
lemma choose_first (nodup : (c.jobs.map Job.id).Nodup) (lw : ∀ j ∈ c.jobs, j.Lawful)
    (e : c.choose id = some ch) :
    ∃ w pre j post, c.tracker? id = some w ∧ c.jobs = pre ++ j :: post ∧ j.state = .running ∧
      chooseTask j w.hostname (c.runningOn id .map < w.mapSlots.toNat)
        (c.runningOn id .reduce < w.reduceSlots.toNat) = some ch ∧
      (∀ k ∈ pre, c.Eligible id w k → j.priority.rank < k.priority.rank) ∧
      ∀ k ∈ post, c.Eligible id w k → j.priority.rank ≤ k.priority.rank := by
  unfold choose at e
  split at e
  · cases e
  next w found =>
  split at e
  · cases e
  have apart : c.jobs.Nodup := List.Nodup.of_map Job.id nodup
  obtain ⟨j, mem, chosen, first⟩ := first_of_mergeSort (apart.filter _)
    (fun j => j.priority.rank) e
  obtain ⟨memj, ready⟩ := List.mem_filter.1 mem
  obtain ⟨pre, post, cut⟩ := List.append_of_mem memj
  have eligible (k : Job) (memk : k ∈ c.jobs) (el : c.Eligible id w k) :
      (k.state == .running && k.hasTasks) = true ∧ (chooseTask k w.hostname
        (c.runningOn id .map < w.mapSlots.toNat)
        (c.runningOn id .reduce < w.reduceSlots.toNat)).isSome := by
    obtain ⟨⟨run, tasks⟩, some⟩ := (eligible_iff (lw k memk)).2 el
    exact ⟨by rw [run, tasks]; rfl, some⟩
  refine ⟨w, pre, j, post, found, cut, by simpa using (Bool.and_eq_true_iff.1 ready).1, chosen,
    fun k memk el => ?_, fun k memk el => ?_⟩
  · have memc : k ∈ c.jobs := by rw [cut]; exact List.mem_append_left _ memk
    obtain ⟨ok, some⟩ := eligible k memc el
    refine (first k (List.mem_filter.2 ⟨memc, ok⟩) some).2 ?_
    -- a pair of jobs in the order of submission stays one when the others are left out
    have pair : [k, j].Sublist c.jobs := by
      rw [cut]
      exact (List.singleton_sublist.2 memk).append (List.singleton_sublist.2 List.mem_cons_self)
    have kept := pair.filter fun j => j.state == .running && j.hasTasks
    have both : [k, j].filter (fun j => j.state == .running && j.hasTasks) = [k, j] := by
      rw [List.filter_cons, if_pos ok, List.filter_cons, if_pos ready, List.filter_nil]
    rwa [both] at kept
  · have memc : k ∈ c.jobs := by
      rw [cut]
      exact List.mem_append_right _ (List.mem_cons_of_mem _ memk)
    obtain ⟨ok, some⟩ := eligible k memc el
    exact (first k (List.mem_filter.2 ⟨memc, ok⟩) some).1

end Choose

/-! ## The launch -/

/-- How the launch of an attempt at a task changes a job. -/
structure Job.Launches (j : Job) (kind : TaskKind) (index : Nat) (t : Task) (a : Attempt)
    (j' : Job) : Prop where
  tasks : ∀ k, j'.tasks k = if k = kind then (j.tasks kind).set index
    { t with
      attempts := t.attempts ++ [a]
      state := .running
      startTime := t.startTime.or (some a.startedAt) } else j.tasks k
  counted : ∀ n, (n = launchedName kind ∨
      kind = .map ∧ n = Counters.placement (t.hosts.contains a.host)) →
    (j'.counters.value Counters.jobGroup n).toNat =
      min maxWord64 ((j.counters.value Counters.jobGroup n).toNat + 1)
  uncounted : ∀ g n, ¬(g = Counters.jobGroup ∧ (n = launchedName kind ∨
      kind = .map ∧ n = Counters.placement (t.hosts.contains a.host))) →
    j'.counters.value g n = j.counters.value g n
  others : { j' with maps := j.maps, reduces := j.reduces, counters := j.counters } = j

/-- An assignment, with all that it changes: of the first eligible job in the order of service, the
task that the job gives is launched on the tracker. -/
structure Hands (c : Coordinator) (id : TrackerId) (now : Instant) (asg : TaskAssignment)
    (c' : Coordinator) (w : Tracker) (pre : List Job) (j : Job) (post : List Job) (kind : TaskKind)
    (index : Nat) (t : Task) : Prop where
  tracker : c.tracker? id = some w
  jobs : c.jobs = pre ++ j :: post
  eligible : c.Eligible id w j
  earlier : ∀ k ∈ pre, c.Eligible id w k → j.priority.rank < k.priority.rank
  later : ∀ k ∈ post, c.Eligible id w k → j.priority.rank ≤ k.priority.rank
  gives : j.Gives (c.HasSlot id w) w.hostname kind index
  task : (j.tasks kind)[index]? = some t
  told : asg = ⟨t.nextAttemptId, t.id, j.id, kind, t.split⟩
  changes : ∃ j',
    j.Launches kind index t ⟨asg.attemptId, id, w.hostname, .running, now, none, []⟩ j' ∧
    c' = { c with
      jobs := pre ++ j' :: post
      index := c.index ++ [(asg.attemptId, ⟨j.id, kind, index⟩)]
      trackers := c.trackers.map fun e =>
        if e.1 = id then (e.1, { e.2 with started := e.2.started + 1 }) else e }

section Launch

variable {c : Coordinator} {s : System} {id : TrackerId} {w : Tracker} {ch : Choice} {j : Job}
  {kind : TaskKind} {index : Nat} {t : Task}

/-- A launch changes no counter outside the job's own group. -/
lemma value_launched_of_ne {g : String} (other : g ≠ Counters.jobGroup) (isLocal : Option Bool)
    (tracker : TrackerId) (host : String) (now : Instant) (n : String) :
    (j.launched kind index t isLocal tracker host now).counters.value g n =
      j.counters.value g n := by
  have counted (j : Job) (name : String) :
      (j.count name).counters.value g n = j.counters.value g n := by
    rw [Job.count, Counters.value_increment, if_neg fun e => other e.1]
  cases isLocal with
  | none => rw [Job.launched, counted, Job.setTask_counters]
  | some l => rw [Job.launched, counted, counted, Job.setTask_counters]

/-- A launch counts the attempt by its kind and, for a map, by its place. -/
lemma launches_launched (pick : (j.tasks kind)[index]? = some t) {isLocal : Option Bool}
    {host : String} (place : isLocal = if kind = .map then some (t.hosts.contains host) else none)
    (tracker : TrackerId) (now : Instant) :
    j.Launches kind index t ⟨t.nextAttemptId, tracker, host, .running, now, none, []⟩
      (j.launched kind index t isLocal tracker host now) := by
  have iff (n : String) : isLocal.map Counters.placement = some n ↔
      kind = .map ∧ n = Counters.placement (t.hosts.contains host) := by
    rw [place]
    cases kind with
    | map => simp [eq_comm]
    | reduce => simp
  refine ⟨fun k => ?_, fun n here => ?_, fun g n no => ?_, ?_⟩
  · rw [(Job.agree_launched ..).tasks]
    by_cases ek : k = kind
    · subst ek
      rw [if_pos rfl, Job.tasks_setTask]
      rfl
    · rw [if_neg ek, Job.tasks_setTask_ne _ ek]
  · rw [← iff] at here
    rw [Job.value_launched, if_pos here, toNat_satAdd]
    rfl
  · by_cases eg : g = Counters.jobGroup
    · subst eg
      rw [Job.value_launched, if_neg]
      rw [iff]
      exact fun counted => no ⟨rfl, counted⟩
    · exact value_launched_of_ne eg isLocal tracker host now n
  · cases kind <;> cases isLocal <;> rfl

/-- The launched job and the assignment, for the task that was picked. -/
lemma job_launch_eq (pick : (j.tasks kind)[index]? = some t) (isLocal : Option Bool)
    (tracker : TrackerId) (host : String) (now : Instant) :
    j.launch kind index isLocal tracker host now =
      some (j.launched kind index t isLocal tracker host now,
        ⟨t.nextAttemptId, t.id, j.id, kind, t.split⟩) := by
  rw [Job.launch, pick]
  rfl

/-- The task that was chosen is launched. -/
lemma launch_eq (found : c.job? ch.job = some j) (here : c.tracker? id = some w)
    (pick : (j.tasks ch.kind)[ch.index]? = some t) (now : Instant) :
    c.launch id ch now = some (⟨t.nextAttemptId, t.id, j.id, ch.kind, t.split⟩,
      ({ c.setJob (j.launched ch.kind ch.index t ch.isLocal id w.hostname now) with
          index := setEntry t.nextAttemptId ⟨ch.job, ch.kind, ch.index⟩ c.index }).changeTracker id
        fun t => { t with started := t.started + 1 }) := by
  rw [launch, found, here, Option.bind_eq_bind, Option.bind_some]
  simp only [Option.map_some, Option.getD_some, job_launch_eq pick]
  rfl

/-- A task that is chosen is launched, so it is assigned. -/
lemma isSome_assign (nodup : (c.jobs.map Job.id).Nodup) (id : TrackerId) (now : Instant) :
    (c.assign id now).1.isSome ↔ (c.choose id).isSome := by
  constructor
  · intro given
    rcases c.assign_launches id now with e | ⟨ch, asg, c', chosen, -, -⟩
    · rw [e] at given
      cases given
    · rw [chosen]
      rfl
  · intro is
    obtain ⟨ch, chosen⟩ := Option.isSome_iff_exists.1 is
    obtain ⟨w, j, here, mem, ej, _, _, taken⟩ := choose_host chosen
    obtain ⟨-, -, -, t, pick, -⟩ := chooseTask_spec taken
    have found : c.job? ch.job = some j := ej ▸ job?_of_mem nodup mem
    simp only [assign, chosen, Option.bind_some, launch_eq found here pick, Option.isSome_some]

/-- What is assigned is handed out. -/
lemma Reachable.hands (re : Reachable s) {now : Instant} {asg : TaskAssignment}
    (e : (s.coordinator.assign id now).1 = some asg) :
    ∃ w pre j post kind index t, Hands s.coordinator id now asg (s.coordinator.assign id now).2
      w pre j post kind index t := by
  have permitted : s.Permits (.assign id now) := trivial
  -- the name is new, so the index gets an entry more and changes none
  have fresh : asg.attemptId ∉ s.coordinator.index.map Prod.fst :=
    (re.launched permitted (by simp [System.launches, e])).2
  rcases s.coordinator.assign_launches id now with none | ⟨ch, asg', c', chosen, launched, e'⟩
  · rw [none] at e
    cases e
  rw [e'] at e ⊢
  cases e
  obtain ⟨w, pre, j, post, here, cut, run, taken, earlier, later⟩ :=
    choose_first re.lawful.nodup re.lawful.jobs chosen
  obtain ⟨ej, -, -, t, pick, -⟩ := chooseTask_spec taken
  have mem : j ∈ s.coordinator.jobs := by
    rw [cut]
    exact List.mem_append_right _ List.mem_cons_self
  have found : s.coordinator.job? ch.job = some j := ej ▸ job?_of_mem re.lawful.nodup mem
  rw [launch_eq found here pick] at launched
  cases launched
  have gives := chooseTask_gives (slot_iff _ id w .map) (slot_iff _ id w .reduce) taken
  refine ⟨w, pre, j, post, ch.kind, ch.index, t, here, cut, ⟨run, gives.offers⟩, earlier, later,
    gives, pick, rfl,
    j.launched ch.kind ch.index t ch.isLocal id w.hostname now,
    launches_launched pick (chooseTask_isLocal taken pick) id now, ?_⟩
  have jobs := setJob_cut re.lawful.nodup cut
    (Job.launched_id j ch.kind ch.index t ch.isLocal id w.hostname now)
  rw [changeTracker, setEntry_of_fresh fresh, jobs, ej]
  rfl

end Launch

/-- A tracker is given a task exactly when it is registered and alive and some job is eligible. What
it is given is the task that the first eligible job in the order of service gives, and nothing else
changes than its launch. A tracker that is given nothing leaves the coordinator as it was. -/
theorem assign_exact {s : System} (re : Reachable s) (id : TrackerId) (now : Instant) :
    ((s.coordinator.assign id now).1.isSome ↔ ∃ w, s.coordinator.tracker? id = some w ∧
      w.dead = false ∧ ∃ j ∈ s.coordinator.jobs, s.coordinator.Eligible id w j) ∧
    ((s.coordinator.assign id now).1 = none → (s.coordinator.assign id now).2 = s.coordinator) ∧
    ∀ asg, (s.coordinator.assign id now).1 = some asg → ∃ w pre j post kind index t,
      Hands s.coordinator id now asg (s.coordinator.assign id now).2 w pre j post kind index t := by
  refine ⟨?_, fun none => ?_, fun asg e => re.hands e⟩
  · rw [isSome_assign re.lawful.nodup, isSome_choose re.lawful.jobs]
  · rcases s.coordinator.assign_launches id now with e | ⟨ch, asg, c', -, -, e⟩
    · rw [e]
    · rw [e] at none
      cases none

/-- After a user killed one of two maps, the tracker that runs the other one has a slot left, and it
is given the map again. -/
theorem sample_assign_exact :
    (lossSystem.coordinator.assign "t1" (.ofSeconds 1)).1 =
      some ⟨"attempt_202601020304_0001_m_000000_1", "task_202601020304_0001_m_000000",
        "job_202601020304_0001", .map, some ⟨"/datos/a", 0, 10, []⟩⟩ ∧
    ∃ w pre j post kind index t, Hands lossSystem.coordinator "t1" (.ofSeconds 1)
      ⟨"attempt_202601020304_0001_m_000000_1", "task_202601020304_0001_m_000000",
        "job_202601020304_0001", .map, some ⟨"/datos/a", 0, 10, []⟩⟩
      (lossSystem.coordinator.assign "t1" (.ofSeconds 1)).2 w pre j post kind index t :=
  have given : (lossSystem.coordinator.assign "t1" (.ofSeconds 1)).1 =
      some ⟨"attempt_202601020304_0001_m_000000_1", "task_202601020304_0001_m_000000",
        "job_202601020304_0001", .map, some ⟨"/datos/a", 0, 10, []⟩⟩ := by decide +kernel
  ⟨given, (assign_exact ⟨_, _, loss_run⟩ "t1" (.ofSeconds 1)).2.2 _ given⟩

end JobCluster.Coordinator
