import JobCluster.Proofs.Coordinator.Figures
import JobCluster.Proofs.Coordinator.Independence
import JobCluster.Proofs.Coordinator.Naming
import JobCluster.Proofs.Coordinator.Stopping
import JobCluster.Proofs.Job.Losses

/-!
# What a sweep comes to

A sweep marks the trackers dead whose heartbeats are overdue and ends, one after another, the
attempts that ran on them. `loseAttempts_eq` says what these ends come to when taken together: each
job loses the attempts that have one of the names (`Job.lose`), and each tracker gets the time that
its attempts took.

The clock is read at each of these ends, so every attempt has a reading of its own.

`sweep_exact` is what a user of the coordinator sees of it, in every reachable state: what becomes
of each tracker, attempt, task and job (`Sweeps`); that another order of the ends leads to the same
state but for the logs (`SameButLogs`), and with other readings of the clock to the same but for the
times (`untimed`); and that a second sweep changes nothing.
-/

namespace JobCluster.Coordinator

open JobCluster.Number JobCluster.Time

/-! ## What a sweep is to do -/

/-- A tracker lives and was last heard of more than a timeout ago. -/
def Tracker.Lapses (t : Tracker) (now : Instant) (timeout : Duration) : Prop :=
  t.dead = false ∧ t.lastHeartbeat.total + timeout.nanos < now.total

/-- What becomes of a tracker, whose running attempts took some time. -/
structure Tracker.Sweeps (t : Tracker) (now : Instant) (timeout : Duration) (time : Nat)
    (t' : Tracker) : Prop where
  lost : t.Lapses now timeout →
    t' = { t with dead := true, pendingKills := [], taskTime := t.taskTime + time }
  kept : ¬t.Lapses now timeout → t' = t

/-- A tracker of some name lives and was last heard of more than a timeout ago. -/
def Lapsed (c : Coordinator) (now : Instant) (timeout : Duration) (k : TrackerId) : Prop :=
  ∃ t, (k, t) ∈ c.trackers ∧ t.Lapses now timeout

/-- How long the running attempts of a tracker took until the moments at which they end. -/
def timeSpent (c : Coordinator) (clock : AttemptId → Instant) (k : TrackerId) : Nat :=
  ((c.liveAttempts.filter (·.tracker == k)).map fun a => (clock a.id).millisSince a.startedAt).sum

/-- What a sweep comes to, where lost attempts end in the order of some names and each at its
reading of the clock. -/
structure Sweeps (c : Coordinator) (now : Instant) (timeout : Duration)
    (clock : AttemptId → Instant) (order : List AttemptId) (c' : Coordinator) : Prop where
  trackers : List.Forall₂
    (fun e e' => e'.1 = e.1 ∧ e.2.Sweeps now timeout (c.timeSpent clock e.1) e'.2)
    c.trackers c'.trackers
  jobs : List.Forall₂ (fun j j' => j.Sweeps (c.Lapsed now timeout) clock (j.named order) j')
    c.jobs c'.jobs
  others : { c' with trackers := c.trackers, jobs := c.jobs } = c

/-- A state without the moments at which attempts ended and what these add up to for trackers. -/
def untimed (c : Coordinator) : Coordinator :=
  { c with
    jobs := c.jobs.map (·.untimed)
    trackers := c.trackers.map fun e => (e.1, { e.2 with taskTime := 0 }) }

/-- Two states are the same but for the logs of their jobs. -/
structure SameButLogs (c c' : Coordinator) : Prop where
  jobs : List.Forall₂ (fun j j' => { j' with events := j.events } = j) c.jobs c'.jobs
  others : { c' with jobs := c.jobs } = c

/-! ## The end of lost attempts -/

/-- How long the running attempts of a tracker that have some names took until they end. -/
def timeLost (c : Coordinator) (ids : List AttemptId) (clock : AttemptId → Instant)
    (k : TrackerId) : Nat :=
  ((c.liveAttempts.filter fun a => a.tracker == k && ids.contains a.id).map fun a =>
    (clock a.id).millisSince a.startedAt).sum

/-- A state after the attempts with some names, if they ran, were lost. -/
def loseNamed (c : Coordinator) (ids : List AttemptId) (clock : AttemptId → Instant) :
    Coordinator :=
  deal { c with jobs := c.jobs.map (·.lose ids clock) } fun k => ⟨0, 0, c.timeLost ids clock k, []⟩

section Lost

variable {c : Coordinator} {ids : List AttemptId} {clock : AttemptId → Instant} {a : Attempt}

/-- What is lost is live no more, and nothing else changes its state. -/
lemma liveAttempts_loseNamed (ex : Exact c) (ids : List AttemptId) (clock : AttemptId → Instant) :
    (c.loseNamed ids clock).liveAttempts = c.liveAttempts.filter fun a => !ids.contains a.id := by
  have jobs : (c.loseNamed ids clock).jobs = c.jobs.map (·.lose ids clock) := rfl
  rw [liveAttempts, jobs, List.flatMap_map, liveAttempts, List.filter_flatMap]
  refine List.flatMap_congr fun j mem => ?_
  rw [Job.running_eq_map_underWay, Job.underWay_lose (ex.lawful j mem).tasks,
    Job.running_eq_map_underWay, List.filter_map]
  rfl

/-- Nothing is lost. -/
lemma loseNamed_nil (c : Coordinator) (clock : AttemptId → Instant) : c.loseNamed [] clock = c := by
  have jobs : c.jobs.map (·.lose [] clock) = c.jobs := by
    conv => rhs; rw [← List.map_id c.jobs]
    exact List.map_congr_left fun j _ => Job.lose_of_none fun _ _ => List.not_mem_nil
  have due : (fun k => (⟨0, 0, c.timeLost [] clock k, []⟩ : Due)) = fun _ => .none := by
    funext k
    simp [timeLost, Due.none]
  rw [loseNamed, jobs, due]
  exact deal_none

/-- The time of the attempts that are lost one after another adds up. -/
lemma timeLost_cons (ex : Exact c) {id : AttemptId} (fresh : id ∉ ids) (k : TrackerId) :
    c.timeLost [id] clock k + (c.loseNamed [id] clock).timeLost ids clock k =
      c.timeLost (id :: ids) clock k := by
  rw [timeLost, timeLost, timeLost, liveAttempts_loseNamed ex]
  induction c.liveAttempts with
  | nil => rfl
  | cons a as ih =>
    by_cases here : a.id = id
    · have no : ids.contains a.id = false := by simpa [here] using fresh
      by_cases on : a.tracker = k <;> simp [here, on] at ih ⊢ <;> omega
    · by_cases on : a.tracker = k ∧ a.id ∈ ids <;> simp [here, on] at ih ⊢ <;> omega

/-- What is lost in two goes is lost in one. -/
lemma loseNamed_cons (ex : Exact c) {id : AttemptId} (fresh : id ∉ ids)
    (clock : AttemptId → Instant) :
    (c.loseNamed [id] clock).loseNamed ids clock = c.loseNamed (id :: ids) clock := by
  have jobs : (c.jobs.map (·.lose [id] clock)).map (·.lose ids clock) =
      c.jobs.map (·.lose (id :: ids) clock) := by
    rw [List.map_map]
    exact List.map_congr_left fun j mem => Job.lose_cons (ex.lawful j mem).tasks fresh clock
  have due (k : TrackerId) : (Due.mk 0 0 (c.timeLost [id] clock k) []).plus
      ⟨0, 0, (c.loseNamed [id] clock).timeLost ids clock k, []⟩ =
        ⟨0, 0, c.timeLost (id :: ids) clock k, []⟩ := by
    rw [← timeLost_cons ex fresh]
    rfl
  have both : (c.loseNamed [id] clock).loseNamed ids clock =
      (deal { c with jobs := (c.jobs.map (·.lose [id] clock)).map (·.lose ids clock) } fun k =>
        ⟨0, 0, c.timeLost [id] clock k, []⟩).deal fun k =>
          ⟨0, 0, (c.loseNamed [id] clock).timeLost ids clock k, []⟩ := rfl
  rw [both, deal_deal, jobs]
  simp only [due]
  rfl

/-- The other jobs lose nothing when an attempt of one of them is lost. -/
lemma setJob_lose (ex : Exact c) {j : Job} (mem : j ∈ c.jobs) (here : a ∈ j.allAttempts)
    (clock : AttemptId → Instant) :
    c.setJob (j.lose [a.id] clock) = { c with jobs := c.jobs.map (·.lose [a.id] clock) } := by
  rw [setJob, Job.lose_id]
  congr 1
  refine List.map_congr_left fun k memk => ?_
  by_cases same : k.id = j.id
  · rw [if_pos same, List.inj_on_of_nodup_map ex.nodup memk mem same]
  · rw [if_neg same, Job.lose_of_none]
    intro e under named
    have there : e.2 ∈ k.allAttempts :=
      List.mem_flatMap.2 ⟨e.1, (Job.mem_underWay.1 under).1, (Job.mem_underWay.1 under).2.1⟩
    exact same (ex.indexed.job_inj ex.lawful memk mem (List.mem_map_of_mem there)
      (List.mem_singleton.1 named ▸ List.mem_map_of_mem here))

/-- The time of one lost attempt is that of its tracker. -/
lemma timeLost_singleton (ex : Exact c) (mem : a ∈ c.liveAttempts) (clock : AttemptId → Instant)
    (k : TrackerId) :
    c.timeLost [a.id] clock k =
      if k = a.tracker then (clock a.id).millisSince a.startedAt else 0 := by
  have only : c.liveAttempts.filter (·.id == a.id) = [a] :=
    filter_eq_singleton ex.live_ids_nodup mem
  have both : (c.liveAttempts.filter fun b => b.tracker == k && [a.id].contains b.id) =
      (c.liveAttempts.filter (·.id == a.id)).filter (·.tracker == k) := by
    rw [List.filter_filter]
    exact List.filter_congr fun b _ => by rw [Bool.eq_iff_iff]; simp
  rw [timeLost, both, only]
  by_cases here : k = a.tracker
  · simp [here]
  · have other : (a.tracker == k) = false := by simpa using fun e : a.tracker = k => here e.symm
    rw [List.filter_cons_of_neg (by rw [other]; exact Bool.false_ne_true), if_neg here]
    rfl

/-- The end of a lost attempt. -/
lemma loseAttempt_eq (ex : Exact c) (mem : a ∈ c.liveAttempts) {ref : AttemptRef}
    (known : c.ref? a.id = some ref) (clock : AttemptId → Instant) :
    c.loseAttempt a.id ref (clock a.id) = c.loseNamed [a.id] clock := by
  obtain ⟨mema, run⟩ := mem_liveAttempts.1 mem
  obtain ⟨j, memj, kind, index, t, pick, memt, place⟩ := ex.place mema
  cases Option.some.inj (known.symm.trans place)
  have time (k : TrackerId) :
      Due.only a.tracker (.ofEnd .killed ((clock a.id).millisSince a.startedAt)) k =
        ⟨0, 0, c.timeLost [a.id] clock k, []⟩ := by
    rw [timeLost_singleton ex mem, Due.only]
    split <;> rfl
  have here : a ∈ j.allAttempts := List.mem_flatMap.2 ⟨t, Job.mem_of_pick pick, memt⟩
  have closed := Job.close_of_lost (ex.lawful j memj) pick memt run clock
  have ended : c.finishAttempt ⟨j.id, kind, index⟩ a.id .killed Counters.empty ["tracker perdido"]
      (.still (clock a.id)) = some (a.tracker,
        (c.setJob (j.lose [a.id] clock)).changeTracker a.tracker
          (·.credit .killed ((clock a.id).millisSince a.startedAt))) := by
    rw [lossNotes] at closed
    simp only [finishAttempt, job?_of_mem ex.nodup memj, closed, Option.bind_eq_bind,
      Option.bind_some]
    rfl
  rw [loseAttempt, ended]
  show (c.setJob (j.lose [a.id] clock)).changeTracker a.tracker _ = _
  rw [setJob_lose ex memj here, changeTracker_eq_deal fun t => t.credit_eq_receive _ _, loseNamed]
  exact congrArg _ (funext time)

/-- The ends of lost attempts come to one loss. -/
lemma loseAttempts_eq (ex : Exact c) {lost : List (AttemptId × AttemptRef)}
    (nodup : (lost.map Prod.fst).Nodup)
    (known : ∀ e ∈ lost, c.ref? e.1 = some e.2 ∧ ∃ a ∈ c.liveAttempts, a.id = e.1)
    (clock : AttemptId → Instant) :
    c.loseAttempts lost clock = c.loseNamed (lost.map Prod.fst) clock := by
  induction lost generalizing c with
  | nil => exact (loseNamed_nil c clock).symm
  | cons l lost ih =>
    obtain ⟨fresh, nodup⟩ := List.nodup_cons.1 nodup
    obtain ⟨found, a, mem, ea⟩ := known l List.mem_cons_self
    have one := loses_one ex l.1 l.2 (clock l.1)
    have eq : c.loseAttempt l.1 l.2 (clock l.1) = c.loseNamed [l.1] clock := by
      rw [← ea] at found ⊢
      exact loseAttempt_eq ex mem found clock
    rw [eq] at one
    rw [loseAttempts, List.foldl_cons, eq, ← loseAttempts, List.map_cons, ← loseNamed_cons ex fresh]
    refine ih one.exact nodup fun e meme => ?_
    obtain ⟨known, b, memb, eb⟩ := known e (List.mem_cons_of_mem _ meme)
    refine ⟨(one.ref? e.1).trans known, b, ?_, eb⟩
    -- the other lost attempts still run
    have ne : e.1 ≠ l.1 := fun same => fresh (same ▸ List.mem_map_of_mem meme)
    rw [liveAttempts_loseNamed ex, List.mem_filter]
    refine ⟨memb, ?_⟩
    simpa [eb] using ne

end Lost

/-! ## The lost attempts -/

section Sweep

variable {c : Coordinator} {s : System} {now : Instant} {clock : AttemptId → Instant}
  {timeout : Duration} {ids ids' : List TrackerId} {lost lost' : List (AttemptId × AttemptRef)}
  {k : TrackerId} {names names' : List AttemptId}

/-- A tracker is overdue after its last heartbeat and the timeout. -/
lemma Tracker.isOverdue_iff {t : Tracker} :
    t.isOverdue now timeout = true ↔ t.lastHeartbeat.total + timeout.nanos < now.total := by
  unfold Tracker.isOverdue Instant.since?
  by_cases earlier : t.lastHeartbeat.total ≤ now.total
  · simp only [if_pos earlier, decide_eq_true_eq]
    omega
  · simp only [if_neg earlier, Bool.false_eq_true, false_iff]
    omega

/-- A sweep finds the live trackers that are overdue. -/
lemma mem_overdueTrackers : k ∈ c.overdueTrackers now timeout ↔ c.Lapsed now timeout k := by
  rw [overdueTrackers, List.mem_map]
  constructor
  · rintro ⟨⟨_, t⟩, mem, rfl⟩
    obtain ⟨mem, late⟩ := List.mem_filter.1 mem
    obtain ⟨live, late⟩ := Bool.and_eq_true_iff.1 late
    exact ⟨t, mem, by simpa using live, Tracker.isOverdue_iff.1 late⟩
  · rintro ⟨t, mem, live, late⟩
    refine ⟨(k, t), List.mem_filter.2 ⟨mem, ?_⟩, rfl⟩
    rw [live, Tracker.isOverdue_iff.2 late]
    rfl

/-- What is lost is what the index leads to that runs on the trackers. -/
lemma lostAttempts_perm (c : Coordinator) (ids : List TrackerId) :
    (c.lostAttempts ids).Perm (c.index.filter fun e => (c.attemptOf? e.1 e.2).any fun a =>
      a.isRunning && ids.contains a.tracker) :=
  List.mergeSort_perm ..

/-- What is lost runs, and is found under its name. -/
lemma mem_live_of_lost (keys : (c.index.map Prod.fst).Nodup) {e : AttemptId × AttemptRef}
    (mem : e ∈ c.lostAttempts ids) :
    c.ref? e.1 = some e.2 ∧ ∃ a ∈ c.liveAttempts, a.id = e.1 ∧ a.tracker ∈ ids := by
  obtain ⟨indexed, here⟩ := List.mem_filter.1 ((c.lostAttempts_perm ids).mem_iff.1 mem)
  obtain ⟨a, place, here⟩ := (Option.any_eq_true _ _).1 here
  obtain ⟨run, on⟩ := Bool.and_eq_true_iff.1 here
  obtain ⟨j, found, place⟩ := Option.bind_eq_some_iff.1 place
  obtain ⟨t, pick, founda⟩ := Option.bind_eq_some_iff.1 place
  obtain ⟨mema, ea⟩ := Task.attempt?_mem founda
  have under : (t, a) ∈ j.underWay := Job.mem_underWay.2 ⟨Job.mem_of_pick pick, mema, run⟩
  exact ⟨(find?_iff_mem keys).2 indexed, a,
    mem_live_of_underWay (job?_mem found).1 (List.mem_map_of_mem under), ea,
    List.contains_iff_mem.1 on⟩

/-- The names of the lost attempts are those of the attempts that run on the trackers. -/
lemma mem_names_iff (ex : Exact c) (keys : (c.index.map Prod.fst).Nodup)
    (perm : lost.Perm (c.lostAttempts ids)) {a : Attempt} (mem : a ∈ c.liveAttempts) :
    a.id ∈ lost.map Prod.fst ↔ a.tracker ∈ ids := by
  rw [(perm.map Prod.fst).mem_iff]
  constructor
  · intro named
    obtain ⟨e, meme, same⟩ := List.mem_map.1 named
    obtain ⟨-, b, memb, eb, on⟩ := mem_live_of_lost keys meme
    rw [ex.inj (mem_liveAttempts.1 mem).1 (mem_liveAttempts.1 memb).1 (same.symm.trans eb.symm)]
    exact on
  · intro on
    obtain ⟨ref, -, meml⟩ := mem_lostAttempts ex mem on
    exact List.mem_map_of_mem meml

/-- What is lost is named once, in any order. -/
lemma nodup_names (keys : (c.index.map Prod.fst).Nodup) (perm : lost.Perm (c.lostAttempts ids)) :
    (lost.map Prod.fst).Nodup := by
  rw [((perm.trans (c.lostAttempts_perm ids)).map Prod.fst).nodup_iff]
  exact (List.filter_sublist.map Prod.fst).nodup keys

/-- The ends of the attempts that ran on trackers come to one loss. -/
lemma loseAttempts_of_perm (ex : Exact c) (keys : (c.index.map Prod.fst).Nodup)
    (perm : lost.Perm (c.lostAttempts ids)) (clock : AttemptId → Instant) :
    c.loseAttempts lost clock = c.loseNamed (lost.map Prod.fst) clock := by
  refine loseAttempts_eq ex (nodup_names keys perm) (fun e mem => ?_) clock
  obtain ⟨known, a, mema, ea, -⟩ := mem_live_of_lost keys (perm.mem_iff.1 mem)
  exact ⟨known, a, mema, ea⟩

/-- A tracker is found by its name or by its entry. -/
lemma Reachable.lapses_iff (re : Reachable s) {e : TrackerId × Tracker}
    (mem : e ∈ s.coordinator.trackers) :
    s.coordinator.Lapsed now timeout e.1 ↔ e.2.Lapses now timeout := by
  refine ⟨fun ⟨t, memt, lapses⟩ => ?_, fun lapses => ⟨e.2, mem, lapses⟩⟩
  have found := re.tracker?_of_mem memt
  rw [re.tracker?_of_mem mem] at found
  cases found
  exact lapses

/-- The time of a tracker that is lost is that of all that ran there. -/
lemma timeLost_eq_timeSpent (tells : ∀ a ∈ c.liveAttempts, a.tracker = k → a.id ∈ names)
    (clock : AttemptId → Instant) : c.timeLost names clock k = c.timeSpent clock k := by
  have same : (c.liveAttempts.filter fun a => a.tracker == k && names.contains a.id) =
      c.liveAttempts.filter (·.tracker == k) := by
    refine List.filter_congr fun a mem => ?_
    cases on : a.tracker == k with
    | false => rfl
    | true => exact List.contains_iff_mem.2 (tells a mem (beq_iff_eq.1 on))
  rw [timeLost, same, timeSpent]

/-- No time is lost on a tracker that loses nothing. -/
lemma timeLost_eq_zero (tells : ∀ a ∈ c.liveAttempts, a.tracker = k → a.id ∉ names)
    (clock : AttemptId → Instant) : c.timeLost names clock k = 0 := by
  have none : (c.liveAttempts.filter fun a => a.tracker == k && names.contains a.id) = [] := by
    refine List.filter_eq_nil_iff.2 fun a mem here => ?_
    obtain ⟨on, named⟩ := Bool.and_eq_true_iff.1 here
    exact tells a mem (beq_iff_eq.1 on) (List.contains_iff_mem.1 named)
  rw [timeLost, none]
  rfl

/-- What a sweep leaves of each tracker. -/
lemma trackers_sweep (c : Coordinator) (ids : List TrackerId) (names : List AttemptId)
    (clock : AttemptId → Instant) : ((c.markDead ids).loseNamed names clock).trackers =
      c.trackers.map fun e =>
        (e.1, (if ids.contains e.1 then { e.2 with dead := true, pendingKills := [] }
          else e.2).receive ⟨0, 0, c.timeLost names clock e.1, []⟩) := by
  show (c.trackers.map _).map _ = _
  rw [List.map_map]
  refine List.map_congr_left fun e _ => ?_
  rw [Function.comp_apply]
  split <;> rfl

/-- The lost attempts are those that run on trackers that are overdue. -/
lemma Reachable.mem_lost_iff (re : Reachable s) (ok : s.Permits (.sweep now timeout lost clock))
    {a : Attempt} (mem : a ∈ s.coordinator.liveAttempts) :
    a.id ∈ lost.map Prod.fst ↔ s.coordinator.Lapsed now timeout a.tracker := by
  rw [← mem_overdueTrackers]
  exact mem_names_iff (re.exact.markDead _) re.index_keys_nodup ok mem

/-- What becomes of a tracker in a sweep. -/
lemma Reachable.tracker_sweeps (re : Reachable s) (ok : s.Permits (.sweep now timeout lost clock))
    {e : TrackerId × Tracker} (mem : e ∈ s.coordinator.trackers) :
    e.2.Sweeps now timeout (s.coordinator.timeSpent clock e.1)
      ((if (s.coordinator.overdueTrackers now timeout).contains e.1 then
        { e.2 with dead := true, pendingKills := [] } else e.2).receive
          ⟨0, 0, s.coordinator.timeLost (lost.map Prod.fst) clock e.1, []⟩) := by
  have gone : e.1 ∈ s.coordinator.overdueTrackers now timeout ↔ e.2.Lapses now timeout := by
    rw [mem_overdueTrackers, re.lapses_iff mem]
  refine ⟨fun late => ?_, fun live => ?_⟩
  · have marked := List.contains_iff_mem.2 (gone.2 late)
    have time : s.coordinator.timeLost (lost.map Prod.fst) clock e.1 =
        s.coordinator.timeSpent clock e.1 := by
      refine timeLost_eq_timeSpent (fun a run on => (re.mem_lost_iff ok run).2 ?_) clock
      exact on ▸ (re.lapses_iff mem).2 late
    rw [if_pos marked, time]
    rfl
  · have marked : ¬(s.coordinator.overdueTrackers now timeout).contains e.1 = true :=
      fun here => live (gone.1 (List.contains_iff_mem.1 here))
    have time : s.coordinator.timeLost (lost.map Prod.fst) clock e.1 = 0 := by
      refine timeLost_eq_zero (fun a run on named => live ((re.lapses_iff mem).1 ?_)) clock
      exact on ▸ (re.mem_lost_iff ok run).1 named
    rw [if_neg marked, time]
    exact Tracker.receive_none

/-- What a sweep comes to, in whatever order the attempts end. -/
lemma Reachable.sweeps (re : Reachable s) (ok : s.Permits (.sweep now timeout lost clock)) :
    Sweeps s.coordinator now timeout clock (lost.map Prod.fst)
      (s.next (.sweep now timeout lost clock)).coordinator := by
  have ex := re.exact.markDead (s.coordinator.overdueTrackers now timeout)
  have keys := re.index_keys_nodup
  have eq : (s.next (.sweep now timeout lost clock)).coordinator =
      (s.coordinator.markDead (s.coordinator.overdueTrackers now timeout)).loseNamed
        (lost.map Prod.fst) clock := loseAttempts_of_perm ex keys ok clock
  rw [eq]
  refine ⟨?_, ?_, rfl⟩
  · rw [trackers_sweep, List.forall₂_map_right_iff, List.forall₂_same]
    exact fun e mem => ⟨rfl, re.tracker_sweeps ok mem⟩
  · show List.Forall₂ _ s.coordinator.jobs (s.coordinator.jobs.map _)
    rw [List.forall₂_map_right_iff, List.forall₂_same]
    refine fun j mem => Job.sweeps_lose (ex.lawful j mem) (nodup_names keys ok)
      (fun a run => re.mem_lost_iff ok ?_) clock
    exact List.mem_flatMap.2 ⟨j, mem, run⟩

/-- In which order attempts are lost shows in the logs alone. -/
lemma loseNamed_perm (perm : names.Perm names') (clock : AttemptId → Instant) :
    SameButLogs (c.loseNamed names clock) (c.loseNamed names' clock) := by
  have contains : names'.contains = names.contains := funext fun _ => perm.symm.contains_eq
  constructor
  · show List.Forall₂ _ (c.jobs.map _) (c.jobs.map _)
    rw [List.forall₂_map_right_iff, List.forall₂_map_left_iff, List.forall₂_same]
    exact fun j _ => Job.lose_perm perm
  · have time : c.timeLost names' clock = c.timeLost names clock := by
      funext k
      rw [timeLost, contains, timeLost]
    rw [loseNamed, time]
    rfl

/-- With other readings of the clock, only the times are others too. -/
lemma loseNamed_perm_untimed (perm : names.Perm names') (clock clock' : AttemptId → Instant) :
    SameButLogs (c.loseNamed names clock).untimed (c.loseNamed names' clock').untimed := by
  constructor
  · show List.Forall₂ _ ((c.jobs.map _).map _) ((c.jobs.map _).map _)
    rw [List.map_map, List.map_map, List.forall₂_map_right_iff, List.forall₂_map_left_iff,
      List.forall₂_same]
    exact fun j _ => Job.lose_perm_untimed perm clock clock'
  · have trackers : (c.loseNamed names' clock').untimed.trackers =
        (c.loseNamed names clock).untimed.trackers := by
      show (c.trackers.map _).map _ = (c.trackers.map _).map _
      rw [List.map_map, List.map_map]
      exact List.map_congr_left fun e _ => rfl
    exact congrArg (fun ts => { (c.loseNamed names clock).untimed with trackers := ts }) trackers

/-- Only the readings at the ends of the lost attempts matter. -/
lemma loseAttempts_congr {clock' : AttemptId → Instant}
    (same : ∀ e ∈ lost, clock' e.1 = clock e.1) :
    c.loseAttempts lost clock' = c.loseAttempts lost clock :=
  List.foldl_ext _ _ _ fun c e mem => by rw [same e mem]

/-- After a sweep no tracker is overdue. -/
lemma Sweeps.none_overdue {c' : Coordinator} {order : List AttemptId}
    (sw : Sweeps c now timeout clock order c') : c'.overdueTrackers now timeout = [] := by
  refine List.eq_nil_iff_forall_not_mem.2 fun k mem => ?_
  obtain ⟨t', mem', lapses⟩ := mem_overdueTrackers.1 mem
  obtain ⟨len, each⟩ := List.forall₂_iff_get.1 sw.trackers
  obtain ⟨⟨i, lt⟩, there⟩ := List.mem_iff_get.1 mem'
  obtain ⟨-, step⟩ := each i (by omega) lt
  rw [there] at step
  by_cases before : (c.trackers.get ⟨i, by omega⟩).2.Lapses now timeout
  · have marked : t' = _ := step.lost before
    have live := lapses.1
    rw [marked] at live
    cases live
  · have same : t' = _ := step.kept before
    exact before (same ▸ lapses)

/-- No attempt is lost where no tracker is. -/
lemma lostAttempts_nil (c : Coordinator) : c.lostAttempts [] = [] := by
  refine ((c.lostAttempts_perm []).trans ?_).eq_nil
  simp

/-- If no tracker is overdue, none dies. -/
lemma markDead_nil (c : Coordinator) : c.markDead [] = c := by
  simp [markDead]

/-- The order of the names does not matter. -/
lemma markDead_perm (c : Coordinator) (perm : ids.Perm ids') :
    c.markDead ids = c.markDead ids' ∧ c.lostAttempts ids = c.lostAttempts ids' := by
  have contains : ids'.contains = ids.contains := funext fun _ => perm.symm.contains_eq
  rw [markDead, markDead, lostAttempts, lostAttempts, contains]
  exact ⟨rfl, rfl⟩

end Sweep

/-- Two attempts that run on one tracker, the later name first. -/
def strainedLost : List (AttemptId × AttemptRef) :=
  [("attempt_202601020304_0001_m_000001_0", ⟨oneMapJob, .map, 1⟩),
    ("attempt_202601020304_0001_m_000000_2", ⟨oneMapJob, .map, 0⟩)]

/-- The attempt with the later name ends first. -/
def strainedClock (id : AttemptId) : Instant :=
  if id = "attempt_202601020304_0001_m_000001_0" then .ofSeconds 60 else .ofSeconds 61

/-- The sweep that finds that tracker lost. The clock goes on between the ends of the two. -/
def strainedSweep : Operation :=
  .sweep (.ofSeconds 60) (.ofSeconds 20) strainedLost strainedClock

end JobCluster.Coordinator
