import JobCluster.Coordinator.Queries
import JobCluster.Proofs.Coordinator.Slots
import Mathlib.Algebra.BigOperators.Group.Finset.Basic

/-!
# The figures of the cluster

The coordinator counts what runs in three ways: for a tracker that asks for work, for the status of
the cluster, and for the metrics of the trackers. `slots_kept` says that they are one count, and
that it stays within the slots of the live trackers.
-/

namespace JobCluster

/-- The running tasks of a kind. -/
def ClusterStatus.tasks (st : ClusterStatus) : TaskKind → UInt32
  | .map => st.mapTasks
  | .reduce => st.reduceTasks

/-- The slots for a kind of task. -/
def ClusterStatus.maxTasks (st : ClusterStatus) : TaskKind → UInt32
  | .map => st.maxMapTasks
  | .reduce => st.maxReduceTasks

namespace Coordinator

open JobCluster.Number JobCluster.Text JobCluster.Time

/-! ## Counts -/

/-- The attempts that run at tasks of a kind, of all jobs. -/
def runningOf (c : Coordinator) (kind : TaskKind) : List Attempt :=
  c.jobs.flatMap fun j => (j.tasks kind).flatMap Task.running

/-- What runs on the trackers, summed over them. -/
def runningTotal (c : Coordinator) (kind : TaskKind) : Nat :=
  (c.trackers.map fun e => c.runningOn e.1 kind).sum

/-- The slots of the live trackers. -/
def liveSlots (c : Coordinator) (kind : TaskKind) : Nat :=
  (c.liveTrackers.map fun t => (t.slots kind).toNat).sum

section Sums

variable {α β : Type}

/-- Each element has one owner, so what all owners have is everything. -/
lemma sum_countP_owner [DecidableEq β] {owners : List β} (nodup : owners.Nodup) {xs : List α}
    {owner : α → β} (cover : ∀ x ∈ xs, owner x ∈ owners) :
    (owners.map fun o => xs.countP fun x => owner x == o).sum = xs.length := by
  have count (o : β) : (xs.countP fun x => owner x == o) =
      Multiset.count o (xs.map owner : Multiset β) := by
    rw [Multiset.coe_count, List.count, List.countP_map]
    rfl
  have inside : ∀ o ∈ (xs.map owner : Multiset β), o ∈ owners.toFinset := by
    intro o mem
    obtain ⟨x, memx, rfl⟩ := List.mem_map.1 (Multiset.mem_coe.1 mem)
    exact List.mem_toFinset.2 (cover x memx)
  simp only [count]
  rw [← List.sum_toFinset _ nodup, Multiset.sum_count_eq_card inside, Multiset.coe_card,
    List.length_map]

/-- Bounds on the chosen elements bound the sum, if the others add nothing. -/
lemma sum_le_sum_filter {p : α → Bool} {f g : α → Nat} {xs : List α}
    (le : ∀ x ∈ xs, f x ≤ if p x then g x else 0) :
    (xs.map f).sum ≤ ((xs.filter p).map g).sum := by
  induction xs with
  | nil => exact Nat.le_refl _
  | cons x xs ih =>
    have rest := ih fun y mem => le y (List.mem_cons_of_mem x mem)
    have here := le x List.mem_cons_self
    rw [List.filter_cons]
    split at here
    · next ok =>
      rw [if_pos ok, List.map_cons, List.sum_cons, List.map_cons, List.sum_cons]
      omega
    · next no =>
      rw [if_neg no, List.map_cons, List.sum_cons]
      omega

end Sums

section Figures

variable {c : Coordinator} {s : System} {kind : TaskKind}

/-- The word for a number has that number. -/
lemma word32?_eq_some {n : Nat} {w : UInt32} : word32? n = some w ↔ w.toNat = n := by
  have bound := w.toNat_lt
  have size : UInt32.size = 2 ^ 32 := rfl
  unfold word32? maxWord32
  split
  · next fits =>
    have exact : (UInt32.ofNat n).toNat = n := UInt32.toNat_ofNat_of_lt (by omega)
    rw [Option.some.injEq, ← UInt32.toNat_inj, exact, eq_comm]
  · next past =>
    constructor
    · exact nofun
    · intro e
      omega

/-- A number has a word if it is not above the largest one. -/
lemma isSome_word32? {n : Nat} : (word32? n).isSome ↔ n ≤ maxWord32 := by
  unfold word32?
  split
  · next fits => simp [fits]
  · next past => simp [past]

/-- The tasks of a kind are those of all tasks that have it. -/
lemma Job.Lawful.tasks_eq_filter {j : Job} (lw : j.Lawful) (kind : TaskKind) :
    j.tasks kind = j.allTasks.filter (·.kind == kind) := by
  have same (k : TaskKind) : ∀ t ∈ j.tasks k, t.kind = k := by
    intro t mem
    obtain ⟨i, pick⟩ := List.mem_iff_getElem?.1 mem
    exact (lw.placed k i t pick).kind_eq
  have maps : ∀ t ∈ j.maps, t.kind = .map := same .map
  have reduces : ∀ t ∈ j.reduces, t.kind = .reduce := same .reduce
  rw [allTasks, List.filter_append]
  cases kind with
  | map =>
    have all : j.maps.filter (·.kind == .map) = j.maps :=
      List.filter_eq_self.2 fun t mem => by simp [maps t mem]
    have none : j.reduces.filter (·.kind == .map) = [] :=
      List.filter_eq_nil_iff.2 fun t mem => by simp [reduces t mem]
    rw [all, none, List.append_nil]
    rfl
  | reduce =>
    have all : j.reduces.filter (·.kind == .reduce) = j.reduces :=
      List.filter_eq_self.2 fun t mem => by simp [reduces t mem]
    have none : j.maps.filter (·.kind == .reduce) = [] :=
      List.filter_eq_nil_iff.2 fun t mem => by simp [maps t mem]
    rw [all, none, List.nil_append]
    rfl

/-- The running attempts of a kind are the live ones of that kind. -/
lemma Exact.filter_running (ex : Exact c) (kind : TaskKind) :
    (c.running.filter (·.1.kind == kind)).map Prod.snd = c.runningOf kind := by
  rw [running, runningOf, List.filter_flatMap, List.map_flatMap]
  refine List.flatMap_congr fun j mem => ?_
  rw [(ex.lawful j mem).tasks_eq_filter]
  induction j.allTasks with
  | nil => rfl
  | cons t ts ih =>
    rw [List.flatMap_cons, List.filter_append, List.map_append, ih, List.filter_cons]
    cases here : t.kind == kind with
    | true => simp [here, List.filter_map, Function.comp_def]
    | false => simp [here, List.filter_map, Function.comp_def]

/-- What runs on a tracker, counted among the live attempts of a kind. -/
lemma Exact.runningOn_eq_countP (ex : Exact c) (k : TrackerId) (kind : TaskKind) :
    c.runningOn k kind = (c.runningOf kind).countP (·.tracker == k) := by
  rw [← ex.filter_running, List.countP_map, List.countP_filter, runningOn]
  apply List.countP_congr
  intro e _
  simp [and_comm]

/-- The running attempts of a kind are as many as its live ones. -/
lemma Exact.countP_kind (ex : Exact c) (kind : TaskKind) :
    (c.running.countP fun e => e.1.kind == kind) = (c.runningOf kind).length := by
  rw [← ex.filter_running, List.length_map, List.countP_eq_length_filter]

/-- What runs on a tracker is of one kind or of the other. -/
lemma countP_tracker (c : Coordinator) (k : TrackerId) :
    (c.running.countP fun e => e.2.tracker == k) = c.runningOn k .map + c.runningOn k .reduce := by
  rw [List.countP_eq_countP_filter_add _ _ fun e => e.1.kind == .map, List.countP_filter,
    List.countP_filter, runningOn, runningOn]
  congr 1
  · apply List.countP_congr
    intro e _
    simp [and_comm]
  · apply List.countP_congr
    intro e _
    cases e.1.kind <;> simp

/-- The slots of the live trackers, as a sum. -/
lemma sum_liveSlots (c : Coordinator) (f : Tracker → UInt32) :
    c.liveTrackers.foldr (fun t n => (f t).toNat + n) 0 =
      (c.liveTrackers.map fun t => (f t).toNat).sum := by
  rw [List.sum_eq_foldr, List.foldr_map]

/-- When the cluster is answered for, the figures are the counts. -/
lemma clusterStatus_eq_some {st : ClusterStatus} (e : c.clusterStatus = some st)
    (kind : TaskKind) :
    (st.maxTasks kind).toNat = c.liveSlots kind ∧
      (st.tasks kind).toNat = c.running.countP fun e => e.1.kind == kind := by
  obtain ⟨live, -, e⟩ := Option.bind_eq_some_iff.1 e
  obtain ⟨maxMaps, e₁, e⟩ := Option.bind_eq_some_iff.1 e
  obtain ⟨maxReduces, e₂, e⟩ := Option.bind_eq_some_iff.1 e
  obtain ⟨maps, e₃, e⟩ := Option.bind_eq_some_iff.1 e
  obtain ⟨reduces, e₄, e⟩ := Option.bind_eq_some_iff.1 e
  cases Option.some.inj e
  cases kind with
  | map => exact ⟨(word32?_eq_some.1 e₁).trans (sum_liveSlots ..), word32?_eq_some.1 e₃⟩
  | reduce => exact ⟨(word32?_eq_some.1 e₂).trans (sum_liveSlots ..), word32?_eq_some.1 e₄⟩

/-- The live trackers are summed like their slots. -/
lemma live_of_clusterStatus {st : ClusterStatus} (e : c.clusterStatus = some st) :
    st.taskTrackers.toNat = c.liveTrackers.length := by
  obtain ⟨live, counted, e⟩ := Option.bind_eq_some_iff.1 e
  obtain ⟨maxMaps, -, e⟩ := Option.bind_eq_some_iff.1 e
  obtain ⟨maxReduces, -, e⟩ := Option.bind_eq_some_iff.1 e
  obtain ⟨maps, -, e⟩ := Option.bind_eq_some_iff.1 e
  obtain ⟨reduces, -, e⟩ := Option.bind_eq_some_iff.1 e
  cases Option.some.inj e
  exact word32?_eq_some.1 counted

/-- Where all figures fit in words, the cluster is answered for. -/
lemma isSome_clusterStatus (live : c.liveTrackers.length ≤ maxWord32)
    (slots : ∀ kind, c.liveSlots kind ≤ maxWord32)
    (tasks : ∀ kind, (c.running.countP fun e => e.1.kind == kind) ≤ maxWord32) :
    c.clusterStatus.isSome := by
  obtain ⟨trackers, e₀⟩ := Option.isSome_iff_exists.1 (isSome_word32?.2 live)
  obtain ⟨maxMaps, e₁⟩ := Option.isSome_iff_exists.1 (isSome_word32?.2 (slots .map))
  obtain ⟨maxReduces, e₂⟩ := Option.isSome_iff_exists.1 (isSome_word32?.2 (slots .reduce))
  obtain ⟨maps, e₃⟩ := Option.isSome_iff_exists.1 (isSome_word32?.2 (tasks .map))
  obtain ⟨reduces, e₄⟩ := Option.isSome_iff_exists.1 (isSome_word32?.2 (tasks .reduce))
  rw [liveSlots, ← sum_liveSlots c (Tracker.slots · .map)] at e₁
  rw [liveSlots, ← sum_liveSlots c (Tracker.slots · .reduce)] at e₂
  simp only [Tracker.slots] at e₁ e₂
  simp only [clusterStatus, e₀, e₁, e₂, e₃, e₄]
  rfl

/-- Metrics are made from the entry of a tracker. -/
lemma mem_trackerMetrics {now : Instant} {m : TrackerMetrics} (mem : m ∈ c.trackerMetrics now) :
    ∃ e ∈ c.trackers, m = c.metricsOf now e.1 e.2 := by
  obtain ⟨e, meme, rfl⟩ := List.mem_map.1 (List.mem_mergeSort.1 mem)
  exact ⟨e, meme, rfl⟩

/-- An entry of a tracker is what is found under its name. -/
lemma Reachable.tracker?_of_mem (re : Reachable s) {e : TrackerId × Tracker}
    (mem : e ∈ s.coordinator.trackers) : s.coordinator.tracker? e.1 = some e.2 :=
  (find?_iff_mem re.trackers_nodup).2 mem

/-- The metrics have one entry for each tracker. -/
lemma Reachable.metrics_of_tracker (re : Reachable s) {k : TrackerId} {t : Tracker}
    (found : s.coordinator.tracker? k = some t) (now : Instant) :
    (s.coordinator.trackerMetrics now).filter (·.trackerId == k) =
      [s.coordinator.metricsOf now k t] := by
  have only : s.coordinator.trackers.filter (·.1 == k) = [(k, t)] :=
    filter_eq_singleton re.trackers_nodup ((find?_iff_mem re.trackers_nodup).1 found)
  have perm := (List.mergeSort_perm (s.coordinator.trackers.map fun e =>
    s.coordinator.metricsOf now e.1 e.2) metricsBefore).filter (·.trackerId == k)
  have entry : (s.coordinator.trackers.map fun e =>
      s.coordinator.metricsOf now e.1 e.2).filter (·.trackerId == k) =
        (s.coordinator.trackers.filter (·.1 == k)).map fun e =>
          s.coordinator.metricsOf now e.1 e.2 := List.filter_map
  rw [entry, only] at perm
  exact List.perm_singleton.1 perm

/-- A live attempt is on a live tracker. -/
lemma Reachable.mem_of_running (re : Reachable s) {a : Attempt}
    (mem : a ∈ s.coordinator.liveAttempts) :
    ∃ t, (a.tracker, t) ∈ s.coordinator.trackers ∧ t.dead = false := by
  obtain ⟨t, found, live⟩ := Option.map_eq_some_iff.1 (re.staffed a mem)
  exact ⟨t, (find?_iff_mem re.trackers_nodup).1 found, by simpa using live⟩

/-- What runs in one kind is live. -/
lemma mem_liveAttempts_of_runningOf {a : Attempt} (mem : a ∈ c.runningOf kind) :
    a ∈ c.liveAttempts := by
  obtain ⟨j, memj, mem⟩ := List.mem_flatMap.1 mem
  obtain ⟨t, memt, mema⟩ := List.mem_flatMap.1 mem
  exact List.mem_flatMap.2 ⟨j, memj, List.mem_flatMap.2 ⟨t, Job.mem_allTasks.2 ⟨kind, memt⟩, mema⟩⟩

/-- Each attempt that runs is counted for one tracker. -/
lemma Reachable.runningTotal_eq (re : Reachable s) (kind : TaskKind) :
    s.coordinator.runningTotal kind = (s.coordinator.runningOf kind).length := by
  have cover : ∀ a ∈ s.coordinator.runningOf kind,
      a.tracker ∈ s.coordinator.trackers.map Prod.fst := by
    intro a mem
    obtain ⟨t, memt, -⟩ := re.mem_of_running (mem_liveAttempts_of_runningOf mem)
    exact List.mem_map_of_mem memt
  rw [runningTotal, ← sum_countP_owner re.trackers_nodup cover, List.map_map]
  congr 1
  apply List.map_congr_left
  intro e _
  exact re.exact.runningOn_eq_countP e.1 kind

/-- Dead trackers run nothing, and the others no more than they have slots. -/
lemma Reachable.runningTotal_le (re : Reachable s) (kind : TaskKind) :
    s.coordinator.runningTotal kind ≤ s.coordinator.liveSlots kind := by
  rw [runningTotal, liveSlots, liveTrackers, List.map_map]
  apply sum_le_sum_filter
  intro e mem
  cases dead : e.2.dead with
  | false => exact re.fits _ (List.mem_map_of_mem mem) kind
  | true =>
    apply Nat.le_of_eq
    rw [re.exact.runningOn_eq_countP]
    apply List.countP_eq_zero.2
    intro a mema here
    have alive := re.staffed a (mem_liveAttempts_of_runningOf mema)
    rw [beq_iff_eq.1 here, alive?, re.tracker?_of_mem mem, Option.map_some, dead] at alive
    cases alive

/-- What runs is on live trackers and in their slots, so its count fits where the slots do. -/
lemma Reachable.isSome_clusterStatus (re : Reachable s) :
    s.coordinator.clusterStatus.isSome ↔ s.coordinator.liveTrackers.length ≤ maxWord32 ∧
      ∀ kind, s.coordinator.liveSlots kind ≤ maxWord32 := by
  constructor
  · intro answered
    obtain ⟨st, e⟩ := Option.isSome_iff_exists.1 answered
    constructor
    · rw [← live_of_clusterStatus e]
      exact Nat.le_pred_of_lt (UInt32.toNat_lt _)
    · intro kind
      rw [← (clusterStatus_eq_some e kind).1]
      exact Nat.le_pred_of_lt (UInt32.toNat_lt _)
  · rintro ⟨live, fits⟩
    refine JobCluster.Coordinator.isSome_clusterStatus live fits fun kind => ?_
    rw [re.exact.countP_kind, ← re.runningTotal_eq]
    exact Nat.le_trans (re.runningTotal_le kind) (fits kind)

end Figures

/-- Attempts run on live trackers and in their slots, and all counts of them agree. There is no
answer about the cluster when the live trackers or their slots, summed, are past a 32-bit word; what
runs never is. -/
structure SlotsKept (c : Coordinator) : Prop where
  staffed : ∀ a ∈ c.attempts, a.isRunning → ∃ t, (a.tracker, t) ∈ c.trackers ∧ t.dead = false
  names : (c.trackers.map Prod.fst).Nodup
  counted : ∀ id kind, c.runningOn id kind = (c.runningOf kind).countP (·.tracker == id)
  slots : ∀ e ∈ c.trackers, ∀ kind, c.runningOn e.1 kind ≤ (e.2.slots kind).toNat
  total : ∀ kind, c.runningTotal kind = (c.runningOf kind).length
  within : ∀ kind, c.runningTotal kind ≤ c.liveSlots kind
  answered : c.clusterStatus.isSome ↔ c.liveTrackers.length ≤ maxWord32 ∧
    ∀ kind, c.liveSlots kind ≤ maxWord32
  status : ∀ st, c.clusterStatus = some st → ∀ kind, (st.tasks kind).toNat = c.runningTotal kind ∧
    (st.maxTasks kind).toNat = c.liveSlots kind
  listed : ∀ now, ((c.trackerMetrics now).map TrackerMetrics.trackerId).Perm
    (c.trackers.map Prod.fst)
  metrics : ∀ now, ∀ m ∈ c.trackerMetrics now, m.runningAttempts =
    .ofNat (c.runningOn m.trackerId .map) + .ofNat (c.runningOn m.trackerId .reduce)
  exact : ∀ now, ∀ m ∈ c.trackerMetrics now, m.mapSlots.toNat + m.reduceSlots.toNat ≤ maxWord32 →
    m.runningAttempts.toNat = c.runningOn m.trackerId .map + c.runningOn m.trackerId .reduce

/-- In every run, attempts run in the slots of live trackers and are counted alike. -/
theorem slots_kept {s : System} (re : Reachable s) : SlotsKept s.coordinator := by
  have ex := re.exact
  refine ⟨?_, re.trackers_nodup, ex.runningOn_eq_countP, ?_, re.runningTotal_eq, re.runningTotal_le,
    re.isSome_clusterStatus, ?_, ?_, ?_, ?_⟩
  · intro a mem run
    exact re.mem_of_running (mem_liveAttempts.2 ⟨mem, run⟩)
  · intro e mem kind
    exact re.fits _ (List.mem_map_of_mem mem) kind
  · intro st e kind
    obtain ⟨max, tasks⟩ := clusterStatus_eq_some e kind
    rw [tasks, ex.countP_kind, ← re.runningTotal_eq]
    exact ⟨rfl, max⟩
  · intro now
    refine ((List.mergeSort_perm _ _).map TrackerMetrics.trackerId).trans ?_
    rw [List.map_map]
    exact .refl _
  · intro now m mem
    obtain ⟨e, -, rfl⟩ := mem_trackerMetrics mem
    rw [metricsOf, countP_tracker, UInt32.ofNat_add]
  · intro now m mem fits
    obtain ⟨e, meme, rfl⟩ := mem_trackerMetrics mem
    -- what runs fits in the slots, so it fits in a word if the slots do
    have maps : s.coordinator.runningOn e.1 .map ≤ e.2.mapSlots.toNat :=
      re.fits _ (List.mem_map_of_mem meme) .map
    have reduces : s.coordinator.runningOn e.1 .reduce ≤ e.2.reduceSlots.toNat :=
      re.fits _ (List.mem_map_of_mem meme) .reduce
    have fits : e.2.mapSlots.toNat + e.2.reduceSlots.toNat ≤ maxWord32 := fits
    rw [metricsOf, countP_tracker]
    apply UInt32.toNat_ofNat_of_lt
    rw [← Nat.lt_add_one_iff] at fits
    exact Nat.lt_of_le_of_lt (Nat.add_le_add maps reduces) fits

/-- When the tracker of the run with a loss has not been missed yet, one map runs in one of its two
slots, and the answer about the cluster says so. -/
theorem sample_slots_kept :
    (lossSystem.coordinator.runningOn "t1" .map = 1 ∧
      lossSystem.coordinator.liveSlots .map = 2 ∧
      lossSystem.coordinator.clusterStatus.map (·.tasks .map) = some 1) ∧
    SlotsKept lossSystem.coordinator :=
  ⟨by decide +kernel, slots_kept ⟨_, _, loss_run⟩⟩

end Coordinator

end JobCluster
