import JobCluster.Proofs.Coordinator.Figures

/-!
# The answer about the cluster

The status of the cluster sums the live trackers and their slots in 32-bit words, and a tracker may
register with any number of slots. There is an answer exactly when the sums fit (`cluster_summed`),
and it holds them and the number of dead trackers. Two trackers are enough for a sum that does not
fit (`slots_past_word`).
-/

namespace JobCluster.Coordinator

open JobCluster.Number JobCluster.Text JobCluster.Time

/-- How many trackers are dead. -/
def deadCount (c : Coordinator) : Nat := c.trackers.countP fun e => e.2.dead

/-- What an answer about the cluster says of the trackers. -/
structure Summed (c : Coordinator) (st : ClusterStatus) : Prop where
  slots : ∀ kind, (st.maxTasks kind).toNat = c.liveSlots kind
  live : st.taskTrackers.toNat = c.liveTrackers.length
  dead : c.deadCount ≤ maxWord32 → st.deadTrackers.toNat = c.deadCount

section Summary

variable {c : Coordinator} {s : System} {st : ClusterStatus}

/-- A tracker is live or dead. -/
lemma live_add_dead (c : Coordinator) :
    c.liveTrackers.length + c.deadCount = c.trackers.length := by
  have split := c.trackers.length_eq_countP_add_countP fun e => e.2.dead
  simp only [Bool.not_eq_true, Bool.decide_eq_false] at split
  rw [liveTrackers, List.length_map, ← List.countP_eq_length_filter, deadCount, split, Nat.add_comm]

/-- A number up to the largest word is the number of its word. -/
lemma toNat_ofNat_of_le {n : Nat} (le : n ≤ maxWord32) : (UInt32.ofNat n).toNat = n :=
  UInt32.toNat_ofNat_of_lt (Nat.lt_succ_of_le le)

/-- The dead are counted as a word. -/
lemma dead_of_clusterStatus (e : c.clusterStatus = some st) :
    st.deadTrackers = .ofNat c.deadCount := by
  obtain ⟨live, -, e⟩ := Option.bind_eq_some_iff.1 e
  obtain ⟨maxMaps, -, e⟩ := Option.bind_eq_some_iff.1 e
  obtain ⟨maxReduces, -, e⟩ := Option.bind_eq_some_iff.1 e
  obtain ⟨maps, -, e⟩ := Option.bind_eq_some_iff.1 e
  obtain ⟨reduces, -, e⟩ := Option.bind_eq_some_iff.1 e
  cases Option.some.inj e
  rfl

/-- The cluster is answered for exactly when the live trackers and, for each kind, their slots fit
in 32 bits when they are summed. The answer then holds these sums, and it counts the dead trackers.
-/
theorem cluster_summed (re : Reachable s) :
    (s.coordinator.clusterStatus.isSome ↔ s.coordinator.liveTrackers.length ≤ maxWord32 ∧
      ∀ kind, s.coordinator.liveSlots kind ≤ maxWord32) ∧
    s.coordinator.liveTrackers.length + s.coordinator.deadCount = s.coordinator.trackers.length ∧
    ∀ st, s.coordinator.clusterStatus = some st → Summed s.coordinator st := by
  refine ⟨re.isSome_clusterStatus, live_add_dead _, fun st e => ?_⟩
  refine ⟨fun kind => (clusterStatus_eq_some e kind).1, live_of_clusterStatus e, fun few => ?_⟩
  rw [dead_of_clusterStatus e]
  exact toNat_ofNat_of_le few

end Summary

/-- Two trackers register, one sends a heartbeat half a minute later, and a sweep finds the other
one lost. -/
def halfDeadSystem : System :=
  (System.start "202601020304").after [.register "t1" ⟨"h1", 2, 1⟩ (.ofSeconds 0),
    .register "t2" ⟨"h2", 3, 0⟩ (.ofSeconds 0),
    .heartbeat ⟨"t2", .zero _ false, 0⟩ (.ofSeconds 30),
    .sweep (.ofSeconds 40) (.ofSeconds 20) [] fun _ => .ofSeconds 40]

/-- The live tracker of the two is the one whose slots are told. -/
theorem sample_cluster_summed :
    (halfDeadSystem.coordinator.clusterStatus.map fun st =>
      (st.maxMapTasks, st.maxReduceTasks, st.taskTrackers, st.deadTrackers)) =
      some (3, 0, 1, 1) ∧
    ∀ st, halfDeadSystem.coordinator.clusterStatus = some st →
      Summed halfDeadSystem.coordinator st :=
  ⟨by decide +kernel, (cluster_summed ⟨_, _, .of_permitsAll (by decide +kernel)⟩).2.2⟩

/-- Two trackers of which one registers with as many map slots as a word can hold. -/
def largeSlots : List Operation :=
  [.register "t1" ⟨"h1", 4294967295, 1⟩ (.ofSeconds 0),
    .register "t2" ⟨"h2", 1, 1⟩ (.ofSeconds 0)]

/-- Two registrations can bring the sum of the map slots past a word, and the status of the cluster
is not answered any more. -/
theorem slots_past_word :
    Run (System.start "202601020304") largeSlots ((System.start "202601020304").after largeSlots) ∧
    ((System.start "202601020304").after largeSlots).coordinator.liveSlots .map = 2 ^ 32 ∧
    ((System.start "202601020304").after largeSlots).coordinator.clusterStatus = none :=
  ⟨.of_permitsAll (by decide +kernel), by decide +kernel, by decide +kernel⟩

end JobCluster.Coordinator
