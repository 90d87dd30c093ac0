import JobCluster.Proofs.Coordinator.Locality
import JobCluster.Proofs.File.Tree
import JobCluster.Proofs.Input.Hosts
import JobCluster.Service.Answer

/-!
# From the blocks of a file to the place of its maps

The hosts that a provider knows for the bytes of a split are those that decide where its map is
launched, and how the launch is counted. What lies between, the splits of the inputs, the tasks of
the job, and any run of the coordinator, hands them on as they are (`maps_follow_blocks`).
-/

namespace JobCluster.Service

open JobCluster.Coordinator JobCluster.File JobCluster.Input JobCluster.Time

/-- Each split of a job carries the hosts of the blocks that share a byte with it, and where its map
is launched on a tracker, this is counted by whether the tracker is on one of them, and is on none
only if no map that waits has the tracker among its hosts. Where blocks cannot be located, splits
have no hosts, and are otherwise the same. -/
theorem maps_follow_blocks (s : Service) (inputs : List String) {size : UInt64} (pos : 1 ≤ size) :
    (∀ n, (computeSplits { s.files with native := n } s.tree inputs size).map (List.map bare) =
      (computeSplits s.files s.tree inputs size).map (List.map bare)) ∧
    ∀ splits, computeSplits s.files s.tree inputs size = .ok splits →
      (∀ split ∈ splits, CarriesHosts s.files split) ∧
      (∀ id now, (s.prepare ⟨id, inputs, size⟩ now).coordinator =
        (Operation.installTasks id splits).apply s.coordinator) ∧
      ∀ (before after : System) (id : JobId) (ops : List Operation), Reachable before →
        before.Permits (.installTasks id splits) →
        Run (before.next (.installTasks id splits)) ops after →
        ∀ tracker now asg, (after.coordinator.assign tracker now).1 = some asg →
          asg.jobId = id → asg.kind = .map →
          ∃ w j j' split, after.coordinator.tracker? tracker = some w ∧
            after.coordinator.job? id = some j ∧
            (after.coordinator.assign tracker now).2.job? id = some j' ∧
            Nears splits w.hostname asg j j' split := by
  refine ⟨fun n => bare_computeSplits s.files s.tree n inputs size,
    fun splits split => ⟨?_, ?_, ?_⟩⟩
  · exact carriesHosts_of_computeSplits pos split
  · intro id now
    rw [prepare, split]
    rfl
  · intro before after id ops re ok run tracker now asg given job map
    exact re.nears ok run given job map

/-- A service that reads a file of 25 bytes, which two hosts keep by turns, ten bytes each. -/
def byTurns : Service where
  coordinator := .start "202601020304"
  files := .new (.loaded fun _ start length => .ok (roundRobin 10 ["h1", "h2"] "1" start length))
    .root
  tree := ⟨[(["a"], .file ⟨[], 25⟩)]⟩
  splitSize := 10
  maxJobs := 10

/-- The splits of the file. -/
def turns : List InputSplit :=
  [⟨"/a", 0, 10, ["h1"]⟩, ⟨"/a", 10, 10, ["h2"]⟩, ⟨"/a", 20, 5, ["h1"]⟩]

/-- A system with a job that waits for its tasks. -/
def waiting : System :=
  (System.start "202601020304").after [.newJobId (.ofSeconds 0),
    .submit oneMapJob ⟨"wc", "ana", ["/a"], 0, .normal, none⟩ 10 10 (.ofSeconds 0)]

/-- The system with the maps and a tracker with two slots on the second host. -/
def staffed : System :=
  (waiting.next (.installTasks oneMapJob turns)).after [.register "t1" ⟨"h2", 2, 0⟩ (.ofSeconds 0)]

/-- The sample file has three splits, on the two hosts by turns. -/
lemma splits_byTurns : computeSplits byTurns.files byTurns.tree ["/a"] 10 = .ok turns := by
  have root : byTurns.files.workingDirectory.Normal := FileSystem.normal_atRoot
  have path : byTurns.files.pathOf "/a" = ⟨["a"]⟩ := by decide
  have file : expandInput byTurns.files byTurns.tree "/a" = .ok [⟨"/a", true, 25, false⟩] := by
    have told : byTurns.tree.status (Path.toText ⟨["a"]⟩) = .ok (.file ⟨[], 25⟩) := by
      apply Tree.status_of_walk (by decide) (by decide) (by decide) ["a"]
      simp +decide [Tree.walk, show walkSegments (Path.toText ⟨["a"]⟩) = ["a"] by decide,
        show byTurns.tree.entry? ["a"] = some (.file ⟨[], 25⟩) from rfl]
    rw [expandInput_file root (by decide) (by rw [path]; exact told), path]
    rfl
  rw [computeSplits_one file]
  exact congrArg _ (by decide +kernel)

/-- The tracker is given the second map first, which is near it, and then the first. -/
theorem sample_maps_follow_blocks :
    (1 : UInt64) ≤ 10 ∧ (∀ split ∈ turns, CarriesHosts byTurns.files split) ∧
    (∃ asg j j', (staffed.coordinator.assign "t1" (.ofSeconds 1)).1 = some asg ∧
      Nears turns "h2" asg j j' ⟨"/a", 10, 10, ["h2"]⟩) ∧
    ∃ asg j j', ((staffed.next (.assign "t1" (.ofSeconds 1))).coordinator.assign "t1"
      (.ofSeconds 2)).1 = some asg ∧ Nears turns "h2" asg j j' ⟨"/a", 0, 10, ["h1"]⟩ := by
  obtain ⟨-, follow⟩ := maps_follow_blocks byTurns ["/a"] (show (1 : UInt64) ≤ 10 by decide)
  obtain ⟨carries, -, launched⟩ := follow turns splits_byTurns
  have re : Reachable waiting := ⟨_, _, .of_permitsAll (by decide +kernel)⟩
  have ok : waiting.Permits (.installTasks oneMapJob turns) := by decide +kernel
  have run : Run (waiting.next (.installTasks oneMapJob turns))
      [.register "t1" ⟨"h2", 2, 0⟩ (.ofSeconds 0)] staffed := .of_permitsAll (by decide +kernel)
  refine ⟨by decide, carries, ?_, ?_⟩
  · have given : (staffed.coordinator.assign "t1" (.ofSeconds 1)).1 =
        some ⟨"attempt_202601020304_0001_m_000001_0", "task_202601020304_0001_m_000001", oneMapJob,
          .map, some ⟨"/a", 10, 10, ["h2"]⟩⟩ := by decide +kernel
    have host : (staffed.coordinator.tracker? "t1").map Tracker.hostname = some "h2" := by
      decide +kernel
    obtain ⟨w, j, j', split, here, -, -, nears⟩ :=
      launched _ _ _ _ re ok run "t1" (.ofSeconds 1) _ given rfl rfl
    rw [here] at host
    cases nears.told
    exact ⟨_, j, j', given, Option.some.inj host ▸ nears⟩
  · have given : ((staffed.next (.assign "t1" (.ofSeconds 1))).coordinator.assign "t1"
        (.ofSeconds 2)).1 =
        some ⟨"attempt_202601020304_0001_m_000000_0", "task_202601020304_0001_m_000000", oneMapJob,
          .map, some ⟨"/a", 0, 10, ["h1"]⟩⟩ := by decide +kernel
    have host : ((staffed.next (.assign "t1" (.ofSeconds 1))).coordinator.tracker? "t1").map
        Tracker.hostname = some "h2" := by decide +kernel
    have run' : Run _ _ (staffed.next (.assign "t1" (.ofSeconds 1))) := .snoc run trivial
    obtain ⟨w, j, j', split, here, -, -, nears⟩ :=
      launched _ _ _ _ re ok run' "t1" (.ofSeconds 2) _ given rfl rfl
    rw [here] at host
    cases nears.told
    exact ⟨_, j, j', given, Option.some.inj host ▸ nears⟩

end JobCluster.Service
