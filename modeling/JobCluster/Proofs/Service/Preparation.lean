import JobCluster.Proofs.Coordinator.Moves
import JobCluster.Proofs.File.Tree
import JobCluster.Proofs.Input.Splits
import JobCluster.Service.Answer

/-!
# A job gets its tasks or fails

The splits of a job are those of all its inputs, in their order, and there are none at all if one
input fails. The job then fails too: no job gets a task, and only the one that was to be prepared
changes. All of this is `splits_of_inputs`.
-/

namespace JobCluster

open JobCluster.Coordinator JobCluster.File JobCluster.Input JobCluster.Time

namespace Coordinator

/-- A job that could not be given its tasks fails unless it has ended; all others stay. -/
lemma job?_failInit (c : Coordinator) (id other : JobId) (now : Instant) :
    (c.failInit id now).job? other = (c.job? other).map fun k =>
      if k.id = id ∧ ¬ k.isTerminal then k.finish .failed now else k := by
  have keep (stays : ∀ k, c.job? other = some k → ¬ (k.id = id ∧ ¬ k.isTerminal)) :
      c.job? other = (c.job? other).map fun k =>
        if k.id = id ∧ ¬ k.isTerminal then k.finish .failed now else k := by
    rw [Option.map_congr fun k found => if_neg (stays k found), Option.map_id']
  have named {k : Job} (found : c.job? other = some k) (e : k.id = id) : c.job? id = some k := by
    rw [← e, (job?_mem found).2, found]
  cases found : c.job? id with
  | none =>
    rw [failInit, found]
    refine keep fun k found' h => ?_
    cases found.symm.trans (named found' h.1)
  | some j =>
    simp only [failInit, found]
    split_ifs with ended
    · refine keep fun k found' h => ?_
      cases found.symm.trans (named found' h.1)
      exact h.2 ended
    · rw [job?_setJob]
      refine Option.map_congr fun k found' => ?_
      by_cases e : k.id = id
      · cases found.symm.trans (named found' e)
        rw [if_pos (show j.id = (j.finish .failed now).id from rfl), if_pos ⟨e, ended⟩]
      · have ne : k.id ≠ (j.finish .failed now).id := fun h => e (h.trans (job?_mem found).2)
        rw [if_neg ne, if_neg (fun h => e h.1)]

end Coordinator

namespace Service

variable {s : Service} {init : InitRequest} {now : Instant}

/-- A job fails whose inputs cannot be split. -/
lemma prepare_of_error
    (failed : ∃ e, computeSplits s.files s.tree init.inputPaths init.splitSize = .error e) :
    s.prepare init now = { s with coordinator := s.coordinator.failInit init.jobId now } := by
  obtain ⟨e, failed⟩ := failed
  rw [prepare, failed]

/-- The splits of inputs come in the order of the inputs and of the files of each, and cover each
file once. If one input fails, no job gets a task, and the one to be prepared fails. -/
theorem splits_of_inputs (s : Service) (inputs : List String) {size : UInt64} (pos : 1 ≤ size) :
    (∀ files, List.Forall₂ (fun input found => expandInput s.files s.tree input = .ok found)
        inputs files →
      ∃ parts, computeSplits s.files s.tree inputs size = .ok parts.flatten ∧
        List.Forall₂ (SplitsOf size) files.flatten parts) ∧
    (∀ input ∈ inputs, isPattern (s.files.pathOf input).toText = false →
      (∃ status, s.files.status s.tree (s.files.pathOf input).toText = .ok status ∧
        ¬ status.isThere) →
      expandInput s.files s.tree input = .error (.missing input)) ∧
    ((∃ input ∈ inputs, ∃ e, expandInput s.files s.tree input = .error e) →
      (∃ e, computeSplits s.files s.tree inputs size = .error e) ∧
      ∀ id now, ∃ c, s.prepare ⟨id, inputs, size⟩ now = { s with coordinator := c } ∧
        (∀ other, other ≠ id → c.job? other = s.coordinator.job? other) ∧
        (s.coordinator.job? id = none → c.job? id = none) ∧
        (∀ j, s.coordinator.job? id = some j → ∃ j', c.job? id = some j' ∧
          j'.maps = j.maps ∧ j'.reduces = j.reduces ∧ j'.hasTasks = j.hasTasks ∧
          (j.isTerminal → j' = j) ∧
          (j.state = .prep → j'.state = .failed ∧ j'.finishTime = some now))) := by
  refine ⟨fun files expanded => ?_, fun input _ plain gone => ?_, fun failing => ?_⟩
  · refine ⟨files.flatten.map (fileSplits s.files size), ?_, ?_⟩
    · rw [computeSplits_eq_ok expanded, List.flatMap_def]
    · rw [List.forall₂_map_right_iff, List.forall₂_same]
      exact fun file _ => splitsOf_fileSplits s.files pos file
  · obtain ⟨status, told, gone⟩ := gone
    exact expandInput_missing plain told (by simpa using gone)
  · have failed : ∃ e, computeSplits s.files s.tree inputs size = .error e :=
      computeSplits_eq_error.2 failing
    refine ⟨failed, fun id now => ⟨_, prepare_of_error failed, ?_, ?_, ?_⟩⟩
    · intro other ne
      rw [job?_failInit]
      refine (Option.map_congr fun k found => if_neg fun h => ?_).trans Option.map_id'
      exact ne ((job?_mem found).2.symm.trans h.1)
    · intro none
      rw [job?_failInit, none, Option.map_none]
    · intro j found
      refine ⟨_, by rw [job?_failInit, found, Option.map_some], ?_⟩
      obtain ⟨-, eid⟩ := job?_mem found
      -- a job that is over by then is left alone
      by_cases ended : j.isTerminal
      · rw [if_neg fun h => h.2 ended]
        refine ⟨rfl, rfl, rfl, fun _ => rfl, fun prep => ?_⟩
        rw [Job.isTerminal, prep] at ended
        cases ended
      · rw [if_pos ⟨eid, ended⟩]
        exact ⟨rfl, rfl, rfl, fun h => absurd h ended, fun _ => ⟨rfl, rfl⟩⟩

/-- A file of 25 bytes and an empty one. -/
def sampleFiles : Tree := ⟨[(["a"], .file ⟨[], 25⟩), (["b"], .file ⟨[], 0⟩)]⟩

/-- The segments of the sample paths. -/
lemma segments_sample : ∀ name ∈ ["a", "b", "c"],
    walkSegments (Path.toText ⟨[name]⟩) = [name] := by
  decide

/-- What stands at the places of the sample tree. -/
lemma entries_sampleFiles : sampleFiles.entry? ["a"] = some (.file ⟨[], 25⟩) ∧
    sampleFiles.entry? ["b"] = some (.file ⟨[], 0⟩) ∧ sampleFiles.entry? ["c"] = none := by
  decide

/-- What the sample paths lead to. -/
lemma status_sampleFiles : sampleFiles.status (Path.toText ⟨["a"]⟩) = .ok (.file ⟨[], 25⟩) ∧
    sampleFiles.status (Path.toText ⟨["b"]⟩) = .ok (.file ⟨[], 0⟩) ∧
    sampleFiles.status (Path.toText ⟨["c"]⟩) = .error .notFound := by
  refine ⟨?_, ?_, ?_⟩
  · apply Tree.status_of_walk (by decide) (by decide) (by decide) ["a"]
    simp +decide [Tree.walk, segments_sample, entries_sampleFiles]
  · apply Tree.status_of_walk (by decide) (by decide) (by decide) ["b"]
    simp +decide [Tree.walk, segments_sample, entries_sampleFiles]
  · apply Tree.status_of_free (by decide) (by decide) (by decide) ["c"]
    simp +decide [Tree.walk, segments_sample, entries_sampleFiles]

/-- A job with an input that is not there. -/
def sampleJob : Job :=
  .new "job_202601020304_0001" ⟨"wc", "ana", ["/a", "/c"], 0, .normal, none⟩ ⟨0, 0⟩

/-- A service that is to prepare the job. -/
def sample : Service where
  coordinator := { Coordinator.start "202601020304" with jobs := [sampleJob] }
  files := .atRoot
  tree := sampleFiles
  splitSize := 10
  maxJobs := 10

/-- The two files are split each in its turn, and the job with an input that is not there fails. -/
theorem sample_splits_of_inputs :
    (1 : UInt64) ≤ 10 ∧
    (∃ parts, computeSplits sample.files sample.tree ["/a", "/b"] 10 = .ok parts.flatten ∧
      List.Forall₂ (SplitsOf 10) [⟨"/a", true, 25, false⟩, ⟨"/b", true, 0, false⟩] parts) ∧
    expandInput sample.files sample.tree "/c" = .error (.missing "/c") ∧
    ∃ c, sample.prepare ⟨sampleJob.id, ["/a", "/c"], 10⟩ ⟨1, 0⟩ = { sample with coordinator := c } ∧
      ∃ j, c.job? sampleJob.id = some j ∧ j.maps = [] ∧ j.state = .failed := by
  have root : sample.files.workingDirectory.Normal := FileSystem.normal_atRoot
  have pathOf : sample.files.pathOf "/a" = ⟨["a"]⟩ ∧ sample.files.pathOf "/b" = ⟨["b"]⟩ ∧
      sample.files.pathOf "/c" = ⟨["c"]⟩ := by
    decide
  have a : expandInput sample.files sample.tree "/a" = .ok [⟨"/a", true, 25, false⟩] := by
    rw [expandInput_file root (by decide) (by rw [pathOf.1]; exact status_sampleFiles.1), pathOf.1]
    rfl
  have b : expandInput sample.files sample.tree "/b" = .ok [⟨"/b", true, 0, false⟩] := by
    rw [expandInput_file root (by decide) (by rw [pathOf.2.1]; exact status_sampleFiles.2.1),
      pathOf.2.1]
    rfl
  have split := splits_of_inputs sample ["/a", "/b"] (show (1 : UInt64) ≤ 10 by decide)
  have fail := splits_of_inputs sample ["/a", "/c"] (show (1 : UInt64) ≤ 10 by decide)
  have c : expandInput sample.files sample.tree "/c" = .error (.missing "/c") := by
    have told := FileSystem.status_toText_of_notFound sample.files
      (FileSystem.normal_pathOf root "/c") (by rw [pathOf.2.2]; exact status_sampleFiles.2.2)
    exact fail.2.1 "/c" (by decide) (by decide) ⟨_, told, Bool.false_ne_true⟩
  obtain ⟨-, prepared⟩ := fail.2.2 ⟨"/c", by decide, _, c⟩
  obtain ⟨c', become, -, -, named⟩ := prepared sampleJob.id ⟨1, 0⟩
  obtain ⟨j, found, maps, -, -, -, failed⟩ := named sampleJob (by decide)
  exact ⟨by decide, split.1 _ (.cons a (.cons b .nil)), c, c', become, j, found, maps,
    (failed rfl).1⟩

end Service

end JobCluster
