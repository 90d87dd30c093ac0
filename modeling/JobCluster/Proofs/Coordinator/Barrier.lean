import JobCluster.Proofs.Coordinator.Lifecycle
import JobCluster.Proofs.Job.Progress

/-!
# The barrier and the progress of jobs in runs

What holds of the steps of a job is carried along runs: a reduce is attempted only when all maps of
its job are done, which they stay whatever comes later, and the progress of a job never falls.
-/

namespace JobCluster.Coordinator

open JobCluster.Number

/-- How a job goes on in a run: its maps are left as they are once a reduce was attempted, and what
is done grows, both in number and as a part of all tasks. -/
structure Job.Progresses (j j' : Job) : Prop where
  maps : (∃ t ∈ j.reduces, t.attempts ≠ []) → j'.maps = j.maps
  completed : ∀ kind, j.completed kind ≤ j'.completed kind
  fraction : ∀ kind, j.fraction kind ≤ j'.fraction kind

section Runs

variable {s s' : System} {ops : List Operation} {j : Job}

/-- No reduce starts before the maps are done, in any reachable system. -/
lemma Reachable.barred (re : Reachable s) : ∀ j ∈ s.coordinator.jobs, j.Barred := by
  refine re.forall_jobs ?_ fun j m j' st lw br => st.barred lw br
  rintro id d now i a ⟨t, pick, -⟩
  cases pick

/-- A job that has tasks and has not succeeded has one that is not complete, in any reachable
system. -/
lemma Reachable.unfinished (re : Reachable s) : ∀ j ∈ s.coordinator.jobs, j.Unfinished := by
  refine re.forall_jobs ?_ fun j m j' st lw un => st.unfinished lw un
  exact fun id d now _ some => absurd rfl some

/-- Over a run, a job only goes forward. -/
lemma Run.advances (run : Run s ops s') (lw : s.Lawful) (mem : j ∈ s.coordinator.jobs) :
    ∃ j', s'.coordinator.job? j.id = some j' ∧ j.Advances j' :=
  run.follow lw .refl (fun _ _ _ => .trans) (fun _ _ _ st lw => st.advances lw)
    (job?_of_mem lw.nodup mem)

/-- An attempt at a reduce is one that its job has. -/
lemma Job.exists_has_reduce (tried : ∃ t ∈ j.reduces, t.attempts ≠ []) :
    ∃ i id, j.Has .reduce i id := by
  obtain ⟨t, mem, some⟩ := tried
  obtain ⟨i, pick⟩ := List.mem_iff_getElem?.1 mem
  obtain ⟨a, mema⟩ := List.exists_mem_of_ne_nil _ some
  exact ⟨i, a.id, t, pick, List.mem_map_of_mem mema⟩

/-- In every run, all maps of a job are done where a reduce was attempted, and stay as they are in
all that comes later. What is done of a job never falls, and all parts are one exactly when the job
has succeeded; a client is told these parts, rounded. -/
theorem barrier_holds (re : Reachable s) : ∀ j ∈ s.coordinator.jobs,
    ((∃ t ∈ j.reduces, t.attempts ≠ []) → ∀ t ∈ j.maps, t.state = .complete) ∧
    (∀ ops s', Run s ops s' → ∃ j', s'.coordinator.job? j.id = some j' ∧ j.Progresses j') ∧
    ((∀ kind, j.fraction kind = 1) ↔ j.state = .succeeded) ∧
    ∀ kind, j.progress kind = .quotient single (j.share kind).1 (j.share kind).2 := by
  intro j mem
  have lw := re.lawful.jobs j mem
  have done (tried : ∃ t ∈ j.reduces, t.attempts ≠ []) : ∀ t ∈ j.maps, t.state = .complete := by
    obtain ⟨i, id, has⟩ := Job.exists_has_reduce tried
    exact re.barred j mem i id has
  refine ⟨done, ?_, (re.unfinished j mem).fraction_iff lw, j.progress_eq⟩
  intro ops s' run
  obtain ⟨j', found', advances⟩ := run.advances re.lawful mem
  refine ⟨j', found', ?_, advances.completed_le lw, advances.fraction_le lw⟩
  intro tried
  obtain ⟨i, id, has⟩ := Job.exists_has_reduce tried
  exact Job.eq_of_keeps (advances.kept (has.started lw) .map) (done tried)

end Runs

/-- The job of the small run has attempted its reduce and succeeded, so all of it is done. -/
theorem sample_barrier_holds : ∃ j ∈ sampleSystem.coordinator.jobs,
    (∃ t ∈ j.reduces, t.attempts ≠ []) ∧ (∀ t ∈ j.maps, t.state = .complete) ∧
    j.state = .succeeded ∧ ∀ kind, j.fraction kind = 1 := by
  obtain ⟨j, mem, tried, st⟩ : ∃ j ∈ sampleSystem.coordinator.jobs,
      (∃ t ∈ j.reduces, t.attempts ≠ []) ∧ j.state = .succeeded := by decide +kernel
  obtain ⟨done, -, whole, -⟩ := barrier_holds sample_reachable j mem
  exact ⟨j, mem, tried, done tried, st, whole.2 st⟩

end JobCluster.Coordinator
