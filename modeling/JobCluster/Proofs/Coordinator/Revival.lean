import JobCluster.Proofs.Coordinator.Kills
import JobCluster.Proofs.Coordinator.Lifecycle

/-!
# Trackers that come back

A sweep that marks a tracker dead drops the list of the tracker and ends its attempts without
putting them on a list. When the tracker comes back with a heartbeat, `revived_told_nothing` says
that it is told nothing, neither then nor by a later heartbeat, about any attempt that it was given
before the sweep; the coordinator counts none of them as running, and takes no report of them.
`revival_drops_kills` is a run in which the tracker was to be told of one attempt and ran another.
-/

namespace JobCluster.Coordinator

open JobCluster.Time

variable {c c' : Coordinator} {s s' : System} {op : Operation} {ops : List Operation}
  {id : TrackerId}

/-- An overdue tracker is registered. -/
lemma isSome_of_overdue {now : Instant} {timeout : Duration}
    (mem : id ∈ c.overdueTrackers now timeout) : (c.tracker? id).isSome := by
  obtain ⟨e, meme, rfl⟩ := List.mem_map.1 mem
  rw [tracker?, Option.isSome_map, List.find?_isSome]
  exact ⟨e, (List.mem_filter.1 meme).1, by simp⟩

/-- A sweep leaves an overdue tracker dead. -/
lemma dead_sweep (ex : Exact c) {ids : List TrackerId} (mem : id ∈ ids)
    (registered : (c.tracker? id).isSome) (lost : List (AttemptId × AttemptRef))
    (clock : AttemptId → Instant) :
    ((c.markDead ids).loseAttempts lost clock).alive? id = some false := by
  obtain ⟨t, found⟩ := Option.isSome_iff_exists.1 registered
  rw [(loses (ex.markDead ids) lost clock).alive?, alive?, tracker?_markDead, found]
  simp [mem]

/-- A dead tracker stays dead until its next heartbeat. -/
lemma dead_next (ex : Exact s.coordinator) (ok : s.Permits op)
    (dead : s.coordinator.alive? id = some false)
    (silent : ∀ h now, op = .heartbeat h now → h.trackerId ≠ id) :
    (s.next op).coordinator.alive? id = some false := by
  have registered := isSome_of_alive? dead
  by_cases again : ∃ now timeout lost clock, op = .sweep now timeout lost clock ∧
      id ∈ s.coordinator.overdueTrackers now timeout
  · obtain ⟨now, timeout, lost, clock, rfl, mem⟩ := again
    exact dead_sweep ex mem registered lost clock
  · rw [alive?_next ex
      (fun now timeout lost clock e mem => again ⟨now, timeout, lost, clock, e, mem⟩) silent ?_]
    · exact dead
    · -- a tracker registers under a name that no tracker has
      rintro name r now rfl rfl
      rw [tracker?_of_fresh ok] at registered
      cases registered

/-- A tracker that is dead stays so in a run without its heartbeats. -/
lemma Run.dead (run : Run s ops s') (re : Reachable s)
    (dead : s.coordinator.alive? id = some false)
    (silent : ∀ h now, .heartbeat h now ∈ ops → h.trackerId ≠ id) :
    s'.coordinator.alive? id = some false := by
  induction run with
  | nil => exact dead
  | @snoc ops s'' op run ok ih =>
    have dead'' := ih fun h now mem => silent h now (List.mem_append_left _ mem)
    refine dead_next (run.reachable re).exact ok dead'' fun h now e => silent h now ?_
    rw [e]
    exact List.mem_append_right _ List.mem_cons_self

/-- A report of an attempt that does not run changes nothing. -/
lemma complete_of_not_runs (ex : Exact c) {a : Attempt} (mem : a ∈ c.attempts)
    (no : a.isRunning = false) (r : TaskCompletion) (named : r.attemptId = a.id)
    (clock : Readings) : c.complete r clock = (true, c) := by
  obtain ⟨ref, found, none⟩ := ex.finishAttempt_eq_none mem no
  simp only [complete, named, found, none]

/-- What becomes of an attempt that a tracker was given before a sweep marked it dead: at no later
time does it run, does a heartbeat hand it out, or does a report of it change anything. -/
structure Forgotten (a : Attempt) (s : System) : Prop where
  runs : ∀ ops s', Run s ops s' → s'.coordinator.runs a.id = false
  report : ∀ ops s', Run s ops s' → ∀ r clock, r.attemptId = a.id →
    s'.coordinator.complete r clock = (true, s'.coordinator)
  later : ∀ ops s', Run s ops s' → ∀ id, (id, a.id) ∉ s.collect System.handsOut ops

/-- No run touches an attempt that has ended, and none is forgotten. -/
lemma Run.stay (run : Run s ops s') (lw : s.Lawful) :
    Stay s.coordinator.attempts s'.coordinator.attempts := by
  induction run with
  | nil => exact .refl _
  | snoc run ok ih => exact ih.trans ((run.lawful lw).stay ok)

/-- An attempt that has ended is there at all later times, as it is. -/
lemma Run.mem_of_ended (run : Run s ops s') (lw : s.Lawful) {a : Attempt}
    (mem : a ∈ s.coordinator.attempts) (no : a.isRunning = false) :
    a ∈ s'.coordinator.attempts := by
  obtain ⟨b, memb, be⟩ := run.stay lw a mem
  exact be.ended no ▸ memb

/-- Where the list of its tracker is empty, an attempt that has ended is forgotten. -/
lemma Reachable.forgotten (re : Reachable s) {a : Attempt} (mem : a ∈ s.coordinator.attempts)
    (no : a.isRunning = false) (empty : s.coordinator.pending a.tracker = []) : Forgotten a s := by
  refine ⟨fun ops s' run => ?_, fun ops s' run r clock named => ?_, fun ops s' run id here => ?_⟩
  · exact (run.reachable re).exact.runs_eq_false (run.mem_of_ended re.lawful mem no) no
  · have there := run.mem_of_ended re.lawful mem no
    exact complete_of_not_runs (run.reachable re).exact there no r named clock
  · rcases List.mem_append.1 ((run.listed re id).subset
      (List.mem_append_left _ (Told.mem_handedTo here))) with listed | noticed
    · -- what is listed for a tracker is an attempt of it, and names tell attempts
      obtain ⟨b, memb, eb, et, -⟩ := re.ended_of_pending listed
      have here : a.tracker = id := by rw [← et, re.exact.inj memb mem eb]
      rw [← here, empty] at listed
      cases listed
    · obtain ⟨b, memb, e⟩ := List.mem_map.1 noticed
      have again : a.id ∈ (s.collect System.notices ops).map Attempt.id := by
        rw [← show b.id = a.id from e]
        exact List.mem_map_of_mem (List.mem_filter.1 memb).1
      exact (run.not_noticed re mem no).2 again

/-- When a tracker that a sweep marked dead sends its next heartbeat, it is told nothing and lives
again. Until then nothing runs on it and nothing is listed for it. No attempt that it was given
before the sweep is ever handed out again: not those that ran on it, which the sweep ended, and not
those that it was still to be told of; nor does a report of one ever change anything. -/
theorem revived_told_nothing {stamp : String} {before between : List Operation}
    {now : Instant} {timeout : Duration} {lost : List (AttemptId × AttemptRef)}
    {clock : AttemptId → Instant} (run : Run (System.start stamp) before s)
    (ok : s.Permits (.sweep now timeout lost clock))
    (overdue : id ∈ s.coordinator.overdueTrackers now timeout)
    (run' : Run (s.next (.sweep now timeout lost clock)) between s')
    (silent : ∀ h t, .heartbeat h t ∈ between → h.trackerId ≠ id) (h : Heartbeat)
    (here : h.trackerId = id) (t : Instant) :
    (∀ a ∈ s'.coordinator.liveAttempts, a.tracker ≠ id) ∧ s'.coordinator.pending id = [] ∧
    (∃ c', s'.coordinator.heartbeat h t = some ([], c') ∧ c'.alive? id = some true) ∧
    ∀ a ∈ s.coordinator.attempts, a.tracker = id →
      ∃ a' ∈ s'.coordinator.attempts, a.Becomes a' ∧ a'.isRunning = false ∧ Forgotten a' s' := by
  subst here
  have re : Reachable s := ⟨stamp, before, run⟩
  have reDead : Reachable (s.next (.sweep now timeout lost clock)) := ⟨stamp, _, run.snoc ok⟩
  have re' := run'.reachable reDead
  have dead : s'.coordinator.alive? h.trackerId = some false :=
    run'.dead reDead (dead_sweep re.exact overdue (isSome_of_overdue overdue) lost clock) silent
  -- what runs is on live trackers, and this one is dead up to the heartbeat
  have idle : ∀ a ∈ s'.coordinator.liveAttempts, a.tracker ≠ h.trackerId := fun a mem e => by
    have alive := re'.staffed a mem
    rw [e, dead] at alive
    cases alive
  have empty : s'.coordinator.pending h.trackerId = [] := re'.pending_of_dead (by simp [dead])
  refine ⟨idle, empty, ?_, fun a mem et => ?_⟩
  · have answered : (s'.coordinator.heartbeat h t).isSome := by
      rw [isSome_heartbeat]
      exact isSome_of_alive? dead
    obtain ⟨⟨ids, c'⟩, e⟩ := Option.isSome_iff_exists.1 answered
    obtain ⟨eids, -, alive, -⟩ := heartbeat_eq_some e
    exact ⟨c', by rw [e, eids, empty], alive⟩
  · obtain ⟨a', mem', be⟩ := ((re.lawful.stay ok).trans (run'.stay reDead.lawful)) a mem
    have no : a'.isRunning = false := by
      rw [Bool.eq_false_iff]
      exact fun runs => idle a' (mem_liveAttempts.2 ⟨mem', runs⟩) (be.tracker.trans et)
    exact ⟨a', mem', be, no, re'.forgotten mem' no (by rw [be.tracker, et, empty])⟩

/-! ## A run with a lost tracker -/

/-- The operations of a run in which a tracker is lost: it runs an attempt at each of two maps when
a user kills the first one. The tracker then sends no heartbeat. -/
def lossOperations : List Operation :=
  let clock := Instant.ofSeconds 0
  let job := "job_202601020304_0001"
  [.newJobId clock,
    .submit job ⟨"wc", "ana", ["/datos"], 0, .normal, none⟩ 1024 10 clock,
    .installTasks job [⟨"/datos/a", 0, 10, []⟩, ⟨"/datos/b", 0, 10, []⟩],
    .register "t1" ⟨"h1", 2, 1⟩ clock,
    .assign "t1" clock,
    .assign "t1" clock,
    .killAttempt "attempt_202601020304_0001_m_000000_0" false (.still clock)]

/-- The system when the tracker is lost. -/
def lossSystem : System := (System.start "202601020304").after lossOperations

/-- The sweep that finds the tracker lost. -/
def lossSweep : Operation :=
  .sweep (.ofSeconds 60) (.ofSeconds 20)
    [("attempt_202601020304_0001_m_000001_0", ⟨"job_202601020304_0001", .map, 1⟩)]
    fun _ => .ofSeconds 60

/-- The heartbeat with which the tracker comes back. -/
def lossHeartbeat : Heartbeat := ⟨"t1", .zero _ false, 0⟩

/-- The sample operations are permitted. -/
lemma loss_run : Run (System.start "202601020304") lossOperations lossSystem :=
  .of_permitsAll (by decide)

/-- A sweep marks a tracker dead that is to be told of one attempt and runs another; both have ended
then, and the heartbeat that revives the tracker names neither. -/
theorem revival_drops_kills :
    Run (System.start "202601020304") lossOperations lossSystem ∧ lossSystem.Permits lossSweep ∧
    lossSystem.coordinator.overdueTrackers (.ofSeconds 60) (.ofSeconds 20) = ["t1"] ∧
    lossSystem.coordinator.pending "t1" = ["attempt_202601020304_0001_m_000000_0"] ∧
    namesOn "t1" (lossSystem.ended lossSweep) = ["attempt_202601020304_0001_m_000001_0"] ∧
    (((lossSystem.next lossSweep).coordinator.heartbeat lossHeartbeat (.ofSeconds 61)).map
      Prod.fst) = some [] :=
  ⟨loss_run, by decide +kernel, by decide +kernel, by decide +kernel, by decide +kernel,
    by decide +kernel⟩

/-- The tracker of that run is told nothing when it comes back. -/
theorem sample_revived_told_nothing :
    (∀ a ∈ (lossSystem.next lossSweep).coordinator.liveAttempts, a.tracker ≠ "t1") ∧
    (lossSystem.next lossSweep).coordinator.pending "t1" = [] ∧
    (∃ c', (lossSystem.next lossSweep).coordinator.heartbeat lossHeartbeat (.ofSeconds 61) =
      some ([], c') ∧ c'.alive? "t1" = some true) ∧
    ∀ a ∈ lossSystem.coordinator.attempts, a.tracker = "t1" →
      ∃ a' ∈ (lossSystem.next lossSweep).coordinator.attempts, a.Becomes a' ∧
        a'.isRunning = false ∧ Forgotten a' (lossSystem.next lossSweep) :=
  revived_told_nothing loss_run (by decide +kernel) (by decide +kernel) .nil
    (fun _ _ mem => absurd mem List.not_mem_nil) lossHeartbeat rfl (.ofSeconds 61)

end JobCluster.Coordinator
