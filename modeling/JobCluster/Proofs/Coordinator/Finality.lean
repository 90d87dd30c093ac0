import JobCluster.Proofs.Coordinator.Revival

/-!
# Attempts are launched once and closed once

`System.launches` says which attempt an operation launches. Along a run these are the keys of the
index, in the order in which they were launched (`Run.index_keys`), so a name that was never
launched is one that the index does not have.

`attempts_closed_once` says that the operations of a run end each attempt that has ended exactly
once, and what comes later: the attempt stays as it is, and a report or a kill that names it is
answered and changes nothing. Under a name that was never launched both are refused.
-/

namespace JobCluster.Coordinator

open JobCluster.Time

/-! ## Launches -/

namespace System

/-- The attempt that an operation launches, if there is one. -/
def launches (s : System) : Operation → List AttemptId
  | .assign id now => ((s.coordinator.assign id now).1.map TaskAssignment.attemptId).toList
  | _ => []

end System

section Launches

variable {c : Coordinator} {s : System} {op : Operation} {ops : List Operation} {id : AttemptId}

/-- The index has the names of all attempts and no others. -/
lemma Exact.mem_keys_iff (ex : Exact c) :
    id ∈ c.index.map Prod.fst ↔ id ∈ c.attempts.map Attempt.id := by
  constructor
  · intro mem
    obtain ⟨e, meme, rfl⟩ := List.mem_map.1 mem
    have some : (c.ref? e.1).isSome := by
      rw [ref?, Option.isSome_map, List.find?_isSome]
      exact ⟨e, meme, by simp⟩
    obtain ⟨ref, found⟩ := Option.isSome_iff_exists.1 some
    obtain ⟨j, memj, -, has⟩ := (ex.indexed.index _ _).1 found
    obtain ⟨a, mema, ea⟩ := List.mem_map.1 (Job.mem_allAttempts.2 ⟨_, _, has⟩)
    exact ea ▸ List.mem_map_of_mem (List.mem_flatMap.2 ⟨j, memj, mema⟩)
  · intro mem
    obtain ⟨a, mema, rfl⟩ := List.mem_map.1 mem
    obtain ⟨ref, found, -⟩ := ex.attemptOf? mema
    exact List.mem_map_of_mem (mem_of_find? found)

/-- A name that is not in the index leads nowhere. -/
lemma ref?_eq_none (absent : id ∉ c.index.map Prod.fst) : c.ref? id = none :=
  find?_of_fresh fun _ mem e => absent (e ▸ List.mem_map_of_mem mem)

/-- An attempt that an operation launches runs after it, and its name is new. -/
lemma Reachable.launched (re : Reachable s) (ok : s.Permits op) (mem : id ∈ s.launches op) :
    (s.next op).coordinator.runs id ∧ id ∉ s.coordinator.index.map Prod.fst := by
  cases op with
  | assign tracker now =>
    obtain ⟨asg, answer, rfl⟩ : ∃ asg, (s.coordinator.assign tracker now).1 = some asg ∧
        asg.attemptId = id := by simpa [System.launches] using mem
    rcases assign_cases re.exact tracker now with ⟨none, -⟩ | ⟨asg', answer', new⟩
    · rw [none] at answer
      cases answer
    · cases answer.symm.trans answer'
      have fresh := new.fresh (re.next ok).exact (re.lawful.stay ok)
      obtain ⟨a, p, q, ea, -, -, after⟩ := new.live
      refine ⟨?_, fun here => fresh (re.exact.mem_keys_iff.1 here)⟩
      rw [← ea, runs_iff_mem]
      apply List.mem_map_of_mem
      exact after ▸ List.mem_append_right _ List.mem_cons_self
  | markRunning | newJobId | expireReservations | submit | installTasks | failInit | killJob
  | killAttempt | register | heartbeat | complete | sweep | finishIdle => cases mem

/-- The operation hands a task out, and can launch an attempt. -/
def Operation.IsAssign : Operation → Prop
  | .assign .. => True
  | _ => False

/-- Only a hand-out launches. -/
lemma System.launches_eq_nil (no : ¬op.IsAssign) : s.launches op = [] := by
  cases op with
  | assign => exact absurd trivial no
  | markRunning | newJobId | expireReservations | submit | installTasks | failInit | killJob
  | killAttempt | register | heartbeat | complete | sweep | finishIdle => rfl

/-- The index grows by hand-outs only. -/
lemma System.index_next (no : ¬op.IsAssign) :
    (s.next op).coordinator.index = s.coordinator.index := by
  have quiet (no : ¬op.IsNaming) : (s.next op).coordinator.index = s.coordinator.index :=
    congrArg Registry.index (Operation.registry_apply no)
  cases op with
  | assign => exact absurd trivial no
  | newJobId | expireReservations => rfl
  | submit => exact (submit_names ..).2.2
  | markRunning | installTasks | failInit | killJob | killAttempt | register | heartbeat | complete
  | sweep | finishIdle => exact quiet id

/-- An operation adds what it launches to the keys of the index. -/
lemma Reachable.index_keys_next (re : Reachable s) (ok : s.Permits op) :
    (s.next op).coordinator.index.map Prod.fst =
      s.coordinator.index.map Prod.fst ++ s.launches op := by
  have kept (no : ¬op.IsAssign) : (s.next op).coordinator.index.map Prod.fst =
      s.coordinator.index.map Prod.fst ++ s.launches op := by
    rw [System.index_next no, System.launches_eq_nil no, List.append_nil]
  cases op with
  | assign tracker now =>
    have fresh : ∀ x ∈ s.launches (.assign tracker now), x ∉ s.coordinator.index.map Prod.fst :=
      fun _ mem => (re.launched ok mem).2
    rw [System.launches] at fresh ⊢
    rw [System.next, Operation.apply]
    rcases s.coordinator.assign_launches tracker now with e | ⟨ch, asg, c', -, launched, e⟩
    · rw [e]
      exact (List.append_nil _).symm
    · obtain ⟨-, -, -, -, -, -, -, index⟩ := launch_eq_some launched
      rw [e] at fresh ⊢
      rw [index, map_fst_setEntry, if_neg (fresh _ (by simp))]
      rfl
  | markRunning | newJobId | expireReservations | submit | installTasks | failInit | killJob
  | killAttempt | register | heartbeat | complete | sweep | finishIdle =>
    exact kept id

/-- The keys of the index are the attempts that were launched, in the order of their launches. -/
theorem Run.index_keys {stamp : String} (run : Run (System.start stamp) ops s) :
    s.coordinator.index.map Prod.fst = (System.start stamp).collect System.launches ops := by
  induction run with
  | nil => rfl
  | @snoc ops s op run ok ih =>
    have re : Reachable s := ⟨stamp, ops, run⟩
    rw [re.index_keys_next ok, System.collect_snoc, ← run.eq_after, ih]

end Launches

/-! ## Ends -/

section Ends

variable {c : Coordinator} {s s' : System} {op : Operation} {ops : List Operation}

/-- The names of the attempts that have ended are those that had ended before an operation and those
that it ends. -/
lemma Reachable.ended_next (re : Reachable s) (ok : s.Permits op) :
    (((s.next op).coordinator.attempts.filter fun a => !a.isRunning).map Attempt.id).Perm
      ((s.coordinator.attempts.filter fun a => !a.isRunning).map Attempt.id ++
        (s.ended op).map Attempt.id) := by
  have ex := re.exact
  have ex' := (re.next ok).exact
  have nodup : ((s.coordinator.attempts.filter fun a => !a.isRunning).map Attempt.id ++
      (s.ended op).map Attempt.id).Nodup := by
    rw [List.nodup_append]
    refine ⟨(List.filter_sublist.map _).nodup ex.ids_nodup, System.ended_ids_nodup ex op, ?_⟩
    intro x mem y mem' e
    obtain ⟨a, mema, rfl⟩ := List.mem_map.1 mem
    obtain ⟨mema, no⟩ := List.mem_filter.1 mema
    exact not_mem_ended ex op mema (by simpa using no) (e ▸ mem')
  apply (List.perm_ext_iff_of_nodup ((List.filter_sublist.map _).nodup ex'.ids_nodup) nodup).2
  intro x
  rw [List.mem_append]
  constructor
  · intro mem
    obtain ⟨b, memb, rfl⟩ := List.mem_map.1 mem
    obtain ⟨memb, no⟩ := List.mem_filter.1 memb
    have stopped : (s.next op).coordinator.runs b.id = false :=
      ex'.runs_eq_false memb (by simpa using no)
    -- what the operation launches runs after it, so the attempt was there before
    have known : b.id ∈ s.coordinator.index.map Prod.fst := by
      have key := ex'.mem_keys_iff.2 (List.mem_map_of_mem memb)
      rw [re.index_keys_next ok, List.mem_append] at key
      rcases key with key | key
      · exact key
      · rw [(re.launched ok key).1] at stopped
        cases stopped
    obtain ⟨a, mema, ea⟩ := List.mem_map.1 (ex.mem_keys_iff.1 known)
    rw [← ea] at stopped ⊢
    cases run : a.isRunning with
    | true =>
      right
      exact List.mem_map_of_mem (mem_endedBy.2 ⟨mem_liveAttempts.2 ⟨mema, run⟩, stopped⟩)
    | false =>
      left
      exact List.mem_map_of_mem (List.mem_filter.2 ⟨mema, by simpa using run⟩)
  · rintro (mem | mem)
    · obtain ⟨a, mema, rfl⟩ := List.mem_map.1 mem
      obtain ⟨mema, no⟩ := List.mem_filter.1 mema
      have kept := re.lawful.mem_next_of_ended ok mema (by simpa using no)
      exact List.mem_map_of_mem (List.mem_filter.2 ⟨kept, no⟩)
    · obtain ⟨a, mema, rfl⟩ := List.mem_map.1 mem
      obtain ⟨b, memb, eb, -, no⟩ := re.lawful.mem_of_ended ok mema
      exact eb ▸ List.mem_map_of_mem (List.mem_filter.2 ⟨memb, by simpa using no⟩)

/-- The operations of a run end each attempt that has ended once, and no other. -/
theorem Run.ended_once {stamp : String} (run : Run (System.start stamp) ops s) :
    (((System.start stamp).collect System.ended ops).map Attempt.id).Perm
      ((s.coordinator.attempts.filter fun a => !a.isRunning).map Attempt.id) := by
  induction run with
  | nil => exact .refl _
  | @snoc ops s op run ok ih =>
    have re : Reachable s := ⟨stamp, ops, run⟩
    rw [System.collect_snoc, ← run.eq_after, List.map_append]
    exact (ih.append_right _).trans (re.ended_next ok).symm

/-- What is left of an attempt that has ended: it is kept as it is, alone under its name, and a
report or a kill that names it is answered and changes nothing. -/
structure Settled (a : Attempt) (c : Coordinator) : Prop where
  mem : a ∈ c.attempts
  only : ∀ b ∈ c.attempts, b.id = a.id → b = a
  complete : ∀ r now, r.attemptId = a.id → c.complete r now = (true, c)
  killAttempt : ∀ shouldFail now, c.killAttempt a.id shouldFail now = (true, c)

/-- What has ended is settled. -/
lemma Exact.settled (ex : Exact c) {a : Attempt} (mem : a ∈ c.attempts)
    (no : a.isRunning = false) : Settled a c := by
  obtain ⟨ref, found, none⟩ := ex.finishAttempt_eq_none mem no
  refine ⟨mem, fun b memb e => ex.inj memb mem e, ?_, ?_⟩
  · intro r now named
    simp only [Coordinator.complete, named, found, none]
  · intro shouldFail now
    simp only [Coordinator.killAttempt, found, none]

/-- What is said under a name that no attempt has: a report and a kill are refused and change
nothing. -/
structure Unknown (id : AttemptId) (c : Coordinator) : Prop where
  absent : ∀ a ∈ c.attempts, a.id ≠ id
  complete : ∀ r now, r.attemptId = id → c.complete r now = (false, c)
  killAttempt : ∀ shouldFail now, c.killAttempt id shouldFail now = (false, c)

/-- A name that was never given is unknown. -/
lemma Exact.unknown (ex : Exact c) {id : AttemptId} (absent : id ∉ c.index.map Prod.fst) :
    Unknown id c := by
  have none := ref?_eq_none absent
  refine ⟨?_, ?_, ?_⟩
  · rintro a mem rfl
    exact absent (ex.mem_keys_iff.2 (List.mem_map_of_mem mem))
  · intro r now named
    simp only [Coordinator.complete, named, none]
  · intro shouldFail now
    simp only [Coordinator.killAttempt, none]

/-- In every run, each attempt that has ended was ended by exactly one operation, and it is settled
from then on, whatever comes later. A name that was never launched is unknown. -/
theorem attempts_closed_once {stamp : String} (run : Run (System.start stamp) ops s) :
    (((System.start stamp).collect System.ended ops).map Attempt.id).Perm
      ((s.coordinator.attempts.filter fun a => !a.isRunning).map Attempt.id) ∧
    (∀ a ∈ s.coordinator.attempts, a.isRunning = false →
      ∀ later s', Run s later s' → Settled a s'.coordinator) ∧
    (∀ id, id ∉ (System.start stamp).collect System.launches ops → Unknown id s.coordinator) := by
  have re : Reachable s := ⟨stamp, ops, run⟩
  refine ⟨run.ended_once, ?_, ?_⟩
  · intro a mem no later s' run'
    exact (run'.reachable re).exact.settled (run'.mem_of_ended re.lawful mem no) no
  · intro id never
    rw [← run.index_keys] at never
    exact re.exact.unknown never

end Ends

/-- In the run with kills, the attempt at the second map ends with its job. Its success is reported
later, and the attempt is settled then; a second attempt at that map is unknown. -/
theorem sample_attempts_closed_once : ∃ a ∈ killSystem.coordinator.attempts,
    (a.id = "attempt_202601020304_0001_m_000001_0" ∧ a.state = .killed) ∧
    Settled a (killSystem.next (.complete ⟨a.id, true, Counters.empty, []⟩
      (.ofSeconds 1))).coordinator ∧
    Unknown "attempt_202601020304_0001_m_000001_1" killSystem.coordinator := by
  have run : Run (System.start "202601020304") killOperations killSystem :=
    .of_permitsAll (by decide)
  obtain ⟨a, mem, named, st⟩ : ∃ a ∈ killSystem.coordinator.attempts,
      a.id = "attempt_202601020304_0001_m_000001_0" ∧ a.state = .killed := by decide +kernel
  obtain ⟨-, settled, unknown⟩ := attempts_closed_once run
  exact ⟨a, mem, ⟨named, st⟩,
    settled a mem (by rw [Attempt.isRunning, st]; rfl) _ _ (.snoc .nil trivial),
    unknown _ (by decide +kernel)⟩

end JobCluster.Coordinator
