import JobCluster.Proofs.Coordinator.Naming

/-!
# How long an attempt runs

An attempt starts to run when a tracker asks for work (`Reachable.live_next`), and it goes on until
an operation ends it by its name or its job ends. `Operation.names` lists the attempts that an
operation ends by their names, and `Job.Spares` says what every other step leaves of an attempt;
`System.Lawful.spares_next` is the step of the coordinator. An attempt that is `Over` was launched
and has ended, and stays so.
-/

namespace JobCluster.Coordinator

open JobCluster.Time

/-- The attempts that an operation is to end by their names. -/
def Operation.names : Operation → List AttemptId
  | .killAttempt id _ _ => [id]
  | .complete r _ => [r.attemptId]
  | .sweep _ _ lost _ => lost.map Prod.fst
  | _ => []

namespace Job

variable {j j' j'' : Job} {m : Move} {a : Attempt}

/-- The move ends an attempt by its name. -/
def Move.Closes (id : AttemptId) : Move → Prop
  | .close _ _ id' _ _ _ _ => id' = id
  | _ => False

/-- What a job becomes spares an attempt: it still runs if it ran, unless the job has ended. -/
structure Spares (a : Attempt) (j j' : Job) : Prop where
  frozen : j.isTerminal → j' = j
  running : a ∈ j.running → a ∈ j'.running ∨ j'.isTerminal

namespace Spares

lemma refl (a : Attempt) (j : Job) : Spares a j j := ⟨fun _ => rfl, .inl⟩

lemma trans (sp : Spares a j j') (sp' : Spares a j' j'') : Spares a j j'' where
  frozen ended := by
    have same := sp.frozen ended
    subst same
    exact sp'.frozen ended
  running run := by
    rcases sp.running run with run | ended
    · exact sp'.running run
    · exact .inr (sp'.frozen ended ▸ ended)

end Spares

/-- A step that does not end an attempt by its name spares it. -/
lemma Step.spares (st : Step j m j') (lw : j.Lawful) (other : ¬m.Closes a.id) :
    Spares a j j' := by
  refine ⟨fun ended => ?_, fun run => ?_⟩
  · rw [st.live lw] at ended
    cases ended
  -- what ends the attempt here ends its job with it
  cases st with
  | install prep =>
    rw [lw.running_eq_nil (prep ▸ nofun)] at run
    cases run
  | failInit | kill | closeIdle => exact .inr rfl
  | @launch kind index t isLocal tracker host now _ pick pending =>
    obtain ⟨p, q, before, after⟩ := running_launched lw pick pending isLocal tracker host now
    rw [before] at run
    rw [after]
    rcases List.mem_append.1 run with run | run
    · exact .inl (List.mem_append_left _ run)
    · exact .inl (List.mem_append_right _ (List.mem_cons_of_mem _ run))
  | @close kind index t id b o cs notes clock pick found running =>
    obtain ⟨mem, rfl⟩ := Task.attempt?_mem found
    have left : a ∈ (j.recorded kind index t b o cs notes clock.first).running := by
      rw [running_recorded lw pick mem running o cs notes clock.first]
      exact List.mem_filter.2 ⟨run, by simpa using Ne.symm other⟩
    obtain ⟨-, e⟩ | ⟨-, -, e⟩ | ⟨-, -, e⟩ :=
      conclude_cases (j.recorded kind index t b o cs notes clock.first)
        (t.closed b o cs notes clock.first) clock
    · exact .inr (by rw [e]; rfl)
    · exact .inr (by rw [e]; rfl)
    · exact .inl (by rw [e]; exact left)

end Job

section Operations

variable {s : System} {op : Operation} {a : Attempt} {id : JobId} {j : Job}

/-- An operation other than a sweep makes no move that ends an attempt but those that it names. -/
lemma Operation.Admits.not_closes {m : Job.Move} (ad : op.Admits id m) (unnamed : a.id ∉ op.names)
    (one : ∀ now timeout lost clock, op ≠ .sweep now timeout lost clock) : ¬m.Closes a.id := by
  cases ad with
  | killAttempt | complete => exact fun same => unnamed (List.mem_singleton.2 same.symm)
  | sweep => exact absurd rfl (one _ _ _ _)
  | installTasks | failInit | killJob | assign | finishIdle => exact not_false

/-- An operation that does not end an attempt by its name spares it. -/
theorem System.Lawful.spares_next (lw : s.Lawful) (ok : s.Permits op)
    (unnamed : a.id ∉ op.names) (found : s.coordinator.job? id = some j) :
    ∃ j', (s.next op).coordinator.job? id = some j' ∧ j.Spares a j' := by
  by_cases sweep : ∃ now timeout lost clock, op = .sweep now timeout lost clock
  · obtain ⟨now, timeout, lost, clock, rfl⟩ := sweep
    obtain ⟨ms, pf, closes⟩ := loseAttempts_performs
      (c := s.coordinator.markDead (s.coordinator.overdueTrackers now timeout)) lw.nodup lost clock
    refine pf.follow (.refl a) (fun _ _ _ => .trans) lw.jobs (fun i m i' mem st lwi => ?_) found
    refine st.spares lwi fun same => unnamed ?_
    obtain ⟨kind, index, id', mem', em⟩ := closes _ mem
    cases em
    exact same ▸ mem'
  · refine lw.follow ok (.refl a) (fun _ _ _ _ => .trans) (fun i m i' ad st lwi => ?_) found
    exact st.spares lwi (ad.not_closes unnamed
      fun now timeout lost clock e => sweep ⟨now, timeout, lost, clock, e⟩)

/-- An attempt that runs after an operation ran before, or the operation is the request for work
that is answered with it. -/
lemma Reachable.live_next (re : Reachable s) (ok : s.Permits op)
    (mem : a ∈ (s.next op).coordinator.liveAttempts) : a ∈ s.coordinator.liveAttempts ∨
      ∃ now asg, op = .assign a.tracker now ∧
        (s.coordinator.assign a.tracker now).1 = some asg ∧ asg.attemptId = a.id := by
  by_cases assigns : ∃ k now, op = .assign k now
  · obtain ⟨k, now, rfl⟩ := assigns
    rw [System.next, Operation.apply] at mem
    rcases assign_cases re.exact k now with ⟨-, same⟩ | ⟨asg, answer, new⟩
    · rw [same] at mem
      exact .inl mem
    · obtain ⟨b, p, q, eb, et, before, after⟩ := new.live
      rw [after, List.mem_append, List.mem_cons, or_left_comm, ← List.mem_append, ← before] at mem
      rcases mem with rfl | mem
      · exact .inr ⟨now, asg, by rw [et], by rw [et]; exact answer, eb.symm⟩
      · exact .inl mem
  · exact .inl ((re.lawful.live_sublist ok fun k now e => assigns ⟨k, now, e⟩).subset mem)

end Operations

/-! ## Attempts that are over -/

/-- The attempt of a name was launched and does not run any more. -/
def Over (c : Coordinator) (id : AttemptId) : Prop :=
  ∃ a ∈ c.attempts, a.id = id ∧ a.isRunning = false

namespace Over

variable {c : Coordinator} {s : System} {op : Operation} {a : Attempt} {id : AttemptId}

/-- What is over is not live. -/
lemma ne_of_live (ov : c.Over id) (ex : Exact c) (mem : a ∈ c.liveAttempts) : a.id ≠ id := by
  rintro rfl
  obtain ⟨b, memb, same, ended⟩ := ov
  obtain ⟨mema, run⟩ := mem_liveAttempts.1 mem
  rw [ex.inj memb mema same, run] at ended
  cases ended

/-- What is over stays so. -/
lemma next (ov : s.coordinator.Over id) (lw : s.Lawful) (ok : s.Permits op) :
    (s.next op).coordinator.Over id := by
  obtain ⟨a, mem, same, ended⟩ := ov
  exact ⟨a, lw.mem_next_of_ended ok mem ended, same, ended⟩

/-- An attempt that was launched is over when it is reported, whatever the report says. -/
lemma of_complete (ex : Exact c) (r : TaskCompletion) (clock : Readings)
    (launched : r.attemptId ∈ c.attempts.map Attempt.id) :
    (c.complete r clock).2.Over r.attemptId := by
  obtain ⟨a, mem, same⟩ := List.mem_map.1 launched
  by_cases run : a.isRunning
  · obtain ⟨c', e, acts⟩ := ex.acts_complete (mem_liveAttempts.2 ⟨mem, run⟩) r same.symm clock
    rw [e]
    refine ⟨_, acts.mem, same, ?_⟩
    cases r.success <;> rfl
  · rw [complete_of_not_runs ex mem (by simpa using run) r same.symm clock]
    exact ⟨a, mem, same, by simpa using run⟩

end Over

/-- The answer to a heartbeat names attempts that are over. -/
lemma Reachable.over_of_heartbeat {s : System} (re : Reachable s) {h : Heartbeat} {now : Instant}
    {id : AttemptId} (mem : id ∈ ((s.coordinator.heartbeat h now).map Prod.fst).getD []) :
    s.coordinator.Over id := by
  cases e : s.coordinator.heartbeat h now with
  | none =>
    rw [e] at mem
    cases mem
  | some answer =>
    rw [e, Option.map_some, Option.getD_some, (heartbeat_eq_some e).1] at mem
    obtain ⟨a, mema, ea, -, ended⟩ := re.ended_of_pending mem
    exact ⟨a, mema, ea, ended⟩

end JobCluster.Coordinator
