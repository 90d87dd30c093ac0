import JobCluster.Proofs.Coordinator.Reservations

/-!
# The limit on jobs

A submission says how many jobs may be live at once. Where all submissions of a run say the same,
there are never more (`Capped.bounded`): a submission that would exceed the limit is refused, and no
operation brings a job back that has ended.

A submission that is refused changes nothing, so a reserved name stays reserved; one of a name that
has a job answers with the status of that job, whatever the limit. Both hold of every state of the
coordinator, reachable or not (`Atomic`). What a submission can do is said once, by
`submit_outcome`.
-/

namespace JobCluster.Coordinator

open JobCluster.Text JobCluster.Time

/-! ## One submission -/

/-- Whether nothing is wrong with a job that is to be submitted. -/
structure Sound (d : JobDescriptor) : Prop where
  name : isBlankText d.name = false
  user : isBlankText d.user = false
  size : d.splitSize ≠ some 0

/-- A job is sound if no fault is found in it. -/
lemma sound_iff {d : JobDescriptor} : Sound d ↔ descriptorFault? d = none := by
  unfold descriptorFault?
  constructor
  · rintro ⟨name, user, size⟩
    simp [name, user, size]
  · intro none
    split at none
    · cases none
    · next name =>
      split at none
      · cases none
      · next user =>
        split at none
        · cases none
        · next size => exact ⟨by simpa using name, by simpa using user, size⟩

section Submission

variable {c : Coordinator} {id : JobId} {d : JobDescriptor} {size maxJobs : UInt64} {now : Instant}

/-- A submission finds the job that was submitted before, or is refused because a check fails, or
passes all checks and adds a job. -/
lemma submit_outcome (c : Coordinator) (id : JobId) (d : JobDescriptor) (size maxJobs : UInt64)
    (now : Instant) :
    (∃ j, c.job? id = some j ∧ c.submit id d size maxJobs now = (.ok ⟨j.status, none⟩, c)) ∨
    (c.job? id = none ∧
      (c.isReserved id = false ∨ ¬Sound d ∨ maxJobs.toNat ≤ c.incompleteCount) ∧
      ∃ e, c.submit id d size maxJobs now = (.error e, c)) ∨
    (c.job? id = none ∧ c.isReserved id ∧ Sound d ∧ c.incompleteCount < maxJobs.toNat ∧
      ∃ c', c.submit id d size maxJobs now = (.ok ⟨(Job.new id d now).status,
        some ⟨id, d.inputPaths, d.splitSize.getD size⟩⟩, c')) := by
  unfold submit
  cases c.job? id with
  | some j => exact .inl ⟨j, rfl, rfl⟩
  | none =>
    refine .inr ?_
    cases reserved : c.isReserved id with
    | false => exact .inl ⟨rfl, .inl rfl, _, rfl⟩
    | true =>
      cases fault : descriptorFault? d with
      | some reason =>
        exact .inl ⟨rfl, .inr (.inl (by rw [sound_iff, fault]; nofun)), _, rfl⟩
      | none =>
        by_cases full : maxJobs.toNat ≤ c.incompleteCount
        · exact .inl ⟨rfl, .inr (.inr full), _, by simp only [if_pos full]; rfl⟩
        · exact .inr ⟨rfl, rfl, sound_iff.2 fault, Nat.lt_of_not_le full, _,
            by simp only [if_neg full]; rfl⟩

/-- A job that was submitted before is left as it is. -/
lemma submit_again {j : Job} (found : c.job? id = some j) :
    c.submit id d size maxJobs now = (.ok ⟨j.status, none⟩, c) := by
  simp only [submit, found]

/-- A submission is refused where the name has no job and a check fails. -/
lemma refused_iff : (c.submit id d size maxJobs now).1.isOk = false ↔ c.job? id = none ∧
    (c.isReserved id = false ∨ ¬Sound d ∨ maxJobs.toNat ≤ c.incompleteCount) := by
  rcases submit_outcome c id d size maxJobs now with
    ⟨j, found, e⟩ | ⟨free, failed, _, e⟩ | ⟨free, reserved, sound, room, _, e⟩
  · rw [e, found]
    exact iff_of_false nofun nofun
  · rw [e]
    exact iff_of_true rfl ⟨free, failed⟩
  · rw [e]
    refine iff_of_false nofun ?_
    rintro ⟨-, unlisted | unsound | full⟩
    · rw [reserved] at unlisted
      cases unlisted
    · exact unsound sound
    · exact Nat.not_le.2 room full

/-- A submission that is refused changes nothing. -/
lemma submit_refused (refused : (c.submit id d size maxJobs now).1.isOk = false) :
    (c.submit id d size maxJobs now).2 = c := by
  rcases submit_outcome c id d size maxJobs now with
    ⟨_, _, e⟩ | ⟨-, -, _, e⟩ | ⟨-, -, -, -, _, e⟩
  · rw [e]
  · rw [e]
  · rw [e] at refused
    cases refused

/-- A submission that changes something found the limit not reached. -/
lemma room_of_changed (changed : (c.submit id d size maxJobs now).2 ≠ c) :
    c.incompleteCount < maxJobs.toNat := by
  rcases submit_outcome c id d size maxJobs now with
    ⟨_, _, e⟩ | ⟨-, -, _, e⟩ | ⟨-, -, -, room, -⟩
  · exact absurd (congrArg Prod.snd e) changed
  · exact absurd (congrArg Prod.snd e) changed
  · exact room

end Submission

/-! ## The number of live jobs -/

section Live

variable {s : System} {op : Operation}

/-- Moves bring no job back to life. -/
lemma Performs.live_le {js js' : List Job} {ms : List (JobId × Job.Move)}
    (pf : Performs js ms js') (lw : ∀ j ∈ js, j.Lawful) :
    (js'.countP fun j => !j.isTerminal) ≤ js.countP fun j => !j.isTerminal := by
  induction pf with
  | nil => exact Nat.le_refl _
  | @cons pre j m j' post ms js' st _ ih =>
    refine Nat.le_trans (ih ((Performs.single st).lawful lw)) ?_
    -- only a live job makes a move
    have live := st.live (lw j (by simp))
    rw [List.countP_append, List.countP_append, List.countP_cons, List.countP_cons]
    cases j'.isTerminal <;> simp [live]

/-- Whether submissions allow a number of jobs. -/
def Operation.Allows (maxJobs : UInt64) : Operation → Prop
  | .submit _ _ _ most _ => most = maxJobs
  | _ => True

instance (maxJobs : UInt64) : (op : Operation) → Decidable (op.Allows maxJobs)
  | .submit _ _ _ most _ => inferInstanceAs (Decidable (most = maxJobs))
  | .markRunning | .newJobId _ | .expireReservations .. | .installTasks .. | .failInit ..
  | .killJob .. | .killAttempt .. | .register .. | .heartbeat .. | .assign .. | .complete ..
  | .sweep .. | .finishIdle _ => isTrue trivial

/-- An operation keeps the number of live jobs within the limit that submissions allow. -/
lemma System.Lawful.live_next (lw : s.Lawful) (ok : s.Permits op) {maxJobs : UInt64}
    (allows : op.Allows maxJobs) (le : s.coordinator.incompleteCount ≤ maxJobs.toNat) :
    (s.next op).coordinator.incompleteCount ≤ maxJobs.toNat := by
  generalize ejs : (s.next op).coordinator.jobs = js', lw.changes ok = ch
  rw [incompleteCount, ejs]
  cases ch with
  | moves pf _ _ => exact Nat.le_trans (pf.live_le lw.jobs) le
  | @added id d size most now e _ =>
    subst e
    have changed : (s.coordinator.submit id d size most now).2 ≠ s.coordinator := by
      intro same
      rw [System.next, Operation.apply, same] at ejs
      simp at ejs
    rw [List.countP_append, ← show most = maxJobs from allows]
    exact Nat.succ_le_of_lt (room_of_changed changed)

/-- A run keeps the number of live jobs within the limit that its submissions allow. -/
lemma Run.live_le {stamp : String} {ops : List Operation} (run : Run (System.start stamp) ops s)
    {maxJobs : UInt64} (allows : ∀ op ∈ ops, op.Allows maxJobs) :
    s.coordinator.incompleteCount ≤ maxJobs.toNat := by
  induction run with
  | nil => exact Nat.zero_le _
  | @snoc ops s op run ok ih =>
    have re : Reachable s := ⟨stamp, ops, run⟩
    exact re.lawful.live_next ok (allows op (by simp))
      (ih fun x mem => allows x (List.mem_append_left _ mem))

end Live

/-! ## The limit -/

/-- There are no more live jobs than the limit, and a sound job is accepted under a reserved name
where there are less. -/
structure Capped (maxJobs : UInt64) (c : Coordinator) : Prop where
  bounded : c.incompleteCount ≤ maxJobs.toNat
  accepts : ∀ id, c.isReserved id → ∀ d, Sound d → ∀ size now,
    (c.submit id d size maxJobs now).1.isOk ↔ c.incompleteCount < maxJobs.toNat

/-- A submission is refused for the checks that fail, and then changes nothing: under a name that is
reserved a sound job can be submitted after it. A submission of a name that has a job tells its
status and changes nothing either. -/
structure Atomic (c : Coordinator) : Prop where
  refused_iff : ∀ id d size maxJobs now,
    (c.submit id d size maxJobs now).1.isOk = false ↔ c.job? id = none ∧
      (c.isReserved id = false ∨ ¬Sound d ∨ maxJobs.toNat ≤ c.incompleteCount)
  unchanged : ∀ id d size maxJobs now, (c.submit id d size maxJobs now).1.isOk = false →
    (c.submit id d size maxJobs now).2 = c
  retry : ∀ id d size maxJobs now, (c.submit id d size maxJobs now).1.isOk = false →
    c.isReserved id → ∀ d' size' maxJobs' now', Sound d' → c.incompleteCount < maxJobs'.toNat →
      ((c.submit id d size maxJobs now).2.submit id d' size' maxJobs' now').1 =
        .ok ⟨(Job.new id d' now').status, some ⟨id, d'.inputPaths, d'.splitSize.getD size'⟩⟩
  again : ∀ id j, c.job? id = some j → ∀ d size maxJobs now,
    c.submit id d size maxJobs now = (.ok ⟨j.status, none⟩, c)

/-- A refused job leaves no trace, and only faults and a full coordinator refuse. -/
lemma atomic (c : Coordinator) : Atomic c where
  refused_iff _ _ _ _ _ := refused_iff
  unchanged _ _ _ _ _ := submit_refused
  retry id d size maxJobs now refused reserved d' size' maxJobs' now' sound room := by
    rw [submit_refused refused]
    have free := (Coordinator.refused_iff.1 refused).1
    rcases submit_outcome c id d' size' maxJobs' now' with
      ⟨_, found, _⟩ | ⟨-, failed, _⟩ | ⟨-, -, -, -, _, e⟩
    · rw [free] at found
      cases found
    · rcases failed with unlisted | unsound | full
      · rw [reserved] at unlisted
        cases unlisted
      · exact absurd sound unsound
      · exact absurd full (Nat.not_le.2 room)
    · rw [e]
  again _ _ found _ _ _ _ := submit_again found

/-- In a run whose submissions allow the same number of jobs there are never more live jobs, and a
sound job is accepted exactly where there are less; whatever the state, a submission that is refused
or comes again changes nothing. -/
theorem submissions_capped {stamp : String} {ops : List Operation} {s : System} {maxJobs : UInt64}
    (run : Run (System.start stamp) ops s) (allows : ∀ op ∈ ops, op.Allows maxJobs) :
    Capped maxJobs s.coordinator ∧ ∀ c, Atomic c := by
  refine ⟨⟨run.live_le allows, fun id reserved d sound size now => ?_⟩, atomic⟩
  have free := run.accounted.free run (isReserved_iff.1 reserved)
  have refused : (s.coordinator.submit id d size maxJobs now).1.isOk = false ↔ _ := refused_iff
  rw [← not_iff_not, Bool.not_eq_true, refused, Nat.not_lt]
  simp [free, reserved, sound]

/-! ## A run at the limit -/

/-- The operations of a run that reaches a limit of one job: a second job is refused, and accepted
once the first was killed. -/
def cappedOperations : List Operation :=
  let clock := Instant.ofSeconds 0
  let job (name : String) : JobDescriptor := ⟨name, "ana", ["/datos"], 0, .normal, none⟩
  [.newJobId clock,
    .newJobId clock,
    .newJobId clock,
    .submit "job_202601020304_0001" (job "wc") 1024 1 clock,
    .submit "job_202601020304_0002" (job "grep") 1024 1 clock,
    .killJob "job_202601020304_0001" (.still clock),
    .submit "job_202601020304_0002" (job "grep") 1024 1 clock]

/-- The system after the run at the limit. -/
def cappedSystem : System := (System.start "202601020304").after cappedOperations

/-- The run at the limit has one live job of two, and still a reserved name. -/
theorem sample_submissions_capped :
    cappedSystem.coordinator.jobs.length = 2 ∧ cappedSystem.coordinator.incompleteCount = 1 ∧
    cappedSystem.coordinator.isReserved "job_202601020304_0003" ∧
    Capped 1 cappedSystem.coordinator ∧ ∀ c, Atomic c :=
  ⟨by decide +kernel, by decide +kernel, by decide +kernel,
    submissions_capped (.of_permitsAll (by decide +kernel)) (by decide +kernel)⟩

end JobCluster.Coordinator
