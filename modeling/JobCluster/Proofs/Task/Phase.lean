import JobCluster.Proofs.Names

/-!
# Phases of a task

A task is tried in attempts, one at a time. `Task.Phase` relates its state to its attempts: all of
them but the last are retired (they failed or were killed), and the last one decides the state.
`Task.Lawful` adds the names of the attempts and the count of failures.

Each way in which a task changes has a lemma that it stays lawful: `Lawful.launch`, `Lawful.closed`
and `Lawful.abort`. The names matter for `Lawful.closed`: an attempt is looked up and put back by
its name, and only `Lawful.last_running` says that this reaches the last attempt and no other.
-/

namespace JobCluster.Coordinator

open JobCluster.Time

/-- Whether an attempt ended without success. -/
def Attempt.isRetired (a : Attempt) : Bool := a.state == .failed || a.state == .killed

/-- A retired attempt failed or was killed. -/
lemma Attempt.isRetired_iff {a : Attempt} :
    a.isRetired = true ↔ a.state = .failed ∨ a.state = .killed := by
  simp [Attempt.isRetired]

/-- A retired attempt does not run. -/
lemma Attempt.isRunning_eq_false {a : Attempt} (re : a.isRetired) : a.isRunning = false := by
  rcases Attempt.isRetired_iff.1 re with failed | killed
  · simp [Attempt.isRunning, failed]
  · simp [Attempt.isRunning, killed]

@[simp] lemma Attempt.close_id (a : Attempt) (o : Outcome) (now : Instant) (notes : List String) :
    (a.close o now notes).id = a.id := rfl

@[simp] lemma Attempt.close_state (a : Attempt) (o : Outcome) (now : Instant)
    (notes : List String) : (a.close o now notes).state = o.state := rfl

namespace Task

/-- How the state of a task goes with its attempts. -/
inductive Phase : TaskState → List Attempt → Prop where
  | pending {past} :
    (∀ a ∈ past, a.isRetired) →
    Phase .pending past
  | running {past a} :
    (∀ b ∈ past, b.isRetired) →
    a.state = .running →
    Phase .running (past ++ [a])
  | complete {past a} :
    (∀ b ∈ past, b.isRetired) →
    a.state = .succeeded →
    Phase .complete (past ++ [a])
  | failed {past a} :
    (∀ b ∈ past, b.isRetired) →
    a.state = .failed →
    Phase .failed (past ++ [a])
  | killed {past} :
    (∀ a ∈ past, a.isRetired) →
    Phase .killed past

/-- The attempts that failed. -/
def failedAttempts (t : Task) : List Attempt := t.attempts.filter (·.state == .failed)

/-- What holds of a task at all times. -/
structure Lawful (t : Task) : Prop where
  phase : Phase t.state t.attempts
  named : ∀ i a, t.attempts[i]? = some a → a.id = attemptIdOf t.id i
  failures_eq : t.failures = t.failedAttempts.length
  failures_lt : t.state ≠ .failed → t.failures < maxFailures
  failures_max : t.state = .failed → t.failures = maxFailures

/-! ## What a change keeps -/

section Frame

variable (t : Task) (o : Outcome) (cs : Counters) (now : Instant)

@[simp] lemma settle_id : (t.settle o cs now).id = t.id := by
  unfold settle; cases o <;> simp only; split <;> rfl

@[simp] lemma settle_kind : (t.settle o cs now).kind = t.kind := by
  unfold settle; cases o <;> simp only; split <;> rfl

@[simp] lemma settle_index : (t.settle o cs now).index = t.index := by
  unfold settle; cases o <;> simp only; split <;> rfl

@[simp] lemma settle_attempts : (t.settle o cs now).attempts = t.attempts := by
  unfold settle; cases o <;> simp only; split <;> rfl

@[simp] lemma abort_id (reason : String) : (t.abort reason now).id = t.id := by
  unfold abort; split <;> rfl

@[simp] lemma abort_kind (reason : String) : (t.abort reason now).kind = t.kind := by
  unfold abort; split <;> rfl

@[simp] lemma abort_index (reason : String) : (t.abort reason now).index = t.index := by
  unfold abort; split <;> rfl

/-- A task that is not open is not stopped. -/
lemma abort_of_not_isOpen {t : Task} (reason : String) (shut : t.isOpen = false) :
    t.abort reason now = t := by
  rw [abort, if_neg (by simp [shut])]

end Frame

/-- A task is open while it waits or runs. -/
lemma isOpen_iff {t : Task} : t.isOpen = true ↔ t.state = .pending ∨ t.state = .running := by
  simp [isOpen]

/-- Stopping a task kills what runs. -/
lemma abort_attempts {t : Task} (reason : String) (now : Instant) (op : t.isOpen) :
    (t.abort reason now).attempts =
      t.attempts.map fun a => if a.isRunning then a.close .killed now [reason] else a := by
  rw [abort, if_pos op]

/-- A stopped task is killed. -/
lemma abort_state {t : Task} (reason : String) (now : Instant) (op : t.isOpen) :
    (t.abort reason now).state = .killed := by
  rw [abort, if_pos op]

/-- A task is not open after it was stopped. -/
lemma abort_isOpen (t : Task) (reason : String) (now : Instant) :
    (t.abort reason now).isOpen = false := by
  by_cases op : t.isOpen
  · simp [isOpen, abort_state reason now op]
  · rw [abort_of_not_isOpen now reason (by simpa using op)]
    simpa using op

/-! ## Lawfulness -/

/-- A new task is lawful. -/
lemma Lawful.new (job : JobId) (kind : TaskKind) (index : UInt32) (split : Option InputSplit) :
    (Task.new job kind index split).Lawful where
  phase := .pending (List.forall_mem_nil _)
  named := by simp [Task.new]
  failures_eq := rfl
  failures_lt := by simp [Task.new, maxFailures]
  failures_max := by simp [Task.new]

/-- The attempts of a task are told apart by their names. -/
lemma Lawful.index_inj {t : Task} (lw : t.Lawful) {i k : Nat} {a b : Attempt}
    (ha : t.attempts[i]? = some a) (hb : t.attempts[k]? = some b) (e : a.id = b.id) : i = k := by
  rw [lw.named i a ha, lw.named k b hb] at e
  exact (attemptIdOf_inj e).2

/-- A running attempt is the last one of a running task, and the only one with its name. -/
lemma Lawful.last_running {t : Task} (lw : t.Lawful) {a : Attempt} (mem : a ∈ t.attempts)
    (run : a.isRunning) :
    ∃ past, t.attempts = past ++ [a] ∧ t.state = .running ∧
      (∀ b ∈ past, b.isRetired) ∧ ∀ b ∈ past, b.id ≠ a.id := by
  have notPast : ∀ {past : List Attempt}, (∀ b ∈ past, b.isRetired) → a ∉ past := by
    intro past re mem
    rw [Attempt.isRunning_eq_false (re a mem)] at run
    cases run
  generalize es : t.state = s
  generalize eas : t.attempts = as at mem
  have ph : Phase s as := es ▸ eas ▸ lw.phase
  cases ph with
  | pending re => exact absurd mem (notPast re)
  | killed re => exact absurd mem (notPast re)
  | complete re st | failed re st =>
    rcases List.mem_append.1 mem with mem | mem
    · exact absurd mem (notPast re)
    · cases List.mem_singleton.1 mem
      simp [Attempt.isRunning, st] at run
  | @running past b re st =>
    rcases List.mem_append.1 mem with mem | mem
    · exact absurd mem (notPast re)
    · cases List.mem_singleton.1 mem
      refine ⟨past, rfl, rfl, re, fun b mem e => ?_⟩
      -- a name tells the place in the list, and the last place is not in the past
      obtain ⟨i, lt, rfl⟩ := List.getElem_of_mem mem
      have hb : t.attempts[i]? = some past[i] := by
        rw [eas, List.getElem?_append_left lt, List.getElem?_eq_getElem lt]
      have ha : t.attempts[past.length]? = some a := by simp [eas]
      have := lw.index_inj hb ha e
      omega

/-- An attempt that is found is one of the task, under its name. -/
lemma attempt?_mem {t : Task} {id : AttemptId} {a : Attempt} (found : t.attempt? id = some a) :
    a ∈ t.attempts ∧ a.id = id :=
  ⟨List.mem_of_find?_eq_some found, by simpa using List.find?_some found⟩

/-- An attempt of a task is found by its name. -/
lemma Lawful.attempt?_of_mem {t : Task} (lw : t.Lawful) {a : Attempt} (mem : a ∈ t.attempts) :
    t.attempt? a.id = some a := by
  cases found : t.attempt? a.id with
  | none =>
    have := List.find?_eq_none.1 found a mem
    simp at this
  | some b =>
    obtain ⟨memb, e⟩ := attempt?_mem found
    obtain ⟨i, hi⟩ := List.mem_iff_getElem?.1 memb
    obtain ⟨k, hk⟩ := List.mem_iff_getElem?.1 mem
    rw [lw.index_inj hi hk e, hk] at hi
    rw [Option.some.inj hi]

/-- Putting back an attempt changes the last one alone if no other has its name. -/
lemma replaceAttempt_attempts {t : Task} {past : List Attempt} {a b : Attempt}
    (e : t.attempts = past ++ [a]) (other : ∀ b ∈ past, b.id ≠ a.id) (eid : b.id = a.id) :
    (t.replaceAttempt b).attempts = past ++ [b] := by
  have keep : past.map (fun x => if x.id = b.id then b else x) = past := by
    conv => rhs; rw [← List.map_id past]
    apply List.map_congr_left
    intro x mem
    rw [if_neg (eid ▸ other x mem)]
    rfl
  show t.attempts.map _ = _
  rw [e, List.map_append, keep, List.map_cons, List.map_nil, if_pos eid.symm]

/-- Changing the last attempt but not its name keeps the names in order. -/
lemma named_last {id : TaskId} {past : List Attempt} {a b : Attempt} (eid : b.id = a.id)
    (named : ∀ i x, (past ++ [a])[i]? = some x → x.id = attemptIdOf id i) :
    ∀ i x, (past ++ [b])[i]? = some x → x.id = attemptIdOf id i := by
  intro i x hx
  by_cases lt : i < past.length
  · rw [List.getElem?_append_left lt] at hx
    exact named i x (by rw [List.getElem?_append_left lt, hx])
  · have ei : i = past.length := by
      have := (List.getElem?_eq_some_iff.1 hx).1
      simp only [List.length_append, List.length_singleton] at this
      omega
    subst ei
    have ex : b = x := by simpa using hx
    rw [← ex, eid]
    exact named _ a (by simp)

/-- A pending task stays lawful when its next attempt starts. -/
lemma Lawful.launch {t : Task} (lw : t.Lawful) (pending : t.state = .pending) (tracker : TrackerId)
    (host : String) (now : Instant) : (t.launch tracker host now).Lawful := by
  have re : ∀ a ∈ t.attempts, a.isRetired := by
    have ph := lw.phase
    rw [pending] at ph
    cases ph with
    | pending re => exact re
  refine ⟨.running re rfl, ?_, ?_, ?_, nofun⟩
  · intro i a ha
    rcases Nat.lt_or_ge i t.attempts.length with lt | ge
    · exact lw.named i a (by simpa [Task.launch, List.getElem?_append_left lt] using ha)
    · have ei : i = t.attempts.length := by
        have := (List.getElem?_eq_some_iff.1 ha).1
        simp only [Task.launch, List.length_append, List.length_singleton] at this
        omega
      subst ei
      simp only [Task.launch, List.getElem?_concat_length, Option.some.injEq] at ha
      rw [← ha]
      rfl
  · simp [Task.launch, failedAttempts, lw.failures_eq]
  · intro _
    exact lw.failures_lt (by simp [pending])

/-- A task whose running attempt ends. -/
def closed (t : Task) (a : Attempt) (o : Outcome) (cs : Counters) (notes : List String)
    (now : Instant) : Task :=
  (t.replaceAttempt (a.close o now notes)).settle o cs now

@[simp] lemma closed_id (t : Task) (a : Attempt) (o : Outcome) (cs : Counters)
    (notes : List String) (now : Instant) : (t.closed a o cs notes now).id = t.id := by
  rw [closed, settle_id]; rfl

@[simp] lemma closed_kind (t : Task) (a : Attempt) (o : Outcome) (cs : Counters)
    (notes : List String) (now : Instant) : (t.closed a o cs notes now).kind = t.kind := by
  rw [closed, settle_kind]; rfl

@[simp] lemma closed_index (t : Task) (a : Attempt) (o : Outcome) (cs : Counters)
    (notes : List String) (now : Instant) : (t.closed a o cs notes now).index = t.index := by
  rw [closed, settle_index]; rfl

/-- The last attempt is closed, and the others stay as they were. -/
lemma closed_attempts {t : Task} {past : List Attempt} {a : Attempt} (e : t.attempts = past ++ [a])
    (other : ∀ b ∈ past, b.id ≠ a.id) (o : Outcome) (cs : Counters) (notes : List String)
    (now : Instant) :
    (t.closed a o cs notes now).attempts = past ++ [a.close o now notes] := by
  rw [closed, settle_attempts, replaceAttempt_attempts e other (Attempt.close_id ..)]

/-- A task fails with the last failure that it is allowed. -/
lemma closed_failed_iff (t : Task) (a : Attempt) (o : Outcome) (cs : Counters)
    (notes : List String) (now : Instant) :
    (t.closed a o cs notes now).state = .failed ↔ o = .failed ∧ maxFailures ≤ t.failures + 1 := by
  cases o with
  | succeeded | killed => simp [closed, settle]
  | failed =>
    by_cases last : maxFailures ≤ t.failures + 1 <;>
      simp [closed, settle, replaceAttempt, last]

/-- A task is killed with its job only, not by the end of an attempt. -/
lemma closed_state_ne_killed (t : Task) (a : Attempt) (o : Outcome) (cs : Counters)
    (notes : List String) (now : Instant) : (t.closed a o cs notes now).state ≠ .killed := by
  cases o with
  | succeeded | killed => simp [closed, settle]
  | failed =>
    by_cases last : maxFailures ≤ t.failures + 1 <;>
      simp [closed, settle, replaceAttempt, last]

/-- A lawful task stays so when its running attempt ends. -/
lemma Lawful.closed {t : Task} (lw : t.Lawful) {a : Attempt} (mem : a ∈ t.attempts)
    (run : a.isRunning) (o : Outcome) (cs : Counters) (notes : List String) (now : Instant) :
    (t.closed a o cs notes now).Lawful := by
  obtain ⟨past, e, st, re, other⟩ := lw.last_running mem run
  have eas := closed_attempts e other o cs notes now
  have notFailed : a.state ≠ .failed := by
    have : a.state = .running := by simpa [Attempt.isRunning] using run
    simp [this]
  -- the attempt runs, so the failures so far are those of the attempts before it
  have before : t.failures = (past.filter (·.state == .failed)).length := by
    rw [lw.failures_eq, failedAttempts, e, List.filter_append]
    simp [notFailed]
  have lt : t.failures < maxFailures := lw.failures_lt (by simp [st])
  have named : ∀ i x, (t.closed a o cs notes now).attempts[i]? = some x →
      x.id = attemptIdOf (t.closed a o cs notes now).id i := by
    rw [eas, closed_id]
    exact named_last (Attempt.close_id ..) (e ▸ lw.named)
  have failedAttempts_eq : (t.closed a o cs notes now).failedAttempts =
      past.filter (·.state == .failed) ++
        [a.close o now notes].filter (·.state == .failed) := by
    rw [failedAttempts, eas, List.filter_append]
  have retired (r : o ≠ .succeeded) : ∀ b ∈ past ++ [a.close o now notes], b.isRetired := by
    intro b mem
    rcases List.mem_append.1 mem with mem | mem
    · exact re b mem
    · cases List.mem_singleton.1 mem
      cases o with
      | succeeded => exact absurd rfl r
      | failed | killed => rfl
  -- of the three ends only a failure counts, and only it may use up the task
  cases o with
  | succeeded =>
    refine ⟨?_, named, ?_, fun _ => lt, by simp [closed_failed_iff]⟩
    · rw [eas]; exact .complete re rfl
    · rw [failedAttempts_eq]
      simpa [Task.closed, settle, replaceAttempt, Outcome.state] using before
  | killed =>
    refine ⟨?_, named, ?_, fun _ => lt, by simp [closed_failed_iff]⟩
    · rw [eas]; exact .pending (retired nofun)
    · rw [failedAttempts_eq]
      simpa [Task.closed, settle, replaceAttempt, Outcome.state] using before
  | failed =>
    have failures : (t.closed a .failed cs notes now).failures = t.failures + 1 := by
      simp only [Task.closed, settle]; split <;> rfl
    refine ⟨?_, named, ?_, ?_, ?_⟩
    · rw [eas]
      by_cases last : maxFailures ≤ t.failures + 1
      · rw [(closed_failed_iff ..).2 ⟨rfl, last⟩]
        exact .failed re rfl
      · have : (t.closed a .failed cs notes now).state = .pending := by
          simp [Task.closed, settle, replaceAttempt, last]
        rw [this]
        exact .pending (retired nofun)
    · rw [failures, failedAttempts_eq, before]
      simp [Outcome.state]
    · intro ne
      have more : ¬maxFailures ≤ t.failures + 1 :=
        fun last => ne ((closed_failed_iff ..).2 ⟨rfl, last⟩)
      rw [failures]
      omega
    · intro eq
      have := ((closed_failed_iff ..).1 eq).2
      rw [failures]
      omega

/-- A lawful task stays so when it is aborted. -/
lemma Lawful.abort {t : Task} (lw : t.Lawful) (reason : String) (now : Instant) :
    (t.abort reason now).Lawful := by
  by_cases op : t.isOpen
  case neg => rw [abort_of_not_isOpen now reason (by simpa using op)]; exact lw
  let killIt (a : Attempt) : Attempt := if a.isRunning then a.close .killed now [reason] else a
  have eas : (t.abort reason now).attempts = t.attempts.map killIt := abort_attempts reason now op
  have failures : (t.abort reason now).failures = t.failures := by rw [Task.abort, if_pos op]
  have st := abort_state reason now op
  have keepsId (a : Attempt) : (killIt a).id = a.id := by
    by_cases run : a.isRunning <;> simp [killIt, run]
  have keepsFailed (a : Attempt) : ((killIt a).state == .failed) = (a.state == .failed) := by
    by_cases run : a.isRunning
    · have : a.state = .running := by simpa [Attempt.isRunning] using run
      rw [show killIt a = a.close .killed now [reason] from if_pos run, Attempt.close_state, this]
      rfl
    · simp [killIt, run]
  have retired : ∀ a ∈ t.attempts, (killIt a).isRetired := by
    intro a mem
    by_cases run : a.isRunning
    · simp [killIt, run, Attempt.isRetired, Outcome.state]
    · simp only [killIt, run]
      -- an open task has no attempt that ended with success
      have ph := lw.phase
      rcases isOpen_iff.1 op with pending | running
      · rw [pending] at ph
        cases ph with
        | pending re => exact re a mem
      · rw [running] at ph
        generalize t.attempts = as at ph mem
        cases ph with
        | running re st =>
          rcases List.mem_append.1 mem with mem | mem
          · exact re a mem
          · cases List.mem_singleton.1 mem
            simp [Attempt.isRunning, st] at run
  refine ⟨?_, ?_, ?_, ?_, by simp [st]⟩
  · rw [st, eas]
    exact .killed (by simpa using retired)
  · intro i a ha
    rw [eas, List.getElem?_map] at ha
    obtain ⟨b, hb, rfl⟩ := Option.map_eq_some_iff.1 ha
    rw [keepsId, abort_id]
    exact lw.named i b hb
  · rw [failures, lw.failures_eq, failedAttempts, failedAttempts, eas, List.filter_map,
      List.length_map]
    exact congrArg (fun p => (t.attempts.filter p).length) (funext fun a => (keepsFailed a).symm)
  · intro _
    rw [failures]
    apply lw.failures_lt
    rcases isOpen_iff.1 op with st | st <;> simp [st]

end Task

end JobCluster.Coordinator
