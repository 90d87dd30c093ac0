import JobCluster.Coordinator.Queries
import JobCluster.Proofs.Coordinator.Ends
import Mathlib.Data.List.Forall2

/-!
# Jobs do not interfere

A report, a user's kill of an attempt and that of a job each concern one job. `Operation.effect?`
says what such an operation comes to: what that job becomes, and what each tracker gets for it
(`Due`). It depends on the index and on the one job alone (`effect?_enact`), and what trackers get
adds up in any order but for the order of names on a list.

`jobs_do_not_interfere` reads this off: other jobs stay as they are, and two operations on different
jobs can be exchanged.
-/

namespace JobCluster.Coordinator

open JobCluster.Time

/-! ## What trackers get -/

/-- What a tracker gets from an operation: ends of attempts to count, their time, and names of
attempts to abort. -/
structure Due where
  succeeded : Nat
  failed : Nat
  time : Nat
  kills : List AttemptId

namespace Due

/-- Nothing. -/
def none : Due := ⟨0, 0, 0, []⟩

/-- Names of attempts to abort. -/
def names (ids : List AttemptId) : Due := ⟨0, 0, 0, ids⟩

/-- What the end of an attempt of the tracker comes to. -/
def ofEnd (o : Outcome) (elapsed : Nat) : Due :=
  ⟨if o = .succeeded then 1 else 0, if o = .failed then 1 else 0, elapsed, []⟩

/-- What one tracker gets alone. -/
def only (id : TrackerId) (d : Due) (k : TrackerId) : Due := if k = id then d else none

/-- Nothing due to one tracker is nothing due to any. -/
lemma only_none (id : TrackerId) : only id none = fun _ => none := by
  funext k
  exact ite_self _

/-- One after the other. -/
def plus (d d' : Due) : Due :=
  ⟨d.succeeded + d'.succeeded, d.failed + d'.failed, d.time + d'.time, d.kills ++ d'.kills⟩

/-- The same but for the order of the names. -/
structure Alike (d d' : Due) : Prop where
  succeeded : d'.succeeded = d.succeeded
  failed : d'.failed = d.failed
  time : d'.time = d.time
  kills : d.kills.Perm d'.kills

/-- In which order a tracker gets two things does not matter. -/
lemma plus_alike (d d' : Due) : (d.plus d').Alike (d'.plus d) :=
  ⟨Nat.add_comm .., Nat.add_comm .., Nat.add_comm .., List.perm_append_comm⟩

end Due

/-- A tracker with what it gets. -/
def Tracker.receive (t : Tracker) (d : Due) : Tracker :=
  { t with
    succeeded := t.succeeded + d.succeeded
    failed := t.failed + d.failed
    taskTime := t.taskTime + d.time
    pendingKills := t.pendingKills ++ d.kills }

namespace Tracker

variable {t : Tracker}

@[simp] lemma receive_none : t.receive .none = t := by
  simp [receive, Due.none]

@[simp] lemma receive_receive (d d' : Due) : (t.receive d).receive d' = t.receive (d.plus d') := by
  simp [receive, Due.plus, Nat.add_assoc]

/-- The end of an attempt is something due to its tracker. -/
lemma credit_eq_receive (o : Outcome) (elapsed : Nat) :
    t.credit o elapsed = t.receive (.ofEnd o elapsed) := by
  cases o <;> simp [credit, receive, Due.ofEnd]

/-- A name to be told is something due to its tracker. -/
lemma queueKill_eq_receive (id : AttemptId) : t.queueKill id = t.receive (.names [id]) := by
  simp [queueKill, receive, Due.names]

end Tracker

/-- Gives every tracker what it is to get. -/
def deal (c : Coordinator) (due : TrackerId → Due) : Coordinator :=
  { c with trackers := c.trackers.map fun e => (e.1, e.2.receive (due e.1)) }

section Deal

variable {c : Coordinator}

@[simp] lemma deal_deal (due due' : TrackerId → Due) :
    (c.deal due).deal due' = c.deal fun k => (due k).plus (due' k) := by
  simp [deal, Function.comp_def]

/-- Dealing nothing changes nothing. -/
lemma deal_none : (c.deal fun _ => .none) = c := by
  simp [deal]

/-- What one tracker gets. -/
lemma changeTracker_eq_deal {id : TrackerId} {f : Tracker → Tracker} {d : Due}
    (same : ∀ t, f t = t.receive d) :
    c.changeTracker id f = c.deal (.only id d) := by
  unfold changeTracker deal Due.only
  congr 1
  refine List.map_congr_left fun e _ => ?_
  by_cases here : e.1 = id <;> simp [here, same]

/-- What trackers are to be told of the ends of attempts. -/
lemma notifyKills_eq_deal (ended : List Attempt) :
    c.notifyKills ended = c.deal fun k => .names (namesOn k ended) := by
  unfold notifyKills
  induction ended generalizing c with
  | nil => exact deal_none.symm
  | cons a ended ih =>
    rw [List.foldl_cons, ih, changeTracker_eq_deal fun t => t.queueKill_eq_receive a.id, deal_deal]
    congr 1
    funext k
    by_cases here : k = a.tracker
    · simp [here, Due.only, Due.plus, Due.names, namesOn]
    · have other : (a.tracker == k) = false := by simpa using fun e : a.tracker = k => here e.symm
      simp [here, Due.only, Due.plus, Due.names, Due.none, namesOn, other]

end Deal

/-! ## What operations come to -/

/-- What an operation on one job comes to: the job as it becomes, and what each tracker gets. -/
structure Effect where
  job : Job
  due : TrackerId → Due

/-- Puts the changed job back and gives the trackers what they are to get. -/
def enact (c : Coordinator) (e : Effect) : Coordinator := (c.setJob e.job).deal e.due

/-- Puts into effect what an operation comes to, if it comes to anything. -/
def enact? (c : Coordinator) (e : Option Effect) : Coordinator := (e.map c.enact).getD c

/-- What the end of an attempt comes to. The tracker of the attempt is to abort those in `told`. -/
def Effect.ofClosed (cl : Job.Closed) (o : Outcome) (clock : Readings) (told : List AttemptId) :
    Effect where
  job := cl.job
  due k := ((Due.only cl.attempt.tracker (.ofEnd o (cl.attempt.runTime clock.first)) k).plus
    (.names (namesOn k cl.aborted))).plus (.only cl.attempt.tracker (.names told) k)

/-- What the kill of a job comes to. -/
def Effect.ofKilled (j : Job) (clock : Readings) : Effect where
  job := (j.abort "job matado por el usuario" clock.first).1.finish .killed clock.second
  due k := .names (namesOn k (j.abort "job matado por el usuario" clock.first).2)

/-- The end of one attempt, as it is asked for. -/
structure Ending where
  id : AttemptId
  outcome : Outcome
  counters : Counters
  notes : List String
  clock : Readings
  told : List AttemptId

namespace Ending

/-- The end of an attempt that its tracker reports. -/
def ofReport (r : TaskCompletion) (clock : Readings) : Ending :=
  ⟨r.attemptId, if r.success then .succeeded else .failed, r.counters, r.diagnostics, clock, []⟩

/-- The end of an attempt that a user kills. -/
def ofKill (id : AttemptId) (shouldFail : Bool) (clock : Readings) : Ending :=
  ⟨id, if shouldFail then .failed else .killed, Counters.empty, [killNote shouldFail], clock,
    [id]⟩

/-- What the end of an attempt comes to at its place in its job. -/
def effectIn? (en : Ending) (ref : AttemptRef) (j : Job) : Option Effect :=
  (j.close ref.kind ref.index en.id en.outcome en.counters en.notes en.clock).map fun cl =>
    .ofClosed cl en.outcome en.clock en.told

/-- What the end of an attempt comes to. -/
def effect? (en : Ending) (c : Coordinator) : Option Effect :=
  (c.ref? en.id).bind fun ref => (c.job? ref.job).bind (en.effectIn? ref)

end Ending

namespace Operation

/-- What an operation on one job comes to. -/
def effect? (c : Coordinator) : Operation → Option Effect
  | .complete r now => (Ending.ofReport r now).effect? c
  | .killAttempt id shouldFail now => (Ending.ofKill id shouldFail now).effect? c
  | .killJob id now =>
    (c.job? id).bind fun j => if j.isTerminal then none else some (.ofKilled j now)
  | _ => none

/-- Whether an operation is one that ends attempts of one job. -/
def Ends : Operation → Prop
  | .complete .. | .killAttempt .. | .killJob .. => True
  | _ => False

/-- What ends attempts names no new ones. -/
lemma Ends.not_naming {op : Operation} (ends : op.Ends) : ¬op.IsNaming := by
  cases op <;> first | exact id | exact ends.elim

/-- Whether an operation names a job or one of its attempts. -/
def Concerns : Operation → Job → Prop
  | .complete r _, j => r.attemptId ∈ j.allAttempts.map Attempt.id
  | .killAttempt id _ _, j => id ∈ j.allAttempts.map Attempt.id
  | .killJob id _, j => j.id = id
  | _, _ => False

/-- What an operation that ends an attempt answers: whether there is such an attempt. -/
def answer? (c : Coordinator) : Operation → Option Bool
  | .complete r now => some (c.complete r now).1
  | .killAttempt id shouldFail now => some (c.killAttempt id shouldFail now).1
  | _ => none

end Operation

section Effects

variable {c c' : Coordinator} {op : Operation} {e : Effect}

/-- The end of an attempt puts into effect what it comes to, and so does telling its tracker. -/
lemma finishAttempt_eq_enact (ref : AttemptRef) (en : Ending) :
    (c.finishAttempt ref en.id en.outcome en.counters en.notes en.clock).map
        (fun x => x.2.deal (.only x.1 (.names en.told))) =
      ((c.job? ref.job).bind (en.effectIn? ref)).map c.enact := by
  simp only [finishAttempt]
  cases c.job? ref.job with
  | none => rfl
  | some j =>
    cases closed : j.close ref.kind ref.index en.id en.outcome en.counters en.notes en.clock with
    | none => simp [closed, Ending.effectIn?]
    | some cl =>
      simp [closed, Ending.effectIn?, changeTracker_eq_deal fun t => t.credit_eq_receive _ _,
        notifyKills_eq_deal, enact, Effect.ofClosed]

/-- A report puts into effect what it comes to. -/
lemma complete_eq_enact (c : Coordinator) (r : TaskCompletion) (clock : Readings) :
    (c.complete r clock).2 = c.enact? ((Ending.ofReport r clock).effect? c) := by
  unfold complete Ending.effect?
  cases found : c.ref? r.attemptId with
  | none => simp [Ending.ofReport, found, enact?]
  | some ref =>
    have ended := c.finishAttempt_eq_enact ref (Ending.ofReport r clock)
    have nothing : Due.names [] = .none := rfl
    simp only [Ending.ofReport, found, Option.bind_some, enact?] at ended ⊢
    rw [← ended, nothing]
    cases c.finishAttempt ref r.attemptId (if r.success then .succeeded else .failed) r.counters
      r.diagnostics clock with
    | none => rfl
    | some answer => simp [Due.only_none, deal_none]

/-- A user's kill of an attempt puts into effect what it comes to. -/
lemma killAttempt_eq_enact (c : Coordinator) (id : AttemptId) (shouldFail : Bool)
    (clock : Readings) :
    (c.killAttempt id shouldFail clock).2 =
      c.enact? ((Ending.ofKill id shouldFail clock).effect? c) := by
  unfold killAttempt Ending.effect?
  cases found : c.ref? id with
  | none => simp [Ending.ofKill, found, enact?]
  | some ref =>
    have ended := c.finishAttempt_eq_enact ref (Ending.ofKill id shouldFail clock)
    simp only [Ending.ofKill, found, Option.bind_some, enact?] at ended ⊢
    rw [← ended]
    cases c.finishAttempt ref id (if shouldFail then .failed else .killed) Counters.empty
      [killNote shouldFail] clock with
    | none => rfl
    | some answer => exact changeTracker_eq_deal fun t => t.queueKill_eq_receive id

/-- A user's kill of a job puts into effect what it comes to. -/
lemma killJob_eq_enact (c : Coordinator) (id : JobId) (clock : Readings) :
    c.killJob id clock = c.enact? ((Operation.killJob id clock).effect? c) := by
  simp only [killJob, Operation.effect?]
  cases c.job? id with
  | none => rfl
  | some j =>
    cases ended : j.isTerminal with
    | true => simp [ended, enact?]
    | false => simp [ended, enact?, enact, Effect.ofKilled, notifyKills_eq_deal]

/-- An operation on one job puts into effect what it comes to. -/
lemma Operation.apply_eq_enact (ends : op.Ends) : op.apply c = c.enact? (op.effect? c) := by
  cases op with
  | complete r now => exact complete_eq_enact c r now
  | killAttempt id shouldFail now => exact killAttempt_eq_enact c id shouldFail now
  | killJob id now => exact killJob_eq_enact c id now
  | _ => exact ends.elim

/-- Whether there is an attempt is asked of the index. -/
lemma Operation.answer?_congr (same : c'.index = c.index) : op.answer? c' = op.answer? c := by
  have ref? (id : AttemptId) : c'.ref? id = c.ref? id := by rw [ref?, same, ref?]
  cases op with
  | complete r now =>
    have isSome (c : Coordinator) : (c.complete r now).1 = (c.ref? r.attemptId).isSome := by
      unfold Coordinator.complete
      split
      · next absent => rw [absent]; rfl
      · next found => rw [found]; simp only; split <;> rfl
    rw [answer?, isSome, ref?, answer?, isSome]
  | killAttempt id shouldFail now =>
    have isSome (c : Coordinator) : (c.killAttempt id shouldFail now).1 = (c.ref? id).isSome := by
      unfold Coordinator.killAttempt
      split
      · next absent => rw [absent]; rfl
      · next found => rw [found]; simp only; split <;> rfl
    rw [answer?, isSome, ref?, answer?, isSome]
  | _ => rfl

/-- What an operation comes to, it comes to for a job that it concerns. -/
lemma Operation.effect?_spec (ex : Exact c) (comes : op.effect? c = some e) :
    ∃ j ∈ c.jobs, op.Concerns j ∧ e.job.id = j.id := by
  have ending {en : Ending} (comes : en.effect? c = some e) :
      ∃ j ∈ c.jobs, en.id ∈ j.allAttempts.map Attempt.id ∧ e.job.id = j.id := by
    obtain ⟨ref, found, comes⟩ := Option.bind_eq_some_iff.1 comes
    obtain ⟨j, foundJob, comes⟩ := Option.bind_eq_some_iff.1 comes
    obtain ⟨cl, closed, rfl⟩ := Option.map_eq_some_iff.1 comes
    obtain ⟨k, memk, ek, has⟩ := (ex.indexed.index _ _).1 found
    rw [← ek, job?_of_mem ex.nodup memk] at foundJob
    cases foundJob
    exact ⟨j, memk, Job.mem_allAttempts.2 ⟨_, _, has⟩, (Job.Step.of_close closed).id⟩
  cases op with
  | complete r now => exact ending comes
  | killAttempt id shouldFail now => exact ending comes
  | killJob id now =>
    obtain ⟨j, found, comes⟩ := Option.bind_eq_some_iff.1 comes
    split at comes
    · cases comes
    · cases comes
      obtain ⟨mem, eid⟩ := job?_mem found
      exact ⟨j, mem, eid, (Job.agree_abort ..).id⟩
  | _ => cases comes

/-- An effect on one job leaves the others. -/
lemma job?_enact (e : Effect) {id : JobId} (ne : e.job.id ≠ id) :
    (c.enact e).job? id = c.job? id := by
  have same : (c.enact e).job? id = (c.setJob e.job).job? id := rfl
  rw [same, job?_setJob]
  cases found : c.job? id with
  | none => rfl
  | some k => rw [Option.map_some, if_neg fun h => ne (h.symm.trans (job?_mem found).2)]

/-- What an operation comes to does not depend on jobs that it does not concern. -/
lemma Operation.effect?_enact (ex : Exact c) {j : Job} (mem : j ∈ c.jobs) (other : ¬op.Concerns j)
    (eid : e.job.id = j.id) : op.effect? (c.enact e) = op.effect? c := by
  have ending {en : Ending} (other : en.id ∉ j.allAttempts.map Attempt.id) :
      en.effect? (c.enact e) = en.effect? c := by
    have ref? : (c.enact e).ref? en.id = c.ref? en.id := rfl
    rw [Ending.effect?, ref?, Ending.effect?]
    refine Option.bind_congr fun ref found => ?_
    obtain ⟨k, memk, ek, has⟩ := (ex.indexed.index _ _).1 found
    rw [job?_enact]
    rintro same
    have one : k = j :=
      List.inj_on_of_nodup_map ex.nodup memk mem (ek.trans (same.symm.trans eid))
    exact other (one ▸ Job.mem_allAttempts.2 ⟨_, _, has⟩)
  cases op with
  | complete r now => exact ending other
  | killAttempt id shouldFail now => exact ending other
  | killJob id now => rw [effect?, job?_enact e fun h => other (eid.symm.trans h), effect?]
  | _ => rfl

end Effects

/-! ## States that are alike -/

/-- Two trackers are the same but for the order in which they are to abort attempts. -/
structure Tracker.Alike (t t' : Tracker) : Prop where
  figures : { t' with pendingKills := [] } = { t with pendingKills := [] }
  kills : t.pendingKills.Perm t'.pendingKills

/-- Two states are the same but for the order of what each tracker is to be told. -/
structure Alike (c c' : Coordinator) : Prop where
  state : c'.state = c.state
  stamp : c'.stamp = c.stamp
  issued : c'.issued = c.issued
  reserved : c'.reserved = c.reserved
  jobs : c'.jobs = c.jobs
  index : c'.index = c.index
  trackers : List.Forall₂ (fun e e' => e'.1 = e.1 ∧ e.2.Alike e'.2) c.trackers c'.trackers

section States

variable {c c' : Coordinator}

lemma Alike.refl (c : Coordinator) : Alike c c :=
  ⟨rfl, rfl, rfl, rfl, rfl, rfl, List.forall₂_same.2 fun _ _ => ⟨rfl, rfl, .refl _⟩⟩

/-- Alike dues lead to alike trackers. -/
lemma Tracker.receive_alike (t : Tracker) {d d' : Due} (al : d.Alike d') :
    (t.receive d).Alike (t.receive d') where
  figures := by simp [receive, al.succeeded, al.failed, al.time]
  kills := al.kills.append_left _

/-- Where trackers get alike things, the states are alike. -/
lemma deal_alike (c : Coordinator) {due due' : TrackerId → Due} (al : ∀ k, (due k).Alike (due' k)) :
    Alike (c.deal due) (c.deal due') where
  state := rfl
  stamp := rfl
  issued := rfl
  reserved := rfl
  jobs := rfl
  index := rfl
  trackers := by
    rw [deal, deal, List.forall₂_map_left_iff, List.forall₂_map_right_iff, List.forall₂_same]
    exact fun e _ => ⟨rfl, e.2.receive_alike (al e.1)⟩

/-- Two jobs are replaced in any order. -/
lemma setJob_comm {j j' : Job} (ne : j.id ≠ j'.id) :
    (c.setJob j).setJob j' = (c.setJob j').setJob j := by
  unfold setJob
  simp only [List.map_map]
  congr 1
  refine List.map_congr_left fun k _ => ?_
  by_cases here : k.id = j.id
  · simp [here, ne]
  · by_cases there : k.id = j'.id
    · simp [there, ne.symm]
    · simp [here, there]

/-- What comes to different jobs can be put into effect in any order. -/
lemma enact_alike (c : Coordinator) {e e' : Effect} (ne : e.job.id ≠ e'.job.id) :
    Alike ((c.enact e).enact e') ((c.enact e').enact e) := by
  have both (e e' : Effect) : (c.enact e).enact e' =
      ((c.setJob e.job).setJob e'.job).deal fun k => (e.due k).plus (e'.due k) := by
    rw [← deal_deal]
    rfl
  rw [both, both, setJob_comm ne]
  exact deal_alike _ fun k => (e.due k).plus_alike _

/-- The metrics do not tell what trackers are to abort. -/
lemma Alike.metrics (al : Alike c c') (now : Instant) :
    c'.trackerMetrics now = c.trackerMetrics now := by
  have running : c'.running = c.running := by rw [running, al.jobs, running]
  have drop (c : Coordinator) (k : TrackerId) (t : Tracker) :
      c.metricsOf now k t = c.metricsOf now k { t with pendingKills := [] } := rfl
  have each (e e' : TrackerId × Tracker) (rel : e'.1 = e.1 ∧ e.2.Alike e'.2) :
      c.metricsOf now e.1 e.2 = c'.metricsOf now e'.1 e'.2 := by
    rw [drop c', rel.2.figures, ← drop, rel.1, metricsOf, metricsOf, running]
  have same : List.Forall₂ Eq (c.trackers.map fun e => c.metricsOf now e.1 e.2)
      (c'.trackers.map fun e => c'.metricsOf now e.1 e.2) := by
    rw [List.forall₂_map_left_iff, List.forall₂_map_right_iff]
    exact al.trackers.imp each
  rw [List.forall₂_eq_eq_eq] at same
  rw [trackerMetrics, ← same, trackerMetrics]

/-- Alike coordinators have the same names to tell, up to order. -/
lemma Alike.pending (al : Alike c c') (k : TrackerId) : (c.pending k).Perm (c'.pending k) := by
  have trackers := al.trackers
  unfold Coordinator.pending tracker?
  generalize c.trackers = es at trackers
  generalize c'.trackers = es' at trackers
  induction trackers with
  | nil => exact .nil
  | cons rel _ ih =>
    rw [List.find?_cons, List.find?_cons, rel.1]
    split
    · exact rel.2.kills
    · exact ih

end States

/-! ## Operations on different jobs -/

section Operations

variable {c : Coordinator} {s : System} {op op' : Operation}

/-- An operation names one job, or an attempt of one job. -/
lemma Operation.Concerns.unique (ex : Exact c) {j j' : Job} (mem : j ∈ c.jobs) (mem' : j' ∈ c.jobs)
    (here : op.Concerns j) (there : op.Concerns j') : j = j' := by
  have attempt {id : AttemptId} (here : id ∈ j.allAttempts.map Attempt.id)
      (there : id ∈ j'.allAttempts.map Attempt.id) : j = j' := by
    obtain ⟨kind, i, has⟩ := Job.mem_allAttempts.1 here
    obtain ⟨kind', i', has'⟩ := Job.mem_allAttempts.1 there
    have found := (ex.indexed.index id ⟨j.id, kind, i⟩).2 ⟨j, mem, rfl, has⟩
    have found' := (ex.indexed.index id ⟨j'.id, kind', i'⟩).2 ⟨j', mem', rfl, has'⟩
    rw [found, Option.some.injEq] at found'
    exact List.inj_on_of_nodup_map ex.nodup mem mem' (congrArg AttemptRef.job found')
  cases op with
  | complete => exact attempt here there
  | killAttempt => exact attempt here there
  | killJob => exact List.inj_on_of_nodup_map ex.nodup mem mem' (here.trans there.symm)
  | _ => exact here.elim

/-- An operation on one job leaves the others as they are. -/
lemma Operation.jobs_apply (ex : Exact c) (ends : op.Ends) :
    List.Forall₂ (fun j j' => j'.id = j.id ∧ (¬op.Concerns j → j' = j)) c.jobs
      (op.apply c).jobs := by
  rw [op.apply_eq_enact ends]
  cases comes : op.effect? c with
  | none => exact List.forall₂_same.2 fun j _ => ⟨rfl, fun _ => rfl⟩
  | some e =>
    obtain ⟨j, mem, concerned, eid⟩ := op.effect?_spec ex comes
    show List.Forall₂ _ c.jobs (c.jobs.map _)
    rw [List.forall₂_map_right_iff, List.forall₂_same]
    intro k memk
    by_cases here : k.id = e.job.id
    · have same : k = j := List.inj_on_of_nodup_map ex.nodup memk mem (here.trans eid)
      rw [if_pos here, same]
      exact ⟨eid, fun no => absurd concerned no⟩
    · rw [if_neg here]
      exact ⟨rfl, fun _ => rfl⟩

/-- What an operation comes to is the same after one on another job. -/
lemma Operation.effect?_apply (ex : Exact c) (ends' : op'.Ends)
    (apart : ∀ j ∈ c.jobs, op.Concerns j → ¬op'.Concerns j) :
    op.effect? (op'.apply c) = op.effect? c := by
  rw [op'.apply_eq_enact ends']
  cases comes : op'.effect? c with
  | none => rfl
  | some e =>
    obtain ⟨j, mem, concerned, eid⟩ := op'.effect?_spec ex comes
    exact op.effect?_enact ex mem (fun here => apart j mem here concerned) eid

/-- Operations on different jobs can be exchanged. -/
lemma Operation.apply_alike (ex : Exact c) (ends : op.Ends) (ends' : op'.Ends)
    (apart : ∀ j ∈ c.jobs, op.Concerns j → ¬op'.Concerns j) :
    Alike (op'.apply (op.apply c)) (op.apply (op'.apply c)) := by
  have apart' : ∀ j ∈ c.jobs, op'.Concerns j → ¬op.Concerns j :=
    fun j mem there here => apart j mem here there
  have after := op'.effect?_apply ex ends apart'
  have after' := op.effect?_apply ex ends' apart
  rw [op'.apply_eq_enact ends', after, op.apply_eq_enact ends, op.apply_eq_enact ends, after',
    op'.apply_eq_enact ends']
  cases comes : op.effect? c with
  | none => exact .refl _
  | some e =>
    cases comes' : op'.effect? c with
    | none => exact .refl _
    | some e' =>
      obtain ⟨j, mem, concerned, eid⟩ := op.effect?_spec ex comes
      obtain ⟨j', mem', concerned', eid'⟩ := op'.effect?_spec ex comes'
      refine c.enact_alike fun same => apart j mem concerned ?_
      rwa [List.inj_on_of_nodup_map ex.nodup mem mem' (eid.symm.trans (same.trans eid'))]

end Operations

/-- In every run a report, a user's kill of an attempt and that of a job change no job but the one
that they name or that has the attempt, and there is no more than one. Two such operations that
concern different jobs answer alike in both orders and lead to states that are the same but for the
order in which trackers are to abort attempts. -/
theorem jobs_do_not_interfere {s : System} (re : Reachable s) :
    (∀ op : Operation, op.Ends →
      List.Forall₂ (fun j j' => j'.id = j.id ∧ (¬op.Concerns j → j' = j)) s.coordinator.jobs
        (s.next op).coordinator.jobs ∧
      ∀ j ∈ s.coordinator.jobs, ∀ j' ∈ s.coordinator.jobs,
        op.Concerns j → op.Concerns j' → j = j') ∧
    ∀ op op' : Operation, op.Ends → op'.Ends →
      (∀ j ∈ s.coordinator.jobs, op.Concerns j → ¬op'.Concerns j) →
      op.answer? (s.next op').coordinator = op.answer? s.coordinator ∧
      op'.answer? (s.next op).coordinator = op'.answer? s.coordinator ∧
      Alike ((s.next op).next op').coordinator ((s.next op').next op).coordinator ∧
      (∀ now, ((s.next op').next op).coordinator.trackerMetrics now =
        ((s.next op).next op').coordinator.trackerMetrics now) ∧
      ∀ k, (((s.next op).next op').coordinator.pending k).Perm
        (((s.next op').next op).coordinator.pending k) := by
  have ex := re.exact
  refine ⟨fun op ends => ⟨op.jobs_apply ex ends, fun j mem j' mem' =>
      Operation.Concerns.unique ex mem mem'⟩,
    fun op op' ends ends' apart => ?_⟩
  have index (op : Operation) (ends : op.Ends) :
      (s.next op).coordinator.index = s.coordinator.index :=
    congrArg Registry.index (Operation.registry_apply ends.not_naming)
  have alike : Alike ((s.next op).next op').coordinator ((s.next op').next op).coordinator :=
    Operation.apply_alike ex ends ends' apart
  exact ⟨Operation.answer?_congr (index op' ends'), Operation.answer?_congr (index op ends), alike,
    alike.metrics, alike.pending⟩

/-- The name of the second job of a coordinator. -/
def secondJob : JobId := "job_202601020304_0002"

/-- A coordinator with two jobs of one map each. The first map runs on a tracker with two slots. -/
def twoJobsSystem : System :=
  let clock := Instant.ofSeconds 0
  oneMapSystem.after [.register "t1" ⟨"h1", 2, 0⟩ clock, .assign "t1" clock, .newJobId clock,
    .submit secondJob ⟨"wc", "ana", ["/datos"], 0, .normal, none⟩ 1024 10 clock,
    .installTasks secondJob [⟨"/datos/b", 0, 10, []⟩]]

/-- The same coordinator when both maps run. -/
def twoMapsSystem : System := twoJobsSystem.next (.assign "t1" (.ofSeconds 0))

/-- The sample system is reachable. -/
lemma twoMaps_reachable : Reachable twoMapsSystem :=
  ((Run.of_permitsAll (by decide +kernel)).reachable oneMap_reachable).next trivial

/-- The second map is launched. The jobs are looked through in their order, for they are of one
priority. -/
lemma twoMaps_eq : twoMapsSystem.coordinator =
    ((twoJobsSystem.coordinator.launch "t1" ⟨secondJob, .map, 0, some false⟩ (.ofSeconds 0)).map
      Prod.snd).getD twoJobsSystem.coordinator := by
  have sorted : (twoJobsSystem.coordinator.jobs.filter fun j =>
      j.state == .running && j.hasTasks).Pairwise fun a b =>
        decide (a.priority.rank ≤ b.priority.rank) = true := by decide +kernel
  have chosen : twoJobsSystem.coordinator.choose "t1" =
      some ⟨secondJob, .map, 0, some false⟩ := by
    rw [choose, candidates, List.mergeSort_of_pairwise sorted]
    decide +kernel
  rw [twoMapsSystem, System.next, Operation.apply, assign, chosen, Option.bind_some]
  split
  · next launched => rw [launched]; rfl
  · next none => rw [none]; rfl

/-- When a user kills the attempt of one job and the other job, the tracker is to abort both
attempts, in the order in which they were killed; all else is the same in both orders. -/
theorem sample_jobs_do_not_interfere :
    let op : Operation := .killAttempt oneMapAttempt false (.ofSeconds 1)
    let op' : Operation := .killJob secondJob (.ofSeconds 1)
    ((twoMapsSystem.next op).next op').coordinator.pending "t1" =
      [oneMapAttempt, "attempt_202601020304_0002_m_000000_0"] ∧
    ((twoMapsSystem.next op').next op).coordinator.pending "t1" =
      ["attempt_202601020304_0002_m_000000_0", oneMapAttempt] ∧
    Alike ((twoMapsSystem.next op).next op').coordinator
      ((twoMapsSystem.next op').next op).coordinator := by
  intro op op'
  have apart : ∀ j ∈ twoMapsSystem.coordinator.jobs, op.Concerns j → ¬op'.Concerns j := by
    show ∀ j ∈ twoMapsSystem.coordinator.jobs, oneMapAttempt ∈ j.allAttempts.map Attempt.id →
      j.id ≠ secondJob
    rw [twoMaps_eq]
    decide +kernel
  refine ⟨?_, ?_,
    ((jobs_do_not_interfere twoMaps_reachable).2 op op' trivial trivial apart).2.2.1⟩
  · rw [System.next, System.next, twoMaps_eq]
    decide +kernel
  · rw [System.next, System.next, twoMaps_eq]
    decide +kernel

end JobCluster.Coordinator
