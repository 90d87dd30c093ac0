import JobCluster.Proofs.Coordinator.Staffing

/-!
# Trackers are told of kills

A tracker has a list of attempts that it is to abort. `System.notices` says, from what an operation
ends alone, of which attempts trackers are to be told: those that a user kills, with their job or by
name, and those that end because their job fails. `System.owed` collects them along a run, for one
tracker and since its last heartbeat or the sweep that last marked it dead.

`pending_kills_exact` says that the list of each tracker is what it is owed, and what follows from
that: no attempt on the list runs, none is handed out twice, an attempt that its tracker reported or
that was lost is never on a list, and the list of a dead tracker is empty. The step is
`System.Lawful.pending_next`; the rest is in `Told`, which is kept along runs.
-/

namespace JobCluster.Coordinator

open JobCluster.Time

/-! ## What trackers are to be told -/

namespace System

/-- The attempts that an operation ends, in the order of the jobs and their tasks. -/
def ended (s : System) (op : Operation) : List Attempt :=
  s.coordinator.endedBy (s.next op).coordinator

/-- The attempts that an operation ends and that trackers are to be told of: those that a user
kills, and those that end with their job. An attempt that is killed by name comes last. -/
def notices (s : System) (op : Operation) : List Attempt :=
  match op with
  | .killJob .. => s.ended op
  | .killAttempt id .. => (s.ended op).filter (·.id != id) ++ (s.ended op).filter (·.id == id)
  | .complete r _ => (s.ended op).filter (·.id != r.attemptId)
  | _ => []

/-- Whether an operation empties the list of a tracker: a heartbeat of it, or a sweep that marks it
dead. -/
def clears (s : System) (id : TrackerId) : Operation → Bool
  | .heartbeat h _ => h.trackerId == id
  | .sweep now timeout _ _ => (s.coordinator.overdueTrackers now timeout).contains id
  | _ => false

/-- What a tracker is owed after operations, if it is owed some names before: the notices for it
since the last operation that emptied its list. -/
def owed (s : System) (id : TrackerId) (before : List AttemptId) : List Operation → List AttemptId
  | [] => before
  | op :: ops => (s.next op).owed id
      (if s.clears id op then [] else before ++ namesOn id (s.notices op)) ops

/-- What an operation hands out, with the tracker that gets it. -/
def handsOut (s : System) : Operation → List (TrackerId × AttemptId)
  | .heartbeat h now =>
    (((s.coordinator.heartbeat h now).map Prod.fst).getD []).map fun x => (h.trackerId, x)
  | _ => []

/-- What each operation of a run gives, one after the other. -/
def collect {α : Type} (f : System → Operation → List α) (s : System) : List Operation → List α
  | [] => []
  | op :: ops => f s op ++ (s.next op).collect f ops

/-- What two runs in a row yield. -/
lemma collect_append {α : Type} (f : System → Operation → List α) (s : System)
    (ops ops' : List Operation) :
    s.collect f (ops ++ ops') = s.collect f ops ++ (s.after ops).collect f ops' := by
  induction ops generalizing s with
  | nil => rfl
  | cons op ops ih =>
    rw [List.cons_append, collect, ih, collect, List.append_assoc]
    rfl

/-- What one more operation yields. -/
lemma collect_snoc {α : Type} (f : System → Operation → List α) (s : System)
    (ops : List Operation) (op : Operation) :
    s.collect f (ops ++ [op]) = s.collect f ops ++ f (s.after ops) op := by
  rw [collect_append, collect, collect, List.append_nil]

/-- One more operation clears what a tracker is owed or adds what is to be told to it. -/
lemma owed_snoc (s : System) (id : TrackerId) (before : List AttemptId) (ops : List Operation)
    (op : Operation) :
    s.owed id before (ops ++ [op]) = if (s.after ops).clears id op then [] else
      s.owed id before ops ++ namesOn id ((s.after ops).notices op) := by
  induction ops generalizing s before with
  | nil => rfl
  | cons x ops ih =>
    rw [List.cons_append, owed, ih, owed]
    rfl

variable {s : System} {op : Operation}

/-- What is to be told has ended. -/
lemma mem_ended_of_notices {a : Attempt} (mem : a ∈ s.notices op) : a ∈ s.ended op := by
  unfold notices at mem
  split at mem
  · exact mem
  · rcases List.mem_append.1 mem with mem | mem <;> exact (List.mem_filter.1 mem).1
  · exact (List.mem_filter.1 mem).1
  · cases mem

/-- One operation ends an attempt once. -/
lemma ended_ids_nodup (ex : Exact s.coordinator) (op : Operation) :
    ((s.ended op).map Attempt.id).Nodup :=
  (List.filter_sublist.map _).nodup ex.live_ids_nodup

/-- Notices have distinct names. -/
lemma notices_ids_nodup (ex : Exact s.coordinator) : ((s.notices op).map Attempt.id).Nodup := by
  have nodup := ended_ids_nodup ex op
  unfold notices
  split
  · exact nodup
  · next id shouldFail now =>
    have perm := List.filter_append_perm (fun a : Attempt => a.id != id)
      (s.ended (.killAttempt id shouldFail now))
    simp only [bne, Bool.not_not] at perm ⊢
    exact (perm.map _).nodup_iff.2 nodup
  · exact (List.filter_sublist.map _).nodup nodup
  · exact .nil

end System

/-! ## One operation -/

section Step

variable {c c' : Coordinator} {s : System} {op : Operation} {k : TrackerId}

/-- What ended is told by the jobs alone. -/
lemma endedBy_congr {c'' : Coordinator} (same : c''.jobs = c'.jobs) :
    c.endedBy c'' = c.endedBy c' := by
  simp only [endedBy, runs, running, same]

/-- A tracker that is not there has nothing to be told. -/
lemma pending_of_none (none : c.tracker? k = none) : c.pending k = [] := by
  rw [pending, none]
  rfl

/-- Closing an attempt leaves the names of those that ended with it, and not its own. -/
lemma pending_finishAttempt (ex : Exact c) (sf : Staffed c) {ref : AttemptRef} {id : AttemptId}
    {o : Outcome} {cs : Counters} {notes : List String} {clock : Readings} {tracker : TrackerId}
    (e : c.finishAttempt ref id o cs notes clock = some (tracker, c')) :
    c'.pending k = c.pending k ++ namesOn k ((c.endedBy c').filter (·.id != id)) := by
  rw [pending_finishAttempt_some ex e, sf.namesOn]
  exact fun a mem => (mem_endedBy.1 (List.mem_filter.1 mem).1).1

/-- Nothing ends without a change. -/
lemma endedBy_self : c.endedBy c = [] := endedBy_of_jobs rfl

/-- A job that is killed tells of all its attempts. -/
lemma pending_killJob (ex : Exact c) (sf : Staffed c) (id : JobId) (clock : Readings) :
    (c.killJob id clock).pending k =
      c.pending k ++ namesOn k (c.endedBy (c.killJob id clock)) := by
  rcases c.killJob_cases id clock with same | ⟨j, reason, found, -, e⟩
  · rw [same, endedBy_self]
    exact (List.append_nil _).symm
  · have jobs : (c.killJob id clock).jobs =
        (c.setJob ((j.abort reason clock.first).1.finish .killed clock.second)).jobs := by
      rw [e, notifyKills_jobs]
    rw [← sf.namesOn fun a mem => (mem_endedBy.1 mem).1, ← endedBy_of_kill ex found reason jobs, e,
      pending_notifyKills]
    rfl

/-- A report leaves the names of those that ended with its attempt, and not its own. -/
lemma pending_complete (ex : Exact c) (sf : Staffed c) (r : TaskCompletion) (clock : Readings) :
    (c.complete r clock).2.pending k = c.pending k ++
      namesOn k ((c.endedBy (c.complete r clock).2).filter (·.id != r.attemptId)) := by
  rcases c.complete_cases r clock with same | ⟨_, _, _, e⟩
  · rw [same, endedBy_self]
    exact (List.append_nil _).symm
  · exact pending_finishAttempt ex sf e

/-- A kill of an attempt tells of the attempts that end with it, and then of the attempt. -/
lemma pending_killAttempt (ex : Exact c) (sf : Staffed c) (id : AttemptId) (shouldFail : Bool)
    (clock : Readings) :
    (c.killAttempt id shouldFail clock).2.pending k = c.pending k ++
      namesOn k ((c.endedBy (c.killAttempt id shouldFail clock).2).filter (·.id != id) ++
        (c.endedBy (c.killAttempt id shouldFail clock).2).filter (·.id == id)) := by
  rcases c.killAttempt_cases id shouldFail clock with same | ⟨_, _, tracker, c', e, e'⟩
  · rw [same, endedBy_self]
    exact (List.append_nil _).symm
  · obtain ⟨a, mem, ea, et, only, -⟩ := mem_live_of_finishAttempt ex e
    have registered : (c'.tracker? tracker).isSome := by
      refine isSome_of_alive? (b := true) ?_
      rw [alive?_finishAttempt e, ← et]
      exact sf a mem
    have named : namesOn k [a] = if tracker = k then [id] else [] := by
      by_cases here : tracker = k <;> simp [namesOn, et, ea, here]
    have same : c.endedBy (c'.changeTracker tracker (·.queueKill id)) = c.endedBy c' :=
      endedBy_congr rfl
    rw [e', pending_queueKill registered, pending_finishAttempt ex sf e, same, only, ← named,
      namesOn, namesOn, namesOn, List.filter_append, List.map_append, List.append_assoc]

/-- A tracker that registers changes no list. -/
lemma pending_register {id : TrackerId} (fresh : ∀ e ∈ c.trackers, e.1 ≠ id) (r : Registration)
    (now : Instant) : (c.register id r now).pending k = c.pending k := by
  rw [pending, tracker?_register]
  by_cases here : k = id
  · rw [if_pos here, pending_of_none (tracker?_of_fresh (here ▸ fresh))]
    rfl
  · rw [if_neg here]
    rfl

/-- A sweep clears the lists of the dead and leaves the others. -/
lemma pending_sweep (ex : Exact c) (ids : List TrackerId) (lost : List (AttemptId × AttemptRef))
    (clock : AttemptId → Instant) :
    ((c.markDead ids).loseAttempts lost clock).pending k =
      if ids.contains k then [] else c.pending k := by
  rw [(loses (ex.markDead ids) lost clock).pending, pending, tracker?_markDead, pending]
  cases c.tracker? k with
  | none => simp
  | some t => by_cases here : k ∈ ids <;> simp [here]

/-- What an operation does to the list of a tracker. -/
theorem System.Lawful.pending_next (lw : s.Lawful) (ix : Indexed s.coordinator)
    (sf : Staffed s.coordinator) (ok : s.Permits op) (k : TrackerId) :
    (s.next op).coordinator.pending k =
      if s.clears k op then [] else s.coordinator.pending k ++ namesOn k (s.notices op) := by
  have ex : Exact s.coordinator := ⟨lw.nodup, lw.jobs, ix⟩
  have nothing : s.coordinator.pending k = s.coordinator.pending k ++ namesOn k [] :=
    (List.append_nil _).symm
  -- what leaves the trackers alone neither clears nor tells
  by_cases quiet : op.IsQuiet
  · have same : (s.next op).coordinator.pending k = s.coordinator.pending k :=
      pending_congr (tracker?_congr (Operation.trackers_apply quiet))
    cases op with
    | markRunning | newJobId | expireReservations | submit | installTasks | failInit
    | finishIdle => exact Eq.trans same nothing
    | killJob | killAttempt | register | heartbeat | assign | complete | sweep => exact quiet.elim
  cases op with
  | markRunning | newJobId | expireReservations | submit | installTasks | failInit
  | finishIdle => exact absurd trivial quiet
  | killJob id now => exact pending_killJob ex sf id now
  | killAttempt id shouldFail now => exact pending_killAttempt ex sf id shouldFail now
  | complete r now => exact pending_complete ex sf r now
  | register id r now => exact (pending_register ok r now).trans nothing
  | assign id now =>
    rcases assign_cases ex id now with ⟨-, same⟩ | ⟨asg, -, new⟩
    · exact (congrArg (·.pending k) same).trans nothing
    · exact (new.pending k).trans nothing
  | sweep now timeout lost clock =>
    exact (pending_sweep ex _ lost clock).trans (if_congr Iff.rfl rfl nothing)
  | heartbeat h now =>
    simp only [System.next, Operation.apply, System.clears, System.notices, ← nothing]
    cases e : s.coordinator.heartbeat h now with
    | none =>
      have none : s.coordinator.tracker? h.trackerId = none := by
        simpa [e] using (isSome_heartbeat (c := s.coordinator) h now).symm
      by_cases here : h.trackerId = k
      · simp [here, pending_of_none (here ▸ none)]
      · simp [here]
    | some answer =>
      obtain ⟨-, -, -, emptied, others⟩ := heartbeat_eq_some e
      by_cases here : h.trackerId = k
      · simpa [here] using emptied
      · simpa [here] using pending_congr (others k (Ne.symm here))

end Step

/-! ## Runs -/

/-- What a run hands out to one tracker. -/
def System.handedTo (s : System) (id : TrackerId) (ops : List Operation) : List AttemptId :=
  ((s.collect handsOut ops).filter (·.1 == id)).map Prod.snd

/-- What holds of the notices of a run: each is of an attempt that has ended, they have distinct
names, and what a tracker was or will be told is what is noticed for it, in that order. -/
structure Told (s : System) (ops : List Operation) (s' : System) : Prop where
  ended : ∀ a ∈ s.collect System.notices ops, ∃ b ∈ s'.coordinator.attempts, b.id = a.id ∧
    b.tracker = a.tracker ∧ b.isRunning = false
  nodup : ((s.collect System.notices ops).map Attempt.id).Nodup
  listed : ∀ id, (s.handedTo id ops ++ s'.coordinator.pending id).Sublist
    (namesOn id (s.collect System.notices ops))

section Runs

variable {s s' : System} {op : Operation} {ops : List Operation}

/-- An attempt that ends with an operation is there after it, and does not run. -/
lemma System.Lawful.mem_of_ended (lw : s.Lawful) (ok : s.Permits op) {a : Attempt}
    (mem : a ∈ s.ended op) :
    ∃ b ∈ (s.next op).coordinator.attempts, b.id = a.id ∧ b.tracker = a.tracker ∧
      b.isRunning = false := by
  obtain ⟨live, no⟩ := mem_endedBy.1 mem
  obtain ⟨b, memb, be⟩ := lw.stay ok a (mem_liveAttempts.1 live).1
  refine ⟨b, memb, be.id, be.tracker, ?_⟩
  rw [Bool.eq_false_iff]
  intro run
  rw [runs_iff_mem.2 (be.id ▸ List.mem_map_of_mem (mem_liveAttempts.2 ⟨memb, run⟩))] at no
  cases no

/-- What has ended is kept. -/
lemma System.Lawful.mem_next_of_ended (lw : s.Lawful) (ok : s.Permits op) {a : Attempt}
    (mem : a ∈ s.coordinator.attempts) (no : a.isRunning = false) :
    a ∈ (s.next op).coordinator.attempts := by
  obtain ⟨b, memb, be⟩ := lw.stay ok a mem
  exact be.ended no ▸ memb

/-- What has ended does not end again. -/
lemma not_mem_ended (ex : Exact s.coordinator) (op : Operation) {a : Attempt}
    (mem : a ∈ s.coordinator.attempts) (no : a.isRunning = false) :
    a.id ∉ (s.ended op).map Attempt.id := by
  intro here
  obtain ⟨b, memb, e⟩ := List.mem_map.1 here
  obtain ⟨memb, run⟩ := mem_liveAttempts.1 (mem_endedBy.1 memb).1
  rw [ex.inj memb mem e, no] at run
  cases run

/-- A heartbeat hands out the list of its tracker. -/
lemma handsOut_heartbeat (s : System) (h : Heartbeat) (now : Instant) :
    s.handsOut (.heartbeat h now) =
      (s.coordinator.pending h.trackerId).map fun x => (h.trackerId, x) := by
  simp only [System.handsOut]
  cases e : s.coordinator.heartbeat h now with
  | none =>
    have absent : s.coordinator.tracker? h.trackerId = none := by
      simpa [e] using (isSome_heartbeat (c := s.coordinator) h now).symm
    rw [pending_of_none absent]
    rfl
  | some answer =>
    rw [← (heartbeat_eq_some e).1]
    rfl

/-- What an operation hands out to a tracker and leaves on its list was on the list or is noticed.
-/
lemma System.Lawful.listed_next (lw : s.Lawful) (ix : Indexed s.coordinator)
    (sf : Staffed s.coordinator) (ok : s.Permits op) (id : TrackerId) :
    (((s.handsOut op).filter (·.1 == id)).map Prod.snd ++
      (s.next op).coordinator.pending id).Sublist
      (s.coordinator.pending id ++ namesOn id (s.notices op)) := by
  rw [lw.pending_next ix sf ok id]
  have kept : (if s.clears id op then [] else
      s.coordinator.pending id ++ namesOn id (s.notices op)).Sublist
      (s.coordinator.pending id ++ namesOn id (s.notices op)) := by
    split
    · exact List.nil_sublist _
    · exact .refl _
  cases op with
  | heartbeat h now =>
    rw [handsOut_heartbeat]
    by_cases here : h.trackerId = id
    · simp [here, System.clears, List.filter_map, Function.comp_def]
    · have other : (h.trackerId == id) = false := by simpa using here
      simpa [List.filter_map, Function.comp_def, other] using kept
  | markRunning | newJobId | expireReservations | submit | installTasks | failInit | killJob
  | killAttempt | register | assign | complete | sweep | finishIdle => exact kept

/-- What a run hands out to a tracker and leaves on its list was on the list or is noticed. -/
lemma Run.listed (run : Run s ops s') (re : Reachable s) (id : TrackerId) :
    (s.handedTo id ops ++ s'.coordinator.pending id).Sublist
      (s.coordinator.pending id ++ namesOn id (s.collect System.notices ops)) := by
  induction run with
  | nil => simp [System.handedTo, System.collect, namesOn]
  | @snoc ops s'' op run ok ih =>
    have re'' := run.reachable re
    have more := re''.lawful.listed_next re''.indexed re''.staffed ok id
    rw [System.handedTo, System.collect_snoc, System.collect_snoc, ← run.eq_after,
      List.filter_append, List.map_append, namesOn, List.filter_append, List.map_append,
      List.append_assoc, ← List.append_assoc (s.coordinator.pending id)]
    refine ((List.Sublist.refl _).append more).trans ?_
    rw [← List.append_assoc]
    exact ih.append (.refl _)

/-- The notices of a run are of attempts that have ended, each once. -/
lemma Run.noticed {stamp : String} (run : Run (System.start stamp) ops s) :
    (∀ a ∈ (System.start stamp).collect System.notices ops, ∃ b ∈ s.coordinator.attempts,
      b.id = a.id ∧ b.tracker = a.tracker ∧ b.isRunning = false) ∧
    (((System.start stamp).collect System.notices ops).map Attempt.id).Nodup := by
  induction run with
  | nil => exact ⟨List.forall_mem_nil _, .nil⟩
  | @snoc ops s op run ok ih =>
    have re : Reachable s := ⟨stamp, ops, run⟩
    obtain ⟨ended, nodup⟩ := ih
    rw [System.collect_snoc, ← run.eq_after]
    refine ⟨fun a mem => ?_, ?_⟩
    · rcases List.mem_append.1 mem with mem | mem
      · obtain ⟨b, memb, eb, et, no⟩ := ended a mem
        exact ⟨b, re.lawful.mem_next_of_ended ok memb no, eb, et, no⟩
      · exact re.lawful.mem_of_ended ok (System.mem_ended_of_notices mem)
    · rw [List.map_append, List.nodup_append]
      refine ⟨nodup, System.notices_ids_nodup re.exact, fun x mem y mem' e => ?_⟩
      -- what was noticed before has ended before, so it does not end again
      obtain ⟨a, mema, rfl⟩ := List.mem_map.1 mem
      obtain ⟨b, memb, eb, -, no⟩ := ended a mema
      obtain ⟨a', mema', rfl⟩ := List.mem_map.1 mem'
      refine not_mem_ended re.exact op memb no ?_
      rw [eb, e]
      exact List.mem_map_of_mem (System.mem_ended_of_notices mema')

/-- Runs from the start keep the account of what was told. -/
lemma Run.told {stamp : String} (run : Run (System.start stamp) ops s) :
    Told (System.start stamp) ops s where
  ended := run.noticed.1
  nodup := run.noticed.2
  listed := run.listed ⟨stamp, [], .nil⟩

/-- A list of kills is what the run owes the tracker. -/
lemma Run.pending_eq {stamp : String} (run : Run (System.start stamp) ops s) (id : TrackerId) :
    s.coordinator.pending id = (System.start stamp).owed id [] ops := by
  induction run with
  | nil => rfl
  | @snoc ops s op run ok ih =>
    have re : Reachable s := ⟨stamp, ops, run⟩
    rw [re.lawful.pending_next re.indexed re.staffed ok, System.owed_snoc, ← run.eq_after, ih]

/-- An attempt that has ended is kept by a run, and never noticed again. -/
lemma Run.not_noticed (run : Run s ops s') (re : Reachable s) {a : Attempt}
    (mem : a ∈ s.coordinator.attempts) (no : a.isRunning = false) :
    a ∈ s'.coordinator.attempts ∧ a.id ∉ (s.collect System.notices ops).map Attempt.id := by
  induction run with
  | nil => exact ⟨mem, List.not_mem_nil⟩
  | @snoc ops s'' op run ok ih =>
    obtain ⟨mem'', unnoticed⟩ := ih
    have re'' := run.reachable re
    refine ⟨re''.lawful.mem_next_of_ended ok mem'' no, ?_⟩
    rw [System.collect_snoc, ← run.eq_after, List.map_append, List.mem_append, not_or]
    refine ⟨unnoticed, fun here => ?_⟩
    obtain ⟨b, memb, e⟩ := List.mem_map.1 here
    exact not_mem_ended re''.exact op mem'' no
      (e ▸ List.mem_map_of_mem (System.mem_ended_of_notices memb))

/-- A tracker that is not alive is to be told nothing. -/
lemma Reachable.pending_of_dead (re : Reachable s) {id : TrackerId}
    (dead : s.coordinator.alive? id ≠ some true) : s.coordinator.pending id = [] := by
  obtain ⟨stamp, ops, run⟩ := re
  induction run with
  | nil => rfl
  | @snoc ops s op run ok ih =>
    have re : Reachable s := ⟨stamp, ops, run⟩
    rw [re.lawful.pending_next re.indexed re.staffed ok]
    by_cases alive : s.coordinator.alive? id = some true
    · -- the tracker just died, in a sweep that emptied its list
      have cleared : s.clears id op = true := by
        by_contra no
        refine dead (alive_next re.exact alive fun now timeout lost clock e here => no ?_)
        rw [e]
        simpa [System.clears] using here
      rw [if_pos cleared]
    · have none : namesOn id (s.notices op) = [] := by
        rw [namesOn, List.map_eq_nil_iff, List.filter_eq_nil_iff]
        intro a mem here
        have running := (mem_endedBy.1 (System.mem_ended_of_notices mem)).1
        exact alive (beq_iff_eq.1 here ▸ re.staffed a running)
      rw [ih alive, none]
      simp

/-- Pairs that are told by their second part, and whose second parts are distinct for each first
part, have distinct second parts. -/
lemma nodup_map_snd {l : List (TrackerId × AttemptId)}
    (inj : ∀ e ∈ l, ∀ e' ∈ l, e.2 = e'.2 → e.1 = e'.1)
    (each : ∀ id, ((l.filter (·.1 == id)).map Prod.snd).Nodup) : (l.map Prod.snd).Nodup := by
  induction l with
  | nil => exact .nil
  | cons e l ih =>
    rw [List.map_cons, List.nodup_cons]
    refine ⟨fun mem => ?_, ih (fun x memx y memy => inj x (.tail _ memx) y (.tail _ memy))
      fun id => ?_⟩
    · obtain ⟨x, memx, ex⟩ := List.mem_map.1 mem
      have here := inj x (.tail _ memx) e (.head _) ex
      have nodup := each e.1
      rw [List.filter_cons_of_pos (by simp), List.map_cons, List.nodup_cons] at nodup
      exact nodup.1 (ex ▸ List.mem_map_of_mem (List.mem_filter.2 ⟨memx, by simpa using here⟩))
    · exact ((List.Sublist.filter _ (List.sublist_cons_self e l)).map _).nodup (each id)

namespace Told

/-- What is listed, or was handed out, ended on that tracker. -/
lemma noticed (td : Told s ops s') {id : TrackerId} {x : AttemptId}
    (mem : x ∈ s.handedTo id ops ++ s'.coordinator.pending id) :
    ∃ a ∈ s.collect System.notices ops, a.id = x ∧ a.tracker = id := by
  obtain ⟨a, mema, ea⟩ := List.mem_map.1 ((td.listed id).subset mem)
  obtain ⟨mema, here⟩ := List.mem_filter.1 mema
  exact ⟨a, mema, ea, beq_iff_eq.1 here⟩

/-- What is handed out is handed to its tracker. -/
lemma mem_handedTo {e : TrackerId × AttemptId} (mem : e ∈ s.collect System.handsOut ops) :
    e.2 ∈ s.handedTo e.1 ops :=
  List.mem_map_of_mem (List.mem_filter.2 ⟨mem, by simp⟩)

/-- No name is listed twice, nor listed again after it was handed out. -/
lemma listed_nodup (td : Told s ops s') (id : TrackerId) :
    (s.handedTo id ops ++ s'.coordinator.pending id).Nodup :=
  (td.listed id).nodup ((List.filter_sublist.map _).nodup td.nodup)

/-- No name is handed out twice. -/
lemma handed_nodup (td : Told s ops s') :
    ((s.collect System.handsOut ops).map Prod.snd).Nodup := by
  refine nodup_map_snd (fun e mem e' mem' same => ?_) fun id =>
    (List.sublist_append_left ..).nodup (td.listed_nodup id)
  obtain ⟨a, mema, ea, et⟩ := td.noticed (List.mem_append_left _ (mem_handedTo mem))
  obtain ⟨a', mema', ea', et'⟩ := td.noticed (List.mem_append_left _ (mem_handedTo mem'))
  rw [← et, ← et', List.inj_on_of_nodup_map td.nodup mema mema' (ea.trans (same.trans ea'.symm))]

end Told

/-- A listed name is that of an attempt that ended on the tracker. -/
lemma Reachable.ended_of_pending (re : Reachable s) {id : TrackerId} {x : AttemptId}
    (mem : x ∈ s.coordinator.pending id) :
    ∃ a ∈ s.coordinator.attempts, a.id = x ∧ a.tracker = id ∧ a.isRunning = false := by
  obtain ⟨stamp, ops, run⟩ := re
  obtain ⟨a, mema, ea, et⟩ := run.told.noticed (List.mem_append_right _ mem)
  obtain ⟨b, memb, eb, eb', no⟩ := run.told.ended a mema
  exact ⟨b, memb, eb.trans ea, eb'.trans et, no⟩

/-- An attempt that ends by a report of it or in a sweep is not noticed. -/
lemma not_noticed_of_ended {a : Attempt}
    (how : (∃ r now, op = .complete r now ∧ r.attemptId = a.id) ∨
      ∃ now timeout lost clock, op = .sweep now timeout lost clock) :
    a.id ∉ (s.notices op).map Attempt.id := by
  intro here
  rcases how with ⟨r, now, rfl, named⟩ | ⟨now, timeout, lost, clock, rfl⟩
  · obtain ⟨b, memb, e⟩ := List.mem_map.1 here
    have ne := (List.mem_filter.1 memb).2
    simp [e, named] at ne
  · cases here

/-- Whatever comes before and after, an attempt that ends unnoticed is never noticed. -/
lemma Run.never_noticed {stamp : String} (run : Run (System.start stamp) ops s)
    (ok : s.Permits op) {a : Attempt} (mem : a ∈ s.ended op)
    (unnoticed : a.id ∉ (s.notices op).map Attempt.id) {since : List Operation}
    (later : Run (s.next op) since s') :
    a.id ∉ ((System.start stamp).collect System.notices (ops ++ op :: since)).map Attempt.id := by
  have re : Reachable s := ⟨stamp, ops, run⟩
  have re' : Reachable (s.next op) := ⟨stamp, _, run.snoc ok⟩
  rw [System.collect_append, System.collect, ← run.eq_after]
  simp only [List.map_append, List.mem_append, not_or]
  refine ⟨fun here => ?_, unnoticed, ?_⟩
  · -- what was noticed before had ended before
    obtain ⟨b, memb, e⟩ := List.mem_map.1 here
    obtain ⟨b', memb', eb', -, no⟩ := run.told.ended b memb
    exact not_mem_ended re.exact op memb' no
      (eb' ▸ e ▸ List.mem_map_of_mem mem)
  · -- and what has ended is not noticed again
    obtain ⟨b, memb, eb, -, no⟩ := re.lawful.mem_of_ended ok mem
    exact eb ▸ (later.not_noticed re' memb no).2

end Runs

/-- The lists of the trackers are exact: each has what its tracker is owed and no name twice; what
is listed is of that tracker and has ended; no name is handed out twice; an attempt that ended by a
report of it or in a sweep is never listed, neither before nor later; and the list of a dead tracker
is empty. -/
structure KillsExact (stamp : String) (ops : List Operation) (s : System) : Prop where
  owed : ∀ id, s.coordinator.pending id = (System.start stamp).owed id [] ops
  nodup : ∀ id, (s.coordinator.pending id).Nodup
  ended : ∀ id, ∀ x ∈ s.coordinator.pending id, s.coordinator.runs x = false ∧
    ∃ a ∈ s.coordinator.attempts, a.id = x ∧ a.tracker = id ∧ a.isRunning = false
  once : (((System.start stamp).collect System.handsOut ops).map Prod.snd).Nodup
  unlisted : ∀ op, s.Permits op → ∀ a ∈ s.ended op,
    ((∃ r now, op = .complete r now ∧ r.attemptId = a.id) ∨
      ∃ now timeout lost clock, op = .sweep now timeout lost clock) →
    ∀ since s', Run (s.next op) since s' → ∀ id, a.id ∉ s'.coordinator.pending id ∧
      (id, a.id) ∉ (System.start stamp).collect System.handsOut (ops ++ op :: since)
  dead : ∀ id t, s.coordinator.tracker? id = some t → t.dead → t.pendingKills = []

/-- In every run, the lists of the trackers are exact. -/
theorem pending_kills_exact {stamp : String} {ops : List Operation} {s : System}
    (run : Run (System.start stamp) ops s) : KillsExact stamp ops s := by
  have re : Reachable s := ⟨stamp, ops, run⟩
  have td := run.told
  refine ⟨run.pending_eq, fun id => (List.sublist_append_right ..).nodup (td.listed_nodup id),
    fun id x mem => ?_, td.handed_nodup, fun op ok a mem how since s' later id => ?_,
    fun id t found dead => ?_⟩
  · obtain ⟨a, mema, ea, et, no⟩ := re.ended_of_pending mem
    exact ⟨ea ▸ re.exact.runs_eq_false mema no, a, mema, ea, et, no⟩
  · -- only what was noticed is ever listed or handed out
    have never := run.never_noticed ok mem (not_noticed_of_ended how) later
    have whole : Run (System.start stamp) (ops ++ op :: since) s' := by
      have := (run.snoc ok).append later
      rwa [List.append_assoc] at this
    have absent (no : a.id ∈ (System.start stamp).handedTo id (ops ++ op :: since) ++
        s'.coordinator.pending id) : False := by
      obtain ⟨b, memb, eb, -⟩ := whole.told.noticed no
      exact never (eb ▸ List.mem_map_of_mem memb)
    exact ⟨fun here => absent (List.mem_append_right _ here),
      fun here => absent (List.mem_append_left _ (Told.mem_handedTo here))⟩
  · have gone : s.coordinator.alive? id ≠ some true := by simp [alive?, found, dead]
    have none := re.pending_of_dead gone
    rwa [pending, found] at none

/-! ## A run with kills -/

/-- The operations of a run with kills: a job of two maps, of which the first fails three times by a
user. After the second failure the tracker sends no heartbeat. -/
def killOperations : List Operation :=
  let clock := Instant.ofSeconds 0
  let job := "job_202601020304_0001"
  let failFirst (id : AttemptId) : Operation := .killAttempt id true (.still clock)
  [.newJobId clock,
    .submit job ⟨"wc", "ana", ["/datos"], 0, .normal, none⟩ 1024 10 clock,
    .installTasks job [⟨"/datos/a", 0, 10, []⟩, ⟨"/datos/b", 0, 10, []⟩],
    .register "t1" ⟨"h1", 2, 1⟩ clock,
    .assign "t1" clock,
    .assign "t1" clock,
    failFirst "attempt_202601020304_0001_m_000000_0",
    .heartbeat ⟨"t1", .zero _ false, 0⟩ clock,
    .assign "t1" clock,
    failFirst "attempt_202601020304_0001_m_000000_1",
    .assign "t1" clock,
    failFirst "attempt_202601020304_0001_m_000000_2"]

/-- The system after the run with kills. -/
def killSystem : System := (System.start "202601020304").after killOperations

/-- After the run with kills, the tracker is still to be told of the second attempt at the first
map, of the attempt at the second map, which the failure of the job ended, and of the attempt whose
kill failed the job. -/
theorem sample_pending_kills :
    killSystem.coordinator.pending "t1" = ["attempt_202601020304_0001_m_000000_1",
      "attempt_202601020304_0001_m_000001_0", "attempt_202601020304_0001_m_000000_2"] ∧
    KillsExact "202601020304" killOperations killSystem :=
  ⟨by decide +kernel, pending_kills_exact (.of_permitsAll (by decide +kernel))⟩

end JobCluster.Coordinator
