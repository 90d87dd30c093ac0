import JobCluster.Proofs.Coordinator.Ends

/-!
# Attempts run on live trackers

`Staffed` says that every attempt that runs is on a tracker that is registered and not dead. An
assignment is made to a live tracker only, and a tracker dies in a sweep alone; the sweep then ends
all attempts that ran on it (`runs_sweep`). That none is missed rests on the index: the sweep finds
the attempts of a tracker by the index, and the index is exact.

The main statement is `Reachable.staffed`. With it, what the end of attempts does to the lists of
the trackers is exact (`pending_finishAttempt`, `pending_killJob`).
-/

namespace JobCluster.Coordinator

open JobCluster.Time

/-- Every attempt that runs is on a live tracker. -/
def Staffed (c : Coordinator) : Prop := ∀ a ∈ c.liveAttempts, c.alive? a.tracker = some true

section Ends

variable {c c' : Coordinator} {id : AttemptId} {o : Outcome} {cs : Counters} {notes : List String}
  {clock : Readings} {tracker k : TrackerId} {ref : AttemptRef}

@[simp] lemma Tracker.credit_dead (t : Tracker) (o : Outcome) (elapsed : Nat) :
    (t.credit o elapsed).dead = t.dead := by
  cases o <;> rfl

@[simp] lemma Tracker.credit_pendingKills (t : Tracker) (o : Outcome) (elapsed : Nat) :
    (t.credit o elapsed).pendingKills = t.pendingKills := by
  cases o <;> rfl

/-- Live attempts are on registered trackers, so their names are kept. -/
lemma Staffed.namesOn (st : Staffed c) {as : List Attempt} (sub : ∀ a ∈ as, a ∈ c.liveAttempts) :
    (if (c.tracker? k).isSome then namesOn k as else []) = namesOn k as := by
  by_cases some : (c.tracker? k).isSome
  · rw [if_pos some]
  · have none : as.filter (·.tracker == k) = [] := by
      refine List.filter_eq_nil_iff.2 fun a mem here => some ?_
      exact beq_iff_eq.1 here ▸ isSome_of_alive? (st a (sub a mem))
    rw [if_neg some, Coordinator.namesOn, none]
    rfl

/-- Closing an attempt leaves its tracker alive. -/
lemma alive?_finishAttempt (e : c.finishAttempt ref id o cs notes clock = some (tracker, c')) :
    c'.alive? k = c.alive? k := by
  obtain ⟨j, cl, -, -, rfl, rfl⟩ := finishAttempt_eq_some e
  rw [alive?_notifyKills, alive?_changeTracker fun t => t.credit_dead ..]
  rfl

/-- With the end of an attempt, trackers are to be told of those that ended with it. -/
lemma pending_finishAttempt_some (ex : Exact c)
    (e : c.finishAttempt ref id o cs notes clock = some (tracker, c')) :
    c'.pending k = c.pending k ++ if (c.tracker? k).isSome then
      namesOn k ((c.endedBy c').filter (·.id != id)) else [] := by
  obtain ⟨j, cl, found, closed, rfl, ec⟩ := finishAttempt_eq_some e
  have jobs : c'.jobs = (c.setJob cl.job).jobs := by
    rw [ec, notifyKills_jobs]
    rfl
  obtain ⟨-, -, -, -, -, -, told⟩ := endedBy_of_close ex found closed jobs
  have before : ((c.setJob cl.job).changeTracker cl.attempt.tracker
      (·.credit o (cl.attempt.runTime clock.first))).pending k = c.pending k :=
    pending_changeTracker fun t => t.credit_pendingKills ..
  have same : (((c.setJob cl.job).changeTracker cl.attempt.tracker
      (·.credit o (cl.attempt.runTime clock.first))).tracker? k).isSome =
        (c.tracker? k).isSome := by
    rw [tracker?_changeTracker, Option.isSome_map]
    rfl
  rw [ec, pending_notifyKills, before, same, told k, ← ec]

/-- The attempt that ends ran on the tracker that is told. -/
lemma mem_live_of_finishAttempt (ex : Exact c)
    (e : c.finishAttempt ref id o cs notes clock = some (tracker, c')) :
    ∃ a ∈ c.liveAttempts, a.id = id ∧ a.tracker = tracker ∧
      (c.endedBy c').filter (·.id == id) = [a] ∧
      (o ≠ .failed → (c.endedBy c').filter (·.id != id) = []) := by
  obtain ⟨j, cl, found, closed, rfl, ec⟩ := finishAttempt_eq_some e
  have jobs : c'.jobs = (c.setJob cl.job).jobs := by
    rw [ec, notifyKills_jobs]
    rfl
  obtain ⟨a, mem, ea, et, only, one, -⟩ := endedBy_of_close ex found closed jobs
  exact ⟨a, mem, ea, et, only, one⟩

/-- Closing an attempt brings none to life. -/
lemma live_finishAttempt (ex : Exact c)
    (e : c.finishAttempt ref id o cs notes clock = some (tracker, c')) :
    c'.liveAttempts.Sublist c.liveAttempts :=
  (finishAttempt_performs ex.nodup e).running_sublist ex.lawful fun e mem => by
    rw [List.mem_singleton.1 mem]
    exact nofun

end Ends

/-! ## Lost attempts -/

section Lost

variable {c : Coordinator}

/-- What the end of lost attempts does and leaves alone. -/
structure Loses (c c' : Coordinator) (lost : List (AttemptId × AttemptRef)) : Prop where
  exact : Exact c'
  alive? : ∀ k, c'.alive? k = c.alive? k
  pending : ∀ k, c'.pending k = c.pending k
  ref? : ∀ id, c'.ref? id = c.ref? id
  live : c'.liveAttempts.Sublist c.liveAttempts
  ended : ∀ e ∈ lost, c.ref? e.1 = some e.2 → c'.runs e.1 = false

/-- What does not run does not run among fewer. -/
lemma runs_of_sublist {c c' : Coordinator} (sub : c'.liveAttempts.Sublist c.liveAttempts)
    {id : AttemptId} (no : c.runs id = false) : c'.runs id = false := by
  rw [Bool.eq_false_iff, ne_eq, runs_iff_mem] at no ⊢
  exact fun run => no ((sub.map _).subset run)

/-- The end of a lost attempt. -/
lemma loses_one (ex : Exact c) (id : AttemptId) (ref : AttemptRef) (now : Instant) :
    Loses c (c.loseAttempt id ref now) [(id, ref)] := by
  unfold loseAttempt
  split
  · next tracker c' e =>
    obtain ⟨a, mem, ea, -, only, one⟩ := mem_live_of_finishAttempt ex e
    have registry := registry_finishAttempt e
    refine ⟨ex.finishAttempt e, fun k => alive?_finishAttempt e, fun k => ?_, fun id => ?_,
      live_finishAttempt ex e, fun x mem _ => ?_⟩
    · rw [pending_finishAttempt_some ex e, one nofun]
      simp [namesOn]
    · rw [ref?, (Registry.mk.inj registry).2.2.2, ref?]
    · rw [List.mem_singleton.1 mem]
      have memEnded : a ∈ (c.endedBy c').filter (·.id == id) := by rw [only]; exact .head _
      exact ea ▸ (mem_endedBy.1 (List.mem_filter.1 memEnded).1).2
  · next none =>
    -- nothing is closed under a name that is known only if no attempt of that name runs
    refine ⟨ex, fun _ => rfl, fun _ => rfl, fun _ => rfl, .refl _, fun x mem found => ?_⟩
    rw [List.mem_singleton.1 mem] at found ⊢
    have iff := ex.indexed.finishAttempt_isSome_iff (s := ⟨c, []⟩) ex.system id .killed
      Counters.empty ["tracker perdido"] (.still now)
    rw [Bool.eq_false_iff, ne_eq, ← iff]
    rintro ⟨ref', found', some⟩
    rw [found] at found'
    cases found'
    rw [none] at some
    cases some

/-- The end of lost attempts, one after another. -/
lemma loses (ex : Exact c) (lost : List (AttemptId × AttemptRef)) (clock : AttemptId → Instant) :
    Loses c (c.loseAttempts lost clock) lost := by
  induction lost generalizing c with
  | nil =>
    exact ⟨ex, fun _ => rfl, fun _ => rfl, fun _ => rfl, .refl _, List.forall_mem_nil _⟩
  | cons l lost ih =>
    have one := loses_one ex l.1 l.2 (clock l.1)
    have rest := ih one.exact
    refine ⟨rest.exact, fun k => (rest.alive? k).trans (one.alive? k),
      fun k => (rest.pending k).trans (one.pending k), fun id => (rest.ref? id).trans (one.ref? id),
      rest.live.trans one.live, fun e mem found => ?_⟩
    rcases List.mem_cons.1 mem with rfl | mem
    · exact runs_of_sublist rest.live (one.ended _ List.mem_cons_self found)
    · exact rest.ended e mem ((one.ref? e.1).trans found)

/-- The index has the place of an attempt. -/
lemma Exact.place (ex : Exact c) {a : Attempt} (mem : a ∈ c.attempts) :
    ∃ j ∈ c.jobs, ∃ kind index t, (j.tasks kind)[index]? = some t ∧ a ∈ t.attempts ∧
      c.ref? a.id = some ⟨j.id, kind, index⟩ := by
  obtain ⟨j, memj, mem⟩ := List.mem_flatMap.1 mem
  obtain ⟨t, memt, mema⟩ := List.mem_flatMap.1 mem
  obtain ⟨kind, memt⟩ := Job.mem_allTasks.1 memt
  obtain ⟨index, pick⟩ := List.mem_iff_getElem?.1 memt
  exact ⟨j, memj, kind, index, t, pick, mema,
    (ex.indexed.index _ _).2 ⟨j, memj, rfl, t, pick, List.mem_map_of_mem mema⟩⟩

/-- An attempt is found where the index says. -/
lemma Exact.attemptOf? (ex : Exact c) {a : Attempt} (mem : a ∈ c.attempts) :
    ∃ ref, c.ref? a.id = some ref ∧ c.attemptOf? a.id ref = some a := by
  obtain ⟨j, memj, kind, index, t, pick, mema, known⟩ := ex.place mem
  have founda := ((ex.lawful j memj).tasks t (Job.mem_of_pick pick)).attempt?_of_mem mema
  refine ⟨_, known, ?_⟩
  simp [Coordinator.attemptOf?, job?_of_mem ex.nodup memj, pick, founda]

/-- The end of an attempt that has ended does nothing. -/
lemma Exact.finishAttempt_eq_none (ex : Exact c) {a : Attempt} (mem : a ∈ c.attempts)
    (no : a.isRunning = false) : ∃ ref, c.ref? a.id = some ref ∧
      ∀ o cs notes clock, c.finishAttempt ref a.id o cs notes clock = none := by
  obtain ⟨ref, found, -⟩ := ex.attemptOf? mem
  refine ⟨ref, found, fun o cs notes clock => ?_⟩
  cases e : c.finishAttempt ref a.id o cs notes clock with
  | none => rfl
  | some answer =>
    have runs := (ex.indexed.finishAttempt_isSome_iff (s := ⟨c, []⟩) ex.system a.id o cs notes
      clock).1 ⟨ref, found, by rw [e]; rfl⟩
    rw [ex.runs_eq_false mem no] at runs
    cases runs

/-- The attempts that run on trackers are all found. -/
lemma mem_lostAttempts (ex : Exact c) {ids : List TrackerId} {a : Attempt}
    (mem : a ∈ c.liveAttempts) (here : a.tracker ∈ ids) :
    ∃ ref, c.ref? a.id = some ref ∧ (a.id, ref) ∈ c.lostAttempts ids := by
  obtain ⟨mema, run⟩ := mem_liveAttempts.1 mem
  obtain ⟨ref, found, place⟩ := ex.attemptOf? mema
  refine ⟨ref, found, ?_⟩
  rw [lostAttempts, List.mem_mergeSort, List.mem_filter]
  refine ⟨mem_of_find? found, ?_⟩
  simp only [place]
  simp [run, here]

/-- The death of trackers leaves the coordinator exact. -/
lemma Exact.markDead (ex : Exact c) (ids : List TrackerId) : Exact (c.markDead ids) :=
  ⟨ex.nodup, ex.lawful, ex.indexed.jobs, ex.indexed.reserved, ex.indexed.index⟩

/-- No attempt runs on a tracker that a sweep marks dead. -/
lemma live_sweep (ex : Exact c) {ids : List TrackerId} {lost : List (AttemptId × AttemptRef)}
    (perm : lost.Perm ((c.markDead ids).lostAttempts ids)) (clock : AttemptId → Instant)
    {a : Attempt} (mem : a ∈ ((c.markDead ids).loseAttempts lost clock).liveAttempts) :
    a ∈ c.liveAttempts ∧ a.tracker ∉ ids := by
  have ls := loses (ex.markDead ids) lost clock
  have before : a ∈ (c.markDead ids).liveAttempts := ls.live.subset mem
  refine ⟨before, fun here => ?_⟩
  obtain ⟨ref, found, memLost⟩ := mem_lostAttempts (ex.markDead ids) before here
  have no := ls.ended _ (perm.mem_iff.2 memLost) found
  rw [runs_iff_mem.2 (List.mem_map_of_mem mem)] at no
  cases no

end Lost

/-! ## Operations -/

section Operations

variable {c c' : Coordinator} {s : System} {op : Operation} {k : TrackerId}

/-- A task is chosen for a live tracker only. -/
lemma alive_of_choose {id : TrackerId} {ch : Choice} (e : c.choose id = some ch) :
    c.alive? id = some true := by
  unfold choose at e
  split at e
  · cases e
  · next t found =>
    split at e
    · cases e
    · next live => simp [alive?, found, live]

/-- What an assignment does when there is a task for a live tracker: it adds an attempt. -/
structure Assigns (c : Coordinator) (id : TrackerId) (asg : TaskAssignment) (c' : Coordinator) :
    Prop where
  alive : c.alive? id = some true
  alive? : ∀ k, c'.alive? k = c.alive? k
  pending : ∀ k, c'.pending k = c.pending k
  live : ∃ a p q, a.id = asg.attemptId ∧ a.tracker = id ∧ c.liveAttempts = p ++ q ∧
    c'.liveAttempts = p ++ a :: q

/-- The launch of a chosen task adds an attempt. -/
lemma assigns_of_launch (ex : Exact c) {id : TrackerId} {ch : Choice} {now : Instant}
    {asg : TaskAssignment} (chosen : c.choose id = some ch)
    (launched : c.launch id ch now = some (asg, c')) : Assigns c id asg c' := by
  refine ⟨alive_of_choose chosen, fun k => ?_, fun k => ?_, ?_⟩
  · obtain ⟨j, -, e⟩ := Option.bind_eq_some_iff.1 launched
    obtain ⟨⟨j', asg'⟩, -, e⟩ := Option.bind_eq_some_iff.1 e
    cases Option.some.inj e
    exact alive?_changeTracker fun _ => rfl
  · obtain ⟨j, -, e⟩ := Option.bind_eq_some_iff.1 launched
    obtain ⟨⟨j', asg'⟩, -, e⟩ := Option.bind_eq_some_iff.1 e
    cases Option.some.inj e
    exact pending_changeTracker fun _ => rfl
  · obtain ⟨k, mem, ek, -, -, -, t, pick, pending⟩ := choose_spec chosen
    obtain ⟨j, t', host, found, pick', easg, ejobs, -⟩ := launch_eq_some launched
    rw [ek, job?_of_mem ex.nodup mem] at found
    cases found
    rw [pick] at pick'
    cases pick'
    obtain ⟨p, q, before, after⟩ := liveAttempts_setJob ex.nodup (job?_of_mem ex.nodup mem)
      (Job.launched_id k ch.kind ch.index t ch.isLocal id host now)
    -- the new attempt stands in the place of its task, among those of its job
    obtain ⟨p', q', old, new⟩ := Job.running_launched (ex.lawful k mem) pick pending ch.isLocal id
      host now
    have same : c'.liveAttempts = _ := (congrArg (List.flatMap Job.running) ejobs).trans after
    exact ⟨⟨t.nextAttemptId, id, host, .running, now, none, []⟩, p ++ p', q' ++ q, easg.symm, rfl,
      by simp [before, old], by simp [same, new]⟩

/-- A hand-out gives nothing and changes nothing, or launches one attempt. -/
lemma assign_cases (ex : Exact c) (id : TrackerId) (now : Instant) :
    ((c.assign id now).1 = none ∧ (c.assign id now).2 = c) ∨
    ∃ asg, (c.assign id now).1 = some asg ∧ Assigns c id asg (c.assign id now).2 := by
  rcases c.assign_launches id now with e | ⟨ch, asg, c', chosen, launched, e⟩
  · rw [e]
    exact .inl ⟨rfl, rfl⟩
  · rw [e]
    exact .inr ⟨asg, rfl, assigns_of_launch ex chosen launched⟩

/-- The name of an assignment is new: no attempt had it before. -/
lemma Assigns.fresh (ex' : Exact c') (sy : Stay c.attempts c'.attempts)
    {id : TrackerId} {asg : TaskAssignment} (new : Assigns c id asg c') :
    asg.attemptId ∉ c.attempts.map Attempt.id := by
  intro here
  obtain ⟨b, memb, eb⟩ := List.mem_map.1 here
  obtain ⟨a, p, q, ea, -, before, after⟩ := new.live
  have mema : a ∈ c'.liveAttempts := by simp [after]
  obtain ⟨b', memb', be⟩ := sy b memb
  -- the attempt of that name is the new one, so it ran before already
  have same : b' = a :=
    ex'.inj memb' (mem_liveAttempts.1 mema).1 (be.id.trans (eb.trans ea.symm))
  have run : b.isRunning := by
    by_contra no
    have keep := be.ended (by simpa using no)
    rw [← keep, same] at no
    exact no (mem_liveAttempts.1 mema).2
  have memLive : b ∈ p ++ q := by
    rw [← before]
    exact mem_liveAttempts.2 ⟨memb, run⟩
  have nodup := ex'.live_ids_nodup
  rw [after, List.map_append, List.map_cons, List.nodup_middle, List.nodup_cons,
    ← List.map_append] at nodup
  exact nodup.1 (ea.trans eb.symm ▸ List.mem_map_of_mem memLive)

/-- Whether an operation does not concern trackers. -/
def Operation.IsQuiet : Operation → Prop
  | .markRunning | .newJobId _ | .expireReservations .. | .submit .. | .installTasks ..
  | .failInit .. | .finishIdle _ => True
  | _ => False

/-- An operation that does not concern trackers leaves them as they are. -/
lemma Operation.trackers_apply (quiet : op.IsQuiet) : (op.apply c).trackers = c.trackers := by
  cases op with
  | markRunning | newJobId | expireReservations | finishIdle => rfl
  | submit id d size maxJobs now =>
    rcases submit_cases c id d size maxJobs now with ⟨e, -⟩ | ⟨-, -, -, e⟩
    · rw [apply, e]
    · rw [apply, e]
  | installTasks id splits =>
    simp only [apply, Coordinator.installTasks]
    split
    · split <;> rfl
    · rfl
  | failInit id now =>
    simp only [apply, Coordinator.failInit]
    split
    · split <;> rfl
    · rfl
  | killJob | killAttempt | register | heartbeat | assign | complete | sweep => exact quiet.elim

/-- A tracker is killed by a sweep and revived by a heartbeat, and by nothing else. -/
lemma alive?_next (ex : Exact s.coordinator)
    (sweep : ∀ now timeout lost clock, op = .sweep now timeout lost clock →
      k ∉ s.coordinator.overdueTrackers now timeout)
    (heartbeat : ∀ h now, op = .heartbeat h now → h.trackerId ≠ k)
    (register : ∀ id r now, op = .register id r now → id ≠ k) :
    (s.next op).coordinator.alive? k = s.coordinator.alive? k := by
  -- the others change trackers, but leave alone whether they are dead
  by_cases quiet : op.IsQuiet
  · exact alive?_congr (tracker?_congr (Operation.trackers_apply quiet))
  rw [System.next]
  cases op with
  | markRunning | newJobId | expireReservations | submit | installTasks | failInit
  | finishIdle => exact absurd trivial quiet
  | killJob id now =>
    rw [Operation.apply]
    rcases s.coordinator.killJob_cases id now with same | ⟨j, reason, -, -, e⟩
    · rw [same]
    · rw [e, alive?_notifyKills]
      rfl
  | killAttempt id shouldFail now =>
    rw [Operation.apply]
    rcases s.coordinator.killAttempt_cases id shouldFail now with same | ⟨_, _, _, c', e, e'⟩
    · rw [same]
    · rw [e', alive?_queueKill, alive?_finishAttempt e]
  | complete r now =>
    rw [Operation.apply]
    rcases s.coordinator.complete_cases r now with same | ⟨_, _, _, e⟩
    · rw [same]
    · exact alive?_finishAttempt e
  | register id r now =>
    refine alive?_congr ((tracker?_register r now).trans (if_neg ?_))
    exact (register id r now rfl).symm
  | heartbeat h now =>
    rw [Operation.apply]
    cases e : s.coordinator.heartbeat h now with
    | none => rfl
    | some answer =>
      obtain ⟨-, -, -, -, others⟩ := heartbeat_eq_some e
      exact alive?_congr (others k (heartbeat h now rfl).symm)
  | assign id now =>
    rw [Operation.apply]
    rcases assign_cases ex id now with ⟨-, same⟩ | ⟨asg, -, new⟩
    · rw [same]
    · exact new.alive? k
  | sweep now timeout lost clock =>
    have notLost := sweep now timeout lost clock rfl
    rw [Operation.apply, (loses (ex.markDead _) lost clock).alive?, alive?, tracker?_markDead,
      alive?]
    simp [notLost]

/-- A live tracker dies in a sweep alone. -/
lemma alive_next (ex : Exact s.coordinator) (alive : s.coordinator.alive? k = some true)
    (sweep : ∀ now timeout lost clock, op = .sweep now timeout lost clock →
      k ∉ s.coordinator.overdueTrackers now timeout) :
    (s.next op).coordinator.alive? k = some true := by
  by_cases beats : ∃ h now, op = .heartbeat h now ∧ h.trackerId = k
  · obtain ⟨h, now, rfl, rfl⟩ := beats
    have answered : (s.coordinator.heartbeat h now).isSome := by
      rw [isSome_heartbeat]
      exact isSome_of_alive? alive
    obtain ⟨answer, e⟩ := Option.isSome_iff_exists.1 answered
    rw [System.next, Operation.apply, e]
    exact (heartbeat_eq_some e).2.2.1
  by_cases registers : ∃ id r now, op = .register id r now ∧ id = k
  · obtain ⟨id, r, now, rfl, rfl⟩ := registers
    rw [System.next, Operation.apply, alive?, tracker?_register, if_pos rfl]
    rfl
  rw [alive?_next ex sweep (fun h now e eq => beats ⟨h, now, e, eq⟩)
    fun id r now e eq => registers ⟨id, r, now, e, eq⟩]
  exact alive

/-- Attempts that run stay on live trackers. -/
lemma Staffed.next (sf : Staffed s.coordinator) (ex : Exact s.coordinator) (lw : s.Lawful)
    (ok : s.Permits op) : Staffed (s.next op).coordinator := by
  intro a mem
  by_cases assigns : ∃ id now, op = .assign id now
  · obtain ⟨id, now, rfl⟩ := assigns
    rcases assign_cases ex id now with ⟨-, same⟩ | ⟨asg, -, new⟩
    · rw [System.next, Operation.apply, same] at mem ⊢
      exact sf a mem
    · obtain ⟨b, p, q, -, eb, before, after⟩ := new.live
      rw [System.next, Operation.apply] at mem ⊢
      rw [new.alive?]
      rw [after, List.mem_append, List.mem_cons, or_left_comm] at mem
      rcases mem with rfl | mem
      · rw [eb]
        exact new.alive
      · exact sf a (by rwa [before, List.mem_append])
  · have sub := lw.live_sublist ok fun id now e => assigns ⟨id, now, e⟩
    refine alive_next ex (sf a (sub.subset mem)) fun now timeout lost clock e => ?_
    -- what ran on a tracker that is marked dead was ended by the same sweep
    subst e
    exact (live_sweep ex ok clock mem).2

end Operations

/-- In every run, the attempts that run are on live trackers. -/
theorem Reachable.staffed {s : System} (re : Reachable s) : Staffed s.coordinator := by
  have both : s.Lawful ∧ Indexed s.coordinator ∧ Staffed s.coordinator := by
    refine re.induction (P := fun s => s.Lawful ∧ Indexed s.coordinator ∧ Staffed s.coordinator)
      (fun stamp => ⟨.start stamp, .start stamp, List.forall_mem_nil _⟩) ?_
    intro s op before ok
    obtain ⟨lw, ix, sf⟩ := before
    exact ⟨lw.next ok, ix.next lw ok, sf.next ⟨lw.nodup, lw.jobs, ix⟩ lw ok⟩
  exact both.2.2

end JobCluster.Coordinator
