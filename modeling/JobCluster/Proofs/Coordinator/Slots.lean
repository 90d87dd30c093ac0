import JobCluster.Proofs.Coordinator.Finality
import Mathlib.Algebra.GroupWithZero.Nat

/-!
# Attempts run in slots

A tracker keeps the slots with which it registered (`roster_next`). A task is handed out only while
fewer attempts of its kind run on the tracker than it has slots for that kind, and no other
operation makes an attempt run (`runningOn_next_le`), so in every run each tracker runs at most as
many attempts as it has slots (`Reachable.fits`).

The attempts of a tracker are counted over all tasks. The index tells the kind of each attempt, so
the count is one over the attempts that run (`Exact.runningOn_eq`), of which it is known how each
operation changes them.
-/

namespace JobCluster.Coordinator

open JobCluster.Time

/-- The slots of a tracker for each kind of task. -/
def Tracker.slots (t : Tracker) : TaskKind → UInt32
  | .map => t.mapSlots
  | .reduce => t.reduceSlots

/-! ## What trackers registered with -/

/-- The names of the trackers with their slots. -/
def roster (c : Coordinator) : List (TrackerId × (TaskKind → UInt32)) :=
  c.trackers.map fun e => (e.1, e.2.slots)

section Roster

variable {c c' : Coordinator} {id : TrackerId} {s : System} {op : Operation}

/-- A change that keeps the slots keeps the roster. -/
lemma roster_changeTracker {f : Tracker → Tracker} (same : ∀ t, (f t).slots = t.slots) :
    (c.changeTracker id f).roster = c.roster := by
  unfold roster changeTracker
  rw [List.map_map]
  apply List.map_congr_left
  intro e _
  by_cases here : e.1 = id <;> simp [here, same]

/-- A name to be told keeps the roster. -/
lemma roster_queueKill (a : AttemptId) :
    (c.changeTracker id (·.queueKill a)).roster = c.roster :=
  roster_changeTracker fun _ => rfl

/-- Names to be told keep the roster. -/
lemma roster_notifyKills (ended : List Attempt) : (c.notifyKills ended).roster = c.roster := by
  unfold notifyKills
  induction ended generalizing c with
  | nil => rfl
  | cons a ended ih => rw [List.foldl_cons, ih, roster_queueKill]

/-- The dead stay on the roster. -/
lemma roster_markDead (ids : List TrackerId) : (c.markDead ids).roster = c.roster := by
  unfold roster markDead
  rw [List.map_map]
  apply List.map_congr_left
  intro e _
  rw [Function.comp_apply]
  split <;> rfl

/-- Closing an attempt keeps the roster. -/
lemma roster_finishAttempt {ref : AttemptRef} {id : AttemptId} {o : Outcome} {cs : Counters}
    {notes : List String} {clock : Readings} {tracker : TrackerId}
    (e : c.finishAttempt ref id o cs notes clock = some (tracker, c')) : c'.roster = c.roster := by
  obtain ⟨j, cl, -, -, -, rfl⟩ := finishAttempt_eq_some e
  rw [roster_notifyKills, roster_changeTracker]
  · rfl
  · intro t
    cases o <;> rfl

/-- Losing attempts keeps the roster. -/
lemma roster_loseAttempts (lost : List (AttemptId × AttemptRef)) (clock : AttemptId → Instant) :
    (c.loseAttempts lost clock).roster = c.roster := by
  induction lost generalizing c with
  | nil => rfl
  | cons l lost ih =>
    have one : (c.loseAttempt l.1 l.2 (clock l.1)).roster = c.roster := by
      unfold loseAttempt
      split
      · next e => exact roster_finishAttempt e
      · rfl
    exact Eq.trans ih one

/-- A heartbeat keeps the roster. -/
lemma roster_heartbeat {h : Heartbeat} {now : Instant} {ids : List AttemptId}
    (e : c.heartbeat h now = some (ids, c')) : c'.roster = c.roster := by
  obtain ⟨t, -, e⟩ := Option.map_eq_some_iff.1 e
  cases e
  exact roster_changeTracker fun _ => rfl

/-- A launch keeps the roster. -/
lemma roster_launch {ch : Choice} {now : Instant} {asg : TaskAssignment}
    (e : c.launch id ch now = some (asg, c')) : c'.roster = c.roster := by
  obtain ⟨j, -, e⟩ := Option.bind_eq_some_iff.1 e
  obtain ⟨⟨j', asg'⟩, -, e⟩ := Option.bind_eq_some_iff.1 e
  cases Option.some.inj e
  exact roster_changeTracker fun _ => rfl

/-- A new tracker is added at the end. -/
lemma roster_register (fresh : ∀ e ∈ c.trackers, e.1 ≠ id) (r : Registration) (now : Instant) :
    (c.register id r now).roster = c.roster ++ [(id, (Tracker.new r now).slots)] := by
  have absent : c.trackers.any (·.1 == id) = false := by simpa using fresh
  rw [roster, register, setEntry, absent, if_neg Bool.false_ne_true, List.map_append]
  rfl

/-- The slots of trackers do not change, and a tracker is new only when it registers. -/
lemma roster_next (no : ∀ id r now, op ≠ .register id r now) :
    (s.next op).coordinator.roster = s.coordinator.roster := by
  -- the roster is of names and slots, and only a registration writes these
  have quiet (quiet : op.IsQuiet) : (s.next op).coordinator.roster = s.coordinator.roster :=
    congrArg (List.map _) (Operation.trackers_apply quiet)
  cases op with
  | register id r now => exact absurd rfl (no id r now)
  | markRunning | newJobId | expireReservations | submit | installTasks | failInit | finishIdle =>
    exact quiet trivial
  | killJob id now =>
    rw [System.next, Operation.apply]
    rcases s.coordinator.killJob_cases id now with same | ⟨j, reason, -, -, e⟩
    · rw [same]
    · rw [e, roster_notifyKills]
      rfl
  | killAttempt id shouldFail now =>
    rw [System.next, Operation.apply]
    rcases s.coordinator.killAttempt_cases id shouldFail now with same | ⟨_, _, _, c', e, e'⟩
    · rw [same]
    · rw [e', roster_queueKill, roster_finishAttempt e]
  | complete r now =>
    rw [System.next, Operation.apply]
    rcases s.coordinator.complete_cases r now with same | ⟨_, _, _, e⟩
    · rw [same]
    · exact roster_finishAttempt e
  | heartbeat h now =>
    rw [System.next, Operation.apply]
    cases e : s.coordinator.heartbeat h now with
    | none => rfl
    | some answer => exact roster_heartbeat e
  | assign id now =>
    rw [System.next, Operation.apply]
    rcases s.coordinator.assign_launches id now with e | ⟨ch, asg, c', -, launched, e⟩
    · rw [e]
    · rw [e]
      exact roster_launch launched
  | sweep now timeout lost clock =>
    rw [System.next, Operation.apply, roster_loseAttempts, roster_markDead]

end Roster

/-! ## What runs on a tracker -/

/-- The kind of the task that an attempt belongs to. -/
def kindOf? (c : Coordinator) (id : AttemptId) : Option TaskKind := (c.ref? id).map AttemptRef.kind

/-- Whether an attempt is one of a kind on a tracker. -/
def isOn (c : Coordinator) (k : TrackerId) (kind : TaskKind) (a : Attempt) : Bool :=
  c.kindOf? a.id == some kind && a.tracker == k

section Counting

variable {c c' : Coordinator} {s : System} {op : Operation} {k id : TrackerId} {kind : TaskKind}

/-- The running tasks with their attempts give the live attempts. -/
lemma running_map_snd (c : Coordinator) : c.running.map Prod.snd = c.liveAttempts := by
  simp only [running, liveAttempts, List.map_flatMap, List.map_map]
  refine List.flatMap_congr fun j _ => List.flatMap_congr fun t _ => ?_
  exact List.map_id _

/-- The kind of a live attempt is that of its task. -/
lemma Exact.kindOf? (ex : Exact c) {e : Task × Attempt} (mem : e ∈ c.running) :
    c.kindOf? e.2.id = some e.1.kind := by
  obtain ⟨j, memj, mem⟩ := List.mem_flatMap.1 mem
  obtain ⟨t, memt, mem⟩ := List.mem_flatMap.1 mem
  obtain ⟨a, mema, rfl⟩ := List.mem_map.1 mem
  obtain ⟨kind, memt⟩ := Job.mem_allTasks.1 memt
  obtain ⟨i, pick⟩ := List.mem_iff_getElem?.1 memt
  have found : c.ref? a.id = some ⟨j.id, kind, i⟩ := by
    rw [ex.indexed.index]
    exact ⟨j, memj, rfl, t, pick, List.mem_map_of_mem (List.mem_of_mem_filter mema)⟩
  rw [Coordinator.kindOf?, found, ((ex.lawful j memj).placed kind i t pick).kind_eq]
  rfl

/-- The count over all tasks is one over the attempts that run, whose kinds the index tells. -/
lemma Exact.runningOn_eq (ex : Exact c) (k : TrackerId) (kind : TaskKind) :
    c.runningOn k kind = c.liveAttempts.countP (c.isOn k kind) := by
  rw [runningOn, ← running_map_snd, List.countP_map]
  apply List.countP_congr
  intro e mem
  simp [isOn, ex.kindOf? mem]

/-- No operation but an assignment makes more attempts run on a tracker. -/
lemma runningOn_next_le (re : Reachable s) (ok : s.Permits op) (no : ¬op.IsAssign) :
    (s.next op).coordinator.runningOn k kind ≤ s.coordinator.runningOn k kind := by
  rw [re.exact.runningOn_eq, (re.next ok).exact.runningOn_eq]
  have same : (s.next op).coordinator.isOn k kind = s.coordinator.isOn k kind := by
    funext a
    rw [isOn, Coordinator.kindOf?, ref?, System.index_next no, isOn, Coordinator.kindOf?, ref?]
  rw [same]
  apply List.Sublist.countP_le
  apply re.lawful.live_sublist ok
  rintro id now rfl
  exact no trivial

/-- A task is chosen for a kind that has a slot. -/
lemma chooseTask_slot {j : Job} {host : String} {mapSlot reduceSlot : Bool} {ch : Choice}
    (e : chooseTask j host mapSlot reduceSlot = some ch) :
    match ch.kind with | .map => mapSlot | .reduce => reduceSlot := by
  unfold chooseTask at e
  split at e
  · next picked =>
    cases e
    cases mapSlot with
    | false => cases picked
    | true => rfl
  · obtain ⟨index, picked, e⟩ := Option.map_eq_some_iff.1 e
    cases e
    cases reduceSlot with
    | false => cases picked
    | true => rfl

/-- What is chosen has a free slot. -/
lemma choose_slot {ch : Choice} (e : c.choose id = some ch) :
    ∃ t, c.tracker? id = some t ∧ c.runningOn id ch.kind < (t.slots ch.kind).toNat := by
  unfold choose at e
  split at e
  · cases e
  · next t found =>
    split at e
    · cases e
    · obtain ⟨j, -, chosen⟩ := List.exists_of_findSome?_eq_some e
      have slot := chooseTask_slot chosen
      refine ⟨t, found, ?_⟩
      cases kind : ch.kind with
      | map =>
        rw [kind] at slot
        exact of_decide_eq_true slot
      | reduce =>
        rw [kind] at slot
        exact of_decide_eq_true slot

/-- A launch adds one attempt, of the kind of its task and on the tracker that asked. -/
lemma runningOn_launch (ex : Exact c) (ex' : Exact c') (sy : Stay c.attempts c'.attempts)
    {ch : Choice} {now : Instant} {asg : TaskAssignment} (chosen : c.choose id = some ch)
    (launched : c.launch id ch now = some (asg, c')) :
    c'.runningOn k kind = c.runningOn k kind + if ch.kind = kind ∧ id = k then 1 else 0 := by
  have new := assigns_of_launch ex chosen launched
  have fresh := new.fresh ex' sy
  obtain ⟨a, p, q, ea, et, before, after⟩ := new.live
  obtain ⟨-, -, -, -, -, -, -, index⟩ := launch_eq_some launched
  have found (x : AttemptId) : c'.kindOf? x =
      if x = asg.attemptId then some ch.kind else c.kindOf? x := by
    rw [Coordinator.kindOf?, ref?, index, find?_setEntry, Coordinator.kindOf?, ref?]
    split <;> rfl
  -- the new entry of the index is of the new name, so it changes no kind of the others
  have old : ∀ b ∈ p ++ q, c'.isOn k kind b = true ↔ c.isOn k kind b = true := by
    intro b mem
    have other : b.id ≠ asg.attemptId := by
      rintro e
      rw [← before] at mem
      exact fresh (e ▸ List.mem_map_of_mem (mem_liveAttempts.1 mem).1)
    rw [isOn, found, if_neg other, isOn]
  have here : c'.isOn k kind a = decide (ch.kind = kind ∧ id = k) := by
    rw [Bool.eq_iff_iff]
    simp [isOn, found, ea, et]
  have split : c'.liveAttempts.countP (c'.isOn k kind) =
      (p ++ q).countP (c'.isOn k kind) + if c'.isOn k kind a then 1 else 0 := by
    rw [after, List.countP_append, List.countP_cons, List.countP_append]
    omega
  rw [ex'.runningOn_eq, ex.runningOn_eq, split, before, List.countP_congr old, here]
  simp

/-- A tracker that is new has no attempts. -/
lemma runningOn_of_none (re : Reachable s) (none : s.coordinator.tracker? k = none) :
    s.coordinator.runningOn k kind = 0 := by
  rw [re.exact.runningOn_eq, List.countP_eq_zero]
  intro a mem here
  have et : a.tracker = k := beq_iff_eq.1 (Bool.and_eq_true_iff.1 here).2
  have alive := re.staffed a mem
  rw [et, alive?, none] at alive
  cases alive

end Counting

/-! ## No tracker runs more than it has slots -/

/-- No tracker runs more attempts of a kind than it has slots for it. -/
def Fits (c : Coordinator) : Prop :=
  ∀ e ∈ c.roster, ∀ kind, c.runningOn e.1 kind ≤ (e.2 kind).toNat

section Slots

variable {c : Coordinator} {s : System} {op : Operation} {k : TrackerId}

/-- A registered tracker is on the roster with its slots. -/
lemma mem_roster_of_tracker? {t : Tracker} (found : c.tracker? k = some t) :
    (k, t.slots) ∈ c.roster :=
  List.mem_map_of_mem (mem_of_find? found)

/-- The roster names the trackers. -/
lemma roster_fst (c : Coordinator) : c.roster.map Prod.fst = c.trackers.map Prod.fst := by
  rw [roster, List.map_map]
  rfl

/-- Names of trackers are distinct, for a tracker registers under a new one. -/
lemma Reachable.roster_nodup (re : Reachable s) : (s.coordinator.roster.map Prod.fst).Nodup := by
  refine re.induction (P := fun s => (s.coordinator.roster.map Prod.fst).Nodup) ?_ ?_
  · intro stamp
    exact .nil
  · intro s op nodup ok
    by_cases registers : ∃ id r now, op = .register id r now
    · obtain ⟨id, r, now, rfl⟩ := registers
      rw [System.next, Operation.apply, roster_register ok, List.map_append, List.nodup_append_comm]
      refine List.nodup_cons.2 ⟨?_, nodup⟩
      rw [roster_fst]
      intro mem
      obtain ⟨e, meme, same⟩ := List.mem_map.1 mem
      exact ok e meme same
    · rw [roster_next fun id r now e => registers ⟨id, r, now, e⟩]
      exact nodup

/-- No two trackers share a name. -/
lemma Reachable.trackers_nodup (re : Reachable s) :
    (s.coordinator.trackers.map Prod.fst).Nodup :=
  roster_fst s.coordinator ▸ re.roster_nodup

/-- An assignment fills a free slot. -/
lemma Fits.assign (fits : Fits s.coordinator) (re : Reachable s) (id : TrackerId) (now : Instant) :
    Fits (s.next (.assign id now)).coordinator := by
  have ok : s.Permits (.assign id now) := trivial
  have ex' := (re.next ok).exact
  have sy := re.lawful.stay ok
  have same : (s.next (.assign id now)).coordinator.roster = s.coordinator.roster :=
    roster_next nofun
  rw [Fits, same]
  rw [System.next, Operation.apply] at ex' sy ⊢
  rcases s.coordinator.assign_launches id now with e | ⟨ch, asg, c', chosen, launched, e⟩
  · rw [e]
    exact fits
  · rw [e] at ex' sy ⊢
    intro e mem kind
    rw [runningOn_launch re.exact ex' sy chosen launched]
    split
    · next here =>
      obtain ⟨rfl, rfl⟩ := here
      obtain ⟨t, found, free⟩ := choose_slot chosen
      have same := List.inj_on_of_nodup_map re.roster_nodup mem (mem_roster_of_tracker? found) rfl
      rw [same]
      exact free
    · exact fits e mem kind

/-- Every operation leaves what runs within the slots. -/
lemma Fits.next (fits : Fits s.coordinator) (re : Reachable s) (ok : s.Permits op) :
    Fits (s.next op).coordinator := by
  have less {e : TrackerId × (TaskKind → UInt32)} (no : ¬op.IsAssign)
      (mem : e ∈ s.coordinator.roster) (kind : TaskKind) :
      (s.next op).coordinator.runningOn e.1 kind ≤ (e.2 kind).toNat :=
    Nat.le_trans (runningOn_next_le re ok no) (fits e mem kind)
  have kept (no : ¬op.IsAssign) (same : (s.next op).coordinator.roster = s.coordinator.roster) :
      Fits (s.next op).coordinator := by
    rw [Fits, same]
    exact fun e mem => less no mem
  cases op with
  | assign id now => exact fits.assign re id now
  | register id r now =>
    rw [Fits]
    intro e mem kind
    rw [System.next, Operation.apply, roster_register ok] at mem
    rcases List.mem_append.1 mem with mem | mem
    · exact less (fun h => h) mem kind
    · rw [List.mem_singleton.1 mem]
      apply Nat.le_trans (runningOn_next_le re ok fun h => h)
      rw [runningOn_of_none re (tracker?_of_fresh ok)]
      exact Nat.zero_le _
  | markRunning | newJobId | expireReservations | submit | installTasks | failInit | killJob
  | killAttempt | heartbeat | complete | sweep | finishIdle =>
    exact kept id (roster_next (by rintro _ _ _ ⟨⟩))

/-- What runs on a tracker fits in its slots, in any reachable system. -/
theorem Reachable.fits (re : Reachable s) : Fits s.coordinator := by
  obtain ⟨stamp, ops, run⟩ := re
  induction run with
  | nil => exact fun e mem => absurd mem List.not_mem_nil
  | @snoc ops s op run ok ih => exact ih.next ⟨stamp, ops, run⟩ ok

end Slots

end JobCluster.Coordinator
