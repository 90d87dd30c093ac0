import JobCluster.Proofs.Coordinator.Index

/-!
# Trackers and what they are to be told

`tracker?` after each change of a tracker, and the two things that are asked of a tracker here:
whether it is alive (`alive?`) and which ends of attempts it is still to be told (`pending`).
-/

namespace JobCluster.Coordinator

open JobCluster.Time

/-- Whether a tracker is alive, if it is registered. -/
def alive? (c : Coordinator) (id : TrackerId) : Option Bool :=
  (c.tracker? id).map fun t => !t.dead

/-- The attempts that a tracker is still to be told of. -/
def pending (c : Coordinator) (id : TrackerId) : List AttemptId :=
  ((c.tracker? id).map Tracker.pendingKills).getD []

/-- The names of those of some attempts that are on a tracker. -/
def namesOn (id : TrackerId) (as : List Attempt) : List AttemptId :=
  (as.filter (·.tracker == id)).map Attempt.id

/-- A tracker that is to be told of more attempts. -/
def Tracker.queueKills (t : Tracker) (ids : List AttemptId) : Tracker :=
  { t with pendingKills := t.pendingKills ++ ids }

variable {c c' : Coordinator} {id k : TrackerId}

/-! ## Lookups -/

/-- A tracker is found by the list of trackers alone. -/
lemma tracker?_congr (same : c'.trackers = c.trackers) : c'.tracker? k = c.tracker? k := by
  rw [tracker?, same, tracker?]

/-- A new name is not found. -/
lemma tracker?_of_fresh (fresh : ∀ e ∈ c.trackers, e.1 ≠ k) : c.tracker? k = none :=
  find?_of_fresh fresh

/-- A change of all trackers that keeps their names is found at each name. -/
lemma tracker?_map (f : TrackerId → Tracker → Tracker) :
    tracker? { c with trackers := c.trackers.map fun e => (e.1, f e.1 e.2) } k =
      (c.tracker? k).map (f k) := by
  have same : ((fun e => e.1 == k) ∘ fun e : TrackerId × Tracker => (e.1, f e.1 e.2)) =
      fun e => e.1 == k := rfl
  rw [tracker?, tracker?, List.find?_map, same, Option.map_map, Option.map_map]
  cases found : c.trackers.find? (·.1 == k) with
  | none => rfl
  | some e =>
    have ek : e.1 = k := by simpa using List.find?_some found
    simp [ek]

/-- A change of one tracker is seen at that one only. -/
lemma tracker?_changeTracker (f : Tracker → Tracker) :
    (c.changeTracker id f).tracker? k = (c.tracker? k).map fun t => if k = id then f t else t := by
  rw [← tracker?_map fun k t => if k = id then f t else t]
  refine tracker?_congr (List.map_congr_left fun e _ => ?_)
  by_cases ek : e.1 = id <;> simp [ek]

/-- A tracker after trackers were told of ends. -/
lemma tracker?_notifyKills (ended : List Attempt) :
    (c.notifyKills ended).tracker? k = (c.tracker? k).map (·.queueKills (namesOn k ended)) := by
  unfold notifyKills
  induction ended generalizing c with
  | nil =>
    have same : (fun t : Tracker => t.queueKills (namesOn k [])) = id := by
      funext t
      simp [Tracker.queueKills, namesOn]
    rw [same, Option.map_id]
    rfl
  | cons a ended ih =>
    rw [List.foldl_cons, ih, tracker?_changeTracker, Option.map_map]
    refine congrArg (fun f => Option.map f _) (funext fun t => ?_)
    by_cases here : k = a.tracker
    · simp [here, Tracker.queueKills, Tracker.queueKill, namesOn]
    · have other : (a.tracker == k) = false := by simpa using fun e : a.tracker = k => here e.symm
      simp [here, Tracker.queueKills, namesOn, other]

/-! ## What is asked of a tracker -/

/-- What is alive or dead is registered. -/
lemma isSome_of_alive? {b : Bool} (e : c.alive? k = some b) : (c.tracker? k).isSome := by
  obtain ⟨t, found, -⟩ := Option.map_eq_some_iff.1 e
  rw [found]
  rfl

/-- A tracker is alive by its own record alone. -/
lemma alive?_congr (same : c'.tracker? k = c.tracker? k) : c'.alive? k = c.alive? k := by
  rw [alive?, same, alive?]

/-- A list is told by the tracker's own record alone. -/
lemma pending_congr (same : c'.tracker? k = c.tracker? k) : c'.pending k = c.pending k := by
  rw [pending, same, pending]

/-- A change that kills no tracker leaves all alive or dead. -/
lemma alive?_changeTracker {f : Tracker → Tracker} (dead : ∀ t, (f t).dead = t.dead) :
    (c.changeTracker id f).alive? k = c.alive? k := by
  rw [alive?, tracker?_changeTracker, alive?]
  cases c.tracker? k with
  | none => rfl
  | some t => by_cases here : k = id <;> simp [here, dead]

/-- A change that touches no list leaves all lists. -/
lemma pending_changeTracker {f : Tracker → Tracker}
    (kills : ∀ t, (f t).pendingKills = t.pendingKills) :
    (c.changeTracker id f).pending k = c.pending k := by
  rw [pending, tracker?_changeTracker, pending]
  cases c.tracker? k with
  | none => rfl
  | some t => by_cases here : k = id <;> simp [here, kills]

/-- Names to be told kill no tracker. -/
lemma alive?_notifyKills (ended : List Attempt) : (c.notifyKills ended).alive? k = c.alive? k := by
  rw [alive?, tracker?_notifyKills, alive?]
  cases c.tracker? k <;> rfl

/-- A name to be told kills no tracker. -/
lemma alive?_queueKill (a : AttemptId) :
    (c.changeTracker id (·.queueKill a)).alive? k = c.alive? k :=
  alive?_changeTracker fun _ => rfl

/-- A name is added at the end of the list of its tracker. -/
lemma pending_queueKill (some : (c.tracker? id).isSome) (a : AttemptId) :
    (c.changeTracker id (·.queueKill a)).pending k = c.pending k ++ if id = k then [a] else [] := by
  rw [pending, tracker?_changeTracker, pending]
  by_cases here : id = k
  · subst here
    obtain ⟨t, found⟩ := Option.isSome_iff_exists.1 some
    simp [found, Tracker.queueKill]
  · have other : ¬k = id := fun e => here e.symm
    simp [here, other]

/-- Names are added at the end of the lists of their trackers. -/
lemma pending_notifyKills (ended : List Attempt) :
    (c.notifyKills ended).pending k =
      c.pending k ++ if (c.tracker? k).isSome then namesOn k ended else [] := by
  rw [pending, tracker?_notifyKills, pending]
  cases c.tracker? k <;> rfl

/-! ## Operations on trackers -/

/-- The trackers that a sweep marks dead. -/
lemma tracker?_markDead (ids : List TrackerId) :
    (c.markDead ids).tracker? k =
      (c.tracker? k).map fun t =>
        if ids.contains k then { t with dead := true, pendingKills := [] } else t := by
  rw [← tracker?_map fun k t =>
    if ids.contains k then { t with dead := true, pendingKills := [] } else t]
  refine tracker?_congr (List.map_congr_left fun e _ => ?_)
  by_cases here : ids.contains e.1
  · simp only [here, if_true]
  · simp only [here, Bool.false_eq_true, if_false]

/-- Registration makes a new record for one tracker. -/
lemma tracker?_register (r : Registration) (now : Instant) :
    (c.register id r now).tracker? k =
      if k = id then some (Tracker.new r now) else c.tracker? k :=
  find?_setEntry id (Tracker.new r now) c.trackers k

/-- A heartbeat is answered if the tracker is registered. -/
lemma isSome_heartbeat (h : Heartbeat) (now : Instant) :
    (c.heartbeat h now).isSome = (c.tracker? h.trackerId).isSome :=
  Option.isSome_map

/-- A heartbeat tells a tracker all that it is to be told, and makes it live. -/
lemma heartbeat_eq_some {h : Heartbeat} {now : Instant} {ids : List AttemptId}
    (e : c.heartbeat h now = some (ids, c')) :
    ids = c.pending h.trackerId ∧ c'.jobs = c.jobs ∧ c'.alive? h.trackerId = some true ∧
      c'.pending h.trackerId = [] ∧ ∀ k ≠ h.trackerId, c'.tracker? k = c.tracker? k := by
  obtain ⟨t, found, e⟩ := Option.map_eq_some_iff.1 e
  cases e
  refine ⟨by rw [pending, found]; rfl, rfl, ?_, ?_, fun k ne => ?_⟩
  · simp [alive?, tracker?_changeTracker, found]
  · simp [pending, tracker?_changeTracker, found]
  · simp [tracker?_changeTracker, ne]

end JobCluster.Coordinator
