import JobCluster.Proofs.Coordinator.Figures
import JobCluster.Proofs.Job.Weight

/-!
# What trackers are credited with

The coordinator counts for each tracker the attempts that it started, those that succeeded and those
that failed, and sums up how long its attempts took. These four are the figures of a tracker
(`Figure`), and `Figure.on` is what an attempt adds to them. `Credited` says that each figure is the
sum over all attempts of what they add, and `Credited.next` that every operation keeps it so.

An attempt that ends with its job is not credited at all. The sums stay exact because no figure
tells a running attempt from one that was ended so (`Figure.overlooks`).
-/

namespace JobCluster.Coordinator

open JobCluster.Time

namespace Attempt

/-- How long an attempt ran, in milliseconds; 0 before its end. -/
def ran (a : Attempt) : Nat := a.runTime a.startedAt

/-- Whether an attempt is counted when it ends. -/
def isCounted (a : Attempt) : Bool := a.state == .succeeded || a.state == .failed

/-- What is noted of an attempt that is killed by itself, and not with its job. -/
def loneNotes : List String := [killNote false, "tracker perdido"]

/-- Whether an attempt was killed by itself, and not with its job. -/
def killedAlone (a : Attempt) : Bool :=
  a.state == .killed && a.diagnostics.getLast?.any loneNotes.contains

/-- What runs is in the running state. -/
lemma state_of_run {a : Attempt} (run : a.isRunning) : a.state = .running := by
  simpa [isRunning] using run

/-- The end of a job is noted in other words than that of an attempt alone. -/
lemma failureReason_not_lone (t : Task) : Job.failureReason t ∉ loneNotes := by
  have first : (Job.failureReason t).toList.head? = some 'l' := by
    simp [Job.failureReason]
  intro mem
  rcases List.mem_cons.1 mem with e | mem
  · rw [e] at first
    revert first
    decide
  · rw [List.mem_singleton.1 mem] at first
    revert first
    decide

end Attempt

open Attempt

/-! ## Figures -/

/-- What is summed up of a tracker. -/
inductive Figure where
  | started
  | succeeded
  | failed
  | time
deriving DecidableEq

namespace Figure

/-- The figure of a tracker. -/
def of : Figure → Tracker → Nat
  | .started, t => t.started
  | .succeeded, t => t.succeeded
  | .failed, t => t.failed
  | .time, t => t.taskTime

/-- What an attempt adds to a figure. The time is that of attempts that ended by themselves, in
whatever way. -/
def weight : Figure → Attempt → Nat
  | .started, _ => 1
  | .succeeded, a => if a.state = .succeeded then 1 else 0
  | .failed, a => if a.state = .failed then 1 else 0
  | .time, a => if a.isCounted || a.killedAlone then a.ran else 0

/-- What an attempt adds to the figure of a tracker: nothing, if it is on another one. -/
def on (f : Figure) (k : TrackerId) (a : Attempt) : Nat := if a.tracker = k then f.weight a else 0

variable {f : Figure} {a : Attempt}

/-- An attempt under way weighs in the number of those started only. -/
lemma weight_of_run (run : a.isRunning) : f.weight a = if f = .started then 1 else 0 := by
  have st := state_of_run run
  cases f <;> simp [weight, isCounted, killedAlone, st]

lemma on_close (f : Figure) (k : TrackerId) (a : Attempt) (o : Outcome) (now : Instant)
    (notes : List String) : f.on k (a.close o now notes) =
      if a.tracker = k then f.weight (a.close o now notes) else 0 := rfl

/-- Figures overlook that an attempt ends with its job. -/
lemma overlooks (f : Figure) (k : TrackerId) {reason : String} (other : reason ∉ loneNotes) :
    Overlooks (f.on k) reason := by
  intro a now run
  have same : f.weight (a.close .killed now [reason]) = f.weight a := by
    rw [weight_of_run run]
    cases f <;> simp [weight, isCounted, killedAlone, close, Outcome.state, other]
  rw [on_close, same, on]

/-- A tracker is credited with what the end of its attempt adds. -/
lemma of_credit (f : Figure) (t : Tracker) (run : a.isRunning) {o : Outcome} (now : Instant)
    {notes : List String} (alone : o = .killed → ∃ note ∈ loneNotes, notes = [note]) :
    f.of (t.credit o ((a.close o now notes).runTime now)) + f.weight a =
      f.of t + f.weight (a.close o now notes) := by
  rw [weight_of_run run]
  have time : (a.close o now notes).ran = (a.close o now notes).runTime now := rfl
  cases o with
  | succeeded | failed =>
    cases f <;> simp [of, weight, Tracker.credit, isCounted, Outcome.state, time]
  | killed =>
    obtain ⟨note, mem, rfl⟩ := alone rfl
    have lone : (a.close .killed now [note]).killedAlone := by
      simp [killedAlone, close, Outcome.state, mem]
    cases f <;> simp [of, weight, Tracker.credit, Outcome.state, time, lone]

/-- A name to be told changes no figure. -/
lemma of_queueKill (f : Figure) (t : Tracker) (id : AttemptId) :
    f.of (t.queueKill id) = f.of t := by
  cases f <;> rfl

/-- Names to be told change no figure of a record. -/
lemma of_queueKills (f : Figure) (t : Tracker) (ids : List AttemptId) :
    f.of (t.queueKills ids) = f.of t := by
  cases f <;> rfl

/-- A new tracker has figures of zero. -/
lemma of_new (f : Figure) (r : Registration) (now : Instant) : f.of (Tracker.new r now) = 0 := by
  cases f <;> rfl

end Figure

/-- A figure of a tracker; 0 if there is no such tracker. -/
def figure (c : Coordinator) (k : TrackerId) (f : Figure) : Nat := ((c.tracker? k).map f.of).getD 0

/-- The sum of a weight over all attempts. -/
def weight (w : Attempt → Nat) (c : Coordinator) : Nat := (c.attempts.map w).sum

/-- Each figure of a tracker is the sum of what the attempts add to it. -/
def Credited (c : Coordinator) : Prop := ∀ k f, c.figure k f = c.weight (f.on k)

section Sums

variable {c c' : Coordinator} {w : Attempt → Nat} {k : TrackerId} {f : Figure}

/-- The weight of all attempts, job by job. -/
lemma weight_eq_sum (w : Attempt → Nat) (c : Coordinator) :
    c.weight w = (c.jobs.map (Job.weight w)).sum := by
  rw [weight, attempts, List.map_flatMap, List.flatMap, List.sum_flatten, List.map_map]
  rfl

/-- The weight depends on the jobs alone. -/
lemma weight_congr (same : c'.jobs = c.jobs) : c'.weight w = c.weight w := by
  rw [weight_eq_sum, same, weight_eq_sum]

/-- A replaced job changes the weight by the difference of the two. -/
lemma weight_setJob (nodup : (c.jobs.map Job.id).Nodup) {job : JobId} {j j' : Job}
    (found : c.job? job = some j) (eid : j'.id = j.id) :
    (c.setJob j').weight w + j.weight w = c.weight w + j'.weight w := by
  obtain ⟨pre, post, e, e'⟩ := setJob_jobs nodup found eid
  rw [weight_eq_sum, weight_eq_sum, e, e']
  simp only [List.map_append, List.map_cons, List.sum_append, List.sum_cons]
  omega

/-- Moves that neither launch nor end attempts by themselves keep the sum. -/
lemma Performs.weight_eq {js js' : List Job} {ms : List (JobId × Job.Move)}
    (pf : Performs js ms js') (lw : ∀ j ∈ js, j.Lawful) (le : ∀ e ∈ ms, e.2.Leaves w) :
    (js'.map (Job.weight w)).sum = (js.map (Job.weight w)).sum := by
  induction pf with
  | nil => rfl
  | cons st _ ih =>
    rw [ih ((Performs.single st).lawful lw) fun e mem => le e (List.mem_cons_of_mem _ mem)]
    simp [st.weight_eq (lw _ (by simp)) (le _ List.mem_cons_self)]

/-- A figure is read off the tracker's record. -/
lemma figure_of_tracker {t : Tracker} (found : c.tracker? k = some t) : c.figure k f = f.of t := by
  rw [figure, found]
  rfl

/-- What keeps the figures of a record keeps those of the coordinator. -/
lemma figure_of_map {g : Tracker → Tracker} (same : c'.tracker? k = (c.tracker? k).map g)
    (keeps : ∀ t, f.of (g t) = f.of t) : c'.figure k f = c.figure k f := by
  rw [figure, same, figure]
  cases c.tracker? k with
  | none => rfl
  | some t => exact keeps t

/-- A change of one record that keeps its figures keeps those of the coordinator. -/
lemma figure_changeTracker {id : TrackerId} {g : Tracker → Tracker}
    (keeps : ∀ t, f.of (g t) = f.of t) : (c.changeTracker id g).figure k f = c.figure k f := by
  refine figure_of_map (tracker?_changeTracker g) fun t => ?_
  split
  · exact keeps t
  · rfl

/-- A heartbeat changes no figure. -/
lemma figure_heartbeat {h : Heartbeat} {now : Instant} {answer : List AttemptId × Coordinator}
    (e : c.heartbeat h now = some answer) : answer.2.figure k f = c.figure k f := by
  obtain ⟨t, -, rfl⟩ := Option.map_eq_some_iff.1 e
  refine figure_changeTracker fun t => ?_
  cases f <;> rfl

/-- Names to be told change no figure. -/
lemma figure_notifyKills (ended : List Attempt) : (c.notifyKills ended).figure k f = c.figure k f :=
  figure_of_map (tracker?_notifyKills ended) fun t => f.of_queueKills t _

/-- What is credited changes neither with the jobs' records nor with what trackers are told. -/
lemma Credited.of_same (cr : Credited c) (figure : ∀ k f, c'.figure k f = c.figure k f)
    (weight : ∀ k (f : Figure), c'.weight (f.on k) = c.weight (f.on k)) : Credited c' :=
  fun k f => by rw [figure, weight, cr]

/-- An attempt is on a tracker that is registered. -/
lemma Credited.registered (cr : Credited c) {a : Attempt} (mem : a ∈ c.attempts) :
    (c.tracker? a.tracker).isSome := by
  by_contra no
  have none : c.tracker? a.tracker = none := by simpa using no
  have zero : c.weight (Figure.started.on a.tracker) = 0 := by
    rw [← cr, figure, none]
    rfl
  have here := List.sum_eq_zero_iff_forall_eq_nat.1 zero _ (List.mem_map_of_mem mem)
  simp [Figure.on, Figure.weight] at here

/-- What a tracker is credited with for the end of one of its attempts. -/
lemma figure_credit {a : Attempt} (registered : (c.tracker? a.tracker).isSome) (run : a.isRunning)
    {o : Outcome} (now : Instant) {notes : List String}
    (alone : o = .killed → ∃ note ∈ loneNotes, notes = [note]) :
    (c.changeTracker a.tracker (·.credit o ((a.close o now notes).runTime now))).figure k f +
      f.on k a = c.figure k f + f.on k (a.close o now notes) := by
  rw [Figure.on_close, Figure.on]
  by_cases here : a.tracker = k
  · subst here
    obtain ⟨t, found⟩ := Option.isSome_iff_exists.1 registered
    have after (g : Tracker → Tracker) : (c.changeTracker a.tracker g).tracker? a.tracker =
        some (g t) := by
      rw [tracker?_changeTracker, found, Option.map_some, if_pos rfl]
    rw [figure_of_tracker found, figure_of_tracker (after _), if_pos rfl, if_pos rfl]
    exact f.of_credit t run now alone
  · rw [if_neg here, if_neg here, figure_of_map (tracker?_changeTracker _)]
    exact fun t => by rw [if_neg (Ne.symm here)]

end Sums

/-! ## Operations -/

section Operations

variable {c c' : Coordinator} {s : System} {op : Operation} {k : TrackerId}

/-- The end of an attempt is credited to its tracker, and what ends with it is not credited. If the
attempt is killed, this is noted as the kill of one attempt. -/
lemma Credited.finishAttempt (cr : Credited c) (ex : Exact c) {ref : AttemptRef} {id : AttemptId}
    {o : Outcome} {cs : Counters} {notes : List String} {clock : Readings} {tracker : TrackerId}
    (alone : o = .killed → ∃ note ∈ loneNotes, notes = [note])
    (e : c.finishAttempt ref id o cs notes clock = some (tracker, c')) : Credited c' := by
  obtain ⟨j, cl, found, closed, rfl, rfl⟩ := finishAttempt_eq_some e
  have memj := (job?_mem found).1
  obtain ⟨a, mem, rfl, ended, -⟩ := Job.running_of_close (ex.lawful j memj) closed
  have mema : a ∈ j.allAttempts ∧ a.isRunning := List.mem_filter.1 (j.running_eq_filter ▸ mem)
  have registered := cr.registered (List.mem_flatMap.2 ⟨j, memj, mema.1⟩)
  intro k f
  have weight (credit : Tracker → Tracker) : weight (f.on k)
      (((c.setJob cl.job).changeTracker a.tracker credit).notifyKills cl.aborted) =
        (c.setJob cl.job).weight (f.on k) :=
    weight_congr (notifyKills_jobs _)
  have ofAll := weight_setJob (w := f.on k) ex.nodup found (Job.Step.of_close closed).id
  have ofJob := Job.weight_of_close (ex.lawful j memj)
    (fun t => f.overlooks k (failureReason_not_lone t)) closed mem
  have ofTracker := figure_credit (c := c.setJob cl.job) (k := k) (f := f) registered mema.2
    clock.first alone
  have before : (c.setJob cl.job).figure k f = c.weight (f.on k) := cr k f
  rw [figure_notifyKills, ended, show (a.close o clock.first notes).tracker = a.tracker from rfl,
    weight]
  omega

/-- Lost trackers are credited with the ends of their attempts. -/
lemma Credited.loseAttempts (cr : Credited c) (ex : Exact c) (lost : List (AttemptId × AttemptRef))
    (clock : AttemptId → Instant) : Credited (c.loseAttempts lost clock) := by
  induction lost generalizing c with
  | nil => exact cr
  | cons l lost ih =>
    have one : Credited (c.loseAttempt l.1 l.2 (clock l.1)) := by
      unfold loseAttempt
      split
      · next e => exact cr.finishAttempt ex (fun _ => ⟨_, by simp [loneNotes], rfl⟩) e
      · exact cr
    exact ih one (loses_one ex l.1 l.2 (clock l.1)).exact

/-- The death of trackers changes no figure, as their records are kept. -/
lemma Credited.markDead (cr : Credited c) (ids : List TrackerId) : Credited (c.markDead ids) := by
  refine cr.of_same (fun k f => figure_of_map (tracker?_markDead ids) fun t => ?_) fun _ _ => rfl
  split
  · cases f <;> rfl
  · rfl

/-- A tracker is credited with the launch of an attempt. -/
lemma Credited.launch (cr : Credited c) (ex : Exact c) {id : TrackerId} {ch : Choice}
    {now : Instant} {asg : TaskAssignment} (chosen : c.choose id = some ch)
    (launched : c.launch id ch now = some (asg, c')) : Credited c' := by
  obtain ⟨t, registered, -⟩ := choose_slot chosen
  obtain ⟨j, task, host, found, pick, -, ejobs, -⟩ := launch_eq_some launched
  have tracker? (k : TrackerId) : c'.tracker? k = (c.tracker? k).map fun t =>
      if k = id then { t with started := t.started + 1 } else t := by
    obtain ⟨j, -, e⟩ := Option.bind_eq_some_iff.1 launched
    obtain ⟨⟨j', asg'⟩, -, e⟩ := Option.bind_eq_some_iff.1 e
    cases Option.some.inj e
    exact tracker?_changeTracker _
  intro k f
  have ofAll := weight_setJob (w := f.on k) ex.nodup found
    (Job.launched_id j ch.kind ch.index task ch.isLocal id host now)
  have ofJob := Job.weight_launched (w := f.on k) pick ch.isLocal id host now
  -- the new attempt weighs on its tracker only, and there as one that was started
  have added : c'.weight (f.on k) =
      c.weight (f.on k) + if id = k then (if f = .started then 1 else 0) else 0 := by
    rw [weight_congr ejobs, ← Figure.weight_of_run (f := f)
      (a := ⟨task.nextAttemptId, id, host, .running, now, none, []⟩) rfl]
    rw [show f.on k ⟨task.nextAttemptId, id, host, .running, now, none, []⟩ =
      if id = k then f.weight _ else 0 from rfl] at ofJob
    omega
  rw [added, ← cr]
  by_cases here : id = k
  · subst here
    have after := tracker? id
    rw [registered, Option.map_some, if_pos rfl] at after
    rw [figure_of_tracker after, figure_of_tracker registered, if_pos rfl]
    cases f <;> rfl
  · rw [if_neg here, figure_of_map (tracker? k)]
    · rfl
    · exact fun t => by rw [if_neg (Ne.symm here)]

/-- What neither launches nor ends attempts by themselves keeps sums over the attempts. -/
lemma System.Lawful.weight_next {w : Attempt → Nat} (lw : s.Lawful) (ok : s.Permits op)
    (le : ∀ id m, op.Admits id m → m.Leaves w) :
    (s.next op).coordinator.weight w = s.coordinator.weight w := by
  rw [weight_eq_sum, weight_eq_sum]
  generalize (s.next op).coordinator.jobs = js', lw.changes ok = ch
  cases ch with
  | moves pf ad _ => exact pf.weight_eq lw.jobs fun e mem => le _ _ (ad e mem)
  | added _ _ =>
    rw [List.map_append, List.sum_append]
    rfl

/-- Every operation that can come keeps the figures of the trackers exact. -/
theorem Credited.next (cr : Credited s.coordinator) (ex : Exact s.coordinator) (lw : s.Lawful)
    (ok : s.Permits op) : Credited (s.next op).coordinator := by
  have sameFigures (quiet : op.IsQuiet) (k : TrackerId) (f : Figure) :
      (s.next op).coordinator.figure k f = s.coordinator.figure k f := by
    have same : (s.next op).coordinator.tracker? k = s.coordinator.tracker? k :=
      tracker?_congr (Operation.trackers_apply quiet)
    rw [figure, same, figure]
  cases op with
  | markRunning | newJobId | expireReservations | submit =>
    refine cr.of_same (sameFigures trivial) fun _ _ => lw.weight_next ok fun _ _ ad => ?_
    cases ad
  | installTasks | failInit | finishIdle =>
    refine cr.of_same (sameFigures trivial) fun _ _ => lw.weight_next ok fun _ _ ad => ?_
    cases ad
    trivial
  | killJob id now =>
    refine cr.of_same (fun k f => ?_) fun k f => lw.weight_next ok fun _ _ ad => ?_
    · rw [System.next, Operation.apply]
      rcases s.coordinator.killJob_cases id now with same | ⟨j, reason, -, -, e⟩
      · rw [same]
      · rw [e, figure_notifyKills]
        rfl
    · cases ad
      exact f.overlooks k (by decide)
  | killAttempt id shouldFail now =>
    simp only [System.next, Operation.apply, Coordinator.killAttempt]
    split
    · exact cr
    · split
      · next e =>
        refine (cr.finishAttempt ex (fun killed => ⟨killNote shouldFail, ?_, rfl⟩) e).of_same
          (fun k f => figure_changeTracker fun t => f.of_queueKill t id) fun _ _ => rfl
        -- a kill that is to be a failure does not end an attempt as killed
        cases shouldFail with
        | true => cases killed
        | false => exact List.mem_cons_self
      · exact cr
  | complete r now =>
    simp only [System.next, Operation.apply, Coordinator.complete]
    split
    · exact cr
    · split
      · next e =>
        refine cr.finishAttempt ex (fun killed => ?_) e
        cases ok : r.success <;> simp [ok] at killed
      · exact cr
  | register id r now =>
    refine cr.of_same (fun k f => ?_) fun _ _ => lw.weight_next ok fun _ _ ad => by cases ad
    rw [System.next, Operation.apply, figure, tracker?_register, figure]
    split
    · next here =>
      rw [here, tracker?_of_fresh ok]
      exact f.of_new r now
    · rfl
  | heartbeat h now =>
    refine cr.of_same (fun k f => ?_) fun _ _ => lw.weight_next ok fun _ _ ad => by cases ad
    rw [System.next, Operation.apply]
    cases e : s.coordinator.heartbeat h now with
    | none => rfl
    | some answer => exact figure_heartbeat e
  | assign id now =>
    rw [System.next, Operation.apply]
    rcases s.coordinator.assign_launches id now with e | ⟨ch, asg, c', chosen, launched, e⟩
    · rw [e]
      exact cr
    · rw [e]
      exact cr.launch ex chosen launched
  | sweep now timeout lost clock =>
    exact (cr.markDead _).loseAttempts (ex.markDead _) lost clock

/-- Every figure is what the attempts on the tracker weigh, in any reachable system. -/
theorem Reachable.credited (re : Reachable s) : Credited s.coordinator := by
  obtain ⟨stamp, ops, run⟩ := re
  induction run with
  | nil =>
    intro k f
    rfl
  | @snoc ops s op run ok ih =>
    have re : Reachable s := ⟨stamp, ops, run⟩
    exact ih.next re.exact re.lawful ok

end Operations

end JobCluster.Coordinator
