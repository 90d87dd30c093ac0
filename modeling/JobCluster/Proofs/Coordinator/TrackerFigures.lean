import JobCluster.Proofs.Coordinator.Credit
import JobCluster.Proofs.Coordinator.Revival
import Mathlib.Algebra.Field.Rat
import Mathlib.Algebra.Order.Field.Basic
import Mathlib.Algebra.Order.Ring.Rat
import Mathlib.Tactic.NormNum

/-!
# The figures of a tracker

What the metrics say of a tracker is read off its attempts. `tracker_counts_kept` is about the
counts: those of the attempts that were launched on the tracker, of those that succeeded and of
those that failed, which together with the killed ones and those that run are all.

`task_time_kept` is about the mean time of a task. It is taken over the attempts that are counted,
but the time that is summed up is also that of attempts that were killed by themselves. It is
therefore never below the mean of the counted attempts, and equal to it just where no time went to
killed ones; `killed_time_averaged` is a run in which it is above the longest of them.
-/

namespace JobCluster.Coordinator

open JobCluster.Number JobCluster.Time

/-! ## The attempts of a tracker -/

/-- The attempts that were launched on a tracker, over all jobs. -/
def attemptsOn (c : Coordinator) (k : TrackerId) : List Attempt :=
  c.attempts.filter (·.tracker == k)

/-- How many attempts of a tracker are in a state. -/
def countOn (c : Coordinator) (k : TrackerId) (s : AttemptState) : Nat :=
  (c.attemptsOn k).countP (·.state == s)

/-- The attempts of a tracker that succeeded or failed. -/
def countedOn (c : Coordinator) (k : TrackerId) : List Attempt :=
  (c.attemptsOn k).filter Attempt.isCounted

/-- The attempts of a tracker that were killed by themselves. -/
def killedAloneOn (c : Coordinator) (k : TrackerId) : List Attempt :=
  (c.attemptsOn k).filter Attempt.killedAlone

/-- How long attempts ran, summed. -/
def timeOf (as : List Attempt) : Nat := (as.map Attempt.ran).sum

section Sums

variable {c : Coordinator} {k : TrackerId} {f : Figure}

/-- What is left out adds nothing. -/
lemma sum_filter {α : Type} (p : α → Bool) (w : α → Nat) (xs : List α) :
    (xs.map fun x => if p x then w x else 0).sum = ((xs.filter p).map w).sum := by
  induction xs with
  | nil => rfl
  | cons x xs ih =>
    rw [List.map_cons, List.sum_cons, ih, List.filter_cons]
    split
    · rw [List.map_cons, List.sum_cons]
    · exact Nat.zero_add _

/-- Ones add up to a count. -/
lemma sum_indicator {α : Type} (p : α → Bool) (xs : List α) :
    (xs.map fun x => if p x then 1 else 0).sum = xs.countP p := by
  rw [sum_filter p fun _ => 1, List.countP_eq_length_filter, List.map_const',
    List.sum_replicate_nat, Nat.mul_one]

/-- What attempts add to the figure of a tracker is what those of the tracker add. -/
lemma weight_on (c : Coordinator) (k : TrackerId) (f : Figure) :
    c.weight (f.on k) = ((c.attemptsOn k).map f.weight).sum := by
  rw [attemptsOn, ← sum_filter, weight]
  simp only [beq_iff_eq]
  rfl

/-- Every attempt on a tracker is in one of four states. -/
lemma length_attemptsOn (c : Coordinator) (k : TrackerId) :
    (c.attemptsOn k).length =
      c.countOn k .succeeded + c.countOn k .failed + c.countOn k .killed +
        c.countOn k .running := by
  unfold countOn
  induction c.attemptsOn k with
  | nil => rfl
  | cons a as ih =>
    simp only [List.length_cons, List.countP_cons, ih]
    cases a.state <;> simp <;> omega

/-- The counted attempts are those that succeeded or failed. -/
lemma length_countedOn (c : Coordinator) (k : TrackerId) :
    (c.countedOn k).length = c.countOn k .succeeded + c.countOn k .failed := by
  unfold countedOn countOn
  rw [← List.countP_eq_length_filter]
  induction c.attemptsOn k with
  | nil => rfl
  | cons a as ih =>
    have here : a.isCounted = (a.state == .succeeded || a.state == .failed) := rfl
    rw [List.countP_cons, List.countP_cons, List.countP_cons, ih, here]
    cases a.state <;> simp <;> omega

/-- The time of attempts that ended by themselves: of those that are counted and of the killed. -/
lemma sum_time (as : List Attempt) : (as.map Figure.time.weight).sum =
    timeOf (as.filter Attempt.isCounted) + timeOf (as.filter Attempt.killedAlone) := by
  rw [timeOf, timeOf, ← sum_filter, ← sum_filter, ← List.sum_map_add]
  refine congrArg List.sum (List.map_congr_left fun a _ => ?_)
  have apart : ¬(a.isCounted ∧ a.killedAlone) := by
    rintro ⟨counted, killed⟩
    have st : a.state = .killed := by
      simpa using (Bool.and_eq_true_iff.1 killed).1
    simp [Attempt.isCounted, st] at counted
  rw [Figure.weight]
  cases counted : a.isCounted <;> cases killed : a.killedAlone <;> simp_all

/-- What runs on a tracker, counted among its attempts. -/
lemma countP_running (c : Coordinator) (k : TrackerId) :
    (c.running.countP fun e => e.2.tracker == k) = c.countOn k .running := by
  rw [countOn, attemptsOn, List.countP_filter,
    ← Function.comp_def (fun a : Attempt => a.tracker == k), ← List.countP_map, running_map_snd,
    liveAttempts_eq_filter, List.countP_filter]
  refine List.countP_congr fun a _ => ?_
  simp [Attempt.isRunning, and_comm]

end Sums

/-! ## Counts -/

/-- What is counted of a tracker. -/
def Tracker.counts (t : Tracker) : Nat × Nat × Nat := (t.started, t.succeeded, t.failed)

/-- The counts of all trackers are those of their attempts. The metrics have one entry for each
tracker, where the counts are cut to words; they add up there as long as the words hold them. -/
structure CountsKept (c : Coordinator) : Prop where
  registered : ∀ a ∈ c.attempts, (c.tracker? a.tracker).isSome
  started : ∀ k t, c.tracker? k = some t → t.started = (c.attemptsOn k).length
  succeeded : ∀ k t, c.tracker? k = some t → t.succeeded = c.countOn k .succeeded
  failed : ∀ k t, c.tracker? k = some t → t.failed = c.countOn k .failed
  balance : ∀ k t, c.tracker? k = some t →
    t.started = t.succeeded + t.failed + c.countOn k .killed + c.countOn k .running
  listed : ∀ now k, (c.tracker? k).isSome →
    ∃ m, (c.trackerMetrics now).filter (·.trackerId == k) = [m]
  metrics : ∀ now, ∀ m ∈ c.trackerMetrics now,
    m.tasksStarted = .ofNat (c.attemptsOn m.trackerId).length ∧
    m.tasksSucceeded = .ofNat (c.countOn m.trackerId .succeeded) ∧
    m.tasksFailed = .ofNat (c.countOn m.trackerId .failed) ∧
    m.runningAttempts = .ofNat (c.countOn m.trackerId .running)
  metrics_balance : ∀ now, ∀ m ∈ c.trackerMetrics now,
    (c.attemptsOn m.trackerId).length < 2 ^ 64 → c.countOn m.trackerId .running < 2 ^ 32 →
    m.tasksStarted.toNat = m.tasksSucceeded.toNat + m.tasksFailed.toNat +
      c.countOn m.trackerId .killed + m.runningAttempts.toNat

section Counts

variable {c c' : Coordinator} {s s' : System} {k : TrackerId} {f : Figure}

/-- A figure is what the attempts on the tracker weigh. -/
lemma Credited.figure_eq (cr : Credited c) {t : Tracker} (found : c.tracker? k = some t)
    (f : Figure) : f.of t = ((c.attemptsOn k).map f.weight).sum := by
  rw [← weight_on, ← cr, figure_of_tracker found]

/-- All attempts on a tracker were started there. -/
lemma Credited.started (cr : Credited c) {t : Tracker} (found : c.tracker? k = some t) :
    t.started = (c.attemptsOn k).length := by
  have ones : (c.attemptsOn k).map Figure.started.weight = (c.attemptsOn k).map fun _ => 1 := rfl
  rw [show t.started = _ from cr.figure_eq found .started, ones, List.map_const',
    List.sum_replicate_nat, Nat.mul_one]

/-- The attempts that succeeded on a tracker are counted. -/
lemma Credited.succeeded (cr : Credited c) {t : Tracker} (found : c.tracker? k = some t) :
    t.succeeded = c.countOn k .succeeded := by
  rw [show t.succeeded = _ from cr.figure_eq found .succeeded, countOn, ← sum_indicator]
  simp only [beq_iff_eq]
  rfl

/-- The attempts that failed on a tracker are counted. -/
lemma Credited.failed (cr : Credited c) {t : Tracker} (found : c.tracker? k = some t) :
    t.failed = c.countOn k .failed := by
  rw [show t.failed = _ from cr.figure_eq found .failed, countOn, ← sum_indicator]
  simp only [beq_iff_eq]
  rfl

/-- The counts are kept, in any reachable system. -/
lemma Reachable.countsKept (re : Reachable s) : CountsKept s.coordinator := by
  have cr := re.credited
  have metricsOf {now : Instant} {m : TrackerMetrics}
      (mem : m ∈ s.coordinator.trackerMetrics now) :
      ∃ t, s.coordinator.tracker? m.trackerId = some t ∧
        m = s.coordinator.metricsOf now m.trackerId t := by
    obtain ⟨e, meme, rfl⟩ := mem_trackerMetrics mem
    exact ⟨e.2, re.tracker?_of_mem meme, rfl⟩
  -- the metrics are the counts of the entry, each cut to a word
  have metrics (now : Instant) (m : TrackerMetrics) (mem : m ∈ s.coordinator.trackerMetrics now) :
      m.tasksStarted = .ofNat (s.coordinator.attemptsOn m.trackerId).length ∧
      m.tasksSucceeded = .ofNat (s.coordinator.countOn m.trackerId .succeeded) ∧
      m.tasksFailed = .ofNat (s.coordinator.countOn m.trackerId .failed) ∧
      m.runningAttempts = .ofNat (s.coordinator.countOn m.trackerId .running) := by
    obtain ⟨t, found, e⟩ := metricsOf mem
    generalize m.trackerId = k at found e ⊢
    rw [e, ← cr.started found, ← cr.succeeded found, ← cr.failed found, ← countP_running]
    exact ⟨rfl, rfl, rfl, rfl⟩
  refine ⟨fun a mem => cr.registered mem, fun k t found => cr.started found,
    fun k t found => cr.succeeded found, fun k t found => cr.failed found, ?_, ?_, metrics, ?_⟩
  · intro k t found
    rw [cr.started found, cr.succeeded found, cr.failed found, length_attemptsOn]
  · intro now k registered
    obtain ⟨t, found⟩ := Option.isSome_iff_exists.1 registered
    exact ⟨_, re.metrics_of_tracker found now⟩
  · intro now m mem fits few
    obtain ⟨started, succeeded, failed, running⟩ := metrics now m mem
    have all := length_attemptsOn s.coordinator m.trackerId
    have size : UInt64.size = 2 ^ 64 := rfl
    rw [started, succeeded, failed, running, UInt64.toNat_ofNat_of_lt' fits,
      UInt64.toNat_ofNat_of_lt' (by omega), UInt64.toNat_ofNat_of_lt' (by omega),
      UInt32.toNat_ofNat_of_lt' few]
    exact all

/-- Where the attempts of a tracker stand alike in two states, its counts are equal. -/
lemma counts_congr (kept : CountsKept c) (kept' : CountsKept c') {t t' : Tracker}
    (found : c.tracker? k = some t) (found' : c'.tracker? k = some t')
    (alike : ((c.attemptsOn k).map Attempt.state).Perm ((c'.attemptsOn k).map Attempt.state)) :
    t.counts = t'.counts := by
  have length : (c.attemptsOn k).length = (c'.attemptsOn k).length := by
    simpa using alike.length_eq
  have count (st : AttemptState) : c.countOn k st = c'.countOn k st := by
    have same := alike.countP_eq (· == st)
    rwa [List.countP_map, List.countP_map] at same
  rw [Tracker.counts, Tracker.counts, kept.started k t found, kept'.started k t' found',
    kept.succeeded k t found, kept'.succeeded k t' found', kept.failed k t found,
    kept'.failed k t' found', length, count, count]

/-- What keeps the counts of a record keeps those of the coordinator. -/
lemma counts_of_map {g : Tracker → Tracker} (same : c'.tracker? k = (c.tracker? k).map g)
    (keeps : ∀ t, (g t).counts = t.counts) :
    (c'.tracker? k).map Tracker.counts = (c.tracker? k).map Tracker.counts := by
  rw [same, Option.map_map]
  exact congrArg (fun f => Option.map f (c.tracker? k)) (funext keeps)

/-- The end of a lost attempt changes no counts. -/
lemma counts_loseAttempt (id : AttemptId) (ref : AttemptRef) (now : Instant) :
    ((c.loseAttempt id ref now).tracker? k).map Tracker.counts =
      (c.tracker? k).map Tracker.counts := by
  unfold loseAttempt
  split
  · next e =>
    obtain ⟨j, cl, -, -, rfl, rfl⟩ := finishAttempt_eq_some e
    refine (counts_of_map (tracker?_notifyKills _) fun t => rfl).trans ?_
    refine counts_of_map (tracker?_changeTracker (c := c.setJob cl.job) _) fun t => ?_
    split <;> rfl
  · rfl

/-- Lost attempts are killed, so they change no count. -/
lemma counts_loseAttempts (lost : List (AttemptId × AttemptRef)) (clock : AttemptId → Instant) :
    ((c.loseAttempts lost clock).tracker? k).map Tracker.counts =
      (c.tracker? k).map Tracker.counts := by
  induction lost generalizing c with
  | nil => rfl
  | cons l lost ih => exact Eq.trans ih (counts_loseAttempt l.1 l.2 (clock l.1))

/-- A heartbeat changes no count. -/
lemma counts_heartbeat {h : Heartbeat} {now : Instant} {answer : List AttemptId × Coordinator}
    (e : c.heartbeat h now = some answer) :
    (answer.2.tracker? k).map Tracker.counts = (c.tracker? k).map Tracker.counts := by
  obtain ⟨t, -, rfl⟩ := Option.map_eq_some_iff.1 e
  refine counts_of_map (tracker?_changeTracker _) fun t => ?_
  split <;> rfl

/-- Whether an operation is one in which trackers die or come back. -/
def Operation.IsVital : Operation → Prop
  | .sweep .. | .heartbeat .. => True
  | _ => False

/-- Trackers die and come back with their counts. -/
lemma counts_of_vital {op : Operation} (vital : op.IsVital) (c : Coordinator) (k : TrackerId) :
    ((op.apply c).tracker? k).map Tracker.counts = (c.tracker? k).map Tracker.counts := by
  cases op with
  | sweep now timeout lost clock =>
    rw [Operation.apply, counts_loseAttempts]
    refine counts_of_map (tracker?_markDead _) fun t => ?_
    split <;> rfl
  | heartbeat h now =>
    rw [Operation.apply]
    cases e : c.heartbeat h now with
    | none => rfl
    | some answer => exact counts_heartbeat e
  | _ => exact vital.elim

end Counts

/-- In every run the counts of each tracker are those of its attempts. They depend on nothing else:
in any two runs in which the attempts of a tracker stand alike, its counts are equal. When trackers
die or come back, the counts of all trackers stay. -/
theorem tracker_counts_kept {s : System} (re : Reachable s) :
    CountsKept s.coordinator ∧
    (∀ s', Reachable s' → ∀ k t t', s.coordinator.tracker? k = some t →
      s'.coordinator.tracker? k = some t' →
      ((s.coordinator.attemptsOn k).map Attempt.state).Perm
        ((s'.coordinator.attemptsOn k).map Attempt.state) → t.counts = t'.counts) ∧
    ∀ op, s.Permits op → op.IsVital → ∀ k,
      ((s.next op).coordinator.tracker? k).map Tracker.counts =
        (s.coordinator.tracker? k).map Tracker.counts :=
  ⟨re.countsKept, fun _ re' _ _ _ found found' alike =>
    counts_congr re.countsKept re'.countsKept found found' alike,
    fun _ _ vital k => counts_of_vital vital s.coordinator k⟩

/-- A tracker that is lost has started two attempts. One was killed by a user and one runs; the
sweep kills that one too, and the counts of the tracker stay. -/
theorem sample_tracker_counts_kept :
    (lossSystem.coordinator.countOn "t1" .killed = 1 ∧
      lossSystem.coordinator.countOn "t1" .running = 1 ∧
      (lossSystem.next lossSweep).coordinator.countOn "t1" .killed = 2) ∧
    CountsKept lossSystem.coordinator ∧
    ((lossSystem.next lossSweep).coordinator.tracker? "t1").map Tracker.counts =
      some (2, 0, 0) := by
  have kept := tracker_counts_kept ⟨_, _, loss_run⟩
  refine ⟨by decide +kernel, kept.1, ?_⟩
  rw [kept.2.2 lossSweep (by decide +kernel) trivial]
  decide +kernel

/-! ## The mean time of a task -/

/-- The mean time that attempts ran. -/
def meanOf (as : List Attempt) : ℚ := timeOf as / as.length

/-- The mean time of a task, as it is summed up for a tracker. -/
def Tracker.meanTime (t : Tracker) : ℚ := t.taskTime / (t.succeeded + t.failed : ℕ)

/-- What the mean time of a task is made of: the time of the attempts that are counted, each from
its start to its end, and the time of those that were killed by themselves. It is the mean of the
counted attempts if no time went to killed ones, and else more. The metrics tell it in the one entry
that they have for the tracker. -/
structure TimeKept (c : Coordinator) (k : TrackerId) (t : Tracker) : Prop where
  ended : ∀ a ∈ c.attemptsOn k, a.isRunning = false →
    ∃ i, a.finishedAt = some i ∧ a.ran = i.millisSince a.startedAt
  finished : t.succeeded + t.failed = (c.countedOn k).length
  time : t.taskTime = timeOf (c.countedOn k) + timeOf (c.killedAloneOn k)
  told : ∀ now, ∃ m, (c.trackerMetrics now).filter (·.trackerId == k) = [m] ∧ m.avgTaskMs =
    if c.countedOn k = [] then none
    else some (.quotient double t.taskTime (c.countedOn k).length)
  mean : t.meanTime = meanOf (c.countedOn k) + timeOf (c.killedAloneOn k) / (c.countedOn k).length
  exact : c.countedOn k ≠ [] →
    (t.meanTime = meanOf (c.countedOn k) ↔ ∀ a ∈ c.killedAloneOn k, a.ran = 0)
  least : c.countedOn k ≠ [] → ∀ n : ℕ, (∀ a ∈ c.countedOn k, n ≤ a.ran) → n ≤ t.meanTime
  largest : (∀ a ∈ c.killedAloneOn k, a.ran = 0) →
    ∀ n : ℕ, (∀ a ∈ c.countedOn k, a.ran ≤ n) → t.meanTime ≤ n

section Time

variable {c : Coordinator} {s : System} {k : TrackerId} {as : List Attempt}

/-- Attempts took no time if none of them did. -/
lemma timeOf_eq_zero : timeOf as = 0 ↔ ∀ a ∈ as, a.ran = 0 := by
  rw [timeOf, List.sum_eq_zero_iff_forall_eq_nat]
  simp

/-- Attempts that each took so long took that together. -/
lemma le_timeOf {n : ℕ} (le : ∀ a ∈ as, n ≤ a.ran) : as.length * n ≤ timeOf as := by
  induction as with
  | nil => simp
  | cons a as ih =>
    have rest := ih fun b mem => le b (List.mem_cons_of_mem _ mem)
    have here := le a List.mem_cons_self
    rw [List.length_cons, Nat.add_one_mul, timeOf, List.map_cons, List.sum_cons]
    rw [timeOf] at rest
    omega

/-- Attempts that took no longer each took no longer together. -/
lemma timeOf_le {n : ℕ} (le : ∀ a ∈ as, a.ran ≤ n) : timeOf as ≤ as.length * n := by
  induction as with
  | nil => simp [timeOf]
  | cons a as ih =>
    have rest := ih fun b mem => le b (List.mem_cons_of_mem _ mem)
    have here := le a List.mem_cons_self
    rw [List.length_cons, Nat.add_one_mul, timeOf, List.map_cons, List.sum_cons]
    rw [timeOf] at rest
    omega

/-- An attempt that does not run has an end. -/
lemma Reachable.ended (re : Reachable s) {a : Attempt} (mem : a ∈ s.coordinator.attempts)
    (no : a.isRunning = false) : a.finishedAt.isSome := by
  -- an attempt weighs something if it has neither an end nor runs; no step makes such an attempt
  let w (a : Attempt) : Nat := if a.isRunning || a.finishedAt.isSome then 0 else 1
  have none : ∀ j ∈ s.coordinator.jobs, j.weight w = 0 :=
    re.forall_jobs (P := fun j => j.weight w = 0) (fun _ _ _ => rfl) fun j m j' st lw zero => by
      have le := st.weight_le (w := w) lw (fun a run => by simp [w, run]) fun a o now notes => by
        simp [w, Attempt.close]
      omega
  obtain ⟨j, memj, mem⟩ := List.mem_flatMap.1 mem
  have here := List.sum_eq_zero_iff_forall_eq_nat.1 (none j memj) _ (List.mem_map_of_mem mem)
  simpa [w, no, Option.isSome_iff_ne_none] using here

/-- The time is that of the counted attempts and of those that were killed alone. -/
lemma Credited.taskTime (cr : Credited c) {t : Tracker} (found : c.tracker? k = some t) :
    t.taskTime = timeOf (c.countedOn k) + timeOf (c.killedAloneOn k) :=
  (cr.figure_eq found .time).trans (sum_time _)

end Time

/-- In every run the mean time of a task on a tracker is made of the times of its attempts. -/
theorem task_time_kept {s : System} (re : Reachable s) :
    ∀ k t, s.coordinator.tracker? k = some t → TimeKept s.coordinator k t := by
  intro k t found
  have cr := re.credited
  have time := cr.taskTime found
  have finished : t.succeeded + t.failed = (s.coordinator.countedOn k).length := by
    rw [length_countedOn, cr.succeeded found, cr.failed found]
  -- the time of what was killed alone is spread over the counted attempts
  have mean : t.meanTime = meanOf (s.coordinator.countedOn k) +
      timeOf (s.coordinator.killedAloneOn k) / (s.coordinator.countedOn k).length := by
    rw [Tracker.meanTime, finished, time, Nat.cast_add, add_div, meanOf]
  have pos (some : s.coordinator.countedOn k ≠ []) :
      (0 : ℚ) < (s.coordinator.countedOn k).length :=
    Nat.cast_pos.2 (List.length_pos_iff.2 some)
  refine ⟨fun a mem no => ?_, finished, time, ?_, mean, ?_, ?_, ?_⟩
  · obtain ⟨i, e⟩ := Option.isSome_iff_exists.1 (re.ended (List.mem_of_mem_filter mem) no)
    refine ⟨i, e, ?_⟩
    rw [Attempt.ran, Attempt.runTime, e]
    rfl
  · intro now
    refine ⟨_, re.metrics_of_tracker found now, ?_⟩
    rw [metricsOf, finished]
    simp only [List.length_eq_zero_iff]
  · intro some
    rw [mean, add_eq_left, div_eq_zero_iff, or_iff_left (pos some).ne', Nat.cast_eq_zero,
      timeOf_eq_zero]
  · intro some n le
    rw [Tracker.meanTime, finished, le_div_iff₀ (pos some), mul_comm, time]
    exact_mod_cast Nat.le_trans (le_timeOf le) (Nat.le_add_right _ _)
  · intro none n le
    rw [mean, timeOf_eq_zero.2 none, Nat.cast_zero, zero_div, add_zero, meanOf]
    apply div_le_of_le_mul₀ (Nat.cast_nonneg _) (Nat.cast_nonneg _)
    rw [mul_comm]
    exact_mod_cast timeOf_le le

/-- The system after a run in which a user kills an attempt after ten seconds, and the next attempt
at the task succeeds after two. -/
def userKillSystem : System :=
  let clock := Instant.ofSeconds
  oneMapSystem.after [.register "t1" ⟨"h1", 1, 0⟩ (clock 0), .assign "t1" (clock 0),
    .killAttempt oneMapAttempt false (.still (clock 10)), .assign "t1" (clock 10),
    .complete ⟨"attempt_202601020304_0001_m_000000_1", true, Counters.empty, []⟩
      (.still (clock 12))]

/-- The sample system is reachable. -/
lemma userKill_reachable : Reachable userKillSystem :=
  (Run.of_permitsAll (by decide +kernel)).reachable oneMap_reachable

/-- In that run the time of the killed attempt is averaged over the attempt that succeeded: the mean
time that is told is 12 seconds, and the only attempt that is counted ran for two. -/
theorem killed_time_averaged : Reachable userKillSystem ∧
    ∃ t, userKillSystem.coordinator.tracker? "t1" = some t ∧
      t.succeeded + t.failed = 1 ∧
      (userKillSystem.coordinator.countedOn "t1").map Attempt.ran = [2000] ∧
      t.taskTime = 12000 ∧
      t.taskTime ≠ timeOf (userKillSystem.coordinator.countedOn "t1") ∧
      t.meanTime ≠ meanOf (userKillSystem.coordinator.countedOn "t1") ∧
      (∀ a ∈ userKillSystem.coordinator.countedOn "t1", (a.ran : ℚ) < t.meanTime) ∧
      (userKillSystem.coordinator.trackerMetrics (.ofSeconds 12)).map TrackerMetrics.avgTaskMs =
        [some (Binary.ofNat double 12000)] := by
  obtain ⟨t, found, finished, time⟩ : ∃ t ∈ userKillSystem.coordinator.tracker? "t1",
      t.succeeded + t.failed = 1 ∧ t.taskTime = 12000 := by decide +kernel
  have ran : (userKillSystem.coordinator.countedOn "t1").map Attempt.ran = [2000] := by
    decide +kernel
  have length : (userKillSystem.coordinator.countedOn "t1").length = 1 := by
    simpa using congrArg List.length ran
  have total : timeOf (userKillSystem.coordinator.countedOn "t1") = 2000 := by
    rw [timeOf, ran]
    rfl
  have mean : t.meanTime = 12000 := by
    rw [Tracker.meanTime, finished, time]
    norm_num
  refine ⟨userKill_reachable, t, found, finished, ran, time, ?_, ?_, fun a mem => ?_,
    by decide +kernel⟩
  · rw [time, total]
    decide
  · rw [mean, meanOf, total, length]
    norm_num
  · have here : a.ran ∈ [2000] := ran ▸ List.mem_map_of_mem mem
    rw [mean, List.mem_singleton.1 here]
    norm_num

/-- On its tracker, the run times of the counted attempt and of the killed one are all that is
summed up. -/
theorem sample_task_time_kept :
    userKillSystem.coordinator.killedAloneOn "t1" ≠ [] ∧
    ∃ t, userKillSystem.coordinator.tracker? "t1" = some t ∧
      TimeKept userKillSystem.coordinator "t1" t := by
  refine ⟨by decide +kernel, ?_⟩
  obtain ⟨t, found⟩ := Option.isSome_iff_exists.1
    (show (userKillSystem.coordinator.tracker? "t1").isSome by decide +kernel)
  exact ⟨t, found, task_time_kept userKill_reachable "t1" t found⟩

end JobCluster.Coordinator
