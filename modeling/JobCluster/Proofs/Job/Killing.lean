import JobCluster.Proofs.Job.Ledger
import JobCluster.Proofs.Job.Running

/-!
# Attempts that are killed

A kill is recorded in three places of a job: in its log, in a total and in a count.
`Job.noteKilled` says what the records of a job become when several attempts are killed one after
another, each with a reading of the clock of its own, and `foldl_recordKilled` that the kills of an
abort, which share one reading, come to that.

`abort_eq_noteKilled` so describes the end of all that is open in a job as one change: all tasks are
aborted, and the attempts that ran (`Job.underWay`) are recorded as killed.
-/

namespace JobCluster.Coordinator

open JobCluster.Number JobCluster.Text JobCluster.Time

/-- The entry of the log for an attempt of a task that ends at a moment. -/
def endEvent (status : CompletionStatus) (now : Instant) (n : Nat) (e : Task × Attempt) :
    CompletionEvent where
  eventId := .ofNat n
  attemptId := e.2.id
  taskIndex := e.1.index
  isMap := e.1.kind == .map
  status := status
  trackerHost := e.2.host
  runTimeMs := .ofNat (now.millisSince e.2.startedAt)

/-- The entries of the log for attempts that are killed, one after another. The clock tells for each
attempt when it ends. -/
def killEvents (clock : AttemptId → Instant) (n : Nat) (es : List (Task × Attempt)) :
    List CompletionEvent :=
  es.mapIdx fun i e => endEvent .killed (clock e.2.id) (n + i) e

/-- The counts after kills of attempts at tasks of some kinds. -/
def countKills (cs : Counters) (kinds : List TaskKind) : Counters :=
  kinds.foldl (fun cs kind => cs.increment Counters.jobGroup (killedName kind) 1) cs

section Records

variable {clock : AttemptId → Instant} {n : Nat} {es : List (Task × Attempt)}
  {cs : Counters} {kinds kinds' : List TaskKind}

/-- One event is logged for each attempt that is killed. -/
lemma length_killEvents : (killEvents clock n es).length = es.length := List.length_mapIdx

/-- Each kill is counted once, by the kind of its task. -/
lemma counts_countKills (cs : Counters) (kinds : List TaskKind) (kind : TaskKind) :
    Counts ((countKills cs kinds).value Counters.jobGroup (killedName kind))
      ((cs.value Counters.jobGroup (killedName kind)).toNat + kinds.count kind) := by
  induction kinds generalizing cs with
  | nil => exact .self _
  | cons k kinds ih =>
    have rest := ih (cs.increment Counters.jobGroup (killedName k) 1)
    rw [Counters.value_increment] at rest
    simp only [true_and, Job.killedName_inj] at rest
    rw [countKills, List.foldl_cons, ← countKills, List.count_cons]
    by_cases same : kind = k
    · subst same
      rw [if_pos rfl, Counts, toNat_satAdd] at rest
      rw [beq_self_eq_true, if_pos rfl, Counts, rest]
      have one : (1 : UInt64).toNat = 1 := rfl
      omega
    · have apart : (k == kind) = false := by simpa using fun e : k = kind => same e.symm
      rw [if_neg same] at rest
      rw [apart, if_neg Bool.false_ne_true]
      exact rest

/-- In which order kills are counted does not matter. -/
lemma countKills_perm (cs : Counters) (perm : kinds.Perm kinds') :
    countKills cs kinds = countKills cs kinds' :=
  perm.foldl_eq' (fun _ _ _ _ _ => Counters.increment_comm ..) cs

/-- Nothing else is counted. -/
lemma value_countKills_of_ne {g name : String}
    (other : ∀ kind, ¬(g = Counters.jobGroup ∧ name = killedName kind)) :
    (countKills cs kinds).value g name = cs.value g name := by
  induction kinds generalizing cs with
  | nil => rfl
  | cons k kinds ih =>
    rw [countKills, List.foldl_cons]
    exact ih.trans (by rw [Counters.value_increment, if_neg (other k)])

end Records

namespace Job

/-- The attempts that run, with their tasks. -/
def underWay (j : Job) : List (Task × Attempt) :=
  j.allTasks.flatMap fun t => t.running.map fun a => (t, a)

/-- A job that has attempts recorded as killed. -/
def noteKilled (j : Job) (es : List (Task × Attempt)) (clock : AttemptId → Instant) : Job :=
  { j with
    events := j.events ++ killEvents clock j.events.length es
    counters := countKills j.counters (es.map (·.1.kind))
    killedTasks := j.killedTasks + es.length }

section Kills

variable {j : Job} {now : Instant} {reason : String}

/-- Without a kill nothing is recorded. -/
lemma noteKilled_nil (j : Job) (clock : AttemptId → Instant) : j.noteKilled [] clock = j := by
  simp [noteKilled, killEvents, countKills]

/-- The record of one kill. -/
lemma recordKilled_eq (j : Job) (t : Task) (a : Attempt) (notes : List String)
    (clock : AttemptId → Instant) :
    j.recordKilled t (a.close .killed (clock a.id) notes) (clock a.id) =
      j.noteKilled [(t, a)] clock := rfl

/-- Kills that are recorded in two goes are recorded as in one. -/
lemma noteKilled_append (j : Job) (es es' : List (Task × Attempt)) (clock : AttemptId → Instant) :
    (j.noteKilled es clock).noteKilled es' clock = j.noteKilled (es ++ es') clock := by
  have events : killEvents clock j.events.length es ++
      killEvents clock (j.events.length + es.length) es' =
        killEvents clock j.events.length (es ++ es') := by
    simp only [killEvents, List.mapIdx_append, Nat.add_assoc, Nat.add_comm es.length]
  simp only [noteKilled, List.length_append, length_killEvents, List.append_assoc, events,
    countKills, List.map_append, List.foldl_append, Nat.add_assoc]

/-- Recording kills one after another, all with one reading of the clock. -/
lemma foldl_recordKilled (j : Job) (es : List (Task × Attempt)) (notes : List String)
    (now : Instant) :
    es.foldl (fun j e => j.recordKilled e.1 (e.2.close .killed now notes) now) j =
      j.noteKilled es fun _ => now := by
  induction es generalizing j with
  | nil => exact (noteKilled_nil j _).symm
  | cons e es ih =>
    rw [List.foldl_cons, ih, recordKilled_eq _ _ _ _ fun _ => now, noteKilled_append]
    rfl

/-- An abort ends what runs. -/
lemma ended_eq (tasks : ∀ t ∈ j.allTasks, t.Lawful) (reason : String) (now : Instant) :
    j.ended reason now = j.underWay.map fun e => (e.1, e.2.close .killed now [reason]) := by
  rw [ended, underWay, List.map_flatMap]
  refine List.flatMap_congr fun t mem => ?_
  rw [(tasks t mem).aborted_eq, List.map_map, List.map_map]
  rfl

/-- To abort a job is to abort its tasks, and to record what ran as killed. -/
lemma abort_eq_noteKilled (tasks : ∀ t ∈ j.allTasks, t.Lawful) (reason : String) (now : Instant) :
    (j.abort reason now).1 = (j.allAborted reason now).noteKilled j.underWay fun _ => now := by
  rw [abort_eq, ended_eq tasks, List.foldl_map]
  exact foldl_recordKilled ..

/-- The running attempts are those under way, without their tasks. -/
lemma running_eq_map_underWay (j : Job) : j.running = j.underWay.map Prod.snd := by
  simp [running, underWay, List.map_flatMap, Function.comp_def]

/-- What is under way is a running attempt of a task of the job. -/
lemma mem_underWay {e : Task × Attempt} :
    e ∈ j.underWay ↔ e.1 ∈ j.allTasks ∧ e.2 ∈ e.1.attempts ∧ e.2.isRunning := by
  obtain ⟨t, a⟩ := e
  simp only [underWay, List.mem_flatMap, List.mem_map, Prod.mk.injEq, Task.running,
    List.mem_filter]
  constructor
  · rintro ⟨_, mem, _, here, rfl, rfl⟩
    exact ⟨mem, here⟩
  · rintro ⟨mem, here⟩
    exact ⟨t, mem, a, here, rfl, rfl⟩

/-- No two attempts under way share a name. -/
lemma Lawful.underWay_ids_nodup (lw : j.Lawful) : (j.underWay.map (·.2.id)).Nodup := by
  have ids := lw.running_ids_nodup
  rwa [running_eq_map_underWay, List.map_map] at ids

/-- The end of an attempt leaves the others under way. -/
lemma underWay_setTask (lw : j.Lawful) {kind : TaskKind} {index : Nat} {t t' : Task} {a : Attempt}
    (pick : (j.tasks kind)[index]? = some t) (mem : a ∈ t.attempts) (run : a.isRunning)
    (none : t'.running = []) :
    (j.setTask kind index t').underWay = j.underWay.filter (·.2.id != a.id) := by
  obtain ⟨p, q, e, es⟩ := allTasks_setTask pick
  have lwt := lw.tasks t (mem_of_pick pick)
  have nodup := lw.underWay_ids_nodup
  have before : j.underWay = (p.flatMap fun t => t.running.map fun a => (t, a)) ++
      (t, a) :: q.flatMap fun t => t.running.map fun a => (t, a) := by
    simp [underWay, e, lwt.running_eq_singleton mem run]
  have after : (j.setTask kind index t').underWay =
      (p.flatMap fun t => t.running.map fun a => (t, a)) ++
        q.flatMap fun t => t.running.map fun a => (t, a) := by
    simp [underWay, es, none]
  rw [before] at nodup ⊢
  rw [after]
  -- names are distinct, so only the one of the attempt is left out
  rw [List.map_append, List.map_cons, List.nodup_middle, List.nodup_cons,
    ← List.map_append] at nodup
  rw [List.filter_append, List.filter_cons_of_neg (by simp), ← List.filter_append,
    List.filter_eq_self.2]
  intro x memx
  have ne : x.2.id ≠ a.id := fun same => nodup.1 (same ▸ List.mem_map_of_mem memx)
  simpa using ne

end Kills

end Job

end JobCluster.Coordinator
