import JobCluster.Proofs.Counters.Total
import JobCluster.Proofs.Job.Attempts
import Mathlib.Data.List.Perm.Basic

/-!
# The books of a job

The end of an attempt is written down four times: in its task, in the log of the job, in one of two
totals and in a count. `Job.Balanced` says how the four go together, and `Step.balanced` that every
step of a job keeps them so.

It has four parts. `Logged` says that the log has what the tasks have, in some order; `Books.Kept`
that the totals and counts have what the log has; `Dispatched` that the counts of launches have what
the tasks have; and `GivenUp` that a task was given up where the log says so. Each part is shown to
be kept by the few operations that steps are made of: a launch, the record of one end, an abort.
-/

namespace JobCluster

open JobCluster.Coordinator

/-- The state in which an attempt is left by an end of this kind. -/
def CompletionStatus.ended : CompletionStatus → Option AttemptState
  | .succeeded => some .succeeded
  | .failed | .tipFailed => some .failed
  | .killed => some .killed
  | .obsolete => none

end JobCluster

namespace JobCluster.Coordinator

open JobCluster.Number JobCluster.Time

/-- What there is to say about the end of an attempt: which one it was, of which task, where it ran
and how it ended. -/
structure Entry where
  attempt : AttemptId
  taskIndex : UInt32
  isMap : Bool
  host : String
  ended : Option AttemptState

/-- What the log says about the end of an attempt. -/
def Entry.ofEvent (e : CompletionEvent) : Entry :=
  ⟨e.attemptId, e.taskIndex, e.isMap, e.trackerHost, e.status.ended⟩

namespace Task

/-- What a task says about one of its attempts. -/
def entry (t : Task) (a : Attempt) : Entry :=
  ⟨a.id, t.index, t.kind == .map, a.host, some a.state⟩

/-- What a task says about the attempts that ended. -/
def entries (t : Task) : List Entry := (t.attempts.filter fun a => !a.isRunning).map t.entry

/-- How the log calls an end of an attempt at a task that is settled. -/
def endStatus (t : Task) : Outcome → CompletionStatus
  | .succeeded => .succeeded
  | .failed => if t.state = .failed then .tipFailed else .failed
  | .killed => .killed

/-- The status of an event tells how the attempt ended. -/
lemma endStatus_ended (t : Task) (o : Outcome) : (t.endStatus o).ended = some o.state := by
  cases o with
  | succeeded | killed => rfl
  | failed =>
    rw [endStatus]
    split <;> rfl

/-- An event says that the task failed if this attempt failed it. -/
lemma endStatus_eq_tipFailed (t : Task) (o : Outcome) :
    t.endStatus o = .tipFailed ↔ o = .failed ∧ t.state = .failed := by
  cases o <;> simp [endStatus]

/-- An entry depends on the kind and the index of the task only. -/
lemma entry_congr {t t' : Task} (ekind : t'.kind = t.kind) (eindex : t'.index = t.index) :
    t'.entry = t.entry := by
  funext a
  rw [entry, entry, ekind, eindex]

/-- A task whose running attempt ends says one thing more. -/
lemma Lawful.entries_closed {t : Task} (lw : t.Lawful) {a : Attempt} (mem : a ∈ t.attempts)
    (run : a.isRunning) (o : Outcome) (cs : Counters) (notes : List String) (now : Instant) :
    (t.closed a o cs notes now).entries =
      t.entries ++ [(t.closed a o cs notes now).entry (a.close o now notes)] := by
  obtain ⟨past, e, -, -, other⟩ := lw.last_running mem run
  have ended : (a.close o now notes).isRunning = false := by
    cases o <;> rfl
  -- the attempt that ends is the last one, so what there is to say of it comes last
  rw [entries, entries, closed_attempts e other, e, entry_congr (closed_kind ..) (closed_index ..)]
  simp [run, ended]

/-- A launch makes no entry, as nothing ended. -/
lemma entries_launch (t : Task) (tracker : TrackerId) (host : String) (now : Instant) :
    (t.launch tracker host now).entries = t.entries := by
  have same : (t.launch tracker host now).entry = t.entry := entry_congr rfl rfl
  rw [entries, entries, same]
  simp [launch, Attempt.isRunning]

/-- A task that is aborted says what it said, and what is to say about the attempts that this ends.
-/
lemma entries_abort (t : Task) (reason : String) (now : Instant) :
    (t.abort reason now).entries.Perm (t.entries ++ (t.aborted reason now).map t.entry) := by
  by_cases op : t.isOpen
  case neg =>
    rw [abort_of_not_isOpen now reason (by simpa using op), aborted, if_neg op]
    simp
  -- the abort maps over the attempts; what it does to those that ended before is nothing
  let killIt (a : Attempt) : Attempt := if a.isRunning then a.close .killed now [reason] else a
  have ended (a : Attempt) : (killIt a).isRunning = false := by
    by_cases run : a.isRunning
    · simp only [killIt, run, if_true]
      rfl
    · simp [killIt, run]
  have before : t.entries = (t.attempts.filter fun a => !a.isRunning).map (t.entry ∘ killIt) := by
    refine List.map_congr_left fun a mem => ?_
    have run : a.isRunning = false := by simpa using (List.mem_filter.1 mem).2
    simp [killIt, run]
  have more : (t.aborted reason now).map t.entry =
      (t.attempts.filter Attempt.isRunning).map (t.entry ∘ killIt) := by
    rw [aborted, if_pos op, List.map_map]
    refine List.map_congr_left fun a mem => ?_
    simp [killIt, (List.mem_filter.1 mem).2]
  have after : (t.abort reason now).entries = t.attempts.map (t.entry ∘ killIt) := by
    rw [entries, abort_attempts reason now op, entry_congr (abort_kind ..) (abort_index ..),
      List.filter_eq_self.2, List.map_map]
    intro b mem
    obtain ⟨a, -, rfl⟩ := List.mem_map.1 mem
    simpa using ended a
  rw [after, before, more, ← List.map_append]
  refine List.Perm.map _ (List.Perm.trans ?_ List.perm_append_comm)
  exact (List.filter_append_perm Attempt.isRunning t.attempts).symm

end Task

namespace Job

/-! ## The log -/

/-- The log has what the tasks say about the attempts that ended, each once. -/
def Logged (j : Job) : Prop := (j.events.map Entry.ofEvent).Perm (j.allTasks.flatMap Task.entries)

/-- Recording an end logs one event. -/
lemma record_events (j : Job) (t : Task) (a : Attempt) (o : Outcome) (now : Instant) :
    (j.record t a o now).events = (j.log t a (t.endStatus o) now).events := by
  cases o <;> rfl

/-- The event that is logged is the entry of the attempt. -/
lemma entries_record (j : Job) (t : Task) {a : Attempt} {o : Outcome} (st : a.state = o.state)
    (now : Instant) :
    (j.record t a o now).events.map Entry.ofEvent = j.events.map Entry.ofEvent ++ [t.entry a] := by
  rw [record_events, log, List.map_append, List.map_singleton, Entry.ofEvent, Task.entry, st,
    t.endStatus_ended]

/-- The attempts that an abort ends, with their tasks as they were. -/
def ended (j : Job) (reason : String) (now : Instant) : List (Task × Attempt) :=
  j.allTasks.flatMap fun t => (t.aborted reason now).map fun a => (t, a)

lemma abort_eq (j : Job) (reason : String) (now : Instant) :
    (j.abort reason now).1 = (j.ended reason now).foldl (fun j e => j.record e.1 e.2 .killed now)
      (j.allAborted reason now) := rfl

/-- An abort ends attempts as killed. -/
lemma state_of_ended {j : Job} {reason : String} {now : Instant} {e : Task × Attempt}
    (mem : e ∈ j.ended reason now) : e.2.state = .killed := by
  obtain ⟨t, -, mem⟩ := List.mem_flatMap.1 mem
  obtain ⟨a, mema, rfl⟩ := List.mem_map.1 mem
  by_cases op : t.isOpen
  · rw [Task.aborted, if_pos op] at mema
    obtain ⟨b, -, rfl⟩ := List.mem_map.1 mema
    rfl
  · rw [Task.aborted, if_neg op] at mema
    cases mema

/-- What recording keeps holds after stopping, if it holds once the attempts are closed. -/
lemma abort_induction {P : Job → Prop} {now : Instant}
    (step : ∀ j t a, P j → P (j.record t a .killed now)) {j : Job} {reason : String}
    (start : P (j.allAborted reason now)) : P (j.abort reason now).1 := by
  rw [abort_eq]
  generalize j.ended reason now = es
  generalize j.allAborted reason now = k at start
  induction es generalizing k with
  | nil => exact start
  | cons e es ih => exact ih _ (step k e.1 e.2 start)

/-- The log after an abort. -/
lemma entries_abort (j : Job) (reason : String) (now : Instant) :
    (j.abort reason now).1.events.map Entry.ofEvent =
      j.events.map Entry.ofEvent ++ (j.ended reason now).map fun e => e.1.entry e.2 := by
  have fold : ∀ (es : List (Task × Attempt)) (k : Job), (∀ e ∈ es, e.2.state = .killed) →
      (es.foldl (fun j e => j.record e.1 e.2 .killed now) k).events.map Entry.ofEvent =
        k.events.map Entry.ofEvent ++ es.map fun e => e.1.entry e.2 := by
    intro es
    induction es with
    | nil => simp
    | cons e es ih =>
      intro k killed
      have head := killed e List.mem_cons_self
      rw [List.foldl_cons, ih _ fun x mem => killed x (List.mem_cons_of_mem _ mem),
        entries_record k e.1 head, List.map_cons, List.append_assoc, List.singleton_append]
  rw [abort_eq, fold _ _ fun e mem => state_of_ended mem]
  rfl

/-- What one task gains is gained by the job, up to order. -/
lemma flatMap_setTask {α : Type} {j : Job} {kind : TaskKind} {index : Nat} {t t' : Task}
    {f : Task → List α} {more : List α} (pick : (j.tasks kind)[index]? = some t)
    (e : f t' = f t ++ more) :
    ((j.setTask kind index t').allTasks.flatMap f).Perm (j.allTasks.flatMap f ++ more) := by
  obtain ⟨p, q, ej, es⟩ := allTasks_setTask pick
  simp only [ej, es, e, List.flatMap_append, List.flatMap_cons, List.append_assoc]
  refine List.Perm.append_left _ (List.Perm.append_left _ ?_)
  exact List.perm_append_comm

/-- Recording an end logs what was closed and nothing else. -/
lemma Logged.recorded {j : Job} (lg : j.Logged) (lw : j.Lawful) {kind : TaskKind} {index : Nat}
    {t : Task} {a : Attempt} (pick : (j.tasks kind)[index]? = some t) (mem : a ∈ t.attempts)
    (run : a.isRunning) (o : Outcome) (cs : Counters) (notes : List String) (now : Instant) :
    (j.recorded kind index t a o cs notes now).Logged := by
  have lwt := lw.tasks t (mem_of_pick pick)
  rw [Logged, (agree_recorded j kind index t a o cs notes now).allTasks, Job.recorded,
    entries_record _ _ (Attempt.close_state ..), setTask_events]
  refine (lg.append_right _).trans (flatMap_setTask pick ?_).symm
  exact lwt.entries_closed mem run o cs notes now

/-- The log keeps up with an abort. -/
lemma Logged.abort {j : Job} (lg : j.Logged) (reason : String) (now : Instant) :
    (j.abort reason now).1.Logged := by
  rw [Logged, entries_abort, (agree_abort j reason now).allTasks, allTasks_allAborted,
    List.flatMap_map]
  have each := List.Perm.flatMap_left j.allTasks fun t _ => Task.entries_abort t reason now
  refine (lg.append_right _).trans (List.Perm.trans ?_ each.symm)
  have split := List.flatMap_append_perm j.allTasks Task.entries
    fun t => (t.aborted reason now).map t.entry
  rw [ended, List.map_flatMap]
  simpa only [List.map_map, Function.comp_def] using split

/-! ## Totals and counts -/

/-- What a job keeps of the ends of attempts, apart from its tasks. -/
structure Books where
  events : List CompletionEvent
  counters : Counters
  failedTasks : Nat
  killedTasks : Nat

/-- The books of a job. -/
def books (j : Job) : Books := ⟨j.events, j.counters, j.failedTasks, j.killedTasks⟩

/-- The entries of a log are numbered from 0. -/
def Numbered (events : List CompletionEvent) : Prop :=
  ∀ (i : Nat) (e : CompletionEvent), events[i]? = some e → e.eventId = .ofNat i

/-- A total is how many ends of one kind are in a log, and counts by kind of task are how many of
them are of that kind. -/
structure Tallied (events : List CompletionEvent) (counters : Counters) (s : AttemptState)
    (total : Nat) (name : TaskKind → String) : Prop where
  total_eq : total = events.countP (·.status.ended == some s)
  counts : ∀ kind, Counts (counters.value Counters.jobGroup (name kind))
    (events.countP fun e => e.isMap == (kind == .map) && e.status.ended == some s)

/-- The log is numbered, and the totals and counts are those of the log. -/
structure Books.Kept (b : Books) : Prop where
  numbered : Numbered b.events
  failed : Tallied b.events b.counters .failed b.failedTasks failedName
  killed : Tallied b.events b.counters .killed b.killedTasks killedName

/-- Replacing a task leaves the books. -/
lemma books_setTask (j : Job) (kind : TaskKind) (index : Nat) (t : Task) :
    (j.setTask kind index t).books = j.books := by
  cases kind <;> rfl

/-- Counting one name leaves the values of the others. -/
lemma value_count (j : Job) (name n : String) :
    (j.count name).counters.value Counters.jobGroup n =
      if n = name then satAdd (j.counters.value Counters.jobGroup n) 1
      else j.counters.value Counters.jobGroup n := by
  rw [count, Counters.value_increment]
  by_cases e : n = name <;> simp [e]

@[simp] lemma failedName_inj {k k' : TaskKind} : failedName k = failedName k' ↔ k = k' := by
  cases k <;> cases k' <;> decide

@[simp] lemma killedName_inj {k k' : TaskKind} : killedName k = killedName k' ↔ k = k' := by
  cases k <;> cases k' <;> decide

@[simp] lemma launchedName_inj {k k' : TaskKind} : launchedName k = launchedName k' ↔ k = k' := by
  cases k <;> cases k' <;> decide

@[simp] lemma failedName_ne_killedName (k k' : TaskKind) : failedName k ≠ killedName k' := by
  cases k <;> cases k' <;> decide

/-- A total with its counts keeps up with one more entry of the log. -/
lemma Tallied.append {events : List CompletionEvent} {counters counters' : Counters}
    {s : AttemptState} {total total' : Nat} {name : TaskKind → String}
    (ta : Tallied events counters s total name) {e : CompletionEvent} {k : TaskKind}
    (isMap : e.isMap = (k == .map))
    (more : total' = total + if e.status.ended = some s then 1 else 0)
    (value : ∀ kind, counters'.value Counters.jobGroup (name kind) =
      if e.status.ended = some s ∧ kind = k then
        satAdd (counters.value Counters.jobGroup (name kind)) 1
      else counters.value Counters.jobGroup (name kind)) :
    Tallied (events ++ [e]) counters' s total' name := by
  refine ⟨?_, fun kind => ?_⟩
  · rw [more, ta.total_eq, List.countP_append, List.countP_singleton]
    simp
  · have same : (e.isMap == (kind == .map)) = decide (kind = k) := by
      rw [isMap]
      cases kind <;> cases k <;> rfl
    rw [value, List.countP_append, List.countP_singleton, same]
    by_cases is : e.status.ended = some s ∧ kind = k
    · simpa [is] using (ta.counts kind).add .one
    · rw [if_neg is, if_neg (by simpa [and_comm] using is)]
      exact ta.counts kind

/-- One more entry keeps the log numbered. -/
lemma Numbered.append {events : List CompletionEvent} {e : CompletionEvent}
    (numbered : Numbered events) (id : e.eventId = .ofNat events.length) :
    Numbered (events ++ [e]) := by
  intro i x found
  rcases Nat.lt_trichotomy i events.length with lt | rfl | gt
  · exact numbered i x (by rwa [List.getElem?_append_left lt] at found)
  · rw [List.getElem?_concat_length] at found
    cases found
    exact id
  · rw [List.getElem?_eq_none (by rw [List.length_append]; exact gt)] at found
    cases found

/-- Books stay kept when something else is counted than failures and kills. -/
lemma Books.Kept.count {j : Job} (kept : j.books.Kept) {name : String}
    (notFailed : ∀ kind, failedName kind ≠ name) (notKilled : ∀ kind, killedName kind ≠ name) :
    (j.count name).books.Kept := by
  refine ⟨kept.numbered, ⟨kept.failed.total_eq, fun kind => ?_⟩,
    ⟨kept.killed.total_eq, fun kind => ?_⟩⟩
  · rw [books, value_count, if_neg (notFailed kind)]
    exact kept.failed.counts kind
  · rw [books, value_count, if_neg (notKilled kind)]
    exact kept.killed.counts kind

/-- The record of a failed or killed attempt counts it, and nothing else is counted. -/
lemma value_record (j : Job) (t : Task) (a : Attempt) (o : Outcome) (now : Instant) (n : String) :
    (j.record t a o now).counters.value Counters.jobGroup n =
      if o = .failed ∧ n = failedName t.kind ∨ o = .killed ∧ n = killedName t.kind then
        satAdd (j.counters.value Counters.jobGroup n) 1
      else j.counters.value Counters.jobGroup n := by
  cases o with
  | succeeded => simp [Job.record, log]
  | failed =>
    simp only [true_and, reduceCtorEq, false_and, or_false]
    exact value_count (j.log t a _ now) _ n
  | killed =>
    simp only [true_and, reduceCtorEq, false_and, false_or]
    exact value_count (j.log t a .killed now) _ n

/-- The books keep up with the record of an end. -/
lemma Books.Kept.record {j : Job} (kept : j.books.Kept) (t : Task) (a : Attempt) (o : Outcome)
    (now : Instant) : (j.record t a o now).books.Kept := by
  have ended := t.endStatus_ended o
  rw [books, record_events]
  refine ⟨kept.numbered.append rfl, ?_, ?_⟩
  · refine kept.failed.append (k := t.kind) rfl ?_ fun kind => ?_
    · rw [ended]
      cases o <;> rfl
    · rw [ended, value_record]
      cases o <;> simp [Outcome.state, books]
  · refine kept.killed.append (k := t.kind) rfl ?_ fun kind => ?_
    · rw [ended]
      cases o <;> rfl
    · rw [ended, value_record]
      cases o <;> simp [Outcome.state, books, (failedName_ne_killedName _ _).symm]

/-- Stopping a job keeps its books. -/
lemma Books.Kept.abort {j : Job} (kept : j.books.Kept) (reason : String) (now : Instant) :
    (j.abort reason now).1.books.Kept :=
  abort_induction (P := fun j => j.books.Kept) (fun _ t a kept => kept.record t a .killed now) kept

/-! ## Launches -/

/-- The counts of launches are the numbers of attempts, and each attempt at a map is counted by its
place. -/
structure Dispatched (j : Job) : Prop where
  launched : ∀ kind,
    Counts (j.counters.value Counters.jobGroup (launchedName kind)) (j.attempts kind).length
  placed : ∃ near far, near + far = (j.attempts .map).length ∧
    Counts (j.counters.value Counters.jobGroup Counters.dataLocalMaps) near ∧
    Counts (j.counters.value Counters.jobGroup Counters.otherLocalMaps) far

/-- The number of attempts grows with those at the changed task. -/
lemma length_attempts_setTask {j : Job} {kind : TaskKind} {index : Nat} {t t' : Task} {more : Nat}
    (pick : (j.tasks kind)[index]? = some t)
    (e : t'.attempts.length = t.attempts.length + more) (k : TaskKind) :
    ((j.setTask kind index t').attempts k).length =
      (j.attempts k).length + if k = kind then more else 0 := by
  by_cases ek : k = kind
  case neg => rw [attempts, attempts, tasks_setTask_ne _ ek, if_neg ek, Nat.add_zero]
  subst ek
  obtain ⟨p, q, es, es'⟩ := set_eq_append pick
  rw [attempts, attempts, tasks_setTask, es', es, if_pos rfl]
  simp only [List.flatMap_append, List.flatMap_cons, List.length_append, e]
  omega

/-- Closing all attempts leaves their number. -/
lemma length_attempts_allAborted (j : Job) (reason : String) (now : Instant) (kind : TaskKind) :
    ((j.allAborted reason now).attempts kind).length = (j.attempts kind).length := by
  have each (t : Task) : (t.abort reason now).attempts.length = t.attempts.length := by
    by_cases op : t.isOpen
    · rw [Task.abort_attempts reason now op, List.length_map]
    · rw [Task.abort_of_not_isOpen now reason (by simpa using op)]
  simp only [attempts, tasks_allAborted, List.flatMap_map, List.length_flatMap, each]

/-- The counts of launches keep up with the record of an end. -/
lemma Dispatched.record {j : Job} (d : j.Dispatched) (t : Task) (a : Attempt) (o : Outcome)
    (now : Instant) : (j.record t a o now).Dispatched := by
  have same (k : TaskKind) : (j.record t a o now).attempts k = j.attempts k := by
    rw [attempts, (agree_record j t a o now).tasks, attempts]
  -- no end is counted under one of the names that launches are counted under
  have other {n : String} (apart : ∀ kind, n ≠ failedName kind ∧ n ≠ killedName kind) :
      (j.record t a o now).counters.value Counters.jobGroup n =
        j.counters.value Counters.jobGroup n := by
    rw [value_record, if_neg]
    rintro (⟨-, e⟩ | ⟨-, e⟩)
    · exact (apart t.kind).1 e
    · exact (apart t.kind).2 e
  obtain ⟨near, far, sum, cn, cf⟩ := d.placed
  refine ⟨fun kind => ?_, near, far, by rw [same, sum], ?_, ?_⟩
  · rw [other fun k => by cases kind <;> cases k <;> decide, same]
    exact d.launched kind
  · rw [other fun k => by cases k <;> decide]
    exact cn
  · rw [other fun k => by cases k <;> decide]
    exact cf

/-- The counts of launches do not change with a task that keeps the number of its attempts. -/
lemma Dispatched.setTask {j : Job} (d : j.Dispatched) {kind : TaskKind} {index : Nat} {t t' : Task}
    (pick : (j.tasks kind)[index]? = some t) (e : t'.attempts.length = t.attempts.length) :
    (j.setTask kind index t').Dispatched := by
  have same (k : TaskKind) : ((j.setTask kind index t').attempts k).length =
      (j.attempts k).length := by
    have e : t'.attempts.length = t.attempts.length + 0 := e
    rw [length_attempts_setTask pick e, ite_self, Nat.add_zero]
  obtain ⟨near, far, sum, cn, cf⟩ := d.placed
  refine ⟨fun k => ?_, near, far, by rw [same, sum], by rwa [setTask_counters],
    by rwa [setTask_counters]⟩
  rw [same, setTask_counters]
  exact d.launched k

/-- Stopping a job launches nothing. -/
lemma Dispatched.abort {j : Job} (d : j.Dispatched) (reason : String) (now : Instant) :
    (j.abort reason now).1.Dispatched := by
  refine abort_induction (fun _ t a d => d.record t a .killed now) ?_
  obtain ⟨near, far, sum, cn, cf⟩ := d.placed
  refine ⟨fun kind => ?_, near, far, by rw [length_attempts_allAborted, sum], cn, cf⟩
  rw [length_attempts_allAborted]
  exact d.launched kind

/-- A launch adds one attempt to its own kind. -/
lemma length_attempts_launched {j : Job} {kind : TaskKind} {index : Nat} {t : Task}
    (pick : (j.tasks kind)[index]? = some t) (isLocal : Option Bool) (tracker : TrackerId)
    (host : String) (now : Instant) (k : TaskKind) :
    ((j.launched kind index t isLocal tracker host now).attempts k).length =
      (j.attempts k).length + if k = kind then 1 else 0 := by
  rw [attempts, (agree_launched j kind index t isLocal tracker host now).tasks, ← attempts]
  exact length_attempts_setTask pick (by simp [Task.launch]) k

/-- A launch is counted by its kind, and by its place where that is known. -/
lemma value_launched (j : Job) (kind : TaskKind) (index : Nat) (t : Task) (isLocal : Option Bool)
    (tracker : TrackerId) (host : String) (now : Instant) (n : String) :
    (j.launched kind index t isLocal tracker host now).counters.value Counters.jobGroup n =
      if n = launchedName kind ∨ isLocal.map Counters.placement = some n then
        satAdd (j.counters.value Counters.jobGroup n) 1
      else j.counters.value Counters.jobGroup n := by
  cases isLocal with
  | none => simp [Job.launched, value_count]
  | some l =>
    -- the two counts have different names, so no count goes up twice
    have apart : Counters.placement l ≠ launchedName kind := by
      cases l <;> cases kind <;> decide
    by_cases en : n = launchedName kind
    · simp [Job.launched, value_count, en, apart.symm]
    · simp [Job.launched, value_count, en, eq_comm]

/-- The counts of launches keep up with a launch. -/
lemma Dispatched.launch {j : Job} (d : j.Dispatched) {kind : TaskKind} {index : Nat}
    {t : Task} (pick : (j.tasks kind)[index]? = some t) {isLocal : Option Bool}
    (place : isLocal.isSome ↔ kind = .map) (tracker : TrackerId) (host : String) (now : Instant) :
    (j.launched kind index t isLocal tracker host now).Dispatched := by
  have length := length_attempts_launched pick isLocal tracker host now
  have value := value_launched j kind index t isLocal tracker host now
  obtain ⟨near, far, sum, cn, cf⟩ := d.placed
  refine ⟨fun k => ?_, ?_⟩
  · -- the counter of a launch is none of those of placement
    have apart : isLocal.map Counters.placement ≠ some (launchedName k) := by
      cases isLocal with
      | none => cases k <;> decide
      | some l => cases l <;> cases k <;> decide
    rw [length, value]
    by_cases ek : k = kind
    · simpa [ek] using (d.launched k).add .one
    · simpa [ek, apart] using d.launched k
  · -- only a launch of a map has a place, and it is counted as near or as far
    cases kind with
    | reduce =>
      have none : isLocal = none := by
        simpa using place
      refine ⟨near, far, by rw [length, sum]; rfl, ?_, ?_⟩
      · rw [value, if_neg (by subst none; decide)]
        exact cn
      · rw [value, if_neg (by subst none; decide)]
        exact cf
    | map =>
      obtain ⟨l, rfl⟩ := Option.isSome_iff_exists.1 (place.2 rfl)
      cases l with
      | true =>
        refine ⟨near + 1, far, by rw [length, ← sum, if_pos rfl]; omega, ?_, ?_⟩
        · rw [value, if_pos (by decide)]
          exact cn.add .one
        · rw [value, if_neg (by decide)]
          exact cf
      | false =>
        refine ⟨near, far + 1, by rw [length, ← sum, if_pos rfl]; omega, ?_, ?_⟩
        · rw [value, if_neg (by decide)]
          exact cn
        · rw [value, if_pos (by decide)]
          exact cf.add .one

end Job

/-! ## Tasks that were given up -/

/-- The name of the attempt that used up the attempts of a task. -/
def Task.lastStraw? (t : Task) : Option AttemptId :=
  if t.state = .failed then (t.failedAttempts[maxFailures - 1]?).map Attempt.id else none

/-- Stopping a task does not change by which attempt it failed. -/
lemma Task.lastStraw?_abort (t : Task) (reason : String) (now : Instant) :
    (t.abort reason now).lastStraw? = t.lastStraw? := by
  by_cases op : t.isOpen
  · have notFailed : t.state ≠ .failed := by
      rcases Task.isOpen_iff.1 op with e | e <;> simp [e]
    rw [lastStraw?, if_neg (by simp [abort_state reason now op]), lastStraw?, if_neg notFailed]
  · rw [abort_of_not_isOpen now reason (by simpa using op)]

/-- A task is given up with the attempt that ended last. -/
lemma Task.Lawful.lastStraw?_closed {t : Task} (lw : t.Lawful) {a : Attempt}
    (mem : a ∈ t.attempts) (run : a.isRunning) (o : Outcome) (cs : Counters)
    (notes : List String) (now : Instant) :
    (t.closed a o cs notes now).lastStraw? =
      if (t.closed a o cs notes now).state = .failed then some a.id else none := by
  rw [lastStraw?]
  split
  case isFalse => rfl
  case isTrue failed =>
    obtain ⟨past, e, -, -, other⟩ := lw.last_running mem run
    have lw' := lw.closed mem run o cs notes now
    have length := lw'.failures_eq.symm.trans (lw'.failures_max failed)
    obtain ⟨rfl, -⟩ := (closed_failed_iff ..).1 failed
    have cut : (t.closed a .failed cs notes now).failedAttempts =
        past.filter (·.state == .failed) ++ [a.close .failed now notes] := by
      rw [failedAttempts, closed_attempts e other, List.filter_append]
      rfl
    have place : maxFailures - 1 = (past.filter (·.state == .failed)).length := by
      rw [cut, List.length_append, List.length_singleton] at length
      omega
    rw [cut, place, List.getElem?_concat_length]
    rfl

namespace Job

/-- The log says of an attempt that a task was given up with it, where this is so; and at most one
task was given up. -/
structure GivenUp (j : Job) : Prop where
  events : (j.events.filter (·.status == .tipFailed)).map CompletionEvent.attemptId =
    j.allTasks.filterMap Task.lastStraw?
  le_one : (j.allTasks.filterMap Task.lastStraw?).length ≤ 1

/-- No task of a live job has failed. -/
lemma Lawful.lastStraw?_of_live {j : Job} (lw : j.Lawful) (live : j.isTerminal = false) :
    ∀ t ∈ j.allTasks, t.lastStraw? = none := by
  intro t mem
  rw [Task.lastStraw?, if_neg (lw.task_of_live live t mem).1]

/-- What the record of an end says about tasks that were given up. -/
lemma tipFailed_record (j : Job) (t : Task) (a : Attempt) (o : Outcome) (now : Instant) :
    ((j.record t a o now).events.filter (·.status == .tipFailed)).map CompletionEvent.attemptId =
      (j.events.filter (·.status == .tipFailed)).map CompletionEvent.attemptId ++
        if o = .failed ∧ t.state = .failed then [a.id] else [] := by
  rw [record_events, log, List.filter_append, List.map_append]
  by_cases up : o = .failed ∧ t.state = .failed
  · have tip := (t.endStatus_eq_tipFailed o).2 up
    rw [if_pos up, List.filter_cons_of_pos (by simp [tip])]
    rfl
  · have other := mt (t.endStatus_eq_tipFailed o).1 up
    rw [if_neg up, List.filter_cons_of_neg (by simp [other])]
    rfl

/-- Recording a kill logs no failed task. -/
lemma GivenUp.recordKilled {j : Job} (gu : j.GivenUp) (t : Task) (a : Attempt) (now : Instant) :
    (j.record t a .killed now).GivenUp := by
  have same := (agree_record j t a .killed now).allTasks
  refine ⟨?_, by rw [same]; exact gu.le_one⟩
  rw [tipFailed_record, if_neg (by simp), List.append_nil, same]
  exact gu.events

/-- Stopping a job logs no failed task. -/
lemma GivenUp.abort {j : Job} (gu : j.GivenUp) (reason : String) (now : Instant) :
    (j.abort reason now).1.GivenUp := by
  refine abort_induction (fun _ t a gu => gu.recordKilled t a now) ?_
  have same : (j.allAborted reason now).allTasks.filterMap Task.lastStraw? =
      j.allTasks.filterMap Task.lastStraw? := by
    rw [allTasks_allAborted, List.filterMap_map]
    exact congrArg (List.filterMap · _) (funext fun t => t.lastStraw?_abort reason now)
  exact ⟨by rw [same]; exact gu.events, by rw [same]; exact gu.le_one⟩

/-- A task can be replaced by one that failed by the same attempt. -/
lemma GivenUp.setTask {j : Job} (gu : j.GivenUp) {kind : TaskKind} {index : Nat} {t t' : Task}
    (pick : (j.tasks kind)[index]? = some t) (e : t'.lastStraw? = t.lastStraw?) :
    (j.setTask kind index t').GivenUp := by
  obtain ⟨p, q, ej, es⟩ := allTasks_setTask pick
  have same : (j.setTask kind index t').allTasks.filterMap Task.lastStraw? =
      j.allTasks.filterMap Task.lastStraw? := by
    rw [ej, es]
    simp only [List.filterMap_append, List.filterMap_cons, e]
  exact ⟨by rw [same, setTask_events, gu.events], by rw [same]; exact gu.le_one⟩

/-- The end of an attempt gives up its task at most. -/
lemma GivenUp.recorded {j : Job} (gu : j.GivenUp) (lw : j.Lawful) {kind : TaskKind} {index : Nat}
    {t : Task} {a : Attempt} (pick : (j.tasks kind)[index]? = some t) (mem : a ∈ t.attempts)
    (run : a.isRunning) (o : Outcome) (cs : Counters) (notes : List String) (now : Instant) :
    (j.recorded kind index t a o cs notes now).GivenUp := by
  -- the job was live, so no task was given up before
  have live := live_of_running (lw.running_of_attempt (mem_of_pick pick) mem run)
  have none := lw.lastStraw?_of_live live
  have before : j.events.filter (·.status == .tipFailed) = [] := by
    have := gu.events
    rwa [List.filterMap_eq_nil_iff.2 none, List.map_eq_nil_iff] at this
  obtain ⟨p, q, ej, es⟩ := allTasks_setTask pick
  have after : (j.recorded kind index t a o cs notes now).allTasks.filterMap Task.lastStraw? =
      (if (t.closed a o cs notes now).state = .failed then some a.id else Option.none).toList := by
    rw [(agree_recorded j kind index t a o cs notes now).allTasks, es, List.filterMap_append,
      List.filterMap_cons, (lw.tasks t (mem_of_pick pick)).lastStraw?_closed mem run,
      List.filterMap_eq_nil_iff.2 fun x memx => none x (ej ▸ List.mem_append_left _ memx),
      List.filterMap_eq_nil_iff.2 fun x memx => none x
        (ej ▸ List.mem_append_right _ (List.mem_cons_of_mem _ memx))]
    split <;> simp [*]
  have log := tipFailed_record (j.setTask kind index (t.closed a o cs notes now))
    (t.closed a o cs notes now) (a.close o now notes) o now
  rw [setTask_events, before] at log
  by_cases failed : (t.closed a o cs notes now).state = .failed
  · have outcome := ((Task.closed_failed_iff ..).1 failed).1
    rw [if_pos failed] at after
    rw [if_pos ⟨outcome, failed⟩] at log
    exact ⟨log.trans after.symm, by rw [after]; exact Nat.le_refl 1⟩
  · rw [if_neg failed] at after
    rw [if_neg fun up => failed up.2] at log
    exact ⟨log.trans after.symm, by rw [after]; exact Nat.zero_le 1⟩

/-! ## All books together -/

/-- The log, the totals and the counts of a job go with its tasks. -/
structure Balanced (j : Job) : Prop where
  logged : j.Logged
  kept : j.books.Kept
  dispatched : j.Dispatched
  givenUp : j.GivenUp

namespace Balanced

variable {j : Job}

/-- The books of a new job are empty. -/
lemma new (id : JobId) (d : JobDescriptor) (now : Instant) : (Job.new id d now).Balanced where
  logged := .nil
  kept := ⟨nofun, ⟨rfl, fun _ => .zero⟩, ⟨rfl, fun _ => .zero⟩⟩
  dispatched := ⟨fun kind => by cases kind <;> exact .zero, 0, 0, rfl, .zero, .zero⟩
  givenUp := ⟨rfl, Nat.zero_le 1⟩

/-- Ending a job leaves its books. -/
lemma finish (b : j.Balanced) (s : JobState) (now : Instant) : (j.finish s now).Balanced :=
  ⟨b.logged, b.kept, ⟨b.dispatched.launched, b.dispatched.placed⟩,
    ⟨b.givenUp.events, b.givenUp.le_one⟩⟩

/-- Stopping a job leaves its books balanced. -/
lemma abort (b : j.Balanced) (reason : String) (now : Instant) :
    (j.abort reason now).1.Balanced :=
  ⟨b.logged.abort reason now, b.kept.abort reason now, b.dispatched.abort reason now,
    b.givenUp.abort reason now⟩

/-- The end of an attempt is in the books. -/
lemma recorded (b : j.Balanced) (lw : j.Lawful) {kind : TaskKind} {index : Nat} {t : Task}
    {a : Attempt} (pick : (j.tasks kind)[index]? = some t) (mem : a ∈ t.attempts)
    (run : a.isRunning) (o : Outcome) (cs : Counters) (notes : List String) (now : Instant) :
    (j.recorded kind index t a o cs notes now).Balanced := by
  refine ⟨b.logged.recorded lw pick mem run o cs notes now, ?_, ?_,
    b.givenUp.recorded lw pick mem run o cs notes now⟩
  · apply Books.Kept.record
    rw [books_setTask]
    exact b.kept
  · apply Dispatched.record
    apply b.dispatched.setTask pick
    rw [Task.closed, Task.settle_attempts, Task.replaceAttempt, List.length_map]

/-- A launch is in the books. -/
lemma launched (b : j.Balanced) {kind : TaskKind} {index : Nat} {t : Task}
    (pick : (j.tasks kind)[index]? = some t) (pending : t.state = .pending)
    {isLocal : Option Bool} (place : isLocal.isSome ↔ kind = .map) (tracker : TrackerId)
    (host : String) (now : Instant) :
    (j.launched kind index t isLocal tracker host now).Balanced := by
  have ag := agree_launched j kind index t isLocal tracker host now
  have events : (j.launched kind index t isLocal tracker host now).events = j.events := by
    cases isLocal <;> cases kind <;> rfl
  have quiet : (t.launch tracker host now).lastStraw? = t.lastStraw? := by
    have notFailed : (t.launch tracker host now).state ≠ .failed := nofun
    rw [Task.lastStraw?, if_neg notFailed, Task.lastStraw?, if_neg (by simp [pending])]
  have gu := b.givenUp.setTask pick quiet
  refine ⟨?_, ?_, b.dispatched.launch pick place tracker host now, ?_⟩
  · have entries : (t.launch tracker host now).entries = t.entries ++ [] := by
      rw [Task.entries_launch, List.append_nil]
    have same := flatMap_setTask pick entries
    rw [List.append_nil] at same
    rw [Logged, events, ag.allTasks]
    exact List.Perm.trans b.logged same.symm
  · -- no counter of launches or of placement is one of those in the books
    have counted : ((j.setTask kind index (t.launch tracker host now)).count
        (launchedName kind)).books.Kept := by
      apply Books.Kept.count
      · rw [books_setTask]; exact b.kept
      · exact fun k => by cases k <;> cases kind <;> decide
      · exact fun k => by cases k <;> cases kind <;> decide
    cases isLocal with
    | none => exact counted
    | some l =>
      apply counted.count
      · exact fun k => by cases k <;> cases l <;> decide
      · exact fun k => by cases k <;> cases l <;> decide
  · refine ⟨?_, by rw [ag.allTasks]; exact gu.le_one⟩
    rw [ag.allTasks, ← gu.events, events]
    cases kind <;> rfl

/-- New tasks have no attempts. -/
lemma attempts_install (splits : List InputSplit) (kind : TaskKind) :
    (j.install splits).attempts kind = [] := by
  refine List.flatMap_eq_nil_iff.2 fun t mem => ?_
  obtain ⟨_, _, _, rfl⟩ := mem_install (mem_allTasks.2 ⟨kind, mem⟩)
  rfl

/-- The books of a job that is given its tasks are still empty. -/
lemma install (b : j.Balanced) (lw : j.Lawful) (prep : j.state = .prep)
    (splits : List InputSplit) : (j.install splits).Balanced := by
  have none := lw.allTasks_of_prep prep
  have old (kind : TaskKind) : j.attempts kind = [] := by
    obtain ⟨maps, reduces⟩ := List.append_eq_nil_iff.1 none
    cases kind with
    | map => rw [attempts, show j.tasks .map = [] from maps]; rfl
    | reduce => rw [attempts, show j.tasks .reduce = [] from reduces]; rfl
  refine ⟨?_, b.kept, ?_, ?_⟩
  · -- new tasks have no entries, and a job in preparation had no tasks
    have entries : (j.install splits).allTasks.flatMap Task.entries = [] := by
      refine List.flatMap_eq_nil_iff.2 fun t mem => ?_
      obtain ⟨_, _, _, rfl⟩ := mem_install mem
      rfl
    have logged := b.logged
    rw [Logged, none] at logged
    rw [Logged, entries]
    exact logged
  · obtain ⟨near, far, sum, cn, cf⟩ := b.dispatched.placed
    refine ⟨fun kind => ?_, near, far, ?_, cn, cf⟩
    · rw [attempts_install, ← old kind]
      exact b.dispatched.launched kind
    · rw [attempts_install, ← old .map, sum]
  · have quiet : (j.install splits).allTasks.filterMap Task.lastStraw? = [] := by
      refine List.filterMap_eq_nil_iff.2 fun t mem => ?_
      obtain ⟨_, _, _, rfl⟩ := mem_install mem
      rfl
    refine ⟨?_, by rw [quiet]; exact Nat.zero_le 1⟩
    have events := b.givenUp.events
    rw [none] at events
    rw [quiet]
    exact events

end Balanced

/-- Every step keeps the books of a job. -/
theorem Step.balanced {j j' : Job} {m : Move} (st : Step j m j') (lw : j.Lawful)
    (b : j.Balanced) : j'.Balanced := by
  cases st with
  | install prep => exact b.install lw prep _
  | failInit | closeIdle => exact b.finish _ _
  | kill live => exact (b.abort _ _).finish _ _
  | launch _ pick pending place _ => exact b.launched pick pending place _ _ _
  | @close kind index t id a o cs notes clock pick found run =>
    have mem := (Task.attempt?_mem found).1
    have recorded := b.recorded lw pick mem run o cs notes clock.first
    exact conclude_induction recorded (fun _ s b => b.finish s clock.first) fun reason =>
      recorded.abort reason clock.second

end Job

end JobCluster.Coordinator
