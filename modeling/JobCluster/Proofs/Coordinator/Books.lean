import JobCluster.Proofs.Coordinator.Moves
import JobCluster.Proofs.Job.Ledger

/-!
# The books agree

In every run of the coordinator, what is written down about the attempts of a job agrees with the
attempts themselves: the log, the two totals and the counts of the coordinator. `books_agree` is
read off the invariant of the job (`Job.Balanced`), which speaks of the log as a whole; the attempts
have distinct names, so it can be read for each of them.
-/

namespace JobCluster.Coordinator

open JobCluster.Number JobCluster.Time

namespace Job

/-! ## The log and the attempts -/

/-- The log names the attempts that ended, each as often as it is there. -/
lemma Logged.ids {j : Job} (lg : j.Logged) :
    (j.events.map CompletionEvent.attemptId).Perm
      ((j.allAttempts.filter fun a => !a.isRunning).map Attempt.id) := by
  have ids := lg.map Entry.attempt
  rw [List.map_map, List.map_flatMap] at ids
  rw [allAttempts, List.filter_flatMap, List.map_flatMap]
  simp only [Task.entries, List.map_map] at ids
  exact ids

/-- There is one entry for each attempt that ended, and none for one that runs. -/
lemma Logged.once {j : Job} (lg : j.Logged) (lw : j.Lawful) {a : Attempt}
    (mem : a ∈ j.allAttempts) :
    j.events.countP (·.attemptId == a.id) = if a.isRunning then 0 else 1 := by
  -- names are distinct, so an entry for the name is one for the attempt
  have nodup := lw.attempt_ids_nodup
  have ended : ((j.allAttempts.filter fun a => !a.isRunning).map Attempt.id).Nodup :=
    (List.filter_sublist.map _).nodup nodup
  have count : j.events.countP (·.attemptId == a.id) =
      ((j.allAttempts.filter fun a => !a.isRunning).map Attempt.id).count a.id := by
    rw [← lg.ids.count_eq, List.count, List.countP_map]
    rfl
  rw [count, ended.count]
  have here : a.id ∈ (j.allAttempts.filter fun a => !a.isRunning).map Attempt.id ↔
      a.isRunning = false := by
    constructor
    · intro memid
      obtain ⟨b, memb, e⟩ := List.mem_map.1 memid
      obtain ⟨memb, run⟩ := List.mem_filter.1 memb
      rw [← List.inj_on_of_nodup_map nodup memb mem e]
      simpa using run
    · intro run
      exact List.mem_map_of_mem (List.mem_filter.2 ⟨mem, by simpa using run⟩)
  cases run : a.isRunning with
  | true => exact if_neg (by rw [here, run]; exact nofun)
  | false => exact if_pos (here.2 run)

/-- Each event is about an attempt that ended. -/
lemma Logged.told {j : Job} (lg : j.Logged) {e : CompletionEvent} (mem : e ∈ j.events) :
    ∃ t ∈ j.allTasks, ∃ a ∈ t.attempts, a.isRunning = false ∧ Entry.ofEvent e = t.entry a := by
  have memEntry : Entry.ofEvent e ∈ j.allTasks.flatMap Task.entries :=
    lg.mem_iff.1 (List.mem_map_of_mem mem)
  obtain ⟨t, memt, memEntry⟩ := List.mem_flatMap.1 memEntry
  obtain ⟨a, mema, ea⟩ := List.mem_map.1 memEntry
  obtain ⟨mema, run⟩ := List.mem_filter.1 mema
  exact ⟨t, memt, a, mema, by simpa using run, ea.symm⟩

/-- What a task has to say of attempts in a state is what attempts of it are in that state. -/
lemma countP_entries (t : Task) (kind : TaskKind) {s : AttemptState} (ne : s ≠ .running) :
    t.entries.countP (fun x => x.isMap == (kind == .map) && x.ended == some s) =
      if t.kind = kind then t.attempts.countP (·.state == s) else 0 := by
  have same : ((t.kind == .map) == (kind == .map)) = decide (t.kind = kind) := by
    cases t.kind <;> cases kind <;> rfl
  rw [Task.entries, List.countP_map, List.countP_filter]
  split
  · next ek =>
    refine List.countP_congr fun a _ => ?_
    have run : a.state = s → a.state ≠ .running := fun e => e ▸ ne
    simpa [Task.entry, same, ek, Attempt.isRunning] using run
  · next ek =>
    refine List.countP_eq_zero.2 fun a _ => ?_
    simp [Task.entry, same, ek]

/-- The log has as many ends of one kind at the tasks of a kind as there are attempts. -/
lemma Logged.countP_kind {j : Job} (lg : j.Logged) (lw : j.Lawful) (kind : TaskKind)
    {s : AttemptState} (ne : s ≠ .running) :
    j.events.countP (fun e => e.isMap == (kind == .map) && e.status.ended == some s) =
      (j.attempts kind).countP (·.state == s) := by
  have entries : j.events.countP
      (fun e => e.isMap == (kind == .map) && e.status.ended == some s) =
      (j.allTasks.flatMap Task.entries).countP
        (fun x => x.isMap == (kind == .map) && x.ended == some s) := by
    rw [← lg.countP_eq, List.countP_map]
    rfl
  -- the entries of one kind tell of that kind only
  have ofKind (k : TaskKind) : ((j.tasks k).flatMap Task.entries).countP
      (fun x => x.isMap == (kind == .map) && x.ended == some s) =
      if k = kind then (j.attempts kind).countP (·.state == s) else 0 := by
    have each : ∀ t ∈ j.tasks k, t.entries.countP
        (fun x => x.isMap == (kind == .map) && x.ended == some s) =
        if k = kind then t.attempts.countP (·.state == s) else 0 := by
      intro t mem
      obtain ⟨i, pick⟩ := List.mem_iff_getElem?.1 mem
      rw [countP_entries t kind ne, (lw.placed k i t pick).kind_eq]
    rw [List.countP_flatMap]
    refine (congrArg List.sum (List.map_congr_left each)).trans ?_
    split
    · next ek => rw [attempts, ← ek, List.countP_flatMap]; rfl
    · simp
  rw [entries, show j.allTasks = j.tasks .map ++ j.tasks .reduce from rfl, List.flatMap_append,
    List.countP_append, ofKind, ofKind]
  cases kind <;> simp

/-! ## Agreement -/

/-- The attempts in a state, the ends of that kind in the log, a total and the counts of the
coordinator by kind of task are the same numbers. -/
structure TotalAgrees (j : Job) (s : AttemptState) (total : Nat) (name : TaskKind → String) :
    Prop where
  attempts : total = j.allAttempts.countP (·.state == s)
  events : total = j.events.countP (·.status.ended == some s)
  events_kind : ∀ kind,
    j.events.countP (fun e => e.isMap == (kind == .map) && e.status.ended == some s) =
      (j.attempts kind).countP (·.state == s)
  counters_kind : ∀ kind, (j.counters.value Counters.jobGroup (name kind)).toNat =
    (j.attempts kind).countP (·.state == s)
  counters : total = (j.counters.value Counters.jobGroup (name .map)).toNat +
    (j.counters.value Counters.jobGroup (name .reduce)).toNat

/-- The books of a job agree with each other and with its attempts. -/
structure BooksAgree (j : Job) : Prop where
  distinct : (j.allAttempts.map Attempt.id).Nodup
  once : ∀ a ∈ j.allAttempts,
    j.events.countP (·.attemptId == a.id) = if a.isRunning then 0 else 1
  told : ∀ e ∈ j.events, ∃ t ∈ j.allTasks, ∃ a ∈ t.attempts, a.isRunning = false ∧
    e.attemptId = a.id ∧ e.taskIndex = t.index ∧ e.isMap = (t.kind == .map) ∧
    e.trackerHost = a.host ∧ e.status.ended = some a.state
  numbered : ∀ i (lt : i < j.events.length), j.events[i].eventId.toNat = i
  failed : j.TotalAgrees .failed j.failedTasks failedName
  killed : j.TotalAgrees .killed j.killedTasks killedName
  launched : ∀ kind, (j.counters.value Counters.jobGroup (launchedName kind)).toNat =
    (j.attempts kind).length
  placed : (j.counters.value Counters.jobGroup Counters.dataLocalMaps).toNat +
    (j.counters.value Counters.jobGroup Counters.otherLocalMaps).toNat =
    (j.counters.value Counters.jobGroup (launchedName .map)).toNat
  tipFailed_le : j.events.countP (·.status == .tipFailed) ≤ 1
  tipFailed : ∀ e ∈ j.events, e.status = .tipFailed → ∃ t ∈ j.allTasks, t.state = .failed ∧
    ∃ a, t.failedAttempts[maxFailures - 1]? = some a ∧ e.attemptId = a.id
  tipFailed_of_failed : ∀ t ∈ j.allTasks, t.state = .failed →
    ∃ e ∈ j.events, e.status = .tipFailed

/-- Events are about maps or about reduces. -/
lemma countP_kinds (events : List CompletionEvent) (p : CompletionEvent → Bool) :
    events.countP p = events.countP (fun e => e.isMap == (TaskKind.map == .map) && p e) +
      events.countP fun e => e.isMap == (TaskKind.reduce == .map) && p e := by
  induction events with
  | nil => rfl
  | cons e events ih =>
    rw [List.countP_cons, List.countP_cons, List.countP_cons, ih]
    cases e.isMap <;> simp <;> omega

/-- A count over one kind is at most that of all attempts. -/
lemma countP_attempts_le (j : Job) (kind : TaskKind) (p : Attempt → Bool) :
    (j.attempts kind).countP p ≤ j.allAttempts.length := by
  have le : (j.attempts kind).countP p ≤ (j.attempts kind).length := List.countP_le_length
  rw [allAttempts_eq, List.length_append]
  cases kind with
  | map => omega
  | reduce => omega

/-- A total agrees with the attempts where the log has what the tasks have. -/
lemma Tallied.agrees {j : Job} {s : AttemptState} {total : Nat} {name : TaskKind → String}
    (ta : Tallied j.events j.counters s total name) (lg : j.Logged) (lw : j.Lawful)
    (few : j.allAttempts.length < 2 ^ 32) (ne : s ≠ .running) : j.TotalAgrees s total name := by
  have kinds := countP_kinds j.events (·.status.ended == some s)
  have counters (kind : TaskKind) : (j.counters.value Counters.jobGroup (name kind)).toNat =
      (j.attempts kind).countP (·.state == s) := by
    have le := countP_attempts_le j kind (·.state == s)
    rw [← lg.countP_kind lw kind ne] at le ⊢
    exact (ta.counts kind).toNat_eq (by omega)
  rw [lg.countP_kind lw .map ne, lg.countP_kind lw .reduce ne] at kinds
  refine ⟨?_, ta.total_eq, fun kind => lg.countP_kind lw kind ne, counters, ?_⟩
  · rw [ta.total_eq, kinds, allAttempts_eq, List.countP_append]
  · rw [ta.total_eq, kinds, counters, counters]

/-- Where the log says that a task was given up, this is so. -/
lemma GivenUp.told {j : Job} (gu : j.GivenUp) {e : CompletionEvent} (mem : e ∈ j.events)
    (tip : e.status = .tipFailed) : ∃ t ∈ j.allTasks, t.state = .failed ∧
      ∃ a, t.failedAttempts[maxFailures - 1]? = some a ∧ e.attemptId = a.id := by
  have memId : e.attemptId ∈ j.allTasks.filterMap Task.lastStraw? := by
    rw [← gu.events]
    exact List.mem_map_of_mem (List.mem_filter.2 ⟨mem, by simp [tip]⟩)
  obtain ⟨t, memt, last⟩ := List.mem_filterMap.1 memId
  rw [Task.lastStraw?] at last
  split at last
  · next failed =>
    obtain ⟨a, third, eid⟩ := Option.map_eq_some_iff.1 last
    exact ⟨t, memt, failed, a, third, eid.symm⟩
  · cases last

/-- Where a task was given up, the log says so. -/
lemma GivenUp.logged {j : Job} (gu : j.GivenUp) {t : Task} (lw : t.Lawful) (mem : t ∈ j.allTasks)
    (failed : t.state = .failed) : ∃ e ∈ j.events, e.status = .tipFailed := by
  have length : maxFailures - 1 < t.failedAttempts.length := by
    rw [← lw.failures_eq, lw.failures_max failed]
    decide
  have last : t.lastStraw? = some t.failedAttempts[maxFailures - 1].id := by
    rw [Task.lastStraw?, if_pos failed, List.getElem?_eq_getElem length]
    rfl
  have memId := List.mem_filterMap.2 ⟨t, mem, last⟩
  rw [← gu.events] at memId
  obtain ⟨e, meme, -⟩ := List.mem_map.1 memId
  obtain ⟨meme, tip⟩ := List.mem_filter.1 meme
  exact ⟨e, meme, by simpa using tip⟩

/-- Balanced books agree, as long as nothing is cut off. -/
lemma Balanced.booksAgree {j : Job} (b : j.Balanced) (lw : j.Lawful)
    (few : j.allAttempts.length < 2 ^ 32) : j.BooksAgree := by
  have ended : j.events.length ≤ j.allAttempts.length := by
    have le := List.length_filter_le (fun a => !a.isRunning) j.allAttempts
    have eq := b.logged.ids.length_eq
    rw [List.length_map, List.length_map] at eq
    omega
  -- with so few attempts no counter saturates
  have launched (kind : TaskKind) :
      (j.counters.value Counters.jobGroup (launchedName kind)).toNat =
        (j.attempts kind).length := by
    have le := countP_attempts_le j kind fun _ => true
    rw [List.countP_true] at le
    exact (b.dispatched.launched kind).toNat_eq (by omega)
  refine ⟨lw.attempt_ids_nodup, fun a mem => b.logged.once lw mem, ?_, ?_,
    b.kept.failed.agrees b.logged lw few nofun, b.kept.killed.agrees b.logged lw few nofun,
    launched, ?_, ?_, ?_, ?_⟩
  · intro e mem
    obtain ⟨t, memt, a, mema, run, eq⟩ := b.logged.told mem
    exact ⟨t, memt, a, mema, run, congrArg Entry.attempt eq, congrArg Entry.taskIndex eq,
      congrArg Entry.isMap eq, congrArg Entry.host eq, congrArg Entry.ended eq⟩
  · intro i lt
    rw [b.kept.numbered i j.events[i] (List.getElem?_eq_getElem lt)]
    exact UInt32.toNat_ofNat_of_lt' (Nat.lt_trans lt (Nat.lt_of_le_of_lt ended few))
  · obtain ⟨near, far, sum, cn, cf⟩ := b.dispatched.placed
    have le := countP_attempts_le j .map fun _ => true
    rw [List.countP_true, ← sum] at le
    rw [launched, ← sum, cn.toNat_eq (by omega),
      cf.toNat_eq (by omega)]
  · rw [List.countP_eq_length_filter, ← List.length_map CompletionEvent.attemptId,
      b.givenUp.events]
    exact b.givenUp.le_one
  · exact fun e mem tip => b.givenUp.told mem tip
  · exact fun t mem failed => b.givenUp.logged (lw.tasks t mem) mem failed

end Job

/-- The books of every job agree, in any reachable system. -/
lemma Reachable.balanced {s : System} (re : Reachable s) :
    ∀ j ∈ s.coordinator.jobs, j.Balanced :=
  re.forall_jobs Job.Balanced.new fun _ _ _ st lw b => st.balanced lw b

/-- In every run, the books of a job with fewer than `2 ^ 32` attempts agree with each other and
with its attempts. -/
theorem books_agree {s : System} (re : Reachable s) :
    ∀ j ∈ s.coordinator.jobs, j.allAttempts.length < 2 ^ 32 → j.BooksAgree :=
  fun j mem few => (re.balanced j mem).booksAgree (re.lawful.jobs j mem) few

/-- In the small run one attempt fails, and the books agree. -/
theorem sample_books_agree : ∃ j ∈ sampleSystem.coordinator.jobs,
    (j.failedTasks = 1 ∧ j.allAttempts.length < 2 ^ 32) ∧ j.BooksAgree := by
  obtain ⟨j, mem, failed, few⟩ : ∃ j ∈ sampleSystem.coordinator.jobs,
      j.failedTasks = 1 ∧ j.allAttempts.length < 2 ^ 32 := by decide +kernel
  exact ⟨j, mem, ⟨failed, few⟩, books_agree sample_reachable j mem few⟩

end JobCluster.Coordinator
