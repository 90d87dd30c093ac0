import JobCluster.Proofs.Job.Killing
import Mathlib.Data.List.Forall2

/-!
# Attempts that are lost

When a tracker is lost, the attempts that ran on it end one after another. `Job.lose` says what a
job becomes when those of its attempts end that have one of some names, in one go: their tasks wait
again, and they are recorded as killed in the order of the names.

`conclude_of_lost` shows that the end of one lost attempt comes to that, and has no consequences for
the job; `lose_cons` that the ends of several come to it one after another; and `lose_perm` that
their order matters for the log alone, and with `lose_perm_untimed` the readings of the clock for
the log and the times.
-/

namespace JobCluster.Coordinator

open JobCluster.Number JobCluster.Text JobCluster.Time

/-- What the attempts of a lost tracker are noted with. -/
def lossNotes : List String := ["tracker perdido"]

namespace Task

/-- A task after the attempts with some names, if they ran, were lost. -/
def lose (t : Task) (gone : AttemptId → Bool) (clock : AttemptId → Instant) : Task :=
  { t with
    state := if t.running.any (gone ·.id) then .pending else t.state
    attempts := t.attempts.map fun a =>
      if a.isRunning && gone a.id then a.close .killed (clock a.id) lossNotes else a }

section Lose

variable {t : Task} {gone gone' : AttemptId → Bool} {clock : AttemptId → Instant} {a : Attempt}

/-- A loss is told by the names of the running attempts alone. -/
lemma lose_congr (same : ∀ a ∈ t.running, gone a.id = gone' a.id) :
    t.lose gone clock = t.lose gone' clock := by
  have state : t.running.any (gone ·.id) = t.running.any (gone' ·.id) := by
    rw [Bool.eq_iff_iff, List.any_eq_true, List.any_eq_true]
    exact exists_congr fun a => and_congr_right fun mem => by rw [same a mem]
  have attempts : (t.attempts.map fun a =>
      if a.isRunning && gone a.id then a.close .killed (clock a.id) lossNotes else a) =
      t.attempts.map fun a =>
        if a.isRunning && gone' a.id then a.close .killed (clock a.id) lossNotes else a := by
    refine List.map_congr_left fun a mem => ?_
    cases run : a.isRunning with
    | true => rw [same a (List.mem_filter.2 ⟨mem, run⟩)]
    | false => rfl
  rw [lose, lose, state, attempts]

/-- A task of which nothing is lost stays as it is. -/
lemma lose_of_none (none : ∀ a ∈ t.running, gone a.id = false) : t.lose gone clock = t := by
  have state : t.running.any (gone ·.id) = false :=
    List.any_eq_false.2 fun a mem => by rw [none a mem]; exact Bool.false_ne_true
  have attempts : (t.attempts.map fun a =>
      if a.isRunning && gone a.id then a.close .killed (clock a.id) lossNotes else a) =
        t.attempts := by
    conv => rhs; rw [← List.map_id t.attempts]
    refine List.map_congr_left fun a mem => ?_
    cases run : a.isRunning with
    | true => rw [none a (List.mem_filter.2 ⟨mem, run⟩)]; rfl
    | false => rfl
  rw [lose, state, attempts]
  rfl

/-- The loss of the attempt that runs is its end as killed. -/
lemma Lawful.lose_eq_closed (lw : t.Lawful) (mem : a ∈ t.attempts) (run : a.isRunning)
    (here : gone a.id = true) (clock : AttemptId → Instant) :
    t.lose gone clock = t.closed a .killed Counters.empty lossNotes (clock a.id) := by
  have state : t.running.any (gone ·.id) = true := by
    rw [lw.running_eq_singleton mem run]
    simp [here]
  have attempts : (t.attempts.map fun b =>
      if b.isRunning && gone b.id then b.close .killed (clock b.id) lossNotes else b) =
      t.attempts.map fun b =>
        if b.id = (a.close .killed (clock a.id) lossNotes).id then
          a.close .killed (clock a.id) lossNotes
        else b := by
    refine List.map_congr_left fun b memb => ?_
    -- the attempt is told from the others by its name
    by_cases same : b.id = a.id
    · have e : b = a := Option.some.inj
        ((lw.attempt?_of_mem memb).symm.trans ((congrArg _ same).trans (lw.attempt?_of_mem mem)))
      subst e
      simp [run, here]
    · -- no other attempt runs
      have still : b.isRunning = false := by
        rw [Bool.eq_false_iff]
        intro runs
        have only := lw.running_eq_singleton mem run
        have memr : b ∈ t.running := List.mem_filter.2 ⟨memb, runs⟩
        rw [only, List.mem_singleton] at memr
        exact same (by rw [memr])
      have other : ¬b.id = (a.close .killed (clock a.id) lossNotes).id := same
      rw [if_neg other, still]
      rfl
  rw [lose, state, attempts]
  rfl

/-- A loss is the end of the attempt that runs, or nothing. -/
lemma Lawful.lose_cases (lw : t.Lawful) (gone : AttemptId → Bool) (clock : AttemptId → Instant) :
    (∃ a ∈ t.attempts, a.isRunning ∧ gone a.id = true ∧
      t.lose gone clock = t.closed a .killed Counters.empty lossNotes (clock a.id)) ∨
    (∀ a ∈ t.running, gone a.id = false) ∧ t.lose gone clock = t := by
  by_cases lost : ∃ a ∈ t.running, gone a.id = true
  · obtain ⟨a, mem, here⟩ := lost
    obtain ⟨mema, run⟩ := List.mem_filter.1 mem
    exact .inl ⟨a, mema, run, here, lw.lose_eq_closed mema run here clock⟩
  · have none : ∀ a ∈ t.running, gone a.id = false := fun a mem =>
      Bool.eq_false_iff.2 fun here => lost ⟨a, mem, here⟩
    exact .inr ⟨none, lose_of_none none⟩

/-- What still runs after a loss. -/
lemma Lawful.running_lose (lw : t.Lawful) (gone : AttemptId → Bool) (clock : AttemptId → Instant) :
    ((t.lose gone clock).running.map fun a => (t.lose gone clock, a)) =
      (t.running.map fun a => (t, a)).filter fun e => !gone e.2.id := by
  obtain ⟨a, mem, run, here, eq⟩ | ⟨none, eq⟩ := lw.lose_cases gone clock
  · rw [eq, lw.running_closed mem run, lw.running_eq_singleton mem run]
    simp [here]
  · rw [eq, List.filter_eq_self.2]
    intro e mem
    obtain ⟨a, mema, rfl⟩ := List.mem_map.1 mem
    rw [none a mema]
    rfl

/-- What is lost in two goes is lost in one. -/
lemma Lawful.lose_lose (lw : t.Lawful) (gone gone' : AttemptId → Bool)
    (clock : AttemptId → Instant) :
    (t.lose gone clock).lose gone' clock = t.lose (fun id => gone id || gone' id) clock := by
  obtain ⟨a, mem, run, here, eq⟩ | ⟨none, eq⟩ := lw.lose_cases gone clock
  · have both : (gone a.id || gone' a.id) = true := by rw [here]; rfl
    have once : t.lose (fun id => gone id || gone' id) clock =
        t.closed a .killed Counters.empty lossNotes (clock a.id) :=
      lw.lose_eq_closed mem run both clock
    rw [eq, once]
    refine lose_of_none fun b memb => ?_
    rw [lw.running_closed mem run] at memb
    cases memb
  · rw [eq]
    exact lose_congr fun a mem => by rw [none a mem, Bool.false_or]

/-- A task without the moments at which its attempts ended. -/
def untimed (t : Task) : Task :=
  { t with attempts := t.attempts.map fun a => { a with finishedAt := none } }

/-- The readings of the clock tell the times, and nothing else. -/
lemma lose_untimed (t : Task) (gone : AttemptId → Bool) (clock clock' : AttemptId → Instant) :
    (t.lose gone clock).untimed = (t.lose gone clock').untimed := by
  have attempts : ((t.lose gone clock).attempts.map fun a => { a with finishedAt := none }) =
      (t.lose gone clock').attempts.map fun a => { a with finishedAt := none } := by
    rw [lose, lose, List.map_map, List.map_map]
    refine List.map_congr_left fun a _ => ?_
    simp only [Function.comp_apply]
    split <;> rfl
  exact congrArg (fun as => { t.lose gone clock with attempts := as }) attempts

end Lose

end Task

namespace Job

/-- The attempts under way with some names, in the order of the names. -/
def named (j : Job) (ids : List AttemptId) : List (Task × Attempt) :=
  ids.filterMap fun id => j.underWay.find? (·.2.id == id)

/-- A job whose attempts with some names were lost but not recorded. -/
def bereft (j : Job) (ids : List AttemptId) (clock : AttemptId → Instant) : Job :=
  { j with
    maps := j.maps.map (·.lose ids.contains clock)
    reduces := j.reduces.map (·.lose ids.contains clock) }

/-- A job after the attempts with some names, if they ran, were lost. -/
def lose (j : Job) (ids : List AttemptId) (clock : AttemptId → Instant) : Job :=
  (j.bereft ids clock).noteKilled (j.named ids) clock

section Lose

variable {j : Job} {ids : List AttemptId} {clock : AttemptId → Instant} {kind : TaskKind}
  {index : Nat} {t : Task} {a : Attempt}

/-- A loss in a job is one in each of its tasks. -/
lemma tasks_lose (j : Job) (ids : List AttemptId) (clock : AttemptId → Instant) (kind : TaskKind) :
    (j.lose ids clock).tasks kind = (j.tasks kind).map (·.lose ids.contains clock) := by
  cases kind <;> rfl

/-- A loss in a job is one in all of its tasks. -/
lemma allTasks_lose (j : Job) (ids : List AttemptId) (clock : AttemptId → Instant) :
    (j.lose ids clock).allTasks = j.allTasks.map (·.lose ids.contains clock) :=
  List.map_append.symm

lemma lose_id (j : Job) (ids : List AttemptId) (clock : AttemptId → Instant) :
    (j.lose ids clock).id = j.id := rfl

/-- What is still under way after a loss. -/
lemma underWay_lose (tasks : ∀ t ∈ j.allTasks, t.Lawful) (ids : List AttemptId)
    (clock : AttemptId → Instant) :
    (j.lose ids clock).underWay = j.underWay.filter fun e => !ids.contains e.2.id := by
  rw [underWay, allTasks_lose, List.flatMap_map, underWay, List.filter_flatMap]
  exact List.flatMap_congr fun t mem => (tasks t mem).running_lose ids.contains clock

/-- A job of which nothing is lost stays as it is. -/
lemma lose_of_none (none : ∀ e ∈ j.underWay, e.2.id ∉ ids) : j.lose ids clock = j := by
  have still (ts : List Task) (sub : ∀ t ∈ ts, t ∈ j.allTasks) :
      ts.map (·.lose ids.contains clock) = ts := by
    conv => rhs; rw [← List.map_id ts]
    refine List.map_congr_left fun t mem => Task.lose_of_none fun a mema => ?_
    have under : (t, a) ∈ j.underWay :=
      List.mem_flatMap.2 ⟨t, sub t mem, List.mem_map_of_mem mema⟩
    simpa using none _ under
  have nobody : j.named ids = [] := by
    refine List.filterMap_eq_nil_iff.2 fun id mem => List.find?_eq_none.2 fun e under here => ?_
    exact none e under (beq_iff_eq.1 here ▸ mem)
  have same : j.bereft ids clock = j := by
    rw [bereft, still j.maps fun _ => List.mem_append_left _,
      still j.reduces fun _ => List.mem_append_right _]
  rw [lose, nobody, noteKilled_nil, same]

/-- What is looked for is found among those that may be it. -/
lemma find?_filter_of_imp {α : Type} {p q : α → Bool} {l : List α} (imp : ∀ x, p x → q x) :
    (l.filter q).find? p = l.find? p := by
  rw [List.find?_filter]
  congr 1
  funext x
  cases hx : p x with
  | true => simp [imp x hx]
  | false => simp

/-- The ends of lost attempts come to one loss. -/
lemma lose_cons (tasks : ∀ t ∈ j.allTasks, t.Lawful) {id : AttemptId} (fresh : id ∉ ids)
    (clock : AttemptId → Instant) :
    (j.lose [id] clock).lose ids clock = j.lose (id :: ids) clock := by
  have contains : (id :: ids).contains = fun x => [id].contains x || ids.contains x := by
    funext x
    simp
  have list (ts : List Task) (sub : ∀ t ∈ ts, t ∈ j.allTasks) :
      (ts.map (·.lose [id].contains clock)).map (·.lose ids.contains clock) =
        ts.map (·.lose (id :: ids).contains clock) := by
    rw [List.map_map]
    refine List.map_congr_left fun t mem => ?_
    rw [Function.comp_apply, (tasks t (sub t mem)).lose_lose, contains]
  -- the other names are still those of the same attempts
  have others : (j.lose [id] clock).named ids = j.named ids := by
    refine List.filterMap_congr fun x mem => ?_
    rw [underWay_lose tasks]
    refine find?_filter_of_imp fun e here => ?_
    have ne : e.2.id ≠ id := fun same => fresh (same ▸ beq_iff_eq.1 here ▸ mem)
    simpa using ne
  have front : j.named (id :: ids) = j.named [id] ++ j.named ids :=
    List.filterMap_append (l := [id])
  have both : (j.lose [id] clock).bereft ids clock =
      (j.bereft (id :: ids) clock).noteKilled (j.named [id]) clock := by
    rw [bereft, lose, noteKilled, noteKilled, bereft, bereft, ← list j.maps fun _ =>
      List.mem_append_left _, ← list j.reduces fun _ => List.mem_append_right _]
  rw [lose, others, both, noteKilled_append, ← front, lose]

/-- The attempts that names stand for are those under way with such a name. -/
lemma mem_named (nodup : (j.underWay.map (·.2.id)).Nodup) {e : Task × Attempt} :
    e ∈ j.named ids ↔ e ∈ j.underWay ∧ e.2.id ∈ ids := by
  rw [named, List.mem_filterMap]
  constructor
  · rintro ⟨id, mem, found⟩
    have here := List.find?_some found
    exact ⟨List.mem_of_find?_eq_some found, beq_iff_eq.1 here ▸ mem⟩
  · rintro ⟨under, mem⟩
    refine ⟨e.2.id, mem, ?_⟩
    rw [← List.head?_filter, filter_eq_singleton nodup under]
    rfl

/-- Different names stand for different attempts. -/
lemma nodup_named (nodup : ids.Nodup) : (j.named ids).Nodup := by
  refine nodup.filterMap fun id id' e found found' => ?_
  have here := List.find?_some found
  have here' := List.find?_some found'
  exact (beq_iff_eq.1 here).symm.trans (beq_iff_eq.1 here')

/-- The order of the names tells the order of the log, and nothing else. -/
lemma lose_perm {ids' : List AttemptId} (perm : ids.Perm ids') :
    { j.lose ids' clock with events := (j.lose ids clock).events } = j.lose ids clock := by
  have contains : ids'.contains = ids.contains := funext fun _ => perm.symm.contains_eq
  have order : (j.named ids).Perm (j.named ids') := perm.filterMap _
  have bereft : j.bereft ids' clock = j.bereft ids clock := by rw [bereft, contains]; rfl
  have counters := countKills_perm j.counters (order.map (·.1.kind))
  rw [lose, bereft, noteKilled, ← order.length_eq]
  exact congrArg (fun cs => { j.lose ids clock with counters := cs }) counters.symm

/-- A job without the moments at which its attempts ended. -/
def untimed (j : Job) : Job :=
  { j with maps := j.maps.map (·.untimed), reduces := j.reduces.map (·.untimed) }

/-- The order of the names and the readings of the clock tell the log and the times, and nothing
else. -/
lemma lose_perm_untimed {ids' : List AttemptId} (perm : ids.Perm ids')
    (clock clock' : AttemptId → Instant) :
    { (j.lose ids' clock').untimed with events := (j.lose ids clock).events } =
      (j.lose ids clock).untimed := by
  have list (ts : List Task) : (ts.map (·.lose ids'.contains clock')).map (·.untimed) =
      (ts.map (·.lose ids'.contains clock)).map (·.untimed) := by
    rw [List.map_map, List.map_map]
    exact List.map_congr_left fun t _ => t.lose_untimed _ clock' clock
  have timed : { (j.lose ids' clock').untimed with events := (j.lose ids clock).events } =
      { (j.lose ids' clock).untimed with events := (j.lose ids clock).events } :=
    congrArg₂ (fun ms rs => { (j.lose ids' clock).untimed with
      maps := ms
      reduces := rs
      events := (j.lose ids clock).events }) (list j.maps) (list j.reduces)
  exact timed.trans (congrArg untimed (lose_perm perm))

/-- The place of a running attempt is the only one that its loss concerns. -/
lemma setTask_closed (lw : j.Lawful) (pick : (j.tasks kind)[index]? = some t)
    (mem : a ∈ t.attempts) (run : a.isRunning) (clock : AttemptId → Instant) :
    j.setTask kind index (t.closed a .killed Counters.empty lossNotes (clock a.id)) =
      j.bereft [a.id] clock := by
  have lwt := lw.tasks t (mem_of_pick pick)
  have here : [a.id].contains a.id = true := by simp
  have each (k : TaskKind) : (j.setTask kind index
      (t.closed a .killed Counters.empty lossNotes (clock a.id))).tasks k =
        (j.tasks k).map (·.lose [a.id].contains clock) := by
    refine List.ext_getElem? fun i => ?_
    rw [List.getElem?_map]
    by_cases place : k = kind ∧ i = index
    · obtain ⟨rfl, rfl⟩ := place
      have lt := (List.getElem?_eq_some_iff.1 pick).1
      rw [tasks_setTask, List.getElem?_set_self lt, pick, Option.map_some,
        lwt.lose_eq_closed mem run here]
    · have same : ((j.setTask kind index
          (t.closed a .killed Counters.empty lossNotes (clock a.id))).tasks k)[i]? =
            (j.tasks k)[i]? := by
        by_cases ek : k = kind
        · subst ek
          rw [tasks_setTask, List.getElem?_set_ne fun e => place ⟨rfl, e.symm⟩]
        · rw [tasks_setTask_ne _ ek]
      rw [same]
      cases there : (j.tasks k)[i]? with
      | none => rfl
      | some u =>
        rw [Option.map_some, Task.lose_of_none]
        intro b memb
        -- the name of an attempt tells its place
        have apart : b.id ≠ a.id := fun e => place <| by
          have inj := Has.inj ⟨u, there, List.mem_map_of_mem (List.mem_filter.1 memb).1⟩
            ⟨t, pick, e ▸ List.mem_map_of_mem mem⟩ lw lw
          exact ⟨inj.2.1, inj.2.2⟩
        simpa using apart
  have maps := each .map
  have reduces := each .reduce
  cases kind with
  | map => exact congrArg₂ (fun ms rs => { j with maps := ms, reduces := rs }) maps reduces
  | reduce => exact congrArg₂ (fun ms rs => { j with maps := ms, reduces := rs }) maps reduces

/-- The end of a lost attempt is its loss, and has no consequences for the job. -/
lemma conclude_of_lost (lw : j.Lawful) (pick : (j.tasks kind)[index]? = some t)
    (mem : a ∈ t.attempts) (run : a.isRunning) (clock : AttemptId → Instant) :
    (j.recorded kind index t a .killed Counters.empty lossNotes (clock a.id)).conclude
      (t.closed a .killed Counters.empty lossNotes (clock a.id)) (.still (clock a.id)) =
        (j.lose [a.id] clock, []) := by
  have agree := agree_recorded j kind index t a .killed Counters.empty lossNotes (clock a.id)
  have one : j.named [a.id] = [(t, a)] := by
    have under : (t, a) ∈ j.underWay := mem_underWay.2 ⟨mem_of_pick pick, mem, run⟩
    have found : j.underWay.find? (·.2.id == a.id) = some (t, a) := by
      rw [← List.head?_filter, filter_eq_singleton lw.underWay_ids_nodup under]
      rfl
    rw [named, List.filterMap_cons, found]
    rfl
  have lost : j.recorded kind index t a .killed Counters.empty lossNotes (clock a.id) =
      j.lose [a.id] clock := by
    rw [lose, ← setTask_closed lw pick mem run, one]
    simp only [recorded, record, recordKilled, log, count, Task.closed_kind, Task.closed_index]
    rfl
  have notFailed : (t.closed a .killed Counters.empty lossNotes (clock a.id)).state ≠ .failed := by
    intro failed
    cases failed
  have notDone :
      ¬(j.recorded kind index t a .killed Counters.empty lossNotes (clock a.id)).allDone := by
    -- the task waits again
    intro done
    have waits := agree.allTasks ▸ mem_setTask_self pick
      (t.closed a .killed Counters.empty lossNotes (clock a.id))
    cases (allDone_iff.1 done).2 _ waits
  rw [conclude, if_neg notFailed, if_neg notDone, lost]

/-- Closing one attempt as lost is the loss of that one. -/
lemma close_of_lost (lw : j.Lawful) (pick : (j.tasks kind)[index]? = some t)
    (mem : a ∈ t.attempts) (run : a.isRunning) (clock : AttemptId → Instant) :
    j.close kind index a.id .killed Counters.empty lossNotes (.still (clock a.id)) =
      some ⟨j.lose [a.id] clock, a.close .killed (clock a.id) lossNotes, []⟩ := by
  have found := (lw.tasks t (mem_of_pick pick)).attempt?_of_mem mem
  have ended := conclude_of_lost lw pick mem run clock
  rw [close_eq pick found run]
  exact congrArg (fun e => some (Closed.mk e.1 (a.close .killed (clock a.id) lossNotes) e.2)) ended

end Lose

end Job

/-! ## What a loss comes to -/

/-- What becomes of an attempt when some trackers are lost. The clock tells for each attempt when it
ends, since each of these ends reads it anew. -/
structure Attempt.Sweeps (a : Attempt) (gone : TrackerId → Prop) (clock : AttemptId → Instant)
    (a' : Attempt) : Prop where
  lost : a.state = .running → gone a.tracker →
    a' = { a with
      state := .killed
      finishedAt := some (clock a.id)
      diagnostics := a.diagnostics ++ ["tracker perdido"] }
  kept : ¬(a.state = .running ∧ gone a.tracker) → a' = a

/-- What becomes of a task when some trackers are lost. -/
structure Task.Sweeps (t : Task) (gone : TrackerId → Prop) (clock : AttemptId → Instant)
    (t' : Task) : Prop where
  attempts : List.Forall₂ (·.Sweeps gone clock ·) t.attempts t'.attempts
  lost : (∃ a ∈ t.attempts, a.state = .running ∧ gone a.tracker) → t'.state = .pending
  kept : (¬∃ a ∈ t.attempts, a.state = .running ∧ gone a.tracker) → t' = t
  others : { t' with state := t.state, attempts := t.attempts } = t

/-- What becomes of a job when some trackers are lost, where its attempts end in some order. -/
structure Job.Sweeps (j : Job) (gone : TrackerId → Prop) (clock : AttemptId → Instant)
    (lost : List (Task × Attempt)) (j' : Job) : Prop where
  once : lost.Nodup
  mem : ∀ e, e ∈ lost ↔ e ∈ j.underWay ∧ gone e.2.tracker
  tasks : ∀ kind, List.Forall₂ (·.Sweeps gone clock ·) (j.tasks kind) (j'.tasks kind)
  events : j'.events = j.events ++ killEvents clock j.events.length lost
  total : j'.killedTasks = j.killedTasks + lost.length
  counted : ∀ kind, (j'.counters.value Counters.jobGroup (killedName kind)).toNat =
    min maxWord64 ((j.counters.value Counters.jobGroup (killedName kind)).toNat +
      lost.countP (·.1.kind == kind))
  uncounted : ∀ g n, (∀ kind, ¬(g = Counters.jobGroup ∧ n = killedName kind)) →
    j'.counters.value g n = j.counters.value g n
  others : { j' with
    maps := j.maps
    reduces := j.reduces
    events := j.events
    counters := j.counters
    killedTasks := j.killedTasks } = j

section Sweeps

variable {t : Task} {j : Job} {names : List AttemptId} {gone : TrackerId → Prop}

/-- A loss of what runs on the dead trackers sweeps a task. -/
lemma Task.sweeps_lose (tells : ∀ a ∈ t.running, a.id ∈ names ↔ gone a.tracker)
    (clock : AttemptId → Instant) : t.Sweeps gone clock (t.lose names.contains clock) := by
  have named {a : Attempt} (mem : a ∈ t.attempts) (run : a.state = .running) :
      names.contains a.id = true ↔ gone a.tracker := by
    rw [List.contains_iff_mem]
    exact tells a (List.mem_filter.2 ⟨mem, beq_iff_eq.2 run⟩)
  refine ⟨?_, ?_, ?_, rfl⟩
  · rw [lose, List.forall₂_map_right_iff, List.forall₂_same]
    intro a mem
    refine ⟨fun run on => ?_, fun no => if_neg fun here => no ?_⟩
    · have here : (a.isRunning && names.contains a.id) = true := by
        rw [(named mem run).2 on, Attempt.isRunning, run]
        rfl
      exact if_pos here
    · obtain ⟨run, here⟩ := Bool.and_eq_true_iff.1 here
      exact ⟨beq_iff_eq.1 run, (named mem (beq_iff_eq.1 run)).1 here⟩
  · rintro ⟨a, mem, run, on⟩
    have here : t.running.any (names.contains ·.id) = true := List.any_eq_true.2
      ⟨a, List.mem_filter.2 ⟨mem, beq_iff_eq.2 run⟩, (named mem run).2 on⟩
    exact if_pos here
  · intro none
    refine lose_of_none fun a mem => Bool.eq_false_iff.2 fun here => none ?_
    obtain ⟨mem, run⟩ := List.mem_filter.1 mem
    exact ⟨a, mem, beq_iff_eq.1 run, (named mem (beq_iff_eq.1 run)).1 here⟩

/-- A loss of what runs on the dead trackers sweeps a job. -/
lemma Job.sweeps_lose (lw : j.Lawful) (nodup : names.Nodup)
    (tells : ∀ a ∈ j.running, a.id ∈ names ↔ gone a.tracker) (clock : AttemptId → Instant) :
    j.Sweeps gone clock (j.named names) (j.lose names clock) := by
  refine ⟨nodup_named nodup, fun e => ?_, fun kind => ?_, rfl, rfl, fun kind => ?_,
    fun g n other => value_countKills_of_ne other, rfl⟩
  · rw [mem_named lw.underWay_ids_nodup]
    refine and_congr_right fun under => tells e.2 ?_
    rw [running_eq_map_underWay]
    exact List.mem_map_of_mem under
  · rw [tasks_lose, List.forall₂_map_right_iff, List.forall₂_same]
    refine fun t mem => Task.sweeps_lose (fun a mema => tells a ?_) clock
    exact List.mem_flatMap.2 ⟨t, mem_allTasks.2 ⟨kind, mem⟩, mema⟩
  · have counted := counts_countKills j.counters ((j.named names).map (·.1.kind)) kind
    rw [List.count, List.countP_map] at counted
    exact counted

end Sweeps

end JobCluster.Coordinator
