import JobCluster.Proofs.Cluster.Run
import JobCluster.Proofs.Coordinator.Survival

/-!
# Kills and assignments that cross

The coordinator tells a worker of a killed attempt once, with a heartbeat, and the worker aborts the
attempt if it runs. `killed_not_started` says what this comes to, unless the assignment of the
attempt is still under way when the worker takes the answer to the heartbeat: the attempt does not
run and never starts to, since it is assigned once, and all that can be left of it is a read of its
split that the threads have already.

`told_kills_missed` is about two runs in which more is left. In one the assignment is under way: the
worker does not know the attempt when it is told to abort it, starts it afterwards, and is not told
again. In the other the read of the attempt waits for a thread when the attempt is aborted, and is
begun afterwards.

The invariant of a run is `Spent`: an attempt that the coordinator knows is neither running on the
worker nor on its way to it. Such an attempt hands over no read.
-/

namespace JobCluster

open JobCluster.Coordinator JobCluster.File JobCluster.Time

namespace Worker

variable {w : Worker} {id k : AttemptId}

/-- The attempts that execute on a worker: those that run, and those whose reads are with the
threads. -/
def executing (w : Worker) : List AttemptId := w.runningIds ++ w.readIds

/-- An attempt that runs after an assignment was taken ran before, or is the assigned one. -/
lemma mem_runningIds_accept {a : Option TaskAssignment} (mem : id ∈ (w.accept a).runningIds) :
    id ∈ w.runningIds ∨ ∃ b, a = some b ∧ b.attemptId = id := by
  cases a with
  | none => exact .inl mem
  | some b =>
    obtain ⟨x, memx, rfl⟩ := List.mem_map.1 mem
    rcases List.mem_append.1 memx with old | new
    · exact .inl (List.mem_map_of_mem (List.mem_filter.1 old).1)
    · exact .inr ⟨b, rfl, by rw [List.mem_singleton.1 new]⟩

/-- No attempt starts to run when another ends. -/
lemma runningIds_finish_subset (w : Worker) (t : Tree) (id : AttemptId) :
    (w.finish t id).runningIds ⊆ w.runningIds := by
  unfold finish
  split
  · exact (List.filter_sublist.map _).subset
  · exact List.Subset.refl _

/-- An attempt that runs after an abort ran before and was not named. -/
lemma mem_runningIds_abort {kills : List AttemptId} (mem : id ∈ (w.abort kills).runningIds) :
    id ∈ w.runningIds ∧ id ∉ kills := by
  obtain ⟨x, memx, rfl⟩ := List.mem_map.1 mem
  obtain ⟨old, kept⟩ := List.mem_filter.1 memx
  exact ⟨List.mem_map_of_mem old, by simpa using kept⟩

/-- An attempt that needs a read is running. -/
lemma mem_runningIds_of_needsRead (needs : w.needsRead id) : id ∈ w.runningIds := by
  obtain ⟨a, mem, is⟩ := List.any_eq_true.1 needs
  simp only [Bool.and_eq_true, beq_iff_eq] at is
  exact is.1 ▸ List.mem_map_of_mem mem

/-- The reads that the threads have stay with them when an assignment is taken. -/
lemma readIds_accept (w : Worker) (a : Option TaskAssignment) :
    (w.accept a).readIds = w.readIds := by
  cases a <;> rfl

/-- A read that is handed over joins the others. -/
lemma readIds_handOver (w : Worker) (k : AttemptId) :
    (w.handOver k).readIds = w.readIds ++ [k] := by
  rw [readIds, handOver, List.map_append]
  rfl

/-- A read that is begun keeps its name. -/
lemma readIds_beginRead (w : Worker) (k : AttemptId) : (w.beginRead k).readIds = w.readIds := by
  rw [readIds, beginRead, List.map_map]
  refine List.map_congr_left fun r _ => ?_
  rw [Function.comp_apply]
  split <;> rfl

/-- No read comes up when one is dropped. -/
lemma readIds_dropRead_subset (w : Worker) (k : AttemptId) :
    (w.dropRead k).readIds ⊆ w.readIds :=
  (List.filter_sublist.map _).subset

/-- No read comes up when an attempt ends. -/
lemma readIds_finish_subset (w : Worker) (t : Tree) (k : AttemptId) :
    (w.finish t k).readIds ⊆ w.readIds := by
  unfold finish
  split
  · exact (List.filter_sublist.map _).subset
  · exact List.Subset.refl _

end Worker

namespace Coordinator

/-- Whether an attempt with a name was launched. -/
def Knows (c : Coordinator) (id : AttemptId) : Prop := id ∈ c.attempts.map Attempt.id

/-- A known attempt stays known. -/
lemma System.Lawful.knows_next {s : System} {op : Operation} (lw : s.Lawful) (ok : s.Permits op)
    {id : AttemptId} (known : s.coordinator.Knows id) : (s.next op).coordinator.Knows id := by
  obtain ⟨a, mem, rfl⟩ := List.mem_map.1 known
  obtain ⟨a', mem', be⟩ := lw.stay ok a mem
  exact be.id ▸ List.mem_map_of_mem mem'

/-- An assignment is of an attempt that was not known before. -/
lemma Reachable.assign_fresh {s : System} (re : Reachable s) {id : TrackerId} {now : Instant}
    {asg : TaskAssignment} (e : (s.coordinator.assign id now).1 = some asg) :
    ¬s.coordinator.Knows asg.attemptId := by
  have ok : s.Permits (.assign id now) := trivial
  have re' : Reachable (s.next (.assign id now)) := (Run.snoc .nil ok).reachable re
  rcases assign_cases re.exact id now with ⟨none, -⟩ | ⟨asg', some, new⟩
  · rw [none] at e
    cases e
  · cases Option.some.inj (some.symm.trans e)
    exact new.fresh re'.exact (re.lawful.stay ok)

/-- The answer to a heartbeat names attempts that are known. -/
lemma Reachable.knows_of_heartbeat {s : System} (re : Reachable s) {h : Heartbeat} {now : Instant}
    {id : AttemptId}
    (mem : id ∈ ((s.coordinator.heartbeat h now).map Prod.fst).getD []) :
    s.coordinator.Knows id := by
  obtain ⟨a, mema, ea, -⟩ := re.over_of_heartbeat mem
  exact ea ▸ List.mem_map_of_mem mema

end Coordinator

namespace Cluster

variable {g g' : Cluster} {e : Event} {es : List Event} {id : AttemptId}

/-- The operation of the coordinator that an event is, if it is one. -/
def operation? (g : Cluster) : Event → Option Operation
  | .other op => some op
  | .serveWork now => some (.assign g.worker.tracker now)
  | .serveBeat h now => some (.heartbeat h now)
  | .deliver r now => some (.complete r now)
  | .askWork | .takeWork | .sendBeat | .takeBeat | .handOver _ | .beginRead _ | .finish ..
  | .dropRead _ | .settle _ => none

/-- An event that is no operation leaves the coordinator alone. -/
lemma system_next_cases (ok : g.Enabled e) :
    (g.next e).system = g.system ∨ ∃ op, g.operation? e = some op ∧ g.system.Permits op ∧
      (g.next e).system = g.system.next op := by
  cases e with
  | other op => exact .inr ⟨op, rfl, ok.1, rfl⟩
  | serveWork now => exact .inr ⟨.assign g.worker.tracker now, rfl, trivial, rfl⟩
  | serveBeat h now => exact .inr ⟨.heartbeat h now, rfl, trivial, rfl⟩
  | deliver r now => exact .inr ⟨.complete r now, rfl, trivial, rfl⟩
  | askWork | sendBeat | handOver | beginRead | finish | dropRead | settle => exact .inl rfl
  | takeWork =>
    obtain ⟨_, -, taken⟩ := next_takeWork ok
    exact .inl (by rw [taken])
  | takeBeat =>
    obtain ⟨_, -, taken⟩ := next_takeBeat ok
    exact .inl (by rw [taken])

/-- An event leaves the coordinator alone or is an operation of it. -/
lemma system_next (ok : g.Enabled e) : (g.next e).system = g.system ∨
    ∃ op, g.system.Permits op ∧ (g.next e).system = g.system.next op :=
  (system_next_cases ok).imp_right fun ⟨op, _, permitted, eq⟩ => ⟨op, permitted, eq⟩

/-- What holds of a cluster at all times: its coordinator is one of a run, and it knows the attempts
that the worker is about to be told to abort. -/
structure Sound (g : Cluster) : Prop where
  reachable : Coordinator.Reachable g.system
  told : ∀ kills, g.beat = .answered kills → ∀ id ∈ kills, g.system.coordinator.Knows id

/-- What the coordinator of a cluster knows stays known. -/
lemma Sound.knows_next (so : Sound g) (ok : g.Enabled e) (known : g.system.coordinator.Knows id) :
    (g.next e).system.coordinator.Knows id := by
  rcases system_next ok with same | ⟨op, permitted, eq⟩
  · rw [same]
    exact known
  · rw [eq]
    exact so.reachable.lawful.knows_next permitted known

/-- Every event keeps a cluster sound. -/
lemma Sound.next (so : Sound g) (ok : g.Enabled e) : Sound (g.next e) := by
  have reachable : Coordinator.Reachable (g.next e).system := by
    rcases system_next ok with same | ⟨op, permitted, eq⟩
    · exact same ▸ so.reachable
    · exact eq ▸ (Coordinator.Run.snoc .nil permitted).reachable so.reachable
  refine ⟨reachable, fun kills answer id mem => ?_⟩
  cases e with
  | serveBeat h now =>
    cases Call.answered.inj answer
    exact so.knows_next ok (so.reachable.knows_of_heartbeat mem)
  | sendBeat => cases answer
  | takeBeat =>
    obtain ⟨_, -, taken⟩ := next_takeBeat ok
    rw [taken] at answer
    cases answer
  | takeWork =>
    obtain ⟨_, -, taken⟩ := next_takeWork ok
    rw [taken] at answer
    exact so.knows_next ok (so.told kills answer id mem)
  | other | askWork | serveWork | handOver | beginRead | finish | dropRead | deliver | settle =>
    exact so.knows_next ok (so.told kills answer id mem)

/-- Reachable clusters are sound. -/
lemma Reachable.sound (re : Reachable g) : Sound g := by
  obtain ⟨s, k, r, now, es, re, fresh, run⟩ := re
  induction run with
  | nil =>
    exact ⟨(Coordinator.Run.snoc .nil fresh).reachable re, fun kills answer => by cases answer⟩
  | snoc _ ok ih => exact ih.next ok

/-- An attempt is over for a worker: the coordinator has launched it, it does not run, and it is not
on its way. -/
structure Spent (id : AttemptId) (g : Cluster) : Prop where
  known : g.system.coordinator.Knows id
  idle : id ∉ g.worker.runningIds
  unassigned : ∀ a, g.work = .answered (some a) → a.attemptId ≠ id

/-- An attempt runs because it did before, or because its assignment has been taken. -/
lemma runningIds_next (ok : g.Enabled e) (mem : id ∈ (g.next e).worker.runningIds) :
    id ∈ g.worker.runningIds ∨ ∃ a, g.work = .answered (some a) ∧ a.attemptId = id := by
  cases e with
  | takeWork =>
    obtain ⟨a, answer, taken⟩ := next_takeWork ok
    rw [taken] at mem
    refine (Worker.mem_runningIds_accept mem).imp_right ?_
    rintro ⟨b, rfl, same⟩
    exact ⟨b, answer, same⟩
  | takeBeat =>
    obtain ⟨_, -, taken⟩ := next_takeBeat ok
    rw [taken] at mem
    exact .inl (Worker.mem_runningIds_abort mem).1
  | finish t k => exact .inl (Worker.runningIds_finish_subset g.worker t k mem)
  | other | askWork | serveWork | sendBeat | serveBeat | handOver | beginRead | dropRead | deliver
  | settle => exact .inl mem

/-- An assignment is under way because it was before, or because its attempt has just been launched.
-/
lemma Sound.work_next (so : Sound g) (ok : g.Enabled e) {a : TaskAssignment}
    (work : (g.next e).work = .answered (some a)) :
    g.work = .answered (some a) ∨ ¬g.system.coordinator.Knows a.attemptId := by
  cases e with
  | serveWork now =>
    -- what the coordinator assigns it did not know before
    exact .inr (so.reachable.assign_fresh (Call.answered.inj work))
  | askWork => cases work
  | takeWork =>
    obtain ⟨_, -, taken⟩ := next_takeWork ok
    rw [taken] at work
    cases work
  | takeBeat =>
    obtain ⟨_, -, taken⟩ := next_takeBeat ok
    rw [taken] at work
    exact .inl work
  | other | sendBeat | serveBeat | handOver | beginRead | finish | dropRead | deliver | settle =>
    exact .inl work

/-- The threads have a read because they had it before, or because its attempt runs. -/
lemma readIds_next (ok : g.Enabled e) (mem : id ∈ (g.next e).worker.readIds) :
    id ∈ g.worker.readIds ∨ id ∈ g.worker.runningIds := by
  cases e with
  | handOver k =>
    rw [Cluster.next, Worker.readIds_handOver] at mem
    refine (List.mem_append.1 mem).imp_right fun new => ?_
    -- only an attempt that runs hands its read over
    rw [List.mem_singleton.1 new]
    exact Worker.mem_runningIds_of_needsRead ok.1
  | beginRead k =>
    rw [Cluster.next, Worker.readIds_beginRead] at mem
    exact .inl mem
  | finish t k => exact .inl (Worker.readIds_finish_subset g.worker t k mem)
  | dropRead k => exact .inl (Worker.readIds_dropRead_subset g.worker k mem)
  | takeWork =>
    obtain ⟨a, -, taken⟩ := next_takeWork ok
    rw [taken, Worker.readIds_accept] at mem
    exact .inl mem
  | takeBeat =>
    obtain ⟨_, -, taken⟩ := next_takeBeat ok
    rw [taken] at mem
    exact .inl mem
  | other | askWork | serveWork | sendBeat | serveBeat | deliver | settle => exact .inl mem

/-- What is over for a worker stays over. -/
lemma Spent.next (sp : Spent id g) (so : Sound g) (ok : g.Enabled e) : Spent id (g.next e) := by
  refine ⟨so.knows_next ok sp.known, fun mem => ?_, fun a work => ?_⟩
  · rcases runningIds_next ok mem with old | ⟨a, work, same⟩
    · exact sp.idle old
    · exact sp.unassigned a work same
  · rcases so.work_next ok work with old | fresh
    · exact sp.unassigned a old
    · rintro rfl
      exact fresh sp.known

/-- What is over for a worker hands over no read: of its reads there are only those that the threads
have. -/
lemma Spent.readIds_next (sp : Spent id g) (ok : g.Enabled e)
    (mem : id ∈ (g.next e).worker.readIds) : id ∈ g.worker.readIds :=
  (Cluster.readIds_next ok mem).resolve_right sp.idle

/-- What is over for a worker stays over in every run, and no read of it comes up. -/
lemma Run.spent (run : Run g es g') (so : Sound g) (sp : Spent id g) :
    Sound g' ∧ Spent id g' ∧ (id ∈ g'.worker.readIds → id ∈ g.worker.readIds) := by
  induction run with
  | nil => exact ⟨so, sp, fun mem => mem⟩
  | snoc _ ok ih =>
    obtain ⟨so', sp', reads⟩ := ih
    exact ⟨so'.next ok, sp'.next so' ok, fun mem => reads (sp'.readIds_next ok mem)⟩

/-- Where the threads have no read of it, what is over for a worker does not execute in any run. -/
lemma Run.not_executing (run : Run g es g') (so : Sound g) (sp : Spent id g)
    (unread : id ∉ g.worker.readIds) : id ∉ g'.worker.executing := by
  obtain ⟨-, sp', reads⟩ := run.spent so sp
  intro mem
  rcases List.mem_append.1 mem with running | reading
  · exact sp'.idle running
  · exact unread (reads reading)

/-- A worker has taken an answer that tells it to abort an attempt, and the assignment of the
attempt was not under way at that moment. If the threads had no read of it either, the attempt does
not execute and never starts to. If they had one, this read is all that is left: the attempt does
not run and never starts to, and once the read is over, nothing of it executes any more. -/
theorem killed_not_started (re : Reachable g) {kills : List AttemptId}
    (answer : g.beat = .answered kills) (named : id ∈ kills)
    (crossed : ∀ a, g.work = .answered (some a) → a.attemptId ≠ id)
    (run : Run (g.next .takeBeat) es g') :
    (id ∉ g.worker.readIds → id ∉ g'.worker.executing) ∧
    id ∉ g'.worker.runningIds ∧
    (id ∉ g'.worker.readIds → ∀ es' g'', Run g' es' g'' → id ∉ g''.worker.executing) := by
  have so := re.sound
  have ok : g.Enabled .takeBeat := by
    rw [Enabled, answer]
    rfl
  have e : g.next .takeBeat = { g with worker := g.worker.abort kills, beat := .idle } := by
    simp only [next, answer]
  have sp : Spent id (g.next .takeBeat) := by
    rw [e]
    exact ⟨so.told kills answer id named, fun mem => (Worker.mem_runningIds_abort mem).2 named,
      crossed⟩
  obtain ⟨so', sp', -⟩ := run.spent (so.next ok) sp
  refine ⟨fun unread => run.not_executing (so.next ok) sp ?_, sp'.idle,
    fun unread _ _ run' => run'.not_executing so' sp' unread⟩
  -- the abort leaves the reads alone
  rw [e]
  exact unread

/-! ## Two runs -/

/-- A cluster whose worker has just registered there. -/
def oneMapCluster : Cluster := join oneMapSystem "t1" ⟨"h1", 1, 0⟩ (.ofSeconds 0)

/-- What enabled events lead to from the sample cluster is reachable. -/
lemma oneMapCluster_reachable {es : List Event} (ok : oneMapCluster.EnabledAll es) :
    Reachable (oneMapCluster.after es) :=
  ⟨oneMapSystem, "t1", ⟨"h1", 1, 0⟩, .ofSeconds 0, es,
    Coordinator.oneMap_reachable, by decide, .of_enabledAll ok⟩

/-- A user kills the attempt at the map, and the worker sends a heartbeat. -/
def killAndBeat : List Event :=
  [.other (.killAttempt oneMapAttempt false (.ofSeconds 0)), .sendBeat,
    .serveBeat ⟨"t1", .zero _ false, 0⟩ (.ofSeconds 0)]

/-- The attempt is killed while it runs. -/
def killedRunning : Cluster :=
  oneMapCluster.after ([.askWork, .serveWork (.ofSeconds 0), .takeWork] ++ killAndBeat)

/-- The attempt is killed while its assignment is under way. -/
def killedOnTheWay : Cluster :=
  oneMapCluster.after ([.askWork, .serveWork (.ofSeconds 0)] ++ killAndBeat)

/-- The attempt is killed while its read is with the threads and waits to be begun. -/
def killedReading : Cluster :=
  oneMapCluster.after
    ([.askWork, .serveWork (.ofSeconds 0), .takeWork, .handOver oneMapAttempt] ++ killAndBeat)

/-- An attempt that is killed before it hands its read over does not come back; the worker gets the
next attempt at the map. One that is killed after that leaves its read behind, and is gone when the
read is over. -/
theorem sample_killed_not_started :
    (killedRunning.worker.executing = [oneMapAttempt] ∧
      ((killedRunning.next .takeBeat).after
        [.askWork, .serveWork (.ofSeconds 0), .takeWork]).worker.executing =
          ["attempt_202601020304_0001_m_000000_1"] ∧
      oneMapAttempt ∉ ((killedRunning.next .takeBeat).after
        [.askWork, .serveWork (.ofSeconds 0), .takeWork]).worker.executing) ∧
    (killedReading.next .takeBeat).worker.executing = [oneMapAttempt] ∧
    oneMapAttempt ∉ ((killedReading.next .takeBeat).after
      [.beginRead oneMapAttempt]).worker.runningIds := by
  refine ⟨⟨by decide +kernel, by decide +kernel, ?_⟩, by decide +kernel, ?_⟩
  · exact (killed_not_started (oneMapCluster_reachable (by decide +kernel))
      (show killedRunning.beat = .answered [oneMapAttempt] by decide +kernel) (by decide +kernel)
      (fun a work => nomatch (show killedRunning.work = .idle by decide).symm.trans work)
      (.of_enabledAll (by decide +kernel))).1 (by decide +kernel)
  · exact (killed_not_started (oneMapCluster_reachable (by decide +kernel))
      (show killedReading.beat = .answered [oneMapAttempt] by decide +kernel) (by decide +kernel)
      (fun a work => nomatch (show killedReading.work = .idle by decide).symm.trans work)
      (.of_enabledAll (by decide +kernel))).2.1

/-- A kill that a worker was told of is missed in two ways. It takes an answer that tells it to
abort an attempt whose assignment is under way, and then the assignment: the attempt runs, and the
coordinator has nothing more to tell of it. Or the read of the attempt waits for a thread when the
attempt is aborted: it is begun afterwards, though nothing will come of it. -/
theorem told_kills_missed :
    (Reachable killedOnTheWay ∧
      killedOnTheWay.beat = .answered [oneMapAttempt] ∧
      Run (killedOnTheWay.next .takeBeat) [.takeWork]
        ((killedOnTheWay.next .takeBeat).next .takeWork) ∧
      ((killedOnTheWay.next .takeBeat).next .takeWork).worker.runningIds = [oneMapAttempt] ∧
      ((killedOnTheWay.next .takeBeat).next .takeWork).system.coordinator.pending "t1" = []) ∧
    (Reachable killedReading ∧
      killedReading.beat = .answered [oneMapAttempt] ∧
      Run (killedReading.next .takeBeat) [.beginRead oneMapAttempt]
        ((killedReading.next .takeBeat).next (.beginRead oneMapAttempt)) ∧
      (killedReading.next .takeBeat).worker.reads = [⟨oneMapAttempt, false⟩] ∧
      ((killedReading.next .takeBeat).next (.beginRead oneMapAttempt)).worker.reads =
        [⟨oneMapAttempt, true⟩]) := by
  refine ⟨⟨oneMapCluster_reachable (by decide +kernel), by decide +kernel,
    .snoc .nil (by decide +kernel), by decide +kernel, by decide +kernel⟩,
    oneMapCluster_reachable (by decide +kernel), by decide +kernel,
    .snoc .nil (by decide +kernel), by decide +kernel, by decide +kernel⟩

end Cluster

end JobCluster
