import JobCluster.Proofs.Cluster.Kills

/-!
# What a worker has in hand

A worker has in hand the attempts that it runs and those that it is reporting (`Worker.held`); an
assignment that is on its way to it comes before (`Cluster.held`). `Cluster.held_next` tells what an
event does to these names: it adds those that are handed out, and takes away only what the worker is
told to abort and what is reported (`Cluster.GivesUp`).

The other side is the coordinator. An attempt runs on the worker for the coordinator only if it is
handed out (`Cluster.live_next`), and it goes on as long as no report and no operation from
elsewhere ends it by its name and its job does not end (`Cluster.spares_next`).
-/

namespace JobCluster

open JobCluster.Coordinator JobCluster.File JobCluster.Time JobCluster.Worker

namespace Worker

variable {w : Worker} {id : AttemptId}

/-- The attempts that a worker has in hand: those that it runs and those that it is reporting. -/
def held (w : Worker) : List AttemptId :=
  w.runningIds ++ w.reporting.map TaskCompletion.attemptId

/-- A report names the attempt that was run. -/
lemma runAttempt_attemptId (t : Tree) (a : TaskAssignment) :
    (runAttempt t a).attemptId = a.attemptId := by
  unfold runAttempt
  split
  · split <;> rfl
  · rfl
  · rfl

/-- What is accepted is in hand. -/
lemma held_accept {a : TaskAssignment} (fresh : a.attemptId ∉ w.runningIds) :
    (a.attemptId :: w.held).Perm (w.accept (some a)).held := by
  have kept : w.running.filter (·.attemptId ≠ a.attemptId) = w.running := by
    refine List.filter_eq_self.2 fun b mem => ?_
    have ne : b.attemptId ≠ a.attemptId := fun e => fresh (e ▸ List.mem_map_of_mem mem)
    simpa using ne
  have ids : (w.accept (some a)).runningIds = w.runningIds ++ [a.attemptId] := by
    rw [runningIds, accept, kept, List.map_append]
    rfl
  rw [held, held, ids, List.append_assoc]
  exact List.perm_middle.symm

/-- What is run to its end is still in hand. -/
lemma held_finish (nodup : w.runningIds.Nodup) (mem : id ∈ w.runningIds) (t : Tree) :
    w.held.Perm (w.finish t id).held := by
  obtain ⟨b, memb, same⟩ := List.mem_map.1 mem
  obtain ⟨a, found⟩ : ∃ a, w.running.find? (·.attemptId == id) = some a :=
    Option.isSome_iff_exists.1 (List.find?_isSome.2 ⟨b, memb, by simpa using same⟩)
  have ea : a.attemptId = id := by simpa using List.find?_some found
  have finished : w.finish t id =
      { w with
        running := w.running.filter (·.attemptId ≠ id)
        reads := w.reads.filter (·.attemptId ≠ id)
        reporting := w.reporting ++ [runAttempt t a] } := by
    simp only [finish, found]
  have rest : (w.finish t id).runningIds = w.runningIds.erase id := by
    rw [finished, nodup.erase_eq_filter, runningIds, runningIds, List.filter_map]
    congr 1
    refine List.filter_congr fun x _ => ?_
    rw [Bool.eq_iff_iff]
    simp
  have reports : (w.finish t id).reporting.map TaskCompletion.attemptId =
      w.reporting.map TaskCompletion.attemptId ++ [id] := by
    rw [finished, List.map_append, List.map_singleton, runAttempt_attemptId, ea]
  rw [held, held, rest, reports, ← List.append_assoc]
  exact ((List.perm_cons_erase mem).append_right _).trans (List.perm_append_singleton id _).symm

/-- What is aborted is not in hand any more. -/
lemma held_abort (w : Worker) (kills : List AttemptId) :
    w.held.Perm ((w.abort kills).held ++ w.runningIds.filter kills.contains) := by
  have ids : (w.abort kills).runningIds = w.runningIds.filter fun id => ! kills.contains id := by
    rw [runningIds_abort]
    rfl
  rw [held, held, ids, List.append_assoc]
  refine ((List.filter_append_perm kills.contains w.runningIds).symm.append_right _).trans ?_
  rw [List.append_assoc]
  exact List.perm_append_comm.trans (by rw [List.append_assoc]; exact .refl _)

/-- A report that is given up is not in hand any more. -/
lemma held_settle {r : TaskCompletion} (mem : r ∈ w.reporting) :
    w.held.Perm (r.attemptId :: (w.settle r).held) :=
  (((List.perm_cons_erase mem).map _).append_left _).trans List.perm_middle

end Worker

/-- The name in an assignment that is on its way to a worker. -/
def Call.assigned : Call (Option TaskAssignment) → List AttemptId
  | .answered a => (a.map TaskAssignment.attemptId).toList
  | _ => []

namespace Cluster

variable {g : Cluster} {e : Event} {id : AttemptId}

/-- The attempts that a worker has in hand, and the one that is on its way to it. -/
def held (g : Cluster) : List AttemptId := g.work.assigned ++ g.worker.held

/-- The attempts that an event hands out to the worker. -/
def handed (g : Cluster) : Event → List AttemptId
  | .serveWork now => g.system.launches (.assign g.worker.tracker now)
  | _ => []

/-- What a worker may give up: what it is told to abort, and what is reported. -/
def GivesUp (g : Cluster) (id : AttemptId) : Prop :=
  (∃ kills, g.beat = .answered kills ∧ id ∈ kills) ∨ ∃ r ∈ g.delivered, r.attemptId = id

/-- A report that has arrived is given up. -/
lemma held_settle {r : TaskCompletion} (mem : r ∈ g.delivered) :
    ∃ gone, g.held.Perm (g.work.assigned ++ (g.worker.settle r).held ++ gone) ∧
      ∀ id ∈ gone, g.GivesUp id := by
  by_cases here : r ∈ g.worker.reporting
  · refine ⟨[r.attemptId], ?_, fun id mem' => .inr ⟨r, mem, (List.mem_singleton.1 mem').symm⟩⟩
    rw [held, List.append_assoc]
    exact (Worker.held_settle here).trans (List.perm_append_singleton _ _).symm |>.append_left _
  · refine ⟨[], ?_, List.forall_mem_nil _⟩
    rw [held, Worker.held, Worker.held, Worker.settle, List.erase_of_not_mem here, List.append_nil]

/-- An event changes what is in hand by what it hands out and by what is given up. -/
lemma held_next (ok : g.Enabled e) (nodup : g.held.Nodup) :
    ∃ gone, (g.handed e ++ g.held).Perm ((g.next e).held ++ gone) ∧ ∀ id ∈ gone, g.GivesUp id := by
  -- all but an abort and a settled report only pass names on
  have all {g' : Cluster} (same : (g.handed e ++ g.held).Perm g'.held) :
      ∃ gone, (g.handed e ++ g.held).Perm (g'.held ++ gone) ∧ ∀ id ∈ gone, g.GivesUp id :=
    ⟨[], by rw [List.append_nil]; exact same, List.forall_mem_nil _⟩
  cases e with
  | other | sendBeat | serveBeat | handOver | beginRead | dropRead | deliver => exact all (.refl _)
  | askWork =>
    refine all ?_
    rw [held, ok.1]
    exact .refl _
  | serveWork now =>
    refine all ?_
    rw [held, show g.work = .sent from ok]
    exact .refl _
  | takeWork =>
    obtain ⟨a, answer, taken⟩ := next_takeWork ok
    rw [taken]
    rw [held, answer] at nodup
    refine all ?_
    rw [held, answer]
    cases a with
    | none => exact .refl _
    | some a =>
      have fresh : a.attemptId ∉ g.worker.held := (List.nodup_cons.1 nodup).1
      exact Worker.held_accept fun mem => fresh (List.mem_append_left _ mem)
  -- what is aborted is given up
  | takeBeat =>
    obtain ⟨kills, answer, taken⟩ := next_takeBeat ok
    refine ⟨g.worker.runningIds.filter kills.contains, ?_, fun id mem => .inl ⟨kills, answer, ?_⟩⟩
    · rw [taken, held, held, List.append_assoc]
      exact (g.worker.held_abort kills).append_left _
    · simpa using (List.mem_filter.1 mem).2
  | finish t id =>
    have running : g.worker.runningIds.Nodup :=
      (List.sublist_append_left ..).nodup ((List.sublist_append_right ..).nodup nodup)
    exact all ((Worker.held_finish running ok.1 t).append_left _)
  | settle r => exact held_settle ok

/-- A worker keeps its name. -/
lemma tracker_next (ok : g.Enabled e) : (g.next e).worker.tracker = g.worker.tracker := by
  cases e with
  | takeWork =>
    obtain ⟨a, -, taken⟩ := next_takeWork ok
    rw [taken]
    cases a <;> rfl
  | takeBeat =>
    obtain ⟨_, -, taken⟩ := next_takeBeat ok
    rw [taken]
    rfl
  | finish t id =>
    simp only [next, Worker.finish]
    split <;> rfl
  | other | askWork | serveWork | sendBeat | serveBeat | handOver | beginRead | dropRead | deliver
  | settle => rfl

section Coordinating

variable {k : JobId} {j : Job} {a : Attempt}

/-- An attempt runs for the coordinator only if it ran before or is handed out. -/
lemma live_next (re : Coordinator.Reachable g.system) (ok : g.Enabled e)
    (mem : a ∈ (g.next e).system.coordinator.liveAttempts) (here : a.tracker = g.worker.tracker) :
    a ∈ g.system.coordinator.liveAttempts ∨ a.id ∈ g.handed e := by
  rcases system_next_cases ok with same | ⟨op, is, permitted, eq⟩
  · rw [same] at mem
    exact .inl mem
  rw [eq] at mem
  rcases re.live_next permitted mem with old | ⟨now, asg, rfl, answer, named⟩
  · exact .inl old
  cases e with
  | other op =>
    -- other trackers are assigned other attempts
    cases is
    have no : (a.tracker == g.worker.tracker) = false := ok.2
    simp [here] at no
  | serveWork now =>
    obtain ⟨-, rfl⟩ := Operation.assign.inj (Option.some.inj is)
    rw [here] at answer
    rw [handed, System.launches, answer]
    exact .inr (List.mem_singleton.2 named.symm)
  | askWork | takeWork | sendBeat | serveBeat | takeBeat | handOver | beginRead | finish | dropRead
  | deliver | settle => cases is

/-- An event spares an attempt that neither another operation nor a report names. -/
lemma spares_next (re : Coordinator.Reachable g.system) (ok : g.Enabled e)
    (other : ∀ op, e = .other op → a.id ∉ op.names)
    (reports : ∀ r ∈ g.worker.reporting, r.attemptId ≠ a.id)
    (found : g.system.coordinator.job? k = some j) :
    ∃ j', (g.next e).system.coordinator.job? k = some j' ∧ j.Spares a j' := by
  rcases system_next_cases ok with same | ⟨op, is, permitted, eq⟩
  · exact ⟨j, by rw [same]; exact found, .refl a j⟩
  rw [eq]
  refine re.lawful.spares_next permitted ?_ found
  cases e with
  | other op =>
    cases is
    exact other _ rfl
  | serveWork | serveBeat =>
    cases is
    exact List.not_mem_nil
  | deliver r now =>
    cases is
    exact fun named => reports r ok.1 (List.mem_singleton.1 named).symm
  | askWork | takeWork | sendBeat | takeBeat | handOver | beginRead | finish | dropRead | settle =>
    cases is

end Coordinating

end Cluster

end JobCluster
