import JobCluster.Proofs.Cluster.Hands

/-!
# Messages that are lost

A request for work, a report, or the answer to one of them can be lost on its way (`Loss`). The
worker notes that and goes on: it asks for work again when it next has a permit, and it gives the
report up. A `Lossy` cluster is a cluster with such losses; it remembers the attempts that were
named in a lost assignment or a lost report.

`stranded_by_loss` says that nothing else is left behind: where no message is under way and the
worker runs nothing, the attempts that the coordinator counts as running on it are among those that
were missed. It also says that these stay: the worker never has them in hand again, and they run for
the coordinator until an operation ends them by their names or their job ends. `losses_strand` is
about two runs in which an attempt is left behind, one for each of the two messages.

The invariant of a run is `Accounted`. The names of what was missed and of what the worker has in
hand are distinct; they change only by what is handed out anew and by what is over.
-/

namespace JobCluster

open JobCluster.Coordinator JobCluster.File JobCluster.Time JobCluster.Worker

/-! ## Losses -/

/-- What can be lost: a request for work, its answer, a report, or its answer. -/
inductive Loss where
  | request
  | assignment
  | report (r : TaskCompletion)
  | receipt (r : TaskCompletion)

namespace Cluster

variable {g : Cluster} {f : Loss}

/-- Nothing is under way. -/
structure Quiet (g : Cluster) : Prop where
  work : g.work = .idle
  beat : g.beat = .idle
  reporting : g.worker.reporting = []
  delivered : g.delivered = []

instance (g : Cluster) : Decidable g.Quiet :=
  decidable_of_iff (g.work = .idle ∧ g.beat = .idle ∧ g.worker.reporting = [] ∧ g.delivered = [])
    ⟨fun ⟨work, beat, reporting, delivered⟩ => ⟨work, beat, reporting, delivered⟩,
      fun quiet => ⟨quiet.work, quiet.beat, quiet.reporting, quiet.delivered⟩⟩

/-- Whether something can be lost. -/
def CanLose (g : Cluster) : Loss → Prop
  | .request => g.work = .sent
  | .assignment => g.work.isAnswered
  | .report r => r ∈ g.worker.reporting ∧ r ∉ g.delivered
  | .receipt r => r ∈ g.delivered

instance (g : Cluster) : (f : Loss) → Decidable (g.CanLose f)
  | .request => inferInstanceAs (Decidable (g.work = .sent))
  | .assignment => inferInstanceAs (Decidable (g.work.isAnswered))
  | .report r => inferInstanceAs (Decidable (r ∈ g.worker.reporting ∧ r ∉ g.delivered))
  | .receipt r => inferInstanceAs (Decidable (r ∈ g.delivered))

/-- The cluster after a loss. The loop that asks for work is free for its next request, and the
worker is done with the report. -/
def lose (g : Cluster) : Loss → Cluster
  | .request | .assignment => { g with work := .idle }
  | .report r => { g with worker := g.worker.settle r }
  | .receipt r => { g with worker := g.worker.settle r, delivered := g.delivered.erase r }

/-- The attempts that are named in what is lost and that the other side does not hear of. -/
def missing (g : Cluster) : Loss → List AttemptId
  | .assignment => g.work.assigned
  | .report r => [r.attemptId]
  | .request | .receipt _ => []

/-- A loss changes nothing at the coordinator. -/
lemma lose_system (g : Cluster) (f : Loss) : (g.lose f).system = g.system := by
  cases f <;> rfl

/-- A loss does not touch a heartbeat under way. -/
lemma lose_beat (g : Cluster) (f : Loss) : (g.lose f).beat = g.beat := by
  cases f <;> rfl

/-- A worker keeps its name. -/
lemma lose_tracker (g : Cluster) (f : Loss) : (g.lose f).worker.tracker = g.worker.tracker := by
  cases f <;> rfl

/-- A loss brings no report in. -/
lemma lose_delivered_subset (g : Cluster) (f : Loss) : (g.lose f).delivered ⊆ g.delivered := by
  cases f with
  | request | assignment | report => exact List.Subset.refl _
  | receipt r => exact List.erase_subset

/-- A loss changes what is in hand by what is missed and by what is given up. -/
lemma held_lose (ok : g.CanLose f) :
    ∃ gone, g.held.Perm (g.missing f ++ (g.lose f).held ++ gone) ∧ ∀ id ∈ gone, g.GivesUp id := by
  cases f with
  | request =>
    refine ⟨[], ?_, List.forall_mem_nil _⟩
    rw [held, show g.work = .sent from ok, List.append_nil]
    exact .refl _
  | assignment =>
    refine ⟨[], ?_, List.forall_mem_nil _⟩
    rw [List.append_nil]
    exact .refl _
  | report r =>
    refine ⟨[], ?_, List.forall_mem_nil _⟩
    rw [List.append_nil, held]
    exact ((Worker.held_settle ok.1).append_left _).trans List.perm_middle
  | receipt r => exact held_settle ok

end Cluster

/-! ## Clusters that lose messages -/

/-- A cluster that loses messages, and the attempts that were named in a lost assignment or a lost
report. -/
structure Lossy where
  cluster : Cluster
  missed : List AttemptId

/-- What can happen in a cluster that loses messages. -/
inductive Incident where
  | usual (e : Event)
  | lost (f : Loss)

namespace Lossy

/-- Whether an incident can happen. -/
def Enabled (l : Lossy) : Incident → Prop
  | .usual e => l.cluster.Enabled e
  | .lost f => l.cluster.CanLose f

/-- The cluster after an incident. -/
def next (l : Lossy) : Incident → Lossy
  | .usual e => { l with cluster := l.cluster.next e }
  | .lost f => ⟨l.cluster.lose f, l.missed ++ l.cluster.missing f⟩

/-- The runs from one cluster to another, with their incidents. -/
inductive Run (l : Lossy) : List Incident → Lossy → Prop where
  | nil :
    Run l [] l
  | snoc {is l' i} :
    Run l is l' →
    l'.Enabled i →
    Run l (is ++ [i]) (l'.next i)

/-- The clusters that runs lead to from a worker that has just registered. -/
def Reachable (l : Lossy) : Prop :=
  ∃ s id r now is, Coordinator.Reachable s ∧ s.Permits (.register id r now) ∧
    Run ⟨Cluster.join s id r now, []⟩ is l

variable {l l' : Lossy} {i : Incident} {is : List Incident} {id : AttemptId} {a : Attempt}

/-- A run without losses. -/
lemma Run.usual {g g' : Cluster} {es : List Event} (run : Cluster.Run g es g')
    (missed : List AttemptId) : Run ⟨g, missed⟩ (es.map .usual) ⟨g', missed⟩ := by
  induction run with
  | nil => exact .nil
  | snoc _ ok ih =>
    rw [List.map_append]
    exact .snoc ih ok

/-- The attempts that were missed, and those that the worker has in hand. -/
def names (l : Lossy) : List AttemptId := l.missed ++ l.cluster.held

/-- The attempts that an incident hands out to the worker. -/
def handed (l : Lossy) : Incident → List AttemptId
  | .usual e => l.cluster.handed e
  | .lost _ => []

/-- What holds of a cluster at all times. The names of what was missed and of what the worker has in
hand are distinct and known to the coordinator, and the attempts that run on the worker for the
coordinator are among them. What the worker is to give up is over. -/
structure Accounted (l : Lossy) : Prop where
  reachable : Coordinator.Reachable l.cluster.system
  nodup : l.names.Nodup
  known : ∀ id ∈ l.names, l.cluster.system.coordinator.Knows id
  covered : ∀ a ∈ l.cluster.system.coordinator.liveAttempts,
    a.tracker = l.cluster.worker.tracker → a.id ∈ l.names
  told : ∀ kills, l.cluster.beat = .answered kills → ∀ id ∈ kills,
    l.cluster.system.coordinator.Over id
  reported : ∀ r ∈ l.cluster.delivered, l.cluster.system.coordinator.Over r.attemptId

namespace Accounted

/-- A worker that has just registered has nothing in hand, and nothing runs on it. -/
lemma join {s : System} {id : TrackerId} {r : Registration} {now : Instant}
    (re : Coordinator.Reachable s) (fresh : s.Permits (.register id r now)) :
    Accounted ⟨Cluster.join s id r now, []⟩ where
  reachable := re.next fresh
  nodup := .nil
  known := List.forall_mem_nil _
  covered a mem here := by
    rcases re.live_next fresh mem with old | ⟨now, asg, e, -⟩
    · have alive := re.staffed a old
      have gone : s.coordinator.tracker? a.tracker = none := by
        rw [here]
        exact tracker?_of_fresh fresh
      rw [alive?, gone] at alive
      cases alive
    · cases e
  told := nofun
  reported := List.forall_mem_nil _

/-- An attempt is given up only after it is over. -/
lemma over_of_givesUp (ac : l.Accounted) (gone : l.cluster.GivesUp id) :
    l.cluster.system.coordinator.Over id := by
  rcases gone with ⟨kills, answer, mem⟩ | ⟨r, mem, rfl⟩
  · exact ac.told kills answer id mem
  · exact ac.reported r mem

/-- An incident changes the names by what it hands out and by what is over. -/
lemma names_next (ac : l.Accounted) (ok : l.Enabled i) :
    ∃ gone, (l.handed i ++ l.names).Perm ((l.next i).names ++ gone) ∧
      ∀ id ∈ gone, l.cluster.system.coordinator.Over id := by
  cases i with
  | usual e =>
    obtain ⟨gone, perm, why⟩ :=
      Cluster.held_next ok ((List.sublist_append_right ..).nodup ac.nodup)
    refine ⟨gone, ?_, fun id mem => ac.over_of_givesUp (why id mem)⟩
    rw [names, names, List.append_assoc]
    refine List.perm_append_comm_assoc _ _ _ |>.trans ?_
    exact perm.append_left l.missed
  | lost f =>
    obtain ⟨gone, perm, why⟩ := Cluster.held_lose ok
    refine ⟨gone, ?_, fun id mem => ac.over_of_givesUp (why id mem)⟩
    rw [names, names, next, List.append_assoc, List.append_assoc, ← List.append_assoc _ _ gone]
    exact perm.append_left l.missed

/-- What is handed out was not known before, and is known now. -/
lemma handed_fresh (ac : l.Accounted) (mem : id ∈ l.handed i) :
    ¬l.cluster.system.coordinator.Knows id ∧ (l.next i).cluster.system.coordinator.Knows id := by
  cases i with
  | lost f => cases mem
  | usual e =>
    cases e with
    | serveWork now =>
      have ok : l.cluster.system.Permits (.assign l.cluster.worker.tracker now) := trivial
      obtain ⟨run, fresh⟩ := ac.reachable.launched ok mem
      refine ⟨fun known => fresh (ac.reachable.exact.mem_keys_iff.2 known), ?_⟩
      obtain ⟨a, mema, same⟩ := List.mem_map.1 (runs_iff_mem.1 run)
      exact List.mem_map.2 ⟨a, (mem_liveAttempts.1 mema).1, same⟩
    | other | askWork | takeWork | sendBeat | serveBeat | takeBeat | handOver | beginRead | finish
    | dropRead | deliver | settle => cases mem

/-- What the operations of the coordinator keep, an incident keeps. -/
lemma system_keeps {P : System → Prop} (ok : l.Enabled i)
    (step : ∀ op, l.cluster.system.Permits op → P (l.cluster.system.next op))
    (here : P l.cluster.system) : P (l.next i).cluster.system := by
  have kept : (l.next i).cluster.system = l.cluster.system ∨ ∃ op, l.cluster.system.Permits op ∧
      (l.next i).cluster.system = l.cluster.system.next op := by
    cases i with
    | usual e => exact Cluster.system_next ok
    | lost f => exact .inl (l.cluster.lose_system f)
  rcases kept with same | ⟨op, permitted, eq⟩
  · rw [same]
    exact here
  · rw [eq]
    exact step op permitted

/-- What is over stays so. -/
lemma over_next (ac : l.Accounted) (ok : l.Enabled i)
    (ov : l.cluster.system.coordinator.Over id) : (l.next i).cluster.system.coordinator.Over id :=
  system_keeps (P := fun s => s.coordinator.Over id) ok
    (fun _ permitted => ov.next ac.reachable.lawful permitted) ov

/-- What is known stays so. -/
lemma knows_next (ac : l.Accounted) (ok : l.Enabled i)
    (known : l.cluster.system.coordinator.Knows id) :
    (l.next i).cluster.system.coordinator.Knows id :=
  system_keeps (P := fun s => s.coordinator.Knows id) ok
    (fun _ permitted => ac.reachable.lawful.knows_next permitted known) known

/-- A worker has one name all along. -/
lemma tracker_next (ok : l.Enabled i) :
    (l.next i).cluster.worker.tracker = l.cluster.worker.tracker := by
  cases i with
  | usual e => exact Cluster.tracker_next ok
  | lost f => exact l.cluster.lose_tracker f

/-- An attempt lives on a tracker because it did before or has just been handed out. -/
lemma live_next (ac : l.Accounted) (ok : l.Enabled i)
    (mem : a ∈ (l.next i).cluster.system.coordinator.liveAttempts)
    (here : a.tracker = l.cluster.worker.tracker) :
    a ∈ l.cluster.system.coordinator.liveAttempts ∨ a.id ∈ l.handed i := by
  cases i with
  | usual e => exact Cluster.live_next ac.reachable ok mem here
  | lost f =>
    rw [Lossy.next, Cluster.lose_system] at mem
    exact .inl mem

/-- A heartbeat names attempts that are over. -/
lemma told_next (ac : l.Accounted) (ok : l.Enabled i) {kills : List AttemptId}
    (answer : (l.next i).cluster.beat = .answered kills) (mem : id ∈ kills) :
    (l.next i).cluster.system.coordinator.Over id := by
  have kept (answer : l.cluster.beat = .answered kills) :=
    ac.over_next ok (ac.told kills answer id mem)
  cases i with
  | lost f => exact kept ((l.cluster.lose_beat f).symm.trans answer)
  | usual e =>
    cases e with
    | serveBeat h now =>
      cases Call.answered.inj answer
      exact ac.over_next ok (ac.reachable.over_of_heartbeat mem)
    | sendBeat => cases answer
    | takeBeat =>
      obtain ⟨_, -, taken⟩ := Cluster.next_takeBeat ok
      rw [Lossy.next, taken] at answer
      cases answer
    | takeWork =>
      obtain ⟨_, -, taken⟩ := Cluster.next_takeWork ok
      rw [Lossy.next, taken] at answer
      exact kept answer
    | other | askWork | serveWork | handOver | beginRead | finish | dropRead | deliver | settle =>
      exact kept answer

/-- A report that was delivered closes its attempt. -/
lemma reported_next (ac : l.Accounted) (ok : l.Enabled i) {r : TaskCompletion}
    (mem : r ∈ (l.next i).cluster.delivered) :
    (l.next i).cluster.system.coordinator.Over r.attemptId := by
  have kept (mem : r ∈ l.cluster.delivered) := ac.over_next ok (ac.reported r mem)
  cases i with
  | lost f => exact kept (l.cluster.lose_delivered_subset f mem)
  | usual e =>
    cases e with
    | deliver r' now =>
      rcases List.mem_append.1 mem with mem | mem
      · exact kept mem
      · cases List.mem_singleton.1 mem
        have named : r.attemptId ∈ l.names := List.mem_append_right _
          (List.mem_append_right _ (List.mem_append_right _ (List.mem_map_of_mem ok.1)))
        exact .of_complete ac.reachable.exact r now (ac.known _ named)
    | settle r' => exact kept (List.mem_of_mem_erase mem)
    | takeWork =>
      obtain ⟨_, -, taken⟩ := Cluster.next_takeWork ok
      rw [Lossy.next, taken] at mem
      exact kept mem
    | takeBeat =>
      obtain ⟨_, -, taken⟩ := Cluster.next_takeBeat ok
      rw [Lossy.next, taken] at mem
      exact kept mem
    | other | askWork | serveWork | sendBeat | serveBeat | handOver | beginRead | finish
    | dropRead => exact kept mem

/-- Every incident keeps the accounts. -/
lemma next (ac : l.Accounted) (ok : l.Enabled i) : (l.next i).Accounted := by
  obtain ⟨gone, perm, ended⟩ := ac.names_next ok
  have handedNodup : (l.handed i).Nodup := by
    cases i with
    | lost f => exact .nil
    | usual e =>
      cases e with
      | serveWork now => exact System.launches_nodup _ (.assign l.cluster.worker.tracker now)
      | other | askWork | takeWork | sendBeat | serveBeat | takeBeat | handOver | beginRead | finish
      | dropRead | deliver | settle => exact .nil
  refine ⟨?_, ?_, fun id mem => ?_, fun a mem here => ?_, fun _ answer _ => ac.told_next ok answer,
    fun _ => ac.reported_next ok⟩
  · exact system_keeps (P := Coordinator.Reachable) ok (fun _ => ac.reachable.next) ac.reachable
  · -- a name is handed out once, and before that nobody has it
    have all : ((l.next i).names ++ gone).Nodup := by
      refine perm.nodup_iff.1 (List.nodup_append.2 ⟨handedNodup, ac.nodup, ?_⟩)
      rintro id mem _ mem' rfl
      exact (ac.handed_fresh mem).1 (ac.known id mem')
    exact (List.sublist_append_left ..).nodup all
  · rcases List.mem_append.1 (perm.mem_iff.2 (List.mem_append_left gone mem)) with mem | mem
    · exact (ac.handed_fresh mem).2
    · exact ac.knows_next ok (ac.known id mem)
  · rw [tracker_next ok] at here
    have named : a.id ∈ l.handed i ++ l.names := by
      rcases ac.live_next ok mem here with old | new
      · exact List.mem_append_right _ (ac.covered a old here)
      · exact List.mem_append_left _ new
    rcases List.mem_append.1 (perm.mem_iff.1 named) with mem' | mem'
    · exact mem'
    · -- what is given up is over, and does not run
      have re' : Coordinator.Reachable (l.next i).cluster.system :=
        system_keeps (P := Coordinator.Reachable) ok (fun _ => ac.reachable.next) ac.reachable
      exact absurd rfl ((ac.over_next ok (ended _ mem')).ne_of_live re'.exact mem)

end Accounted

/-- Every run keeps the account of what was lost. -/
lemma Run.accounted (run : Run l is l') (ac : l.Accounted) : l'.Accounted := by
  induction run with
  | nil => exact ac
  | snoc _ ok ih => exact ih.next ok

/-- Every reachable state keeps the account of what was lost. -/
lemma Reachable.accounted (re : Reachable l) : l.Accounted := by
  obtain ⟨s, id, r, now, is, re, fresh, run⟩ := re
  exact run.accounted (.join re fresh)

/-- A step of what was missed: it is missed for good, and the attempt is spared unless another
operation ends it by its name. -/
lemma Accounted.missed_next {k : JobId} {j : Job} (ac : l.Accounted) (ok : l.Enabled i)
    (missed : a.id ∈ l.missed) (unnamed : ∀ op, i = .usual (.other op) → a.id ∉ op.names)
    (found : l.cluster.system.coordinator.job? k = some j) :
    a.id ∈ (l.next i).missed ∧
      ∃ j', (l.next i).cluster.system.coordinator.job? k = some j' ∧ j.Spares a j' := by
  cases i with
  | lost f =>
    refine ⟨List.mem_append_left _ missed, j, ?_, .refl a j⟩
    rw [Lossy.next, Cluster.lose_system]
    exact found
  | usual e =>
    refine ⟨missed, Cluster.spares_next ac.reachable ok (fun op is => unnamed op (by rw [is])) ?_
      found⟩
    -- the names of reports are in hand, so they are not among the missed ones
    intro r mem same
    have held : a.id ∈ l.cluster.held := same ▸ List.mem_append_right _
      (List.mem_append_right _ (List.mem_map_of_mem mem))
    exact (List.nodup_append.1 ac.nodup).2.2 _ missed _ held rfl

/-- What is missed stays missed, and its job spares it, until an operation names it. -/
lemma Run.missed {k : JobId} {j : Job} (run : Run l is l') (ac : l.Accounted)
    (missed : a.id ∈ l.missed) (unnamed : ∀ op, .usual (.other op) ∈ is → a.id ∉ op.names)
    (found : l.cluster.system.coordinator.job? k = some j) :
    a.id ∈ l'.missed ∧
      ∃ j', l'.cluster.system.coordinator.job? k = some j' ∧ j.Spares a j' := by
  induction run with
  | nil => exact ⟨missed, j, found, .refl a j⟩
  | snoc run ok ih =>
    obtain ⟨missed', j', found', sp⟩ := ih fun op mem => unnamed op (List.mem_append_left _ mem)
    obtain ⟨missed'', j'', found'', sp'⟩ := (run.accounted ac).missed_next ok missed'
      (fun op is => unnamed op (List.mem_append_right _ (List.mem_singleton.2 is.symm))) found'
    exact ⟨missed'', j'', found'', sp.trans sp'⟩

/-- In every run with losses: where nothing is under way and the worker runs nothing, each attempt
that runs on it for the coordinator is one whose assignment or report was lost, and the tracker is
not dead then. An attempt that was
missed so is never in hand again, and if it runs for the coordinator it goes on, whatever else is
sent or lost, until an operation from elsewhere ends it by its name or its job ends. -/
theorem stranded_by_loss (re : Reachable l) :
    (l.cluster.Quiet → l.cluster.worker.runningIds = [] →
      ∀ a ∈ l.cluster.system.coordinator.liveAttempts, a.tracker = l.cluster.worker.tracker →
        a.id ∈ l.missed ∧
          l.cluster.system.coordinator.alive? l.cluster.worker.tracker = some true) ∧
    (∀ j ∈ l.cluster.system.coordinator.jobs, ∀ a ∈ j.running, a.id ∈ l.missed →
      ∀ is l', Run l is l' → (∀ op, .usual (.other op) ∈ is → a.id ∉ op.names) →
        a.id ∉ l'.cluster.held ∧ ∃ j', l'.cluster.system.coordinator.job? j.id = some j' ∧
          (a ∈ j'.running ∨ j'.isTerminal)) := by
  have ac := re.accounted
  refine ⟨fun quiet idle a mem here => ?_, fun j memj a mem missed is l' run unnamed => ?_⟩
  · have empty : l.cluster.held = [] := by
      rw [Cluster.held, quiet.work, Worker.held, idle, quiet.reporting]
      rfl
    have named := ac.covered a mem here
    rw [names, empty, List.append_nil] at named
    exact ⟨named, here ▸ ac.reachable.staffed a mem⟩
  · have found := job?_of_mem ac.reachable.lawful.nodup memj
    obtain ⟨missed', j', found', sp⟩ := run.missed ac missed unnamed found
    exact ⟨fun held => (List.nodup_append.1 (run.accounted ac).nodup).2.2 _ missed' _ held rfl,
      j', found', sp.running mem⟩

/-! ## Two runs -/

/-- A coordinator with a job whose map is done and whose reduce is left. -/
def oneReduceSystem : System :=
  let clock := Instant.ofSeconds 0
  (System.start "202601020304").after [.newJobId clock,
    .submit oneMapJob ⟨"wc", "ana", ["/datos"], 1, .normal, none⟩ 1024 10 clock,
    .installTasks oneMapJob [⟨"/datos/a", 0, 10, []⟩],
    .register "t2" ⟨"h2", 1, 0⟩ clock,
    .assign "t2" clock,
    .complete (succeeded oneMapAttempt Counters.empty) (.still clock)]

/-- The name of the attempt at the reduce. -/
def oneReduceAttempt : AttemptId := "attempt_202601020304_0001_r_000000_0"

/-- A cluster whose worker has just registered there. -/
def oneReduceCluster : Cluster :=
  Cluster.join oneReduceSystem "t1" ⟨"h1", 1, 1⟩ (.ofSeconds 0)

/-- Something is lost after events. -/
def losing (es : List Event) (f : Loss) : Lossy :=
  Lossy.next ⟨oneReduceCluster.after es, []⟩ (.lost f)

/-- The sample losses are reachable. -/
lemma losing_reachable {es : List Event} {f : Loss} (ok : oneReduceCluster.EnabledAll es)
    (can : (oneReduceCluster.after es).CanLose f) : Reachable (losing es f) :=
  ⟨oneReduceSystem, "t1", ⟨"h1", 1, 1⟩, .ofSeconds 0, _,
    ⟨"202601020304", _, .of_permitsAll (by decide +kernel)⟩, by decide +kernel,
    .snoc (.usual (.of_enabledAll ok) []) can⟩

/-- The assignment of the attempt is lost. -/
def lostAssignment : Lossy := losing [.askWork, .serveWork (.ofSeconds 0)] .assignment

/-- The attempt succeeds, and its report is lost. -/
def lostReport : Lossy :=
  losing [.askWork, .serveWork (.ofSeconds 0), .takeWork, .finish .empty oneReduceAttempt]
    (.report (succeeded oneReduceAttempt Counters.empty))

/-- The state with the lost report is reachable. -/
lemma lostReport_reachable : Reachable lostReport :=
  losing_reachable (by decide +kernel) (by decide +kernel)

/-- An attempt is left behind: nothing is under way, the worker runs nothing and is not dead, and
yet an attempt runs on it for the coordinator. -/
def Strands (l : Lossy) : Prop :=
  l.cluster.Quiet ∧ l.cluster.worker.runningIds = [] ∧
    l.cluster.system.coordinator.alive? l.cluster.worker.tracker = some true ∧
    ∃ a ∈ l.cluster.system.coordinator.liveAttempts, a.tracker = l.cluster.worker.tracker

instance (l : Lossy) : Decidable l.Strands :=
  inferInstanceAs (Decidable (l.cluster.Quiet ∧ l.cluster.worker.runningIds = [] ∧
    l.cluster.system.coordinator.alive? l.cluster.worker.tracker = some true ∧
    ∃ a ∈ l.cluster.system.coordinator.liveAttempts, a.tracker = l.cluster.worker.tracker))

/-- A lost assignment and a lost report each leave an attempt behind. -/
theorem losses_strand : (Reachable lostAssignment ∧ lostAssignment.Strands) ∧
    Reachable lostReport ∧ lostReport.Strands := by
  refine ⟨⟨?_, ?_⟩, lostReport_reachable, ?_⟩
  · exact losing_reachable (by decide +kernel) (by decide +kernel)
  · decide +kernel
  · decide +kernel

/-- A heartbeat of the worker and its answer. -/
def oneReduceBeat : List Event :=
  [.sendBeat, .serveBeat ⟨"t1", .zero _ false, 0⟩ (.ofSeconds 1), .takeBeat]

/-- After its report was lost, the attempt is one that was missed, and it runs on after a heartbeat.
-/
theorem sample_stranded_by_loss :
    (∃ a ∈ lostReport.cluster.system.coordinator.liveAttempts,
      a.tracker = lostReport.cluster.worker.tracker ∧ a.id ∈ lostReport.missed ∧
        lostReport.cluster.system.coordinator.alive? lostReport.cluster.worker.tracker =
          some true) ∧
    ∃ j ∈ lostReport.cluster.system.coordinator.jobs, ∃ a ∈ j.running, ∃ l',
      Run lostReport (oneReduceBeat.map .usual) l' ∧ a.id ∉ l'.cluster.held ∧
      ∃ j', l'.cluster.system.coordinator.job? j.id = some j' ∧
        (a ∈ j'.running ∨ j'.isTerminal) := by
  obtain ⟨missed, goesOn⟩ := stranded_by_loss lostReport_reachable
  obtain ⟨quiet, idle, ⟨a, mem, here⟩, j, memj, b, memb, named⟩ : lostReport.cluster.Quiet ∧
      lostReport.cluster.worker.runningIds = [] ∧
      (∃ a ∈ lostReport.cluster.system.coordinator.liveAttempts,
        a.tracker = lostReport.cluster.worker.tracker) ∧
      ∃ j ∈ lostReport.cluster.system.coordinator.jobs, ∃ a ∈ j.running,
        a.id ∈ lostReport.missed := by decide +kernel
  have run : Run lostReport (oneReduceBeat.map .usual)
      ⟨lostReport.cluster.after oneReduceBeat, lostReport.missed⟩ :=
    .usual (.of_enabledAll (by decide +kernel)) lostReport.missed
  refine ⟨⟨a, mem, here, missed quiet idle a mem here⟩, j, memj, b, memb, _, run,
    goesOn j memj b memb named _ _ run fun op mem => ?_⟩
  simp [oneReduceBeat] at mem

end Lossy

end JobCluster
