import JobCluster.Proofs.Coordinator.Run
import JobCluster.Worker.State

/-!
# A coordinator and a worker

A worker talks to the coordinator in two loops at once: one asks for work, the other sends
heartbeats. Each has one request under way at most (`Call`), and nothing is said about how the
answers of the two loops are ordered. Beside them the attempts take their steps, threads of their
own read the splits, and reports go out. Whatever else happens at the coordinator, by users, other
trackers or the monitor, is an operation of its own.

`Cluster.next` tells what an event does, `Cluster.Enabled` when it can happen, and `Cluster.Run` is
a sequence of events from a worker that has just registered.
-/

namespace JobCluster

open JobCluster.Coordinator JobCluster.File JobCluster.Time

/-- Where a request of a loop is. -/
inductive Call (α : Type) where
  | idle
  | sent
  | answered (answer : α)
deriving DecidableEq

/-- A coordinator, one worker, and what is under way between them. A report that is delivered is
still to be answered. -/
structure Cluster where
  system : System
  worker : Worker
  work : Call (Option TaskAssignment)
  beat : Call (List AttemptId)
  delivered : List TaskCompletion

/-- What can happen in a cluster. -/
inductive Event where
  | other (op : Operation)
  | askWork
  | serveWork (now : Instant)
  | takeWork
  | sendBeat
  | serveBeat (h : Heartbeat) (now : Instant)
  | takeBeat
  | handOver (id : AttemptId)
  | beginRead (id : AttemptId)
  | finish (t : Tree) (id : AttemptId)
  | dropRead (id : AttemptId)
  | deliver (r : TaskCompletion) (clock : Readings)
  | settle (r : TaskCompletion)

/-- Whether a request has an answer on its way back. -/
def Call.isAnswered {α : Type} : Call α → Bool
  | .answered _ => true
  | .idle | .sent => false

/-- Whether an operation serves a request of a tracker's loops. -/
def Coordinator.Operation.serves (id : TrackerId) : Operation → Bool
  | .heartbeat h _ => h.trackerId == id
  | .assign k _ => k == id
  | _ => false

namespace Cluster

/-- A cluster in which a worker has just registered. -/
def join (s : System) (id : TrackerId) (r : Registration) (now : Instant) : Cluster where
  system := s.next (.register id r now)
  worker := Worker.new r id
  work := .idle
  beat := .idle
  delivered := []

/-- Whether an event can happen. -/
def Enabled (g : Cluster) : Event → Prop
  | .other op => g.system.Permits op ∧ op.serves g.worker.tracker = false
  | .askWork => g.work = .idle ∧ g.worker.hasPermit
  | .serveWork _ => g.work = .sent
  | .takeWork => g.work.isAnswered
  | .sendBeat => g.beat = .idle
  | .serveBeat h _ => g.beat = .sent ∧ h.trackerId = g.worker.tracker
  | .takeBeat => g.beat.isAnswered
  | .handOver id => g.worker.needsRead id ∧ id ∉ g.worker.readIds
  | .beginRead id => ⟨id, false⟩ ∈ g.worker.reads
  | .finish _ id =>
    id ∈ g.worker.runningIds ∧ (g.worker.needsRead id → ⟨id, true⟩ ∈ g.worker.reads)
  | .dropRead id => ⟨id, true⟩ ∈ g.worker.reads ∧ id ∉ g.worker.runningIds
  | .deliver r _ => r ∈ g.worker.reporting ∧ r ∉ g.delivered
  | .settle r => r ∈ g.delivered

instance (g : Cluster) : (e : Event) → Decidable (g.Enabled e)
  | .other op =>
    inferInstanceAs (Decidable (g.system.Permits op ∧ op.serves g.worker.tracker = false))
  | .askWork => inferInstanceAs (Decidable (g.work = .idle ∧ g.worker.hasPermit))
  | .serveWork _ => inferInstanceAs (Decidable (g.work = .sent))
  | .takeWork => inferInstanceAs (Decidable (g.work.isAnswered))
  | .sendBeat => inferInstanceAs (Decidable (g.beat = .idle))
  | .serveBeat h _ => inferInstanceAs (Decidable (g.beat = .sent ∧ h.trackerId = g.worker.tracker))
  | .takeBeat => inferInstanceAs (Decidable (g.beat.isAnswered))
  | .handOver id => inferInstanceAs (Decidable (g.worker.needsRead id ∧ id ∉ g.worker.readIds))
  | .beginRead id => inferInstanceAs (Decidable (⟨id, false⟩ ∈ g.worker.reads))
  | .finish _ id =>
    inferInstanceAs (Decidable (id ∈ g.worker.runningIds ∧
      (g.worker.needsRead id → ⟨id, true⟩ ∈ g.worker.reads)))
  | .dropRead id =>
    inferInstanceAs (Decidable (⟨id, true⟩ ∈ g.worker.reads ∧ id ∉ g.worker.runningIds))
  | .deliver r _ => inferInstanceAs (Decidable (r ∈ g.worker.reporting ∧ r ∉ g.delivered))
  | .settle r => inferInstanceAs (Decidable (r ∈ g.delivered))

/-- The cluster after an event. A loop takes an answer and is free for its next request. -/
def next (g : Cluster) : Event → Cluster
  | .other op => { g with system := g.system.next op }
  | .askWork => { g with work := .sent }
  | .serveWork now =>
    { g with
      system := g.system.next (.assign g.worker.tracker now)
      work := .answered (g.system.coordinator.assign g.worker.tracker now).1 }
  | .takeWork =>
    match g.work with
    | .answered a => { g with worker := g.worker.accept a, work := .idle }
    | _ => g
  | .sendBeat => { g with beat := .sent }
  | .serveBeat h now =>
    { g with
      system := g.system.next (.heartbeat h now)
      beat := .answered (((g.system.coordinator.heartbeat h now).map Prod.fst).getD []) }
  | .takeBeat =>
    match g.beat with
    | .answered kills => { g with worker := g.worker.abort kills, beat := .idle }
    | _ => g
  | .handOver id => { g with worker := g.worker.handOver id }
  | .beginRead id => { g with worker := g.worker.beginRead id }
  | .finish t id => { g with worker := g.worker.finish t id }
  | .dropRead id => { g with worker := g.worker.dropRead id }
  | .deliver r clock =>
    { g with system := g.system.next (.complete r clock), delivered := g.delivered ++ [r] }
  | .settle r => { g with worker := g.worker.settle r, delivered := g.delivered.erase r }

section Taking

variable {g : Cluster}

/-- The answer to a request for work is taken when it is there. -/
lemma next_takeWork (ok : g.Enabled .takeWork) : ∃ a, g.work = .answered a ∧
    g.next .takeWork = { g with worker := g.worker.accept a, work := .idle } := by
  rcases e : g.work with - | - | a
  · simp only [Enabled, e, Call.isAnswered, Bool.false_eq_true] at ok
  · simp only [Enabled, e, Call.isAnswered, Bool.false_eq_true] at ok
  · exact ⟨a, rfl, by simp only [next, e]⟩

/-- The answer to a heartbeat is taken when it is there. -/
lemma next_takeBeat (ok : g.Enabled .takeBeat) : ∃ kills, g.beat = .answered kills ∧
    g.next .takeBeat = { g with worker := g.worker.abort kills, beat := .idle } := by
  rcases e : g.beat with - | - | kills
  · simp only [Enabled, e, Call.isAnswered, Bool.false_eq_true] at ok
  · simp only [Enabled, e, Call.isAnswered, Bool.false_eq_true] at ok
  · exact ⟨kills, rfl, by simp only [next, e]⟩

end Taking

/-- The runs from one cluster to another, with their events. -/
inductive Run (g : Cluster) : List Event → Cluster → Prop where
  | nil :
    Run g [] g
  | snoc {es g' e} :
    Run g es g' →
    g'.Enabled e →
    Run g (es ++ [e]) (g'.next e)

/-- The clusters that runs lead to. -/
def Reachable (g : Cluster) : Prop :=
  ∃ s id r now es, Coordinator.Reachable s ∧ s.Permits (.register id r now) ∧
    Run (join s id r now) es g

/-- The cluster after events. -/
def after (g : Cluster) (es : List Event) : Cluster := es.foldl next g

/-- Whether events can happen one after the other. -/
def EnabledAll (g : Cluster) : List Event → Prop
  | [] => True
  | e :: es => g.Enabled e ∧ (g.next e).EnabledAll es

instance decidableEnabledAll (g : Cluster) : (es : List Event) → Decidable (g.EnabledAll es)
  | [] => isTrue trivial
  | e :: es =>
    have := decidableEnabledAll (g.next e) es
    inferInstanceAs (Decidable (g.Enabled e ∧ (g.next e).EnabledAll es))

namespace Run

variable {g g' g'' : Cluster} {es es' : List Event}

/-- A run goes on from where another ends. -/
lemma append (run : Run g es g') (run' : Run g' es' g'') : Run g (es ++ es') g'' := by
  induction run' with
  | nil => rw [List.append_nil]; exact run
  | snoc _ ok ih => rw [← List.append_assoc]; exact .snoc ih ok

/-- Events that can happen one after the other are a run. -/
lemma of_enabledAll (ok : g.EnabledAll es) : Run g es (g.after es) := by
  induction es generalizing g with
  | nil => exact .nil
  | cons e es ih => exact (Run.snoc .nil ok.1).append (ih ok.2)

end Run

end Cluster

end JobCluster
