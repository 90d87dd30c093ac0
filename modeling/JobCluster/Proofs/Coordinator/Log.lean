import JobCluster.Coordinator.Queries
import JobCluster.Proofs.Coordinator.Books
import JobCluster.Proofs.Coordinator.Lifecycle

/-!
# The completion log along runs

A completion log only grows at its end (`Run.eventLog_grows`), and it stays as it is once its job
has ended (`Run.eventLog_eq`). Its entries are numbered from 0 (`Reachable.numbered`), so what was
read of it once is never read again under another number.
-/

namespace JobCluster.Coordinator

open JobCluster.Time

/-- The completion log of a job, empty for an unknown job. -/
def eventLog (c : Coordinator) (id : JobId) : List CompletionEvent :=
  match c.job? id with
  | some j => j.events
  | none => []

/-- The log of a job that is there is its own. -/
lemma eventLog_of_job? {c : Coordinator} {id : JobId} {j : Job} (found : c.job? id = some j) :
    c.eventLog id = j.events := by
  rw [eventLog, found]

/-- A job that is not there has an empty log. -/
lemma eventLog_of_none {c : Coordinator} {id : JobId} (absent : c.job? id = none) :
    c.eventLog id = [] := by
  rw [eventLog, absent]

/-- A page is the log from its start on, cut to its length. -/
lemma completionEvents_eq (c : Coordinator) (id : JobId) (start max : UInt32) :
    c.completionEvents id start max = ((c.eventLog id).drop start.toNat).take max.toNat := by
  cases found : c.job? id with
  | none => rw [eventLog_of_none found, completionEvents, found, List.drop_nil, List.take_nil]
  | some j => rw [eventLog_of_job? found, completionEvents, found]

/-- A small number is the number of its word. -/
lemma toNat_ofNat_of_lt {n : Nat} (lt : n < 2 ^ 32) : (UInt32.ofNat n).toNat = n :=
  UInt32.toNat_ofNat_of_lt' lt

/-- A numbered log counts from 0, as long as its numbers are words. -/
lemma map_eventId {l : List CompletionEvent} (numbered : Job.Numbered l)
    (few : l.length < 2 ^ 32) : l.map (·.eventId.toNat) = List.range l.length := by
  refine List.ext_getElem (by simp) fun i lt _ => ?_
  rw [List.length_map] at lt
  rw [List.getElem_map, List.getElem_range, numbered i l[i] (List.getElem?_eq_getElem lt),
    toNat_ofNat_of_lt (Nat.lt_trans lt few)]

namespace Job

/-- Recording an end adds to the log. -/
lemma record_grows (j : Job) (t : Task) (a : Attempt) (o : Outcome) (now : Instant) :
    j.events <+: (j.record t a o now).events := by
  rw [record_events]
  exact List.prefix_append _ _

/-- Stopping a job adds to its log. -/
lemma abort_grows (j : Job) (reason : String) (now : Instant) :
    j.events <+: (j.abort reason now).1.events :=
  abort_induction (P := fun k => j.events <+: k.events)
    (fun k t a before => before.trans (k.record_grows t a .killed now))
    (List.prefix_refl _)

/-- No step takes anything from the log. -/
theorem Step.events_grow {j j' : Job} {m : Move} (st : Step j m j') : j.events <+: j'.events := by
  cases st with
  | install | failInit | closeIdle => exact List.prefix_refl _
  | kill => exact j.abort_grows _ _
  | @launch kind index t isLocal tracker host now =>
    have same : (j.launched kind index t isLocal tracker host now).events = j.events := by
      cases isLocal <;> simp [launched, count]
    exact same ▸ List.prefix_refl _
  | @close kind index t id a o cs notes clock =>
    have ended : j.events <+: (j.recorded kind index t a o cs notes clock.first).events := by
      have := record_grows (j.setTask kind index (t.closed a o cs notes clock.first))
        (t.closed a o cs notes clock.first) (a.close o clock.first notes) o clock.first
      rwa [setTask_events] at this
    exact conclude_induction (P := fun k => j.events <+: k.events) ended (fun _ _ same => same)
      fun reason => ended.trans (abort_grows _ reason clock.second)

end Job

section Runs

variable {s s' : System} {ops : List Operation} {id : JobId}

/-- A job that is known stays known, and its log grows at its end. -/
lemma Run.grown (run : Run s ops s') (lw : s.Lawful) {j : Job}
    (found : s.coordinator.job? id = some j) :
    ∃ j', s'.coordinator.job? id = some j' ∧ j.events <+: j'.events :=
  run.follow lw (R := fun i j => i.events <+: j.events) (fun _ => List.prefix_refl _)
    (fun _ _ _ ij jk => ij.trans jk) (fun _ _ _ st _ => st.events_grow) found

/-- The log grows at its end along runs. -/
theorem Run.eventLog_grows (run : Run s ops s') (lw : s.Lawful) (id : JobId) :
    s.coordinator.eventLog id <+: s'.coordinator.eventLog id := by
  cases found : s.coordinator.job? id with
  | none => exact eventLog_of_none found ▸ List.nil_prefix
  | some j =>
    obtain ⟨j', found', more⟩ := run.grown lw found
    rwa [eventLog_of_job? found, eventLog_of_job? found']

/-- A job that is not there at the end was never there. -/
lemma Run.absent (run : Run s ops s') (lw : s.Lawful) (absent : s'.coordinator.job? id = none) :
    s.coordinator.job? id = none := by
  cases found : s.coordinator.job? id with
  | none => rfl
  | some j =>
    obtain ⟨j', found', -⟩ := run.grown lw found
    cases absent.symm.trans found'

/-- The log of a job that has ended stays as it is along runs. -/
theorem Run.eventLog_eq (run : Run s ops s') (lw : s.Lawful) {j : Job}
    (found : s.coordinator.job? id = some j) (terminal : j.isTerminal) :
    s'.coordinator.eventLog id = s.coordinator.eventLog id := by
  rw [eventLog_of_job? found, eventLog_of_job? (run.frozen lw found terminal)]

/-- A log only grows. -/
lemma System.Leads.eventLog_grows (le : s.Leads s') (re : Reachable s) (id : JobId) :
    s.coordinator.eventLog id <+: s'.coordinator.eventLog id := by
  obtain ⟨ops, run⟩ := le
  exact run.eventLog_grows re.lawful id

/-- A job that is not there later was not there before. -/
lemma System.Leads.absent (le : s.Leads s') (re : Reachable s)
    (absent : s'.coordinator.job? id = none) : s.coordinator.job? id = none := by
  obtain ⟨ops, run⟩ := le
  exact run.absent re.lawful absent

/-- The log of every job is numbered from 0. -/
theorem Reachable.numbered (re : Reachable s) (id : JobId) :
    Job.Numbered (s.coordinator.eventLog id) := by
  cases found : s.coordinator.job? id with
  | none =>
    rw [eventLog_of_none found]
    exact fun i e found => absurd (List.mem_of_getElem? found) List.not_mem_nil
  | some j =>
    rw [eventLog_of_job? found]
    exact (re.balanced j (job?_mem found).1).kept.numbered

end Runs

end JobCluster.Coordinator
