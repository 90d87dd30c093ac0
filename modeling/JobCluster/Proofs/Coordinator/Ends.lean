import JobCluster.Proofs.Coordinator.Trackers
import JobCluster.Proofs.Job.Running

/-!
# Which attempts an operation ends

`liveAttempts` lists the attempts that run, in the order of the jobs and their tasks, and `endedBy`
those that do not run any more in a later state. What the coordinator tells of an end is compared
with `endedBy`: `finishAttempt_ends` for the end of one attempt, with all that follows for its job,
and `killJob_ends` for the end of a job.

Of all operations only an assignment makes an attempt run (`System.Lawful.live_sublist`), and no
operation touches an attempt that has ended (`System.Lawful.stay`).
-/

namespace JobCluster.Coordinator

open JobCluster.Time

/-- All attempts, in the order of the jobs and their tasks. -/
def attempts (c : Coordinator) : List Attempt := c.jobs.flatMap Job.allAttempts

/-- The attempts that run, in the order of the jobs and their tasks. -/
def liveAttempts (c : Coordinator) : List Attempt := c.jobs.flatMap Job.running

/-- The attempts that run in one state and do not run in another. -/
def endedBy (c c' : Coordinator) : List Attempt := c.liveAttempts.filter fun a => !c'.runs a.id

section Live

variable {c c' : Coordinator} {id : AttemptId} {a : Attempt}

/-- The live attempts are those that run, in the order of all. -/
lemma liveAttempts_eq_filter (c : Coordinator) :
    c.liveAttempts = c.attempts.filter Attempt.isRunning := by
  rw [liveAttempts, attempts, List.filter_flatMap]
  exact List.flatMap_congr fun j _ => j.running_eq_filter

/-- An attempt is live if it is there and runs. -/
lemma mem_liveAttempts : a ∈ c.liveAttempts ↔ a ∈ c.attempts ∧ a.isRunning := by
  rw [liveAttempts_eq_filter, List.mem_filter]

/-- A name runs if a live attempt has it. -/
lemma runs_iff_mem : c.runs id = true ↔ id ∈ c.liveAttempts.map Attempt.id := by
  simp only [runs_iff, liveAttempts, Job.running, Task.running, List.mem_map, List.mem_flatMap,
    List.mem_filter]
  constructor
  · rintro ⟨j, memj, t, memt, a, mema, run, e⟩
    exact ⟨a, ⟨j, memj, t, memt, mema, run⟩, e⟩
  · rintro ⟨a, ⟨j, memj, t, memt, mema, run⟩, e⟩
    exact ⟨j, memj, t, memt, a, mema, run, e⟩

/-- What ended was live before and no longer runs. -/
lemma mem_endedBy : a ∈ c.endedBy c' ↔ a ∈ c.liveAttempts ∧ c'.runs a.id = false := by
  simp [endedBy]

/-- Nothing ends where the jobs stay the same. -/
lemma endedBy_of_jobs (same : c'.jobs = c.jobs) : c.endedBy c' = [] := by
  refine List.filter_eq_nil_iff.2 fun a mem => ?_
  have run : c'.runs a.id := by
    rw [runs_iff_mem, liveAttempts, same]
    exact List.mem_map_of_mem mem
  simp [run]

/-- Where the attempts that run change at one place, those of that place end that are not left. -/
lemma endedBy_of_cut {p old left q : List Attempt} (e : c.liveAttempts = p ++ old ++ q)
    (e' : c'.liveAttempts = p ++ left ++ q) (nodup : (c.liveAttempts.map Attempt.id).Nodup) :
    c.endedBy c' = old.filter fun a => !left.any (·.id == a.id) := by
  have stays : ∀ a, a ∈ p ∨ a ∈ q → c'.runs a.id = true := by
    intro a mem
    rw [runs_iff_mem, e']
    exact List.mem_map_of_mem (by simp only [List.mem_append]; tauto)
  have dropped : ∀ as : List Attempt, (∀ a ∈ as, a ∈ p ∨ a ∈ q) →
      as.filter (fun a => !c'.runs a.id) = [] :=
    fun as sub => List.filter_eq_nil_iff.2 fun a mem => by simp [stays a (sub a mem)]
  rw [endedBy, e, List.filter_append, List.filter_append, dropped p fun a mem => .inl mem,
    dropped q fun a mem => .inr mem, List.nil_append, List.append_nil]
  refine List.filter_congr fun a mem => ?_
  -- names are distinct, so what has the name of an attempt in the middle is in the middle
  have apart : a.id ∉ p.map Attempt.id ∧ a.id ∉ q.map Attempt.id := by
    rw [e, List.map_append, List.map_append, List.nodup_append, List.nodup_append] at nodup
    obtain ⟨⟨-, -, front⟩, -, back⟩ := nodup
    have here := List.mem_map_of_mem (f := Attempt.id) mem
    exact ⟨fun memp => front _ memp _ here rfl,
      fun memq => back _ (List.mem_append_right _ here) _ memq rfl⟩
  have same : c'.runs a.id = left.any (·.id == a.id) := by
    rw [Bool.eq_iff_iff, runs_iff_mem, e', List.map_append, List.map_append, List.mem_append,
      List.mem_append, or_iff_left apart.2, or_iff_right apart.1, List.mem_map, List.any_eq_true]
    simp
  rw [same]

/-- A replaced job changes the live attempts in its own part of them only. -/
lemma liveAttempts_setJob (nodup : (c.jobs.map Job.id).Nodup) {job : JobId} {j j' : Job}
    (found : c.job? job = some j) (eid : j'.id = j.id) :
    ∃ p q, c.liveAttempts = p ++ j.running ++ q ∧
      (c.setJob j').liveAttempts = p ++ j'.running ++ q := by
  obtain ⟨pre, post, e, e'⟩ := setJob_jobs nodup found eid
  refine ⟨pre.flatMap Job.running, post.flatMap Job.running, ?_, ?_⟩
  · simp [liveAttempts, e]
  · simp [liveAttempts, e']

end Live

/-! ## States with exact names -/

/-- What holds of a coordinator at all times, also between the ends of two lost attempts. -/
structure Exact (c : Coordinator) : Prop where
  nodup : (c.jobs.map Job.id).Nodup
  lawful : ∀ j ∈ c.jobs, j.Lawful
  indexed : Indexed c

/-- Reachable coordinators are exact. -/
lemma Reachable.exact {s : System} (re : Reachable s) : Exact s.coordinator :=
  ⟨re.lawful.nodup, re.lawful.jobs, re.indexed⟩

namespace Exact

variable {c c' : Coordinator} {id : AttemptId} {a b : Attempt}

/-- The lemmas on systems apply to an exact coordinator. -/
lemma system (ex : Exact c) : System.Lawful ⟨c, []⟩ :=
  ⟨ex.nodup, ex.lawful, .nil, List.forall_mem_nil _⟩

/-- No two attempts share a name. -/
lemma ids_nodup (ex : Exact c) : (c.attempts.map Attempt.id).Nodup :=
  ex.indexed.attempt_ids_nodup ex.lawful ex.nodup

/-- An attempt is told by its name. -/
lemma inj (ex : Exact c) (mem : a ∈ c.attempts) (mem' : b ∈ c.attempts) (e : a.id = b.id) :
    a = b :=
  List.inj_on_of_nodup_map ex.ids_nodup mem mem' e

/-- No two live attempts share a name. -/
lemma live_ids_nodup (ex : Exact c) : (c.liveAttempts.map Attempt.id).Nodup := by
  rw [liveAttempts_eq_filter]
  exact (List.filter_sublist.map _).nodup ex.ids_nodup

/-- The name of an attempt that ended does not run. -/
lemma runs_eq_false (ex : Exact c) (mem : a ∈ c.attempts) (no : a.isRunning = false) :
    c.runs a.id = false := by
  rw [Bool.eq_false_iff, ne_eq, runs_iff_mem]
  intro run
  obtain ⟨b, memb, e⟩ := List.mem_map.1 run
  obtain ⟨memb, runb⟩ := mem_liveAttempts.1 memb
  rw [ex.inj memb mem e, no] at runb
  cases runb

/-- An attempt that is closed leaves the coordinator exact. -/
lemma finishAttempt (ex : Exact c) {ref : AttemptRef} {o : Outcome} {cs : Counters}
    {notes : List String} {clock : Readings} {tracker : TrackerId}
    (e : c.finishAttempt ref id o cs notes clock = some (tracker, c')) : Exact c' := by
  have pf := finishAttempt_performs ex.nodup e
  refine ⟨by rw [pf.ids]; exact ex.nodup, pf.lawful ex.lawful, ?_⟩
  refine ex.indexed.of_same (registry_finishAttempt e) pf.ids fun ref id => ?_
  exact Holds.of_performs pf ex.lawful fun e mem => by rw [List.mem_singleton.1 mem]; exact nofun

end Exact

/-! ## The end of an attempt and of a job -/

section Ends

variable {c c' : Coordinator} {id : AttemptId} {o : Outcome} {cs : Counters} {notes : List String}
  {clock : Readings} {tracker : TrackerId} {ref : AttemptRef}

/-- All that closing an attempt does: to its job, its tracker, and those stopped with it. -/
lemma finishAttempt_eq_some (e : c.finishAttempt ref id o cs notes clock = some (tracker, c')) :
    ∃ j cl, c.job? ref.job = some j ∧ j.close ref.kind ref.index id o cs notes clock = some cl ∧
      tracker = cl.attempt.tracker ∧ c' = ((c.setJob cl.job).changeTracker tracker
        (·.credit o (cl.attempt.runTime clock.first))).notifyKills cl.aborted := by
  obtain ⟨j, found, e⟩ := Option.bind_eq_some_iff.1 e
  obtain ⟨cl, closed, e⟩ := Option.bind_eq_some_iff.1 e
  cases Option.some.inj e
  exact ⟨j, cl, found, closed, rfl, rfl⟩

/-- A report changes nothing, or closes one attempt. -/
lemma complete_cases (c : Coordinator) (r : TaskCompletion) (clock : Readings) :
    (c.complete r clock).2 = c ∨ ∃ ref o tracker, c.finishAttempt ref r.attemptId o r.counters
      r.diagnostics clock = some (tracker, (c.complete r clock).2) := by
  simp only [complete]
  split
  · exact .inl rfl
  · split
    · next e => exact .inr ⟨_, _, _, e⟩
    · exact .inl rfl

/-- A user's kill of an attempt changes nothing, or ends the attempt and tells its tracker. -/
lemma killAttempt_cases (c : Coordinator) (id : AttemptId) (shouldFail : Bool) (clock : Readings) :
    (c.killAttempt id shouldFail clock).2 = c ∨ ∃ ref o tracker c', c.finishAttempt ref id o
      Counters.empty [killNote shouldFail] clock = some (tracker, c') ∧
      (c.killAttempt id shouldFail clock).2 = c'.changeTracker tracker (·.queueKill id) := by
  simp only [killAttempt]
  split
  · exact .inl rfl
  · split
    · next e => exact .inr ⟨_, _, _, _, e, rfl⟩
    · exact .inl rfl

/-- A user's kill of a job changes nothing, or aborts the job and tells the trackers. -/
lemma killJob_cases (c : Coordinator) (id : JobId) (clock : Readings) :
    c.killJob id clock = c ∨ ∃ j reason, c.job? id = some j ∧ j.isTerminal = false ∧
      c.killJob id clock =
        (c.setJob ((j.abort reason clock.first).1.finish .killed clock.second)).notifyKills
          (j.abort reason clock.first).2 := by
  unfold killJob
  split
  · exact .inl rfl
  · next j found =>
    split
    · exact .inl rfl
    · next live => exact .inr ⟨j, _, found, by simpa using live, rfl⟩

/-- Closing attempts leaves them their names and trackers. -/
lemma namesOn_map_close (k : TrackerId) (as : List Attempt) (reason : String) (now : Instant) :
    namesOn k (as.map (·.close .killed now [reason])) = namesOn k as := by
  simp only [namesOn, List.filter_map, List.map_map]
  rfl

/-- What a job does with the end of one of its attempts is what ends. -/
lemma endedBy_of_close (ex : Exact c) {job : JobId} {j : Job} (found : c.job? job = some j)
    {kind : TaskKind} {index : Nat} {cl : Job.Closed}
    (closed : j.close kind index id o cs notes clock = some cl)
    (jobs : c'.jobs = (c.setJob cl.job).jobs) :
    ∃ a ∈ c.liveAttempts, a.id = id ∧ a.tracker = cl.attempt.tracker ∧
      (c.endedBy c').filter (·.id == id) = [a] ∧
      (o ≠ .failed → (c.endedBy c').filter (·.id != id) = []) ∧
      ∀ k, namesOn k cl.aborted = namesOn k ((c.endedBy c').filter (·.id != id)) := by
  have lw := ex.lawful j (job?_mem found).1
  obtain ⟨p, q, cut, cut'⟩ := liveAttempts_setJob ex.nodup found (Job.Step.of_close closed).id
  have live : c'.liveAttempts = p ++ cl.job.running ++ q := by
    rw [← cut', liveAttempts, jobs]
    rfl
  have ends := endedBy_of_cut cut live ex.live_ids_nodup
  obtain ⟨a, mem, rfl, ended, what⟩ := Job.running_of_close lw closed
  have only : j.running.filter (·.id == a.id) = [a] := filter_eq_singleton lw.running_ids_nodup mem
  have memLive : a ∈ c.liveAttempts := by
    rw [cut]
    exact List.mem_append_left _ (List.mem_append_right _ mem)
  refine ⟨a, memLive, rfl, by rw [ended]; rfl, ?_⟩
  rcases what with ⟨failed, none, reason, aborted⟩ | ⟨left, none⟩
  · -- the job fails, so all its attempts end
    have all : c.endedBy c' = j.running := by simp [ends, none]
    rw [all, aborted]
    exact ⟨only, fun no => absurd failed no, fun k => namesOn_map_close k _ reason clock.second⟩
  · -- the job goes on, so the attempt ends alone
    have one : c.endedBy c' = [a] := by
      rw [ends, left, ← only]
      refine List.filter_congr fun b memb => ?_
      rw [Bool.eq_iff_iff]
      simp only [Job.runningBut, List.any_filter, Bool.not_eq_true', List.any_eq_false,
        Bool.and_eq_true, bne_iff_ne, beq_iff_eq, not_and]
      exact ⟨fun no => by_contra fun ne => no b memb ne rfl, fun e x _ ne e' => ne (e'.trans e)⟩
    rw [one, none]
    exact ⟨by simp, fun _ => by simp, fun k => by simp [namesOn]⟩

/-- The end of a job ends the attempts of it that run. -/
lemma endedBy_of_kill (ex : Exact c) {job : JobId} {j : Job} (found : c.job? job = some j)
    (reason : String)
    (jobs : c'.jobs =
      (c.setJob ((j.abort reason clock.first).1.finish .killed clock.second)).jobs)
    (k : TrackerId) :
    namesOn k (j.abort reason clock.first).2 = namesOn k (c.endedBy c') := by
  have lw := ex.lawful j (job?_mem found).1
  have eid : ((j.abort reason clock.first).1.finish .killed clock.second).id = j.id :=
    (Job.agree_abort ..).id
  obtain ⟨p, q, cut, cut'⟩ := liveAttempts_setJob ex.nodup found eid
  have none : ((j.abort reason clock.first).1.finish .killed clock.second).running = [] :=
    Job.running_abort lw.tasks reason clock.first
  have live : c'.liveAttempts = p ++ [] ++ q := by
    rw [← none, ← cut', liveAttempts, jobs]
    rfl
  have all : c.endedBy c' = j.running := by simp [endedBy_of_cut cut live ex.live_ids_nodup]
  rw [all, Job.abort_snd lw.tasks]
  exact namesOn_map_close k _ reason clock.first

end Ends

/-! ## Operations -/

namespace Performs

variable {js js' : List Job} {ms : List (JobId × Job.Move)}

/-- Moves that launch nothing make no attempt run. -/
lemma running_sublist (pf : Performs js ms js') (lw : ∀ j ∈ js, j.Lawful)
    (no : ∀ e ∈ ms, ¬e.2.IsLaunch) :
    (js'.flatMap Job.running).Sublist (js.flatMap Job.running) := by
  induction pf with
  | nil => exact .refl _
  | cons st _ ih =>
    refine (ih ((Performs.single st).lawful lw)
      fun e mem => no e (List.mem_cons_of_mem _ mem)).trans ?_
    simp only [List.flatMap_append, List.flatMap_cons]
    have one := st.running_sublist (lw _ (by simp)) (no _ List.mem_cons_self)
    exact (List.Sublist.refl _).append (one.append (.refl _))

/-- Moves keep all attempts. -/
lemma stay (pf : Performs js ms js') (lw : ∀ j ∈ js, j.Lawful) :
    Stay (js.flatMap Job.allAttempts) (js'.flatMap Job.allAttempts) := by
  induction pf with
  | nil => exact .refl _
  | @cons pre j m j' post ms js' st _ ih =>
    refine Stay.trans ?_ (ih ((Performs.single st).lawful lw))
    refine .flatMap fun k mem => ?_
    rcases List.mem_append.1 mem with mem | mem
    · exact ⟨k, List.mem_append_left _ mem, .refl _⟩
    · rcases List.mem_cons.1 mem with rfl | mem
      · exact ⟨j', List.mem_append_right _ List.mem_cons_self, st.stay (lw k (by simp))⟩
      · exact ⟨k, List.mem_append_right _ (List.mem_cons_of_mem _ mem), .refl _⟩

end Performs

namespace System.Lawful

variable {s : System} {op : Operation}

/-- No operation that is not an assignment makes an attempt run. -/
lemma live_sublist (lw : s.Lawful) (ok : s.Permits op) (no : ∀ id now, op ≠ .assign id now) :
    (s.next op).coordinator.liveAttempts.Sublist s.coordinator.liveAttempts := by
  unfold liveAttempts
  generalize (s.next op).coordinator.jobs = js', lw.changes ok = ch
  cases ch with
  | moves pf ad _ =>
    refine pf.running_sublist lw.jobs fun e mem launch => ?_
    have ad := ad e mem
    generalize e.2 = m at ad launch
    cases ad with
    | assign => exact no _ _ rfl
    | _ => exact launch
  | @added id d _ _ now _ _ =>
    have none : (Job.new id d now).running = [] := rfl
    rw [List.flatMap_append, List.flatMap_singleton, none, List.append_nil]

/-- No operation touches an attempt that has ended, and none is forgotten. -/
lemma stay (lw : s.Lawful) (ok : s.Permits op) :
    Stay s.coordinator.attempts (s.next op).coordinator.attempts := by
  unfold attempts
  generalize (s.next op).coordinator.jobs = js', lw.changes ok = ch
  cases ch with
  | moves pf _ _ => exact pf.stay lw.jobs
  | added _ _ =>
    rw [List.flatMap_append]
    exact fun a mem => ⟨a, List.mem_append_left _ mem, .refl a⟩

end System.Lawful

end JobCluster.Coordinator
