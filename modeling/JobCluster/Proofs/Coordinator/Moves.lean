import JobCluster.Proofs.Coordinator.Run
import JobCluster.Proofs.Job.Phase
import Mathlib.Data.List.Nodup

/-!
# Operations as moves of jobs

Every operation changes the jobs by a sequence of moves, each a `Job.Step` of one job, or adds a new
job. `Performs js ms js'` says that the moves `ms` lead from the jobs `js` to `js'`, and
`Operation.Admits` which moves an operation can make. The main statement is `Operation.changes`:
what `Operation.apply` does to the jobs is described by `Changes`.

Facts about single jobs go through this module once: `Performs.forall` carries over what every step
of a job keeps, and `Performs.follow` a relation between a job and the job that it becomes.
-/

namespace JobCluster.Coordinator

open JobCluster.Time

/-! ## Sequences of moves -/

/-- The jobs make moves, one after the other. A move is listed with the name of its job. -/
inductive Performs : List Job → List (JobId × Job.Move) → List Job → Prop where
  | nil {js} :
    Performs js [] js
  | cons {pre j m j' post ms js'} :
    Job.Step j m j' →
    Performs (pre ++ j' :: post) ms js' →
    Performs (pre ++ j :: post) ((j.id, m) :: ms) js'

namespace Performs

variable {js js' js'' : List Job} {ms ms' : List (JobId × Job.Move)}

/-- One move of one job. -/
lemma single {pre post : List Job} {j j' : Job} {m : Job.Move} (st : Job.Step j m j') :
    Performs (pre ++ j :: post) [(j.id, m)] (pre ++ j' :: post) :=
  .cons st .nil

lemma trans (pf : Performs js ms js') (pf' : Performs js' ms' js'') :
    Performs js (ms ++ ms') js'' := by
  induction pf with
  | nil => exact pf'
  | cons st _ ih => exact .cons st (ih pf')

/-- A job in front stays where it is. -/
lemma frame (pf : Performs js ms js') (j : Job) : Performs (j :: js) ms (j :: js') := by
  induction pf with
  | nil => exact .nil
  | @cons pre _ _ _ _ _ _ st _ ih => exact show Performs ((j :: pre) ++ _ :: _) _ _ from .cons st ih

/-- Moves leave the names and the order of the jobs. -/
lemma ids (pf : Performs js ms js') : js'.map Job.id = js.map Job.id := by
  induction pf with
  | nil => rfl
  | cons st _ ih => rw [ih]; simp [st.id]

/-- What the steps of the moves keep, the moves keep. -/
lemma forall_of_mem {P : Job → Prop} (pf : Performs js ms js')
    (step : ∀ j m j', (j.id, m) ∈ ms → Job.Step j m j' → P j → P j') (all : ∀ j ∈ js, P j) :
    ∀ j ∈ js', P j := by
  induction pf with
  | nil => exact all
  | @cons pre j m j' post ms js' st _ ih =>
    apply ih fun k n k' mem => step k n k' (List.mem_cons_of_mem _ mem)
    intro k mem
    rcases List.mem_append.1 mem with mem | mem
    · exact all k (List.mem_append_left _ mem)
    · rcases List.mem_cons.1 mem with rfl | mem
      · exact step j m k List.mem_cons_self st (all j (List.mem_append_right _ List.mem_cons_self))
      · exact all k (List.mem_append_right _ (List.mem_cons_of_mem _ mem))

/-- What steps keep, moves keep. -/
lemma «forall» {P : Job → Prop} (step : ∀ j m j', Job.Step j m j' → P j → P j')
    (pf : Performs js ms js') (all : ∀ j ∈ js, P j) : ∀ j ∈ js', P j :=
  pf.forall_of_mem (fun j m j' _ => step j m j') all

/-- Moves keep jobs lawful. -/
lemma lawful (pf : Performs js ms js') (lw : ∀ j ∈ js, j.Lawful) : ∀ j ∈ js', j.Lawful :=
  pf.forall (fun _ _ _ st lw => st.lawful lw) lw

/-- The job found by a name after one of the jobs was replaced by one of its name. -/
lemma find?_replace {R : Job → Job → Prop} (refl : ∀ j, R j j) {pre post : List Job} {i i' j : Job}
    {id : JobId} (eid : i'.id = i.id) (rel : R i i')
    (found : (pre ++ i :: post).find? (·.id == id) = some j) :
    ∃ j', (pre ++ i' :: post).find? (·.id == id) = some j' ∧ R j j' := by
  rw [List.find?_append] at found ⊢
  cases inPre : pre.find? (·.id == id) with
  | some k =>
    rw [inPre] at found
    exact ⟨j, found, refl j⟩
  | none =>
    rw [inPre, Option.none_or, List.find?_cons] at found
    rw [Option.none_or, List.find?_cons, eid]
    cases here : i.id == id with
    | true =>
      rw [here] at found
      cases found
      exact ⟨i', rfl, rel⟩
    | false =>
      rw [here] at found
      exact ⟨j, found, refl j⟩

/-- A relation that holds along every step of a lawful job holds along moves, for each name. -/
lemma follow {R : Job → Job → Prop} (refl : ∀ j, R j j) (trans : ∀ i j k, R i j → R j k → R i k)
    (pf : Performs js ms js') (lw : ∀ j ∈ js, j.Lawful)
    (step : ∀ j m j', (j.id, m) ∈ ms → Job.Step j m j' → j.Lawful → R j j') {id : JobId} {j : Job}
    (found : js.find? (·.id == id) = some j) :
    ∃ j', js'.find? (·.id == id) = some j' ∧ R j j' := by
  induction pf generalizing j with
  | nil => exact ⟨j, found, refl j⟩
  | cons st _ ih =>
    have rel := step _ _ _ List.mem_cons_self st (lw _ (by simp))
    obtain ⟨k, foundk, relk⟩ := find?_replace refl st.id rel found
    obtain ⟨j', found', rel'⟩ := ih ((Performs.single st).lawful lw)
      (fun k m k' mem => step k m k' (List.mem_cons_of_mem _ mem)) foundk
    exact ⟨j', found', trans _ _ _ relk rel'⟩

/-- Without moves the jobs stay the same. -/
lemma eq_of_nil (pf : Performs js [] js') : js' = js := by
  cases pf with
  | nil => rfl

/-- Along a single move no transitivity is needed. -/
lemma follow_short {R : Job → Job → Prop} (refl : ∀ j, R j j) (short : ms.length ≤ 1)
    (pf : Performs js ms js') (lw : ∀ j ∈ js, j.Lawful)
    (step : ∀ j m j', (j.id, m) ∈ ms → Job.Step j m j' → j.Lawful → R j j') {id : JobId} {j : Job}
    (found : js.find? (·.id == id) = some j) :
    ∃ j', js'.find? (·.id == id) = some j' ∧ R j j' := by
  cases pf with
  | nil => exact ⟨j, found, refl j⟩
  | @cons pre _ _ _ post ms _ st pf =>
    cases List.length_eq_zero_iff.1 (Nat.le_zero.1 (Nat.le_of_succ_le_succ short))
    rw [pf.eq_of_nil]
    exact find?_replace refl st.id (step _ _ _ List.mem_cons_self st (lw _ (by simp))) found

end Performs

/-! ## Single jobs in the state -/

section Lookup

variable {c : Coordinator}

/-- A job that is found is among the jobs, under its name. -/
lemma job?_mem {id : JobId} {j : Job} (found : c.job? id = some j) : j ∈ c.jobs ∧ j.id = id :=
  ⟨List.mem_of_find?_eq_some found, by simpa using List.find?_some found⟩

/-- No job has a name that is not found. -/
lemma job?_eq_none {id : JobId} (found : c.job? id = none) : ∀ j ∈ c.jobs, j.id ≠ id := by
  intro j mem e
  have := List.find?_eq_none.1 found j mem
  simp [e] at this

/-- A job is found under its name, as no two jobs share one. -/
lemma job?_of_mem (nodup : (c.jobs.map Job.id).Nodup) {j : Job} (mem : j ∈ c.jobs) :
    c.job? j.id = some j := by
  cases found : c.job? j.id with
  | none => exact absurd rfl (job?_eq_none found j mem)
  | some k =>
    obtain ⟨memk, ek⟩ := job?_mem found
    rw [List.inj_on_of_nodup_map nodup memk mem ek]

/-- A changed job stands where the one with its name stood. -/
lemma job?_setJob (c : Coordinator) (j : Job) (id : JobId) :
    (c.setJob j).job? id = (c.job? id).map fun k => if k.id = j.id then j else k := by
  rw [job?, setJob, List.find?_map, job?]
  congr 1
  refine congrArg (List.find? · c.jobs) (funext fun k => ?_)
  by_cases same : k.id = j.id
  · simp [same]
  · simp [same]

/-- The jobs around one that is replaced stay. -/
lemma setJob_cut (nodup : (c.jobs.map Job.id).Nodup) {pre post : List Job} {j j' : Job}
    (cut : c.jobs = pre ++ j :: post) (eid : j'.id = j.id) :
    (c.setJob j').jobs = pre ++ j' :: post := by
  rw [cut, List.map_append, List.map_cons, List.nodup_middle, List.nodup_cons] at nodup
  -- the jobs around it have other names
  have keep : ∀ ks : List Job, (∀ k ∈ ks, k ∈ pre ∨ k ∈ post) →
      ks.map (fun k => if k.id = j'.id then j' else k) = ks := by
    intro ks sub
    conv => rhs; rw [← List.map_id ks]
    apply List.map_congr_left
    intro k memk
    rw [if_neg]
    · rfl
    · intro ek
      apply nodup.1
      rw [← eid, ← ek, ← List.map_append]
      exact List.mem_map_of_mem (List.mem_append.2 (sub k memk))
  show c.jobs.map _ = _
  rw [cut, List.map_append, List.map_cons, keep pre fun _ => .inl, keep post fun _ => .inr,
    if_pos eid.symm]

/-- Where names are distinct, putting back a job changes one place. -/
lemma setJob_jobs (nodup : (c.jobs.map Job.id).Nodup) {id : JobId} {j j' : Job}
    (found : c.job? id = some j) (eid : j'.id = j.id) :
    ∃ pre post, c.jobs = pre ++ j :: post ∧ (c.setJob j').jobs = pre ++ j' :: post := by
  obtain ⟨mem, -⟩ := job?_mem found
  obtain ⟨pre, post, cut⟩ := List.append_of_mem mem
  exact ⟨pre, post, cut, setJob_cut nodup cut eid⟩

/-- A job that is replaced after a step has moved. -/
lemma performs_setJob (nodup : (c.jobs.map Job.id).Nodup) {id : JobId} {j j' : Job} {m : Job.Move}
    (found : c.job? id = some j) (st : Job.Step j m j') :
    Performs c.jobs [(id, m)] (c.setJob j').jobs := by
  obtain ⟨pre, post, e, e'⟩ := setJob_jobs nodup found st.id
  rw [e, e', ← (job?_mem found).2]
  exact .single st

@[simp] lemma changeTracker_jobs (id : TrackerId) (f : Tracker → Tracker) :
    (c.changeTracker id f).jobs = c.jobs := rfl

@[simp] lemma notifyKills_jobs (ended : List Attempt) : (c.notifyKills ended).jobs = c.jobs := by
  unfold notifyKills
  induction ended generalizing c with
  | nil => rfl
  | cons a ended ih => rw [List.foldl_cons, ih, changeTracker_jobs]

end Lookup

/-! ## What operations do to jobs -/

/-- The moves that an operation can make, with the names of their jobs. -/
inductive Operation.Admits : Operation → JobId → Job.Move → Prop where
  | installTasks {id splits} :
    Admits (.installTasks id splits) id (.install splits)
  | failInit {id now} :
    Admits (.failInit id now) id (.failInit now)
  | killJob {id clock} :
    Admits (.killJob id clock) id (.kill "job matado por el usuario" clock)
  | killAttempt {id shouldFail clock job kind index} :
    Admits (.killAttempt id shouldFail clock) job
      (.close kind index id (if shouldFail then .failed else .killed) Counters.empty
        [killNote shouldFail] clock)
  | assign {tracker now job kind index isLocal host} :
    Admits (.assign tracker now) job (.launch kind index isLocal tracker host now)
  | complete {r clock job kind index} :
    Admits (.complete r clock) job
      (.close kind index r.attemptId (if r.success then .succeeded else .failed) r.counters
        r.diagnostics clock)
  | sweep {now timeout lost clock job kind index id} :
    id ∈ lost.map Prod.fst →
    Admits (.sweep now timeout lost clock) job
      (.close kind index id .killed Counters.empty ["tracker perdido"] (.still (clock id)))
  | finishIdle {now job} :
    Admits (.finishIdle now) job (.closeIdle now)

/-- Whether an operation can make several moves. -/
def Operation.IsWide : Operation → Prop
  | .sweep .. | .finishIdle _ => True
  | _ => False

/-- What an operation does to the jobs. -/
inductive Operation.Changes (op : Operation) : List Job → List Job → Prop where
  | moves {js ms js'} :
    Performs js ms js' →
    (∀ e ∈ ms, op.Admits e.1 e.2) →
    (op.IsWide ∨ ms.length ≤ 1) →
    Changes op js js'
  | added {js id d size maxJobs now} :
    op = .submit id d size maxJobs now →
    (∀ j ∈ js, j.id ≠ id) →
    Changes op js (js ++ [Job.new id d now])

namespace Operation

variable {c : Coordinator} {op : Operation}

/-- An operation may change no job. -/
lemma Changes.none {js : List Job} : op.Changes js js :=
  .moves .nil (by simp) (.inr (by simp))

/-- An operation may change one job, by a move that it admits. -/
lemma Changes.one {js js' : List Job} {id : JobId} {m : Job.Move}
    (pf : Performs js [(id, m)] js') (ad : op.Admits id m) : op.Changes js js' :=
  .moves pf (by simpa using ad) (.inr (by simp))

/-- What new jobs have and steps keep, an operation keeps. -/
lemma Changes.forall {js js' : List Job} (ch : op.Changes js js') {P : Job → Prop}
    (new : ∀ id d now, P (Job.new id d now)) (step : ∀ j m j', Job.Step j m j' → P j → P j')
    (all : ∀ j ∈ js, P j) : ∀ j ∈ js', P j := by
  cases ch with
  | moves pf _ _ => exact pf.forall step all
  | added _ _ =>
    intro j mem
    rcases List.mem_append.1 mem with mem | mem
    · exact all j mem
    · rw [List.mem_singleton.1 mem]
      exact new ..

end Operation

section Operations

variable {c : Coordinator}

/-- Ending an attempt is a move of its job. -/
lemma finishAttempt_performs (nodup : (c.jobs.map Job.id).Nodup) {ref : AttemptRef}
    {id : AttemptId} {o : Outcome} {cs : Counters} {notes : List String} {clock : Readings}
    {tracker : TrackerId} {c' : Coordinator}
    (e : c.finishAttempt ref id o cs notes clock = some (tracker, c')) :
    Performs c.jobs [(ref.job, .close ref.kind ref.index id o cs notes clock)] c'.jobs := by
  obtain ⟨j, found, e⟩ := Option.bind_eq_some_iff.1 e
  obtain ⟨cl, closed, e⟩ := Option.bind_eq_some_iff.1 e
  cases Option.some.inj e
  rw [notifyKills_jobs, changeTracker_jobs]
  exact performs_setJob nodup found (.of_close closed)

/-- Ending lost attempts one after another is a sequence of moves, each of which ends one of them.
-/
lemma loseAttempts_performs (nodup : (c.jobs.map Job.id).Nodup)
    (lost : List (AttemptId × AttemptRef)) (clock : AttemptId → Instant) :
    ∃ ms, Performs c.jobs ms (c.loseAttempts lost clock).jobs ∧
      ∀ e ∈ ms, ∃ kind index, ∃ id ∈ lost.map Prod.fst, e.2 =
        .close kind index id .killed Counters.empty ["tracker perdido"] (.still (clock id)) := by
  induction lost generalizing c with
  | nil => exact ⟨[], .nil, by simp⟩
  | cons l lost ih =>
    have one : ∃ ms, Performs c.jobs ms (c.loseAttempt l.1 l.2 (clock l.1)).jobs ∧
        ∀ e ∈ ms, ∃ kind index, e.2 =
          .close kind index l.1 .killed Counters.empty ["tracker perdido"]
            (.still (clock l.1)) := by
      unfold loseAttempt
      split
      · next e => exact ⟨_, finishAttempt_performs nodup e, by simp⟩
      · exact ⟨[], .nil, by simp⟩
    obtain ⟨ms, pf, close⟩ := one
    obtain ⟨ms', pf', close'⟩ := ih (c := c.loseAttempt l.1 l.2 (clock l.1)) (by rwa [pf.ids])
    refine ⟨ms ++ ms', pf.trans pf', fun e mem => ?_⟩
    rcases List.mem_append.1 mem with mem | mem
    · obtain ⟨kind, index, em⟩ := close e mem
      exact ⟨kind, index, l.1, List.mem_cons_self, em⟩
    · obtain ⟨kind, index, id, lostId, em⟩ := close' e mem
      exact ⟨kind, index, id, List.mem_cons_of_mem _ lostId, em⟩

/-- Ending idle jobs is a sequence of moves. -/
lemma finishIdle_performs (js : List Job) (now : Instant) :
    ∃ ms, Performs js ms
        (js.map fun j => if j.state == .running && j.allDone then j.finish .succeeded now else j) ∧
      ∀ e ∈ ms, e.2 = .closeIdle now := by
  induction js with
  | nil => exact ⟨[], .nil, by simp⟩
  | cons j js ih =>
    obtain ⟨ms, pf, idle⟩ := ih
    by_cases h : (j.state == .running && j.allDone) = true
    · obtain ⟨run, done⟩ := Bool.and_eq_true_iff.1 h
      have st : Job.Step j (.closeIdle now) (j.finish .succeeded now) :=
        .closeIdle (by simpa using run) done
      refine ⟨(j.id, .closeIdle now) :: ms, ?_, ?_⟩
      · rw [List.map_cons, if_pos h]
        exact show Performs ([] ++ j :: js) _ _ from .cons st (pf.frame _)
      · simpa using idle
    · refine ⟨ms, ?_, idle⟩
      rw [List.map_cons, if_neg h]
      exact pf.frame j

/-- What a chosen map is. -/
lemma pickMap_spec {j : Job} {host : String} {i : Nat} {l : Bool}
    (e : j.pickMap host = some (i, l)) : ∃ t, j.maps[i]? = some t ∧ t.state = .pending := by
  have pending {p : Task → Bool} (sub : ∀ t, p t → t.isPending) {i : Nat}
      (e : j.maps.findIdx? p = some i) : ∃ t, j.maps[i]? = some t ∧ t.state = .pending := by
    obtain ⟨lt, ok, -⟩ := List.findIdx?_eq_some_iff_getElem.1 e
    exact ⟨_, List.getElem?_eq_getElem lt, by simpa [Task.isPending] using sub _ ok⟩
  unfold Job.pickMap at e
  split at e
  · next found =>
    cases e
    exact pending (fun t ok => (Bool.and_eq_true_iff.1 ok).1) found
  · obtain ⟨k, found, e⟩ := Option.map_eq_some_iff.1 e
    cases e
    exact pending (fun t ok => ok) found

/-- A reduce is picked after the maps are done, if it waits. -/
lemma pickReduce_spec {j : Job} {i : Nat} (e : j.pickReduce = some i) :
    j.mapsDone ∧ ∃ t, j.reduces[i]? = some t ∧ t.state = .pending := by
  unfold Job.pickReduce at e
  split at e
  · next done =>
    obtain ⟨lt, ok, -⟩ := List.findIdx?_eq_some_iff_getElem.1 e
    exact ⟨done, _, List.getElem?_eq_getElem lt, by simpa [Task.isPending] using ok⟩
  · cases e

/-- What a chosen task of a job is. -/
lemma chooseTask_spec {j : Job} {host : String} {mapSlot reduceSlot : Bool} {ch : Choice}
    (e : chooseTask j host mapSlot reduceSlot = some ch) :
    ch.job = j.id ∧ (ch.isLocal.isSome ↔ ch.kind = .map) ∧ (ch.kind = .reduce → j.mapsDone) ∧
      ∃ t, (j.tasks ch.kind)[ch.index]? = some t ∧ t.state = .pending := by
  unfold chooseTask at e
  split at e
  · next index isLocal picked =>
    cases e
    cases mapSlot with
    | false => cases picked
    | true => exact ⟨rfl, by simp, nofun, pickMap_spec picked⟩
  · obtain ⟨index, picked, e⟩ := Option.map_eq_some_iff.1 e
    cases e
    cases reduceSlot with
    | false => cases picked
    | true =>
      obtain ⟨done, pick⟩ := pickReduce_spec picked
      exact ⟨rfl, by simp, fun _ => done, pick⟩

/-- What the choice for a tracker is: a pending task of a running job. -/
lemma choose_spec {id : TrackerId} {ch : Choice} (e : c.choose id = some ch) :
    ∃ j ∈ c.jobs, ch.job = j.id ∧ j.state = .running ∧ (ch.isLocal.isSome ↔ ch.kind = .map) ∧
      (ch.kind = .reduce → j.mapsDone) ∧
      ∃ t, (j.tasks ch.kind)[ch.index]? = some t ∧ t.state = .pending := by
  unfold choose at e
  split at e
  · cases e
  · split at e
    · cases e
    · obtain ⟨j, mem, chosen⟩ := List.exists_of_findSome?_eq_some e
      obtain ⟨memj, ok⟩ := List.mem_filter.1 (List.mem_mergeSort.1 mem)
      obtain ⟨ej, isLocal, barrier, pick⟩ := chooseTask_spec chosen
      exact ⟨j, memj, ej, by simpa using (Bool.and_eq_true_iff.1 ok).1, isLocal, barrier, pick⟩

/-- What a launch does. -/
lemma launch_eq_some {id : TrackerId} {ch : Choice} {now : Instant} {asg : TaskAssignment}
    {c' : Coordinator} (e : c.launch id ch now = some (asg, c')) :
    ∃ j t host, c.job? ch.job = some j ∧ (j.tasks ch.kind)[ch.index]? = some t ∧
      asg.attemptId = t.nextAttemptId ∧
      c'.jobs = (c.setJob (j.launched ch.kind ch.index t ch.isLocal id host now)).jobs ∧
      c'.index = setEntry asg.attemptId ⟨ch.job, ch.kind, ch.index⟩ c.index := by
  obtain ⟨j, found, e⟩ := Option.bind_eq_some_iff.1 e
  obtain ⟨⟨j', asg'⟩, launched, e⟩ := Option.bind_eq_some_iff.1 e
  cases Option.some.inj e
  obtain ⟨t, pick, e⟩ := Option.bind_eq_some_iff.1 launched
  cases Option.some.inj e
  exact ⟨j, t, _, found, pick, rfl, rfl, rfl⟩

/-- A launch of a chosen task is a move of its job. -/
lemma launch_performs (nodup : (c.jobs.map Job.id).Nodup) {id : TrackerId} {ch : Choice}
    {now : Instant} {asg : TaskAssignment} {c' : Coordinator} (chosen : c.choose id = some ch)
    (e : c.launch id ch now = some (asg, c')) :
    ∃ host,
      Performs c.jobs [(ch.job, .launch ch.kind ch.index ch.isLocal id host now)] c'.jobs := by
  obtain ⟨k, mem, ek, run, isLocal, barrier, t, pick, pending⟩ := choose_spec chosen
  obtain ⟨j, t', host, found, pick', -, ejobs, -⟩ := launch_eq_some e
  rw [ek, job?_of_mem nodup mem] at found
  cases found
  rw [pick] at pick'
  cases pick'
  refine ⟨host, ?_⟩
  rw [ejobs]
  exact performs_setJob nodup (ek ▸ job?_of_mem nodup mem)
    (.launch run pick pending isLocal barrier)

/-- An assignment changes nothing, or launches the task that was chosen. -/
lemma assign_launches (c : Coordinator) (id : TrackerId) (now : Instant) :
    c.assign id now = (none, c) ∨ ∃ ch asg c', c.choose id = some ch ∧
      c.launch id ch now = some (asg, c') ∧ c.assign id now = (some asg, c') := by
  unfold assign
  split
  · next e =>
    obtain ⟨ch, chosen, launched⟩ := Option.bind_eq_some_iff.1 e
    exact .inr ⟨ch, _, _, chosen, launched, rfl⟩
  · exact .inl rfl

/-- A submission changes nothing and asks for nothing, or adds a new job that is to be prepared. -/
lemma submit_cases (c : Coordinator) (id : JobId) (d : JobDescriptor)
    (size maxJobs : UInt64) (now : Instant) :
    ((c.submit id d size maxJobs now).2 = c ∧
      ∀ status init, (c.submit id d size maxJobs now).1 ≠ .ok ⟨status, some init⟩) ∨
    (c.job? id = none ∧ c.isReserved id ∧
      (∃ status init, (c.submit id d size maxJobs now).1 = .ok ⟨status, some init⟩ ∧
        init.jobId = id) ∧
      (c.submit id d size maxJobs now).2 =
        { c with
          reserved := c.reserved.filter (·.1 != id)
          jobs := c.jobs ++ [Job.new id d now] }) := by
  unfold submit
  cases found : c.job? id with
  | some j => exact .inl (by simp)
  | none =>
    by_cases reserved : c.isReserved id
    case neg => exact .inl (by simp [reserved])
    simp only [reserved, Bool.not_true, Bool.false_eq_true, if_false]
    cases descriptorFault? d with
    | some reason => exact .inl (by simp)
    | none =>
      by_cases full : maxJobs.toNat ≤ c.incompleteCount
      · exact .inl (by simp [full])
      · rw [if_neg full]
        exact .inr ⟨trivial, trivial, ⟨_, _, rfl, rfl⟩, rfl⟩

/-- A submission fails because the job is invalid or because there are too many. -/
lemma submit_error {id : JobId} {d : JobDescriptor} {size maxJobs : UInt64}
    {e : Protocol.ProtocolError} (failed : (c.submit id d size maxJobs now).1 = .error e) :
    (∃ reason, e = .invalidJob reason) ∨ e = .overCapacity maxJobs := by
  unfold submit at failed
  split at failed
  · cases failed
  · split at failed
    · cases failed
      exact .inl ⟨_, rfl⟩
    · split at failed
      · cases failed
        exact .inl ⟨_, rfl⟩
      · split at failed
        · cases failed
          exact .inr rfl
        · cases failed

/-- Every operation changes the jobs by moves that it admits, or adds a new job. -/
theorem Operation.changes (nodup : (c.jobs.map Job.id).Nodup) (op : Operation)
    (fits : ∀ id splits, op = .installTasks id splits → splits.length ≤ UInt32.size)
    (notRunning : ∀ id now, op = .failInit id now → ∀ j, c.job? id = some j → j.state ≠ .running) :
    op.Changes c.jobs (op.apply c).jobs := by
  cases op with
  | markRunning | newJobId | expireReservations | register => exact .none
  | submit id d size maxJobs now =>
    rcases submit_cases c id d size maxJobs now with ⟨e, -⟩ | ⟨free, -, -, e⟩
    · simp only [apply, e]
      exact .none
    · simp only [apply, e]
      exact .added rfl (job?_eq_none free)
  | installTasks id splits =>
    simp only [apply, Coordinator.installTasks]
    split
    · next j found =>
      split
      · next prep =>
        exact .one (performs_setJob nodup found (.install prep (fits id splits rfl))) .installTasks
      · exact .none
    · exact .none
  | failInit id now =>
    simp only [apply, Coordinator.failInit]
    split
    · next j found =>
      split
      · exact .none
      · next live =>
        -- the job is live and does not run, so it is still being prepared
        have prep : j.state = .prep := by
          cases es : j.state with
          | prep => rfl
          | running => exact absurd es (notRunning id now rfl j found)
          | succeeded | failed | killed => simp [Job.isTerminal, es, JobState.isTerminal] at live
        exact .one (performs_setJob nodup found (.failInit prep)) .failInit
    · exact .none
  | killJob id now =>
    simp only [apply, Coordinator.killJob]
    split
    · exact .none
    · next j found =>
      split
      · exact .none
      · next live =>
        rw [notifyKills_jobs]
        exact .one (performs_setJob nodup found (.kill (by simpa using live))) .killJob
  | killAttempt id shouldFail now =>
    simp only [apply, Coordinator.killAttempt]
    split
    · exact .none
    · split
      · next e =>
        have pf := finishAttempt_performs nodup e
        exact .one pf .killAttempt
      · exact .none
  | heartbeat h now =>
    simp only [apply, Coordinator.heartbeat]
    cases c.tracker? h.trackerId with
    | none => exact .none
    | some t => exact .none
  | assign id now =>
    simp only [apply, Coordinator.assign]
    split
    · next e =>
      obtain ⟨ch, chosen, launched⟩ := Option.bind_eq_some_iff.1 e
      obtain ⟨host, pf⟩ := launch_performs nodup chosen launched
      exact .one pf .assign
    · exact .none
  | complete r now =>
    simp only [apply, Coordinator.complete]
    split
    · exact .none
    · split
      · next e => exact .one (finishAttempt_performs nodup e) .complete
      · exact .none
  | sweep now timeout lost clock =>
    obtain ⟨ms, pf, close⟩ := loseAttempts_performs
      (c := c.markDead (c.overdueTrackers now timeout)) nodup lost clock
    refine .moves pf (fun e mem => ?_) (.inl trivial)
    obtain ⟨kind, index, id, named, em⟩ := close e mem
    rw [em]
    exact .sweep named
  | finishIdle now =>
    obtain ⟨ms, pf, idle⟩ := finishIdle_performs c.jobs now
    refine .moves pf (fun e mem => ?_) (.inl trivial)
    rw [idle e mem]
    exact .finishIdle

end Operations

/-! ## Lawful systems -/

/-- What holds of a system at all times. -/
structure System.Lawful (s : System) : Prop where
  nodup : (s.coordinator.jobs.map Job.id).Nodup
  jobs : ∀ j ∈ s.coordinator.jobs, j.Lawful
  preparing : s.preparing.Nodup
  waiting : ∀ id ∈ s.preparing, ∃ j ∈ s.coordinator.jobs, j.id = id ∧ j.state ≠ .running

/-- A job comes to run by getting its tasks only. -/
lemma Job.Step.not_running {j j' : Job} {m : Job.Move} (st : Job.Step j m j') (lw : j.Lawful)
    (ne : j.state ≠ .running) (no : ∀ splits, m ≠ .install splits) : j'.state ≠ .running := by
  cases st with
  | install => exact absurd rfl (no _)
  | failInit | kill => exact nofun
  | launch run | closeIdle run => exact absurd run ne
  | close pick found run =>
    exact absurd (lw.running_of_attempt (mem_of_pick pick) (Task.attempt?_mem found).1 run) ne

namespace System.Lawful

variable {s : System} {op : Operation}

/-- What an operation that can come does to the jobs. -/
lemma changes (lw : s.Lawful) (ok : s.Permits op) :
    op.Changes s.coordinator.jobs (s.next op).coordinator.jobs := by
  refine op.changes lw.nodup (fun id splits e => ?_) fun id now e j found => ?_
  · subst e
    exact ok.2
  subst e
  obtain ⟨k, mem, ek, ne⟩ := lw.waiting id ok
  rw [← ek, job?_of_mem lw.nodup mem] at found
  cases found
  exact ne

/-- The empty system is lawful. -/
lemma start (stamp : String) : (System.start stamp).Lawful :=
  ⟨.nil, List.forall_mem_nil _, .nil, List.forall_mem_nil _⟩

/-- The names of jobs stay distinct. -/
lemma nodup_next (lw : s.Lawful) (ok : s.Permits op) :
    ((s.next op).coordinator.jobs.map Job.id).Nodup := by
  generalize (s.next op).coordinator.jobs = js', lw.changes ok = ch
  cases ch with
  | moves pf _ _ => rw [pf.ids]; exact lw.nodup
  | @added id d _ _ now _ fresh =>
    rw [List.map_append, List.nodup_append]
    refine ⟨lw.nodup, by simp, fun x memx y memy e => ?_⟩
    obtain ⟨j, mem, rfl⟩ := List.mem_map.1 memx
    exact fresh j mem (e.trans (List.mem_singleton.1 memy))

/-- Every operation keeps the jobs lawful. -/
lemma jobs_next (lw : s.Lawful) (ok : s.Permits op) :
    ∀ j ∈ (s.next op).coordinator.jobs, j.Lawful :=
  (lw.changes ok).forall Job.Lawful.new (fun _ _ _ st lw => st.lawful lw) lw.jobs

/-- An operation follows each job: either the job is as it was, or it made the moves. -/
lemma follow (lw : s.Lawful) (ok : s.Permits op) {R : Job → Job → Prop} (refl : ∀ j, R j j)
    (trans : op.IsWide → ∀ i j k, R i j → R j k → R i k)
    (step : ∀ j m j', op.Admits j.id m → Job.Step j m j' → j.Lawful → R j j') {id : JobId}
    {j : Job} (found : s.coordinator.job? id = some j) :
    ∃ j', (s.next op).coordinator.job? id = some j' ∧ R j j' := by
  unfold job? at found ⊢
  have jobs := lw.jobs
  generalize (s.next op).coordinator.jobs = js', lw.changes ok = ch
  generalize s.coordinator.jobs = js at *
  cases ch with
  | moves pf ad wide =>
    have admitted : ∀ i m i', (i.id, m) ∈ _ → Job.Step i m i' → i.Lawful → R i i' :=
      fun i m i' mem st => step i m i' (ad _ mem) st
    rcases wide with wide | short
    · exact pf.follow refl (trans wide) jobs admitted found
    · exact pf.follow_short refl short jobs admitted found
  | added _ _ => exact ⟨j, by rw [List.find?_append, found]; rfl, refl j⟩

/-- The jobs that wait for their tasks do not run. -/
lemma waiting_next (lw : s.Lawful) (ok : s.Permits op) :
    (s.next op).preparing.Nodup ∧ ∀ id ∈ (s.next op).preparing,
      ∃ j ∈ (s.next op).coordinator.jobs, j.id = id ∧ j.state ≠ .running := by
  -- an operation that gives no tasks to a job keeps the job from running
  have keep : ∀ id ∈ s.preparing, (∀ splits, op ≠ .installTasks id splits) →
      ∃ j ∈ (s.next op).coordinator.jobs, j.id = id ∧ j.state ≠ .running := by
    intro id mem no
    obtain ⟨j, memj, ej, ne⟩ := lw.waiting id mem
    obtain ⟨j', found, rel⟩ := lw.follow ok
      (R := fun j j' => j.id = id → j.state ≠ .running → j'.id = id ∧ j'.state ≠ .running)
      (fun _ e ne => ⟨e, ne⟩) (fun _ _ _ _ ij jk e ne => jk (ij e ne).1 (ij e ne).2)
      (fun j m j' ad st lw e ne => ⟨st.id.trans e, st.not_running lw ne fun splits em => by
        subst em
        cases ad
        exact no splits (by rw [e])⟩)
      (ej ▸ job?_of_mem lw.nodup memj)
    obtain ⟨memj', _⟩ := job?_mem found
    exact ⟨j', memj', rel ej ne⟩
  cases op with
  | markRunning | newJobId | expireReservations | killJob | killAttempt | register | heartbeat
  | assign | complete | sweep | finishIdle =>
    exact ⟨lw.preparing, fun id mem => keep id mem nofun⟩
  | installTasks id splits =>
    refine ⟨lw.preparing.erase id, fun x mem => ?_⟩
    obtain ⟨ne, mem⟩ := lw.preparing.mem_erase_iff.1 mem
    exact keep x mem fun _ e => ne (Operation.installTasks.inj e).1.symm
  | failInit id now =>
    exact ⟨lw.preparing.erase id, fun x mem => keep x (List.mem_of_mem_erase mem) nofun⟩
  | submit id d size maxJobs now =>
    rcases submit_cases s.coordinator id d size maxJobs now with
      ⟨-, no⟩ | ⟨free, -, ⟨status, init, answer, einit⟩, e⟩
    · have same : (s.next (.submit id d size maxJobs now)).preparing = s.preparing := by
        simp only [System.next, preparingAfter]
      rw [same]
      exact ⟨lw.preparing, fun x mem => keep x mem nofun⟩
    · have more : (s.next (.submit id d size maxJobs now)).preparing = s.preparing ++ [id] := by
        simp only [System.next, preparingAfter, answer, einit]
      have fresh : id ∉ s.preparing := fun mem => by
        obtain ⟨j, memj, ej, -⟩ := lw.waiting id mem
        exact job?_eq_none free j memj ej
      rw [more]
      refine ⟨?_, fun x mem => ?_⟩
      · rw [List.nodup_append]
        exact ⟨lw.preparing, by simp, fun x memx y memy exy =>
          fresh (List.mem_singleton.1 memy ▸ exy ▸ memx)⟩
      · rcases List.mem_append.1 mem with mem | mem
        · exact keep x mem nofun
        · refine ⟨Job.new id d now, ?_, (List.mem_singleton.1 mem).symm, nofun⟩
          simp only [System.next, Operation.apply, e]
          exact List.mem_append_right _ List.mem_cons_self

/-- Every operation that can come keeps a system lawful. -/
theorem next (lw : s.Lawful) (ok : s.Permits op) : (s.next op).Lawful :=
  ⟨lw.nodup_next ok, lw.jobs_next ok, (lw.waiting_next ok).1, (lw.waiting_next ok).2⟩

end System.Lawful

/-- Every reachable system is lawful. -/
theorem Reachable.lawful {s : System} (re : Reachable s) : s.Lawful :=
  re.induction .start fun _ _ lw ok => lw.next ok

/-- What new jobs have and steps of lawful jobs keep, all jobs of a reachable system have. -/
theorem Reachable.forall_jobs {P : Job → Prop} (new : ∀ id d now, P (Job.new id d now))
    (step : ∀ j m j', Job.Step j m j' → j.Lawful → P j → P j') {s : System} (re : Reachable s) :
    ∀ j ∈ s.coordinator.jobs, P j := by
  -- several steps can come in one operation, so lawfulness goes along with them
  have both : s.Lawful ∧ ∀ j ∈ s.coordinator.jobs, j.Lawful ∧ P j := by
    refine re.induction (P := fun s => s.Lawful ∧ ∀ j ∈ s.coordinator.jobs, j.Lawful ∧ P j)
      (fun stamp => ⟨.start stamp, List.forall_mem_nil _⟩) fun s op before ok => ?_
    obtain ⟨lw, all⟩ := before
    refine ⟨lw.next ok, (lw.changes ok).forall (P := fun j => j.Lawful ∧ P j)
      (fun id d now => ⟨.new id d now, new id d now⟩) ?_ all⟩
    intro j m j' st here
    exact ⟨st.lawful here.1, step j m j' st here.1 here.2⟩
  exact fun j mem => (both.2 j mem).2

end JobCluster.Coordinator
