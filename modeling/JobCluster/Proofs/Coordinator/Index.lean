import JobCluster.Proofs.Coordinator.Moves
import JobCluster.Proofs.Job.Attempts
import Mathlib.Tactic.Tauto

/-!
# The index of attempts

The coordinator finds an attempt by its name through an index. `System.Indexed` says that the index
is exact: it has a name where a job has an attempt of that name, and tells its place. Reports and
kills so reach the attempt that they name.

That a name has one place rests on how names are given: jobs are named by numbers (`jobIdOf`), tasks
by their jobs and places, attempts by their tasks. `Holds.unique` puts this together. Of all
operations only an assignment changes the index, and only its launch makes a new name.
-/

namespace JobCluster.Coordinator

open JobCluster.Time

/-! ## Where attempts are -/

/-- Whether one of the jobs has an attempt with a name at a place. -/
def Holds (js : List Job) (ref : AttemptRef) (id : AttemptId) : Prop :=
  ∃ j ∈ js, j.id = ref.job ∧ j.Has ref.kind ref.index id

namespace Holds

variable {js js' pre post : List Job} {j j' : Job} {ref ref' : AttemptRef} {id : AttemptId}

/-- An attempt is that of the middle job or of one around it. -/
lemma middle : Holds (pre ++ j :: post) ref id ↔
    Holds (pre ++ post) ref id ∨ j.id = ref.job ∧ j.Has ref.kind ref.index id := by
  simp only [Holds, List.mem_append, List.mem_cons, or_and_right, exists_or, exists_eq_left]
  exact ⟨fun h => by rcases h with h | h | h <;> simp [h],
    fun h => by rcases h with (h | h) | h <;> simp [h]⟩

/-- Moves other than launches leave every attempt where it is. -/
lemma of_performs {ms : List (JobId × Job.Move)} (pf : Performs js ms js')
    (lw : ∀ j ∈ js, j.Lawful) (no : ∀ e ∈ ms, ¬e.2.IsLaunch) :
    Holds js' ref id ↔ Holds js ref id := by
  induction pf with
  | nil => exact Iff.rfl
  | cons st _ ih =>
    rw [ih ((Performs.single st).lawful lw) fun e mem => no e (List.mem_cons_of_mem _ mem), middle,
      middle, st.id, st.has_iff (lw _ (by simp)) (no _ List.mem_cons_self)]

/-- A new job has no attempts. -/
lemma added {d : JobDescriptor} {now : Instant} {job : JobId} :
    Holds (js ++ [Job.new job d now]) ref id ↔ Holds js ref id := by
  rw [middle, List.append_nil]
  refine or_iff_left ?_
  rintro ⟨-, t, pick, -⟩
  generalize ref.kind = kind at pick
  cases kind <;> cases pick

/-- A name has one place, where the names of jobs are told apart without their beginning. -/
lemma unique (lw : ∀ j ∈ js, j.Lawful)
    (apart : ∀ j ∈ js, ∀ k ∈ js, dropStart "job_" j.id = dropStart "job_" k.id → j.id = k.id)
    (h : Holds js ref id) (h' : Holds js ref' id) : ref = ref' := by
  obtain ⟨j, mem, ej, h⟩ := h
  obtain ⟨j', mem', ej', h'⟩ := h'
  obtain ⟨ejob, ekind, eindex⟩ := h.inj h' (lw j mem) (lw j' mem')
  obtain ⟨job, kind, index⟩ := ref
  obtain ⟨job', kind', index'⟩ := ref'
  cases ekind
  cases eindex
  cases ej.symm.trans ((apart j mem j' mem' ejob).trans ej')
  rfl

end Holds

/-! ## What the coordinator keeps of names -/

/-- What the coordinator keeps of names, apart from its jobs. -/
structure Registry where
  stamp : String
  issued : Nat
  reserved : List (JobId × Instant)
  index : List (AttemptId × AttemptRef)

/-- What the coordinator keeps of names. -/
def registry (c : Coordinator) : Registry := ⟨c.stamp, c.issued, c.reserved, c.index⟩

section Registry

variable {c c' : Coordinator}

/-- Names to be told leave the registry as it is. -/
lemma registry_notifyKills (ended : List Attempt) :
    (c.notifyKills ended).registry = c.registry := by
  unfold notifyKills
  induction ended generalizing c with
  | nil => rfl
  | cons a ended ih => rw [List.foldl_cons, ih]; rfl

/-- Closing an attempt leaves the registry as it is. -/
lemma registry_finishAttempt {ref : AttemptRef} {id : AttemptId} {o : Outcome} {cs : Counters}
    {notes : List String} {clock : Readings} {tracker : TrackerId}
    (e : c.finishAttempt ref id o cs notes clock = some (tracker, c')) :
    c'.registry = c.registry := by
  obtain ⟨j, found, e⟩ := Option.bind_eq_some_iff.1 e
  obtain ⟨cl, closed, e⟩ := Option.bind_eq_some_iff.1 e
  cases Option.some.inj e
  rw [registry_notifyKills]
  rfl

/-- The end of lost attempts does not change names. -/
lemma registry_loseAttempts (lost : List (AttemptId × AttemptRef))
    (clock : AttemptId → Instant) : (c.loseAttempts lost clock).registry = c.registry := by
  induction lost generalizing c with
  | nil => rfl
  | cons l lost ih =>
    have one : (c.loseAttempt l.1 l.2 (clock l.1)).registry = c.registry := by
      unfold loseAttempt
      split
      · next e => exact registry_finishAttempt e
      · rfl
    exact Eq.trans ih one

/-- Whether an operation gives names or takes them back. -/
def Operation.IsNaming : Operation → Prop
  | .newJobId _ | .expireReservations .. | .submit .. | .assign .. => True
  | _ => False

/-- The other operations do not change names. -/
lemma Operation.registry_apply {op : Operation} (no : ¬op.IsNaming) :
    (op.apply c).registry = c.registry := by
  -- what names nothing changes jobs and trackers only
  cases op with
  | newJobId | expireReservations | submit | assign => exact absurd trivial no
  | markRunning | register | finishIdle => rfl
  | installTasks id splits =>
    simp only [apply, Coordinator.installTasks]
    split
    · split <;> rfl
    · rfl
  | failInit id now =>
    simp only [apply, Coordinator.failInit]
    split
    · split <;> rfl
    · rfl
  | killJob id now =>
    simp only [apply, Coordinator.killJob]
    split
    · rfl
    · split
      · rfl
      · rw [registry_notifyKills]; rfl
  | killAttempt id shouldFail now =>
    simp only [apply, Coordinator.killAttempt]
    split
    · rfl
    · split
      · next e =>
        have same := registry_finishAttempt e
        exact same
      · rfl
  | heartbeat h now =>
    simp only [apply, Coordinator.heartbeat]
    cases c.tracker? h.trackerId <;> rfl
  | complete r now =>
    simp only [apply, Coordinator.complete]
    split
    · rfl
    · split
      · next e => exact registry_finishAttempt e
      · rfl
  | sweep now timeout lost clock => exact registry_loseAttempts lost clock

/-- A submitted job uses up no name. -/
lemma submit_names (c : Coordinator) (id : JobId) (d : JobDescriptor) (size maxJobs : UInt64)
    (now : Instant) :
    (c.submit id d size maxJobs now).2.stamp = c.stamp ∧
      (c.submit id d size maxJobs now).2.issued = c.issued ∧
      (c.submit id d size maxJobs now).2.index = c.index := by
  rcases submit_cases c id d size maxJobs now with ⟨e, -⟩ | ⟨-, -, -, e⟩
  · rw [e]
    exact ⟨rfl, rfl, rfl⟩
  · rw [e]
    exact ⟨rfl, rfl, rfl⟩

/-- A launch uses up no name of a job. -/
lemma launch_names {id : TrackerId} {ch : Choice} {now : Instant} {asg : TaskAssignment}
    (e : c.launch id ch now = some (asg, c')) :
    c'.stamp = c.stamp ∧ c'.issued = c.issued ∧ c'.reserved = c.reserved := by
  obtain ⟨j, found, e⟩ := Option.bind_eq_some_iff.1 e
  obtain ⟨⟨j', asg'⟩, launched, e⟩ := Option.bind_eq_some_iff.1 e
  cases Option.some.inj e
  exact ⟨rfl, rfl, rfl⟩

end Registry

/-! ## Entries -/

section Entries

variable {α : Type} (key : String) (value : α) (es : List (String × α))

/-- An entry is found at its key once it is set, and the others as before. -/
lemma find?_setEntry (k : String) :
    ((setEntry key value es).find? (·.1 == k)).map Prod.snd =
      if k = key then some value else (es.find? (·.1 == k)).map Prod.snd := by
  unfold setEntry
  split
  · -- the value is changed in place, and no key is
    next present =>
    have same : ((fun e => e.1 == k) ∘ fun e : String × α =>
        if e.1 = key then (e.1, value) else e) = fun e => e.1 == k := by
      funext e
      by_cases ek : e.1 = key <;> simp [ek]
    rw [List.find?_map, same, Option.map_map]
    by_cases ek : k = key
    · rw [if_pos ek]
      have isSome : (es.find? (·.1 == k)).isSome := by
        rw [List.find?_isSome, ek]
        exact List.any_eq_true.1 present
      obtain ⟨x, found⟩ := Option.isSome_iff_exists.1 isSome
      have xk : x.1 = k := by simpa using List.find?_some found
      rw [found, Option.map_some, Function.comp_apply, if_pos (xk.trans ek)]
    · rw [if_neg ek]
      cases found : es.find? (·.1 == k) with
      | none => rfl
      | some x =>
        have xk : x.1 = k := by simpa using List.find?_some found
        rw [Option.map_some, Function.comp_apply, if_neg fun e => ek (xk.symm.trans e)]
        rfl
  · next absent =>
    rw [List.find?_append]
    by_cases ek : k = key
    · subst ek
      have none : es.find? (·.1 == k) = none := by
        rw [List.find?_eq_none]
        exact fun x mem here => absent (List.any_eq_true.2 ⟨x, mem, here⟩)
      simp [none]
    · have other : ¬key = k := fun e => ek e.symm
      simp [ek, other]

/-- No key is new but that of the entry that is set. -/
lemma mem_setEntry {e : String × α} (mem : e ∈ setEntry key value es) :
    e.1 = key ∨ ∃ x ∈ es, x.1 = e.1 := by
  unfold setEntry at mem
  split at mem
  · obtain ⟨x, memx, rfl⟩ := List.mem_map.1 mem
    by_cases ek : x.1 = key
    · exact .inl (by rw [if_pos ek, ek])
    · exact .inr ⟨x, memx, by rw [if_neg ek]⟩
  · rcases List.mem_append.1 mem with mem | mem
    · exact .inr ⟨e, mem, rfl⟩
    · exact .inl (by rw [List.mem_singleton.1 mem])

/-- The keys stay in place, and a new key comes last. -/
lemma map_fst_setEntry :
    (setEntry key value es).map Prod.fst =
      if key ∈ es.map Prod.fst then es.map Prod.fst else es.map Prod.fst ++ [key] := by
  have present : es.any (·.1 == key) = true ↔ key ∈ es.map Prod.fst := by simp
  unfold setEntry
  split
  · next here =>
    rw [if_pos (present.1 here), List.map_map]
    apply List.map_congr_left
    intro e _
    by_cases ek : e.1 = key <;> simp [ek]
  · next absent =>
    rw [if_neg fun here => absent (present.2 here), List.map_append]
    rfl

variable {key} {value} {es}

/-- What is found under a key is an entry. -/
lemma mem_of_find? (found : (es.find? (·.1 == key)).map Prod.snd = some value) :
    (key, value) ∈ es := by
  obtain ⟨e, founde, rfl⟩ := Option.map_eq_some_iff.1 found
  have ek : e.1 = key := by simpa using List.find?_some founde
  exact ek ▸ List.mem_of_find?_eq_some founde

/-- Nothing is found under a key that is not there. -/
lemma find?_of_fresh (fresh : ∀ e ∈ es, e.1 ≠ key) :
    (es.find? (·.1 == key)).map Prod.snd = none := by
  rw [Option.map_eq_none_iff, List.find?_eq_none]
  intro e mem here
  exact fresh e mem (beq_iff_eq.1 here)

/-- Where keys are distinct, an entry is found at its key. -/
lemma find?_iff_mem (nodup : (es.map Prod.fst).Nodup) :
    (es.find? (·.1 == key)).map Prod.snd = some value ↔ (key, value) ∈ es := by
  constructor
  · exact mem_of_find?
  · intro mem
    rw [← List.head?_filter, filter_eq_singleton nodup mem]
    rfl

end Entries

/-! ## The index is exact -/

/-- All names of jobs were issued, and the index has the attempts of the jobs and no others. -/
structure Indexed (c : Coordinator) : Prop where
  jobs : ∀ j ∈ c.jobs, ∃ n ≤ c.issued, j.id = jobIdOf c.stamp n
  reserved : ∀ e ∈ c.reserved, ∃ n ≤ c.issued, e.1 = jobIdOf c.stamp n
  index : ∀ id ref, c.ref? id = some ref ↔ Holds c.jobs ref id

namespace Indexed

variable {c c' : Coordinator} {s : System} {op : Operation}

/-- The empty coordinator is indexed. -/
lemma start (stamp : String) : Indexed (.start stamp) where
  jobs := List.forall_mem_nil _
  reserved := List.forall_mem_nil _
  index _ _ := iff_of_false nofun fun ⟨_, mem, _⟩ => absurd mem List.not_mem_nil

/-- The jobs are told apart by what their tasks' names keep of their own. -/
lemma apart (jobs : ∀ j ∈ c.jobs, ∃ n ≤ c.issued, j.id = jobIdOf c.stamp n) :
    ∀ j ∈ c.jobs, ∀ k ∈ c.jobs, dropStart "job_" j.id = dropStart "job_" k.id → j.id = k.id := by
  intro j mem k mem' e
  obtain ⟨m, -, em⟩ := jobs j mem
  obtain ⟨n, -, en⟩ := jobs k mem'
  rw [em, en] at e ⊢
  exact dropStart_jobIdOf_inj e

/-- The index stays exact when neither names nor what is held change. -/
lemma of_same (ix : Indexed c) (same : c'.registry = c.registry)
    (ids : c'.jobs.map Job.id = c.jobs.map Job.id)
    (holds : ∀ ref id, Holds c'.jobs ref id ↔ Holds c.jobs ref id) : Indexed c' := by
  obtain ⟨stamp, issued, reserved, index⟩ := Registry.mk.inj same
  refine ⟨fun j mem => ?_, ?_, fun id ref => ?_⟩
  · have memId : j.id ∈ c.jobs.map Job.id := by
      rw [← ids]
      exact List.mem_map_of_mem mem
    obtain ⟨k, memk, ek⟩ := List.mem_map.1 memId
    rw [stamp, issued, ← ek]
    exact ix.jobs k memk
  · rw [stamp, issued, reserved]
    exact ix.reserved
  · rw [holds, ← ix.index, ref?, index, ref?]

/-- The index stays exact when an attempt is launched. -/
lemma assign (ix : Indexed s.coordinator) (lw : s.Lawful) (id : TrackerId) (now : Instant) :
    Indexed (s.coordinator.assign id now).2 := by
  have ok : s.Permits (.assign id now) := trivial
  have lw' := lw.jobs_next ok
  simp only [System.next, Operation.apply, Coordinator.assign] at lw' ⊢
  split at lw'
  case h_2 => exact ix
  case h_1 asg c' e =>
    obtain ⟨ch, -, e⟩ := Option.bind_eq_some_iff.1 e
    obtain ⟨stamp, issued, reserved⟩ := launch_names e
    obtain ⟨j, t, host, found, pick, easg, ejobs, eindex⟩ := launch_eq_some e
    obtain ⟨pre, post, cut, cut'⟩ := setJob_jobs lw.nodup found
      (Job.launched_id j ch.kind ch.index t ch.isLocal id host now)
    rw [← ejobs] at cut'
    have ej : j.id = ch.job := (job?_mem found).2
    have jobs : ∀ k ∈ c'.jobs, ∃ n ≤ c'.issued, k.id = jobIdOf c'.stamp n := by
      rw [stamp, issued, cut']
      intro k mem
      have old := fun k mem => ix.jobs k (cut ▸ mem)
      rcases List.mem_append.1 mem with mem | mem
      · exact old k (List.mem_append_left _ mem)
      · rcases List.mem_cons.1 mem with rfl | mem
        · rw [Job.launched_id]
          exact old j (List.mem_append_right _ List.mem_cons_self)
        · exact old k (List.mem_append_right _ (List.mem_cons_of_mem _ mem))
    have holds : ∀ ref id, Holds c'.jobs ref id ↔
        Holds s.coordinator.jobs ref id ∨ ref = ⟨ch.job, ch.kind, ch.index⟩ ∧
          id = t.nextAttemptId := by
      intro ref id
      rw [cut, cut', Holds.middle, Holds.middle, Job.launched_id, Job.has_launched pick, or_assoc]
      refine or_congr_right ?_
      obtain ⟨job, kind, index⟩ := ref
      rw [AttemptRef.mk.injEq, ej, eq_comm (a := ch.job)]
      tauto
    refine ⟨jobs, by rw [stamp, issued, reserved]; exact ix.reserved, fun id ref => ?_⟩
    rw [ref?, eindex, find?_setEntry, ← ref?, easg]
    by_cases new : id = t.nextAttemptId
    · rw [if_pos new]
      refine ⟨fun e => (holds ref id).2 (.inr ⟨(Option.some.inj e).symm, new⟩), fun h => ?_⟩
      -- a name has one place, so the new name is held where it was launched
      rw [Holds.unique lw' (apart jobs) h ((holds _ id).2 (.inr ⟨rfl, new⟩))]
    · rw [if_neg new, holds, ix.index]
      exact (or_iff_left fun e => new e.2).symm

/-- The index stays exact with every operation. -/
theorem next (ix : Indexed s.coordinator) (lw : s.Lawful) (ok : s.Permits op) :
    Indexed (s.next op).coordinator := by
  by_cases naming : op.IsNaming
  -- an operation that names nothing launches nothing either
  case neg =>
    have same := Operation.registry_apply (c := s.coordinator) naming
    generalize ejs : (s.next op).coordinator.jobs = js', lw.changes ok = ch
    cases ch with
    | moves pf ad _ =>
      refine ix.of_same same (ejs ▸ pf.ids) fun ref id => ?_
      rw [ejs]
      refine Holds.of_performs pf lw.jobs fun e mem launch => ?_
      have ad := ad e mem
      generalize e.2 = m at ad launch
      cases ad with
      | assign => exact naming trivial
      | _ => exact launch
    | added e _ => exact absurd (e ▸ trivial) naming
  case pos =>
    cases op with
    | newJobId now =>
      refine ⟨fun j mem => ?_, fun e mem => ?_, ix.index⟩
      · obtain ⟨n, le, e⟩ := ix.jobs j mem
        exact ⟨n, Nat.le_succ_of_le le, e⟩
      · rcases mem_setEntry _ _ _ mem with ek | ⟨x, memx, ex⟩
        · exact ⟨_, Nat.le_refl _, ek⟩
        · obtain ⟨n, le, en⟩ := ix.reserved x memx
          exact ⟨n, Nat.le_succ_of_le le, ex ▸ en⟩
    | expireReservations now ttl =>
      exact ⟨ix.jobs, fun e mem => ix.reserved e (List.mem_filter.1 mem).1, ix.index⟩
    | submit id d size maxJobs now =>
      rcases submit_cases s.coordinator id d size maxJobs now with
        ⟨e, -⟩ | ⟨-, reserved, -, e⟩
      · simp only [System.next, Operation.apply, e]
        exact ix
      · simp only [System.next, Operation.apply, e]
        refine ⟨fun j mem => ?_, fun x mem => ix.reserved x (List.mem_filter.1 mem).1,
          fun id ref => ?_⟩
        · rcases List.mem_append.1 mem with mem | mem
          · exact ix.jobs j mem
          · obtain ⟨x, memx, ex⟩ := List.any_eq_true.1 reserved
            obtain ⟨n, le, en⟩ := ix.reserved x memx
            rw [List.mem_singleton.1 mem]
            exact ⟨n, le, ((by simpa using ex : x.1 = id) ▸ en)⟩
        · rw [Holds.added]
          exact ix.index id ref
    | assign id now => exact ix.assign lw id now
    | markRunning | installTasks | failInit | killJob | killAttempt | register | heartbeat
    | complete | sweep | finishIdle => exact naming.elim

end Indexed

/-- The index is exact in every run. -/
theorem Reachable.indexed {s : System} (re : Reachable s) : Indexed s.coordinator :=
  (re.induction (P := fun s => s.Lawful ∧ Indexed s.coordinator)
    (fun stamp => ⟨.start stamp, .start stamp⟩)
    fun _ _ ⟨lw, ix⟩ ok => ⟨lw.next ok, ix.next lw ok⟩).2

/-! ## What the index is for -/

/-- Whether an attempt with a name runs. -/
def runs (c : Coordinator) (id : AttemptId) : Bool := c.running.any (·.2.id == id)

/-- A name runs if some task of a job has a running attempt with it. -/
lemma runs_iff {c : Coordinator} {id : AttemptId} :
    c.runs id = true ↔
      ∃ j ∈ c.jobs, ∃ t ∈ j.allTasks, ∃ a ∈ t.attempts, a.isRunning ∧ a.id = id := by
  simp only [runs, running, Task.running, List.any_flatMap, List.any_map, List.any_eq_true,
    List.mem_filter, Function.comp_apply, beq_iff_eq, and_assoc]

namespace Indexed

variable {c : Coordinator} {s : System} {id : AttemptId}

/-- A name is that of an attempt of one job only. -/
lemma job_inj (ix : Indexed c) (lw : ∀ j ∈ c.jobs, j.Lawful) {j k : Job} (memj : j ∈ c.jobs)
    (memk : k ∈ c.jobs) (h : id ∈ j.allAttempts.map Attempt.id)
    (h' : id ∈ k.allAttempts.map Attempt.id) : j.id = k.id := by
  obtain ⟨kind, index, h⟩ := Job.mem_allAttempts.1 h
  obtain ⟨kind', index', h'⟩ := Job.mem_allAttempts.1 h'
  have hold : Holds c.jobs ⟨j.id, kind, index⟩ id := ⟨j, memj, rfl, h⟩
  have hold' : Holds c.jobs ⟨k.id, kind', index'⟩ id := ⟨k, memk, rfl, h'⟩
  exact (AttemptRef.mk.inj (hold.unique lw (apart ix.jobs) hold')).1

/-- All attempts of all jobs have different names. -/
lemma attempt_ids_nodup (ix : Indexed c) (lw : ∀ j ∈ c.jobs, j.Lawful)
    (nodup : (c.jobs.map Job.id).Nodup) :
    ((c.jobs.flatMap Job.allAttempts).map Attempt.id).Nodup := by
  rw [List.map_flatMap, List.nodup_flatMap]
  refine ⟨fun j mem => (lw j mem).attempt_ids_nodup, ?_⟩
  rw [List.Nodup, List.pairwise_map] at nodup
  exact nodup.imp_of_mem fun memj memk ne x mem mem' => ne (ix.job_inj lw memj memk mem mem')

/-- An attempt that is named is ended if it runs, and only then. -/
lemma finishAttempt_isSome_iff (ix : Indexed s.coordinator) (lw : s.Lawful) (id : AttemptId)
    (o : Outcome) (cs : Counters) (notes : List String) (clock : Readings) :
    (∃ ref, s.coordinator.ref? id = some ref ∧
      (s.coordinator.finishAttempt ref id o cs notes clock).isSome) ↔
    s.coordinator.runs id = true := by
  rw [runs_iff]
  constructor
  · rintro ⟨ref, -, some⟩
    obtain ⟨_, e⟩ := Option.isSome_iff_exists.1 some
    obtain ⟨j, found, e⟩ := Option.bind_eq_some_iff.1 e
    obtain ⟨cl, closed, -⟩ := Option.bind_eq_some_iff.1 e
    obtain ⟨t, a, pick, founda, run, -, -⟩ := Job.close_eq_some closed
    obtain ⟨mema, ea⟩ := Task.attempt?_mem founda
    exact ⟨j, (job?_mem found).1, t, Job.mem_of_pick pick, a, mema, run, ea⟩
  · -- the index is exact, so it leads to the place where the attempt is
    rintro ⟨j, memj, t, memt, a, mema, run, rfl⟩
    obtain ⟨kind, memt'⟩ := Job.mem_allTasks.1 memt
    obtain ⟨index, pick⟩ := List.mem_iff_getElem?.1 memt'
    refine ⟨⟨j.id, kind, index⟩, (ix.index _ _).2 ⟨j, memj, rfl, t, pick, ?_⟩, ?_⟩
    · exact List.mem_map_of_mem mema
    · have founda := ((lw.jobs j memj).tasks t memt).attempt?_of_mem mema
      obtain ⟨cl, closed⟩ := Option.isSome_iff_exists.1
        (Job.isSome_close pick founda run o cs notes clock)
      simp [finishAttempt, job?_of_mem lw.nodup memj, closed]

end Indexed

end JobCluster.Coordinator
