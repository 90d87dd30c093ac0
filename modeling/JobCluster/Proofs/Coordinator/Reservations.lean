import JobCluster.Proofs.Coordinator.Naming
import Mathlib.Data.List.Perm.Lattice

/-!
# The life of a job's name

A name of a job is given out once. It is then reserved, until a job is submitted under it or it
expires. `Standing` has these three cases and `Standing.next` the two ways from one to another;
`names_live_once` says that every name that was given out stands in exactly one of them, and moves
between them in these ways only, whatever the clock shows and however often the name is submitted.

The cases are kept in different places: the coordinator has the reserved names and its jobs, and
what has expired is told by the run alone (`System.expires`). The invariant that puts them together
is `Accounted`: the names that were given out are, in some order, those of all three.
-/

namespace JobCluster.Coordinator

open JobCluster.Time

/-! ## What operations do to names -/

namespace System

/-- The reserved names that an operation lets expire. -/
def expires (s : System) : Operation → List JobId
  | .expireReservations now ttl =>
    (s.coordinator.reserved.filter fun e => !isFresh e.2 now ttl).map Prod.fst
  | _ => []

/-- What an operation asks to prepare, with the name under which it submits the job. -/
def accepts (s : System) : Operation → List (JobId × InitRequest)
  | .submit id d size maxJobs now =>
    match (s.coordinator.submit id d size maxJobs now).1 with
    | .ok ⟨_, some init⟩ => [(id, init)]
    | _ => []
  | _ => []

end System

/-- Where a name that was given out stands. -/
inductive Standing where
  | reserved (since : Instant)
  | submitted
  | expired

namespace Standing

/-- Whether a name stands so after operations that lead from a start to a system. -/
def Holds (stamp : String) (ops : List Operation) (s : System) (id : JobId) : Standing → Prop
  | .reserved since => (id, since) ∈ s.coordinator.reserved
  | .submitted => id ∈ s.coordinator.jobs.map Job.id
  | .expired => id ∈ (System.start stamp).collect System.expires ops

/-- How an operation moves a name: one that is reserved is submitted when its submission is
accepted, and expires when it is looked at more than the time to live after it was reserved. -/
def next (s : System) (id : JobId) (op : Operation) : Standing → Standing
  | .reserved since =>
    match op with
    | .submit x d size maxJobs now =>
      if x = id ∧ (s.coordinator.submit x d size maxJobs now).1.isOk then .submitted
      else .reserved since
    | .expireReservations now ttl =>
      if since.total + ttl.nanos < now.total then .expired else .reserved since
    | _ => .reserved since
  | .submitted => .submitted
  | .expired => .expired

/-- How operations move a name, one after the other. -/
def after (s : System) (id : JobId) (st : Standing) : List Operation → Standing
  | [] => st
  | op :: ops => (st.next s id op).after (s.next op) id ops

/-- The standing of a name after one more operation. -/
lemma after_snoc (s : System) (id : JobId) (st : Standing) (ops : List Operation)
    (op : Operation) :
    st.after s id (ops ++ [op]) = (st.after s id ops).next (s.after ops) id op := by
  induction ops generalizing s st with
  | nil => rfl
  | cons x ops ih =>
    rw [List.cons_append, after, ih, after]
    rfl

end Standing

section Step

variable {c : Coordinator} {s : System} {op : Operation} {id : JobId}

/-- A name is looked at too late if the clock shows more than the time to live since. -/
lemma isFresh_eq_false_iff {since now : Instant} {ttl : Duration} :
    isFresh since now ttl = false ↔ since.total + ttl.nanos < now.total := by
  unfold isFresh Instant.since?
  split
  · next age e =>
    split at e
    · next earlier =>
      have ea : age.nanos = (now.total - since.total).toNat := by cases e; rfl
      rw [decide_eq_false_iff_not, ea]
      omega
    · cases e
  · next e =>
    split at e
    · cases e
    · next later => simp only [Bool.true_eq_false, false_iff]; omega

/-- A reserved name is in the list of reservations. -/
lemma isReserved_iff : c.isReserved id ↔ id ∈ c.reserved.map Prod.fst := by
  simp [isReserved]

/-- The submission of a name without a job asks to prepare something unless it fails. -/
lemma init_isSome {d : JobDescriptor} {size maxJobs : UInt64} {now : Instant} {answer : Submission}
    (free : c.job? id = none) (ok : (c.submit id d size maxJobs now).1 = .ok answer) :
    answer.init.isSome := by
  simp only [submit, free] at ok
  split at ok
  · cases ok
  · split at ok
    · cases ok
    · split at ok
      · cases ok
      · cases ok
        rfl

/-- A submission leaves the coordinator as it is, or is accepted: it asks to prepare something, and
the name that was reserved is that of a new job. -/
lemma accepts_cases (s : System) (id : JobId) (d : JobDescriptor) (size maxJobs : UInt64)
    (now : Instant) :
    (s.coordinator.submit id d size maxJobs now).2 = s.coordinator ∧
        s.accepts (.submit id d size maxJobs now) = [] ∧
        (s.coordinator.job? id = none →
          (s.coordinator.submit id d size maxJobs now).1.isOk = false) ∨
      s.coordinator.isReserved id ∧
        (∃ init, s.accepts (.submit id d size maxJobs now) = [(id, init)]) ∧
        (s.coordinator.submit id d size maxJobs now).1.isOk ∧
        (s.coordinator.submit id d size maxJobs now).2 =
          { s.coordinator with
            reserved := s.coordinator.reserved.filter (·.1 != id)
            jobs := s.coordinator.jobs ++ [Job.new id d now] } := by
  rcases submit_cases s.coordinator id d size maxJobs now with
    ⟨same, no⟩ | ⟨-, reserved, ⟨status, init, answer, -⟩, e⟩
  · refine .inl ⟨same, by simp only [System.accepts], fun free => ?_⟩
    cases ea : (s.coordinator.submit id d size maxJobs now).1 with
    | error _ => rfl
    | ok answer =>
      obtain ⟨init, some⟩ := Option.isSome_iff_exists.1 (init_isSome free ea)
      exact absurd ea (by cases answer; cases some; exact no _ _)
  · exact .inr ⟨reserved, ⟨init, by simp only [System.accepts, answer]⟩, by rw [answer]; rfl, e⟩

/-- Jobs are added for the submissions that are accepted, at the end. -/
lemma System.Lawful.ids_next (lw : s.Lawful) (ok : s.Permits op) :
    (s.next op).coordinator.jobs.map Job.id =
      s.coordinator.jobs.map Job.id ++ (s.accepts op).map Prod.fst := by
  cases op with
  | submit id d size maxJobs now =>
    rcases accepts_cases s id d size maxJobs now with ⟨e, none, -⟩ | ⟨-, ⟨init, one⟩, -, e⟩
    · rw [System.next, Operation.apply, e, none, List.map_nil, List.append_nil]
    · rw [System.next, Operation.apply, e, one, List.map_append]
      rfl
  | markRunning | newJobId | expireReservations | installTasks | failInit | killJob | killAttempt
  | register | heartbeat | assign | complete | sweep | finishIdle =>
    have ch := lw.changes ok
    generalize (s.next _).coordinator.jobs = js' at ch ⊢
    cases ch with
    | moves pf _ _ => exact pf.ids.trans (List.append_nil _).symm
    | added e _ => cases e

/-- Whether an operation changes which names are reserved. -/
def Operation.IsReserving : Operation → Prop
  | .newJobId _ | .expireReservations .. | .submit .. => True
  | _ => False

/-- The other operations leave the reserved names as they are. -/
lemma Operation.reserved_apply (no : ¬op.IsReserving) : (op.apply c).reserved = c.reserved := by
  have quiet (no : ¬op.IsNaming) : (op.apply c).reserved = c.reserved :=
    congrArg Registry.reserved (Operation.registry_apply no)
  cases op with
  | newJobId | expireReservations | submit => exact absurd trivial no
  | assign id now =>
    rw [apply]
    rcases c.assign_launches id now with e | ⟨ch, asg, c', -, launched, e⟩
    · rw [e]
    · rw [e]
      exact (launch_names launched).2.2
  | markRunning | installTasks | failInit | killJob | killAttempt | register | heartbeat
  | complete | sweep | finishIdle => exact quiet not_false

/-- A new key comes last. -/
lemma setEntry_of_fresh {α : Type} {key : String} {value : α} {es : List (String × α)}
    (fresh : key ∉ es.map Prod.fst) : setEntry key value es = es ++ [(key, value)] := by
  refine if_neg fun present => fresh ?_
  obtain ⟨e, mem, here⟩ := List.any_eq_true.1 present
  exact beq_iff_eq.1 here ▸ List.mem_map_of_mem mem

/-- A new name is the last reservation. -/
lemma reserved_newJobId {now : Instant} (fresh : (c.newJobId now).1 ∉ c.reserved.map Prod.fst) :
    (c.newJobId now).2.reserved = c.reserved ++ [((c.newJobId now).1, now)] :=
  setEntry_of_fresh fresh

/-- An operation takes no name away: a name that was reserved or that it gives out is reserved after
it, or that of a job, or expires. -/
lemma System.names_next (op : Operation) (nodup : (s.coordinator.reserved.map Prod.fst).Nodup)
    (fresh : ∀ id ∈ s.issues op, id ∉ s.coordinator.reserved.map Prod.fst) :
    ((s.next op).coordinator.reserved.map Prod.fst ++ (s.accepts op).map Prod.fst ++
      s.expires op).Perm (s.coordinator.reserved.map Prod.fst ++ s.issues op) := by
  by_cases reserving : op.IsReserving
  case neg =>
    have same := Operation.reserved_apply (c := s.coordinator) reserving
    rw [System.next, same]
    cases op with
    | newJobId | expireReservations | submit => exact absurd trivial reserving
    | markRunning | installTasks | failInit | killJob | killAttempt | register | heartbeat
    | assign | complete | sweep | finishIdle => simp [System.accepts, System.expires, System.issues]
  case pos =>
    cases op with
    | newJobId now =>
      rw [System.next, Operation.apply, reserved_newJobId (fresh _ List.mem_cons_self)]
      simp [System.accepts, System.expires, System.issues]
    | expireReservations now ttl =>
      -- the reservations are cut in those that stay and those that expire
      have cut := (List.filter_append_perm (fun e => isFresh e.2 now ttl)
        s.coordinator.reserved).map Prod.fst
      rw [List.map_append] at cut
      simpa [System.next, Operation.apply, expireReservations, System.accepts, System.expires,
        System.issues] using cut
    | submit id d size maxJobs now =>
      rcases accepts_cases s id d size maxJobs now with
        ⟨e, none, -⟩ | ⟨reserved, ⟨init, one⟩, -, e⟩
      · simp [System.next, Operation.apply, e, none, System.expires, System.issues]
      · -- a reserved name is reserved once, so taking it out is to erase it
        have erased : (s.coordinator.reserved.filter (·.1 != id)).map Prod.fst =
            (s.coordinator.reserved.map Prod.fst).erase id := by
          rw [nodup.erase_eq_filter, List.filter_map]
          rfl
        have put := (List.perm_append_singleton id _).trans
          (List.perm_cons_erase (isReserved_iff.1 reserved)).symm
        simpa [System.next, Operation.apply, e, one, erased, System.expires, System.issues]
          using put
    | markRunning | installTasks | failInit | killJob | killAttempt | register | heartbeat
    | assign | complete | sweep | finishIdle => exact reserving.elim

end Step

/-! ## Runs -/

/-- The names that were given out are, in some order, those that are reserved, those of the jobs and
those that have expired. Jobs are in the order in which their submissions were accepted. -/
structure Accounted (stamp : String) (ops : List Operation) (s : System) : Prop where
  issued : ((System.start stamp).collect System.issues ops).Perm
    (s.coordinator.reserved.map Prod.fst ++ s.coordinator.jobs.map Job.id ++
      (System.start stamp).collect System.expires ops)
  jobs : s.coordinator.jobs.map Job.id =
    ((System.start stamp).collect System.accepts ops).map Prod.fst

section Runs

variable {stamp : String} {ops : List Operation} {s s' : System} {op : Operation} {id : JobId}
  {st : Standing}

/-- A name that is issued was not issued before. -/
lemma Run.fresh (run : Run (System.start stamp) ops s) (ok : s.Permits op) :
    ∀ id ∈ s.issues op, id ∉ (System.start stamp).collect System.issues ops := by
  have nodup := (run.snoc ok).issues_nodup
  rw [System.collect_snoc, ← run.eq_after, List.nodup_append] at nodup
  exact fun id mem before => nodup.2.2 id before id mem rfl

namespace Accounted

/-- Reserved, used and expired names are all different. -/
lemma nodup (ac : Accounted stamp ops s) (run : Run (System.start stamp) ops s) :
    (s.coordinator.reserved.map Prod.fst ++ s.coordinator.jobs.map Job.id ++
      (System.start stamp).collect System.expires ops).Nodup :=
  ac.issued.nodup_iff.1 run.issues_nodup

/-- No name is reserved twice. -/
lemma reserved_nodup (ac : Accounted stamp ops s) (run : Run (System.start stamp) ops s) :
    (s.coordinator.reserved.map Prod.fst).Nodup :=
  ((ac.nodup run).of_append_left).of_append_left

/-- A reserved name was issued. -/
lemma mem_issued (ac : Accounted stamp ops s) (mem : id ∈ s.coordinator.reserved.map Prod.fst) :
    id ∈ (System.start stamp).collect System.issues ops :=
  ac.issued.mem_iff.2 (List.mem_append_left _ (List.mem_append_left _ mem))

/-- A name that is reserved is not that of a job. -/
lemma free (ac : Accounted stamp ops s) (run : Run (System.start stamp) ops s)
    (mem : id ∈ s.coordinator.reserved.map Prod.fst) : s.coordinator.job? id = none := by
  cases found : s.coordinator.job? id with
  | none => rfl
  | some j =>
    obtain ⟨memj, ej⟩ := job?_mem found
    have apart := (List.nodup_append.1 (ac.nodup run).of_append_left).2.2
    exact absurd rfl (apart id mem id (ej ▸ List.mem_map_of_mem memj))

/-- One operation keeps the account of names. -/
lemma next (ac : Accounted stamp ops s) (run : Run (System.start stamp) ops s)
    (ok : s.Permits op) : Accounted stamp (ops ++ [op]) (s.next op) := by
  have re : Reachable s := ⟨stamp, ops, run⟩
  have ids := re.lawful.ids_next ok
  refine ⟨?_, ?_⟩
  · have step := s.names_next op (ac.reserved_nodup run)
      fun id mem here => run.fresh ok id mem (ac.mem_issued here)
    have before := ac.issued
    rw [System.collect_snoc, System.collect_snoc, ← run.eq_after, ids]
    simp only [List.perm_iff_count, List.count_append] at before step ⊢
    intro x
    have := before x
    have := step x
    omega
  · rw [ids, ac.jobs, System.collect_snoc, ← run.eq_after, List.map_append]

end Accounted

/-- A run keeps the account of names. -/
lemma Run.accounted (run : Run (System.start stamp) ops s) : Accounted stamp ops s := by
  induction run with
  | nil => exact ⟨.nil, rfl⟩
  | snoc run ok ih => exact ih.next run ok

/-- An operation moves a name as `Standing.next` says. -/
lemma Standing.Holds.step (here : st.Holds stamp ops s id)
    (run : Run (System.start stamp) ops s) (ok : s.Permits op) :
    (st.next s id op).Holds stamp (ops ++ [op]) (s.next op) id := by
  have re : Reachable s := ⟨stamp, ops, run⟩
  have ac := run.accounted
  cases st with
  | submitted =>
    rw [next, Holds, re.lawful.ids_next ok]
    exact List.mem_append_left _ here
  | expired =>
    rw [next, Holds, System.collect_snoc]
    exact List.mem_append_left _ here
  | reserved since =>
    have listed : id ∈ s.coordinator.reserved.map Prod.fst := List.mem_map_of_mem here
    have stays (no : ¬op.IsReserving) :
        (Standing.reserved since).Holds stamp (ops ++ [op]) (s.next op) id := by
      rw [Holds, System.next, Operation.reserved_apply no]
      exact here
    -- only three operations touch reservations: a new name, an expiry and a submission
    cases op with
    | newJobId now =>
      show (id, since) ∈ (s.coordinator.newJobId now).2.reserved
      rw [reserved_newJobId fun mem => run.fresh ok _ List.mem_cons_self (ac.mem_issued mem)]
      exact List.mem_append_left _ here
    | expireReservations now ttl =>
      by_cases late : since.total + ttl.nanos < now.total
      · rw [next, if_pos late, Holds, System.collect_snoc, ← run.eq_after]
        refine List.mem_append_right _ (List.mem_map.2 ⟨_, List.mem_filter.2 ⟨here, ?_⟩, rfl⟩)
        rw [isFresh_eq_false_iff.2 late]
        rfl
      · rw [next, if_neg late]
        exact List.mem_filter.2 ⟨here, by simpa using isFresh_eq_false_iff.not.2 late⟩
    | submit x d size maxJobs now =>
      have kept (ne : x ≠ id) : (id, since) ∈ s.coordinator.reserved.filter (·.1 != x) :=
        List.mem_filter.2 ⟨here, by simpa using ne.symm⟩
      rcases accepts_cases s x d size maxJobs now with ⟨e, -, refused⟩ | ⟨-, -, accepted, e⟩
      · have stays : ¬(x = id ∧ (s.coordinator.submit x d size maxJobs now).1.isOk) := by
          rintro ⟨rfl, accepted⟩
          rw [refused (ac.free run listed)] at accepted
          cases accepted
        rw [next, if_neg stays, Holds, System.next, Operation.apply, e]
        exact here
      · -- a submission that is accepted uses up its own name
        by_cases ex : x = id
        · rw [next, if_pos ⟨ex, accepted⟩, Holds, System.next, Operation.apply, e, ← ex,
            List.map_append]
          exact List.mem_append_right _ List.mem_cons_self
        · rw [next, if_neg fun both => ex both.1, Holds, System.next, Operation.apply, e]
          exact kept ex
    | markRunning | installTasks | failInit | killJob | killAttempt | register | heartbeat
    | assign | complete | sweep | finishIdle => exact stays not_false

/-- A run moves a name as its operations do. -/
lemma Standing.Holds.run (here : st.Holds stamp ops s id) {later : List Operation}
    (run : Run (System.start stamp) ops s) (run' : Run s later s') :
    (st.after s id later).Holds stamp (ops ++ later) s' id := by
  induction run' with
  | nil =>
    rw [List.append_nil]
    exact here
  | snoc run' ok ih =>
    rw [after_snoc, ← List.append_assoc, ← run'.eq_after]
    exact ih.step (run.append run') ok

namespace Accounted

/-- A name stands in one way only. -/
lemma one {st' : Standing} (ac : Accounted stamp ops s) (run : Run (System.start stamp) ops s)
    (here : st.Holds stamp ops s id) (here' : st'.Holds stamp ops s id) : st = st' := by
  obtain ⟨present, -, gone⟩ := List.nodup_append.1 (ac.nodup run)
  have apart := (List.nodup_append.1 present).2.2
  have listed {since : Instant} (mem : (id, since) ∈ s.coordinator.reserved) :
      id ∈ s.coordinator.reserved.map Prod.fst := List.mem_map_of_mem mem
  cases st with
  | reserved since =>
    cases st' with
    | reserved since' =>
      rw [(Prod.mk.inj (List.inj_on_of_nodup_map (ac.reserved_nodup run) here here' rfl)).2]
    | submitted => exact absurd rfl (apart id (listed here) id here')
    | expired => exact absurd rfl (gone id (List.mem_append_left _ (listed here)) id here')
  | submitted =>
    cases st' with
    | reserved since' => exact absurd rfl (apart id (listed here') id here)
    | submitted => rfl
    | expired => exact absurd rfl (gone id (List.mem_append_right _ here) id here')
  | expired =>
    cases st' with
    | reserved since' => exact absurd rfl (gone id (List.mem_append_left _ (listed here')) id here)
    | submitted => exact absurd rfl (gone id (List.mem_append_right _ here') id here)
    | expired => rfl

/-- The issued names are those that have a standing. -/
lemma issued_iff (ac : Accounted stamp ops s) :
    id ∈ (System.start stamp).collect System.issues ops ↔
      ∃ st, Standing.Holds stamp ops s id st := by
  rw [ac.issued.mem_iff, List.mem_append, List.mem_append]
  constructor
  · rintro ((mem | mem) | mem)
    · obtain ⟨e, meme, rfl⟩ := List.mem_map.1 mem
      exact ⟨.reserved e.2, meme⟩
    · exact ⟨.submitted, mem⟩
    · exact ⟨.expired, mem⟩
  · rintro ⟨_ | _ | _, here⟩
    · exact .inl (.inl (List.mem_map_of_mem here))
    · exact .inl (.inr here)
    · exact .inr here

/-- A name that has expired or was not given out cannot be submitted. -/
lemma refused (ac : Accounted stamp ops s) (run : Run (System.start stamp) ops s)
    (no : id ∉ (System.start stamp).collect System.issues ops ∨
      Standing.Holds stamp ops s id .expired) (d : JobDescriptor) (size maxJobs : UInt64)
    (now : Instant) : s.coordinator.submit id d size maxJobs now =
      (.error (.invalidJob (id ++ " no fue reservado con get_new_job_id")), s.coordinator) := by
  -- the name neither is that of a job nor is reserved
  have stands (st : Standing) (ne : st ≠ .expired) : ¬st.Holds stamp ops s id := by
    intro here
    rcases no with no | gone
    · exact no (ac.issued_iff.2 ⟨st, here⟩)
    · exact ne (ac.one run here gone)
  have free : s.coordinator.job? id = none := by
    cases found : s.coordinator.job? id with
    | none => rfl
    | some j =>
      obtain ⟨mem, ej⟩ := job?_mem found
      exact absurd (ej ▸ List.mem_map_of_mem mem) (stands .submitted nofun)
  have unlisted : s.coordinator.isReserved id = false := by
    rw [Bool.eq_false_iff, ne_eq, isReserved_iff]
    intro mem
    obtain ⟨e, meme, rfl⟩ := List.mem_map.1 mem
    exact stands (.reserved e.2) nofun meme
  simp [submit, free, unlisted]

end Accounted

/-- A name of a job is given out once, and then stands in one of the three ways: it is reserved from
the moment at which it is given out, and operations move it as `Standing.after` says and in no other
way. A name that has expired or was not given out is refused. The jobs are those whose submissions
were accepted, in that order, each once. -/
structure LiveOnce (stamp : String) (ops : List Operation) (s : System) : Prop where
  once : ((System.start stamp).collect System.issues ops).Nodup
  stands : ∀ id, id ∈ (System.start stamp).collect System.issues ops ↔
    ∃ st, Standing.Holds stamp ops s id st
  one : ∀ id st st', Standing.Holds stamp ops s id st → Standing.Holds stamp ops s id st' → st = st'
  given : ∀ now, (s.coordinator.newJobId now).1 ∉ (System.start stamp).collect System.issues ops ∧
    Standing.Holds stamp (ops ++ [.newJobId now]) (s.next (.newJobId now))
      (s.coordinator.newJobId now).1 (.reserved now)
  moves : ∀ later s', Run s later s' → ∀ id st, Standing.Holds stamp ops s id st →
    Standing.Holds stamp (ops ++ later) s' id (st.after s id later)
  refused : ∀ id, id ∉ (System.start stamp).collect System.issues ops ∨
    Standing.Holds stamp ops s id .expired → ∀ d size maxJobs now,
      s.coordinator.submit id d size maxJobs now =
        (.error (.invalidJob (id ++ " no fue reservado con get_new_job_id")), s.coordinator)
  jobs : s.coordinator.jobs.map Job.id =
    ((System.start stamp).collect System.accepts ops).map Prod.fst
  distinct : (s.coordinator.jobs.map Job.id).Nodup

end Runs

/-! ## A run with three names -/

/-- The operations of a run in which the first name expires, a job is submitted under the second,
and the third is reserved by a clock that is then set back. The second name is submitted again, and
the first too late. -/
def namingOperations : List Operation :=
  let job (name : String) : JobDescriptor := ⟨name, "ana", ["/datos"], 0, .normal, none⟩
  [.newJobId (.ofSeconds 0),
    .newJobId (.ofSeconds 5),
    .newJobId (.ofSeconds 10),
    .submit "job_202601020304_0002" (job "wc") 1024 10 (.ofSeconds 10),
    .expireReservations (.ofSeconds 8) (.ofSeconds 7),
    .submit "job_202601020304_0002" (job "grep") 1024 10 (.ofSeconds 8),
    .submit "job_202601020304_0001" (job "sort") 1024 10 (.ofSeconds 8)]

/-- The system after the run with three names. -/
def namingSystem : System := (System.start "202601020304").after namingOperations

end JobCluster.Coordinator
