import JobCluster.Proofs.Client.Reply
import JobCluster.Proofs.Coordinator.Dates

/-!
# Calls and operations agree

A call over the link to a service does to it what the operation does on the spot, and returns the
same value, or an error of the same kind with the same limit (`Client.call_agrees`). The names that
the operation is called with are words (`IsWord`), as those are that the coordinator makes; the
times in its answers are those of the clock (`Run.dated`), and so they arrive.
-/

namespace JobCluster

open JobCluster.Client JobCluster.Coordinator JobCluster.Http JobCluster.Number JobCluster.Protocol
  JobCluster.Service JobCluster.Text JobCluster.Time JobCluster.Wire

variable {α : Type}

/-! ## Names -/

/-- A name of letters, digits and underscores. -/
def IsWord (name : String) : Prop := name ≠ "" ∧ ∀ c ∈ name.toList, c.isAlphanum ∨ c = '_'

instance (name : String) : Decidable (IsWord name) :=
  have := List.decidableBAll (fun c : Char => c.isAlphanum = true ∨ c = '_') name.toList
  inferInstanceAs (Decidable (_ ∧ _))

/-- A word has no character besides letters, digits and underscores. -/
lemma IsWord.ne {name : String} (word : IsWord name) {sign : Char}
    (noLetter : sign.isAlphanum = false) (other : sign ≠ '_') : ∀ c ∈ name.toList, c ≠ sign := by
  rintro c mem rfl
  rcases word.2 c mem with letter | underscore
  · exact Bool.false_ne_true (noLetter.symm.trans letter)
  · exact other underscore

/-- Addresses keep words. -/
lemma IsWord.kept {name : String} (word : IsWord name) : kept name = name := by
  refine kept_eq_self_iff.2 fun c mem => ?_
  have tab : c ≠ '\t' := word.ne (by decide) (by decide) c mem
  have feed : c ≠ '\n' := word.ne (by decide) (by decide) c mem
  have back : c ≠ '\r' := word.ne (by decide) (by decide) c mem
  rw [isDropped, decide_eq_false tab, decide_eq_false feed, decide_eq_false back]
  rfl

/-- A word is no dot segment. -/
lemma IsWord.noDots {name : String} (word : IsWord name) : ¬ IsDots name := by
  rw [IsDots, word.kept]
  rintro (rfl | rfl)
  · exact absurd word (by decide)
  · exact absurd word (by decide)

namespace Protocol.Procedure

variable {p : Procedure α}

/-- An address made of words arrives as it was meant. -/
lemma target_words (words : ∀ id ∈ p.names, IsWord id) :
    p.target.mapNames kept = p.target :=
  (mapNames_kept_eq_iff p).2 fun id mem => kept_eq_self_iff.1 (words id mem).kept

/-- No call asks for the status of a job without a name. -/
lemma target_ne (words : ∀ id ∈ p.names, IsWord id) : p.target ≠ .job "" := by
  cases p with
  | jobStatus id => exact fun e => (words id List.mem_cons_self).1 (Target.job.inj e)
  | _ => exact nofun

end Protocol.Procedure

/-! ## What operations return -/

namespace Coordinator

/-- The status of a job with proper dates comes through the wire. -/
lemma Job.Dated.carries_status {j : Job} (dated : j.Dated Instant.Proper)
    (progress : ∀ kind, (Codec.real single).Carries (j.progress kind)) :
    Codec.jobStatus.Carries j.status :=
  Codec.carries_jobStatus dated.submittedAt dated.finishTime (progress .map) (progress .reduce)

/-- The report on a task with proper dates comes through the wire. -/
lemma Task.Dated.carries_report {t : Task} (dated : t.Dated Instant.Proper) :
    Codec.taskReport.Carries t.report :=
  Codec.carries_taskReport dated.startTime dated.finishTime
    (Codec.carries_allOrNothing t.isComplete)

variable {c : Coordinator} {now : Instant}

/-- A submission tells the state of a job that was there, or of one without tasks. -/
lemma carries_submission (dated : ∀ j ∈ c.jobs, j.Dated Instant.Proper)
    (progress : ∀ j ∈ c.jobs, ∀ kind, (Codec.real single).Carries (j.progress kind))
    (clock : now.Proper) {id : JobId} {d : JobDescriptor} {size maxJobs : UInt64}
    {submission : Submission} (submitted : (c.submit id d size maxJobs now).1 = .ok submission) :
    Codec.jobStatus.Carries submission.status := by
  unfold submit at submitted
  split at submitted
  · next j found =>
    cases submitted
    obtain ⟨mem, -⟩ := job?_mem found
    exact (dated j mem).carries_status (progress j mem)
  · split at submitted
    · cases submitted
    · split at submitted
      · cases submitted
      · split at submitted
        · cases submitted
        · cases submitted
          refine (Job.Dated.new id d clock).carries_status fun kind => ?_
          cases kind <;> exact Codec.carries_allOrNothing false

end Coordinator

namespace Protocol.Procedure

variable {p : Procedure α} {s s' : Service} {clock : Readings}

/-- What an operation returns is carried by its answer. -/
lemma carries_run (dated : ∀ j ∈ s.coordinator.jobs, j.Dated Instant.Proper)
    (progress : ∀ j ∈ s.coordinator.jobs, ∀ kind, (Codec.real single).Carries (j.progress kind))
    (proper : clock.first.Proper) {a : α} (ran : s.run clock p = some (.ok a, s')) :
    p.shape.Carries a := by
  have status : ∀ j ∈ s.coordinator.jobs, Codec.jobStatus.Carries j.status := fun j mem =>
    (dated j mem).carries_status (progress j mem)
  have found {id : JobId} {j : Job} (found : s.coordinator.job? id = some j) :
      j ∈ s.coordinator.jobs := (job?_mem found).1
  have reports (id : JobId) (kind : TaskKind) :
      (Codec.list Codec.taskReport).Carries (s.coordinator.taskReports id kind) := by
    refine Codec.carries_list fun r mem => ?_
    rw [taskReports] at mem
    split at mem
    · next j here =>
      obtain ⟨t, memt, rfl⟩ := List.mem_map.1 mem
      exact ((dated j (found here)).tasks t (Job.mem_allTasks.2 ⟨kind, memt⟩)).carries_report
    · cases mem
  -- only what is read off jobs needs their dates and their progress
  cases p with
  | newJobId | fileSystemName => exact Codec.carries_only (Codec.carries_text a)
  | clusterStatus => exact Codec.carries_clusterStatus a
  | killJob => trivial
  | killTask => exact Codec.carries_only (Codec.carries_bool a)
  | completionEvents => exact Codec.carries_list fun e _ => Codec.carries_completionEvent e
  | taskDiagnostics => exact Codec.carries_texts a
  | jobCounters => exact fun b _ => Codec.carries_counters b
  | mapReports id | reduceReports id =>
    cases ran
    exact reports id _
  | jobStatus id =>
    cases ran
    intro b mem
    obtain ⟨j, here, rfl⟩ := Option.map_eq_some_iff.1 mem
    exact status j (found here)
  | jobProfile id =>
    cases ran
    intro b mem
    obtain ⟨j, here, rfl⟩ := Option.map_eq_some_iff.1 mem
    exact Codec.carries_jobProfile (dated j (found here)).submittedAt
  | allJobs =>
    cases ran
    refine Codec.carries_list fun b mem => ?_
    obtain ⟨j, here, rfl⟩ := List.mem_map.1 mem
    exact status j here
  | incompleteJobs =>
    cases ran
    refine Codec.carries_list fun b mem => ?_
    obtain ⟨j, here, rfl⟩ := List.mem_map.1 mem
    exact status j (List.mem_filter.1 here).1
  | submitJob id d =>
    rw [Service.run] at ran
    split at ran
    · cases ran
    · next submission c submitted =>
      cases ran
      exact carries_submission dated progress proper (congrArg Prod.fst submitted)

/-- The errors of operations. -/
lemma raised_run {e : ProtocolError} (ran : s.run clock p = some (.error e, s')) :
    (∃ reason, e = .invalidJob reason) ∨ ∃ limit, e = .overCapacity limit := by
  cases p with
  | submitJob id d =>
    rw [Service.run] at ran
    split at ran
    · next failure c submitted =>
      cases ran
      exact (submit_error (congrArg Prod.fst submitted)).imp_right fun full => ⟨_, full⟩
    · cases ran
  | clusterStatus =>
    obtain ⟨_, _, e⟩ := Option.map_eq_some_iff.1 ran
    cases e
  | _ => cases ran

end Protocol.Procedure

/-! ## Calls -/

namespace Client

/-- What is told on the spot and over a link: the same value, or an error of the same kind with the
same limit. -/
inductive Agree : Except ProtocolError α → Except ProtocolError α → Prop where
  | value (a : α) : Agree (.ok a) (.ok a)
  | invalidJob (reason told : String) :
    Agree (.error (.invalidJob reason)) (.error (.invalidJob told))
  | overCapacity (limit : UInt64) :
    Agree (.error (.overCapacity limit)) (.error (.overCapacity limit))

variable {c : Client Service} {s : Service} {clock : Readings} {newTracker : TrackerId}
  {origin stamp : String} {ops : List Operation} {system : System}

/-- The only operation without an outcome is that which tells figures past their words. -/
lemma run_eq_none {p : Procedure α} (ran : s.run clock p = none) :
    s.coordinator.clusterStatus = none := by
  cases p with
  | clusterStatus => exact Option.map_eq_none_iff.1 ran
  | submitJob id d =>
    rw [Service.run] at ran
    split at ran <;> cases ran
  | _ => cases ran

/-- Over a link, an operation does the same to the service as on the spot, and tells the same. -/
theorem call_agrees (base : Address.read c.base = some ⟨origin, [], none⟩)
    (link : c.link = Service.link clock newTracker) (run : Run (.start stamp) ops system)
    (state : s.coordinator = system.coordinator)
    (clocks : ∀ op ∈ ops, ∀ i ∈ op.clocks, i.Proper) (proper : clock.first.Proper)
    (progress : ∀ j ∈ s.coordinator.jobs, ∀ kind, (Codec.real single).Carries (j.progress kind))
    (p : Procedure α) (words : ∀ id ∈ p.names, IsWord id)
    (fits : utf8Length (p.request ⟨origin, [], none⟩).body ≤ maxBodyLength) :
    (∀ x s', s.run clock p = some (x, s') → ∃ y, c.call p s = (y, s') ∧ Agree x y) ∧
      (s.run clock p = none → s.coordinator.clusterStatus = none ∧
        ∃ detail, c.call p s = (.error (.transport detail), s)) := by
  have noDots : ∀ id ∈ p.names, ¬ IsDots id := fun id mem => (words id mem).noDots
  have target := p.target_words words
  have answered : s.answer (p.request ⟨origin, [], none⟩) clock newTracker =
      (s.run clock p).map fun x => (announce (p.shape.reply x.1).response, x.2) := by
    rw [p.answer_request noDots (by rw [target]; exact p.target_ne words), target,
      p.perform_request noDots fits, Option.map_map]
    rfl
  have dated : ∀ j ∈ s.coordinator.jobs, j.Dated Instant.Proper := by
    rw [state]
    exact run.dated clocks
  rw [call_link base link, answered]
  constructor
  · intro x s' ran
    rw [ran, Option.map_some]
    dsimp only
    -- a value comes back as it was written, an error as it is told
    have carries : ∀ a, x = .ok a → p.shape.Carries a := by
      rintro a rfl
      exact p.carries_run dated progress proper ran
    have ends : ∀ e, x = .error e → Raised e ∧
        Agree (.error e : Except ProtocolError α) (.error e.told) := by
      rintro e rfl
      rcases p.raised_run ran with ⟨reason, rfl⟩ | ⟨limit, rfl⟩
      · exact ⟨.invalidJob reason, .invalidJob _ _⟩
      · exact ⟨.overCapacity limit, .overCapacity limit⟩
    refine ⟨_, rfl, ?_⟩
    rw [Shape.read_reply carries fun e failed => (ends e failed).1]
    cases x with
    | ok a => exact .value a
    | error e => exact (ends e rfl).2
  · intro ran
    rw [ran]
    exact ⟨run_eq_none ran, _, rfl⟩

/-- A job of one map. -/
def oneMap : JobDescriptor := ⟨"wc", "ana", ["/datos"], 0, .normal, none⟩

/-- The operations by which it is submitted. -/
def oneSubmission : List Operation :=
  [.newJobId ⟨0, 0⟩, .submit oneMapJob oneMap 1024 10 ⟨0, 0⟩]

/-- A service whose job waits for its tasks. -/
def waiting : Service :=
  { idle with coordinator := ((System.start "202601020304").after oneSubmission).coordinator }

lemma waiting_jobs : waiting.coordinator.jobs = [Job.new oneMapJob oneMap ⟨0, 0⟩] := rfl

/-- A client is told the state of the job. -/
theorem sample_call_agrees :
    Address.read toService.base = some ⟨"http://jobs", [], none⟩ ∧
    toService.link = Service.link (.still ⟨0, 0⟩) "t1" ∧
    Run (.start "202601020304") oneSubmission ((System.start "202601020304").after oneSubmission) ∧
    (∀ op ∈ oneSubmission, ∀ i ∈ op.clocks, i.Proper) ∧
    (∀ j ∈ waiting.coordinator.jobs, ∀ kind, (Codec.real single).Carries (j.progress kind)) ∧
    (∀ id ∈ (Procedure.jobStatus oneMapJob).names, IsWord id) ∧
    toService.jobStatus oneMapJob waiting =
      (.ok (some (Job.new oneMapJob oneMap ⟨0, 0⟩).status), waiting) := by
  have run : Run (.start "202601020304") oneSubmission
      ((System.start "202601020304").after oneSubmission) :=
    .of_permitsAll ⟨trivial, trivial, trivial⟩
  have clocks : ∀ op ∈ oneSubmission, ∀ i ∈ op.clocks, i.Proper := by decide
  have progress : ∀ j ∈ waiting.coordinator.jobs, ∀ kind,
      (Codec.real single).Carries (j.progress kind) := by
    rw [waiting_jobs]
    refine List.forall_mem_singleton.2 fun kind => ?_
    cases kind <;> exact Codec.carries_allOrNothing false
  have words : ∀ id ∈ (Procedure.jobStatus oneMapJob).names, IsWord id := by decide
  have status : waiting.coordinator.jobStatus oneMapJob =
      some (Job.new oneMapJob oneMap ⟨0, 0⟩).status := by
    rw [Coordinator.jobStatus, job?, waiting_jobs]
    rfl
  obtain ⟨y, called, agree⟩ := (call_agrees toService_base toService_link run rfl clocks
    (by decide) progress (.jobStatus oneMapJob) words (by decide)).1 _ _ rfl
  cases agree
  rw [status] at called
  exact ⟨toService_base, toService_link, run, clocks, progress, words, called⟩

end Client

end JobCluster
