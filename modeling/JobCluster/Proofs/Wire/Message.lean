import JobCluster.Wire.Message
import JobCluster.Proofs.Wire.Codec
import Mathlib.Data.List.Nodup

/-!
# Which messages are carried

A message is carried when its instants are proper and the binary numbers in it are carried; texts,
words and the names of enumerations always are. Each lemma goes over the members of one record.
-/

namespace JobCluster.Wire.Codec

open JobCluster.Protocol JobCluster.Number JobCluster.Time JobCluster.Wire.Presence

/-! ## Enumerations -/

lemma carries_jobState (s : JobState) : jobState.Carries s :=
  carries_enumeration (by cases s <;> rfl)

lemma carries_jobPriority (p : JobPriority) : jobPriority.Carries p :=
  carries_enumeration (by cases p <;> rfl)

lemma carries_coordinatorState (s : CoordinatorState) : coordinatorState.Carries s :=
  carries_enumeration (by cases s <;> rfl)

lemma carries_taskKind (k : TaskKind) : taskKind.Carries k :=
  carries_enumeration (by cases k <;> rfl)

lemma carries_taskState (s : TaskState) : taskState.Carries s :=
  carries_enumeration (by cases s <;> rfl)

lemma carries_completionStatus (s : CompletionStatus) : completionStatus.Carries s :=
  carries_enumeration (by cases s <;> rfl)

/-! ## Records -/

lemma carries_texts (ss : List String) : (list text).Carries ss :=
  carries_list fun s _ => carries_text s

lemma refusesNull_word64 : word64.RefusesNull := ⟨.mistyped, rfl⟩

lemma refusesNull_instant : instant.RefusesNull := ⟨.mistyped, rfl⟩

lemma carries_word64Option (o : Option UInt64) : (option word64).Carries o :=
  carries_option refusesNull_word64 fun n _ => carries_word64 n

lemma carries_instantOption {o : Option Instant} (proper : ∀ i ∈ o, i.Proper) :
    (option instant).Carries o :=
  carries_option refusesNull_instant fun i mem => carries_instant (proper i mem)

/-- Zero and one are carried as progress. -/
lemma carries_allOrNothing (b : Bool) :
    (real single).Carries (Binary.ofNat single (if b then 1 else 0)) := by
  cases b with
  | false =>
    have written : Json.Numeral.ofBinary (Binary.ofNat single 0) =
        some ⟨false, [0], [0], none⟩ := by
      decide
    exact carries_real written ⟨by decide, by decide, by decide, by decide⟩ (by decide)
  | true =>
    have written : Json.Numeral.ofBinary (Binary.ofNat single 1) =
        some ⟨false, [1], [0], none⟩ := by
      decide +kernel
    exact carries_real written ⟨by decide, by decide, by decide, by decide⟩ (by decide)

/-- The descriptor of a job is carried. -/
lemma carries_jobDescriptor (d : JobDescriptor) : jobDescriptor.Carries d :=
  carries_record (by decide)
    ⟨keeps_required (carries_text _), keeps_required (carries_text _),
      keeps_withDefault (carries_texts _), keeps_withDefault (carries_word32 _),
      keeps_withDefault (carries_jobPriority _), keeps_withDefault (carries_word64Option _),
      trivial⟩ rfl

/-- The status of a job is carried, if its dates and its progress are. -/
lemma carries_jobStatus {s : JobStatus} (start : s.startTime.Proper)
    (finish : ∀ i ∈ s.finishTime, i.Proper)
    (maps : (real single).Carries s.mapProgress)
    (reduces : (real single).Carries s.reduceProgress) : jobStatus.Carries s :=
  carries_record (by decide)
    ⟨keeps_required (carries_text _), keeps_required (carries_jobState _), keeps_required maps,
      keeps_required reduces, keeps_required (carries_instant start),
      keeps_optional (carries_instantOption finish),
      keeps_required (carries_jobPriority _), keeps_required (carries_text _),
      keeps_required (carries_word32 _), keeps_required (carries_word32 _), trivial⟩ rfl

/-- The profile of a job is carried, if its date is proper. -/
lemma carries_jobProfile {p : JobProfile} (submitted : p.submittedAt.Proper) :
    jobProfile.Carries p :=
  carries_record (by decide)
    ⟨keeps_required (carries_text _), keeps_required (carries_text _),
      keeps_required (carries_text _), keeps_required (carries_texts _),
      keeps_required (carries_word32 _), keeps_required (carries_instant submitted), trivial⟩ rfl

/-- The status of the cluster is carried. -/
lemma carries_clusterStatus (s : ClusterStatus) : clusterStatus.Carries s :=
  carries_record (by decide)
    ⟨keeps_required (carries_word32 _), keeps_required (carries_word32 _),
      keeps_required (carries_word32 _), keeps_required (carries_word32 _),
      keeps_required (carries_word32 _), keeps_required (carries_word32 _),
      keeps_required (carries_coordinatorState _), trivial⟩ rfl

/-- The report on a task is carried, if its dates and its progress are. -/
lemma carries_taskReport {r : TaskReport} (start : ∀ i ∈ r.startTime, i.Proper)
    (finish : ∀ i ∈ r.finishTime, i.Proper)
    (progress : (real single).Carries r.progress) : taskReport.Carries r :=
  carries_record (by decide)
    ⟨keeps_required (carries_text _), keeps_required (carries_taskState _),
      keeps_required progress, keeps_optional (carries_instantOption start),
      keeps_optional (carries_instantOption finish),
      keeps_required (carries_texts _), keeps_required (carries_texts _),
      keeps_required (carries_counters _), trivial⟩ rfl

/-- An event is carried. -/
lemma carries_completionEvent (e : CompletionEvent) : completionEvent.Carries e :=
  carries_record (by decide)
    ⟨keeps_required (carries_word32 _), keeps_required (carries_text _),
      keeps_required (carries_word32 _), keeps_required (carries_bool _),
      keeps_required (carries_completionStatus _), keeps_required (carries_text _),
      keeps_required (carries_word64 _), trivial⟩ rfl

/-- A split is carried. -/
lemma carries_inputSplit (s : InputSplit) : inputSplit.Carries s :=
  carries_record (by decide)
    ⟨keeps_required (carries_text _), keeps_required (carries_word64 _),
      keeps_required (carries_word64 _), keeps_required (carries_texts _), trivial⟩ rfl

lemma refusesNull_inputSplit : inputSplit.RefusesNull := ⟨.mistyped, rfl⟩

/-- An assignment is carried, with a split or without. -/
lemma carries_taskAssignment (a : TaskAssignment) : taskAssignment.Carries a :=
  carries_record (by decide)
    ⟨keeps_required (carries_text _), keeps_required (carries_text _),
      keeps_required (carries_text _), keeps_required (carries_taskKind _),
      keeps_optional (carries_option refusesNull_inputSplit fun s _ => carries_inputSplit s),
      trivial⟩ rfl

lemma refusesNull_taskAssignment : taskAssignment.RefusesNull := ⟨.mistyped, rfl⟩

/-- The answer to a request for a task is carried, also if there is none. -/
lemma carries_assignmentAnswer (o : Option TaskAssignment) : assignmentAnswer.Carries o :=
  carries_record (List.nodup_singleton _)
    ⟨keeps_optional (carries_option refusesNull_taskAssignment fun a _ => carries_taskAssignment a),
      trivial⟩ rfl

/-- A report on an attempt is carried. -/
lemma carries_taskCompletion (c : TaskCompletion) : taskCompletion.Carries c :=
  carries_record (by decide)
    ⟨keeps_required (carries_text _), keeps_required (carries_bool _),
      keeps_withDefault (carries_counters _), keeps_withDefault (carries_texts _), trivial⟩ rfl

/-- A registration is carried. -/
lemma carries_registration (r : Registration) : registration.Carries r :=
  carries_record (by decide)
    ⟨keeps_required (carries_text _), keeps_required (carries_word32 _),
      keeps_required (carries_word32 _), trivial⟩ rfl

/-- A heartbeat is carried, if its load is. -/
lemma carries_heartbeat {h : Heartbeat} (cpu : (real single).Carries h.cpuPercent) :
    heartbeat.Carries h :=
  carries_record (by decide)
    ⟨keeps_required (carries_text _), keeps_required cpu, keeps_required (carries_word64 _),
      trivial⟩ rfl

lemma carries_heartbeatAnswer (h : HeartbeatAnswer) : heartbeatAnswer.Carries h :=
  carries_record (by decide)
    ⟨keeps_required (carries_bool _), keeps_required (carries_texts _), trivial⟩ rfl

lemma refusesNull_real (f : Format) : (real f).RefusesNull := ⟨.mistyped, rfl⟩

/-- The metrics of a tracker are carried, if its time and its load are. -/
lemma carries_trackerMetrics {m : TrackerMetrics}
    (time : ∀ x ∈ m.avgTaskMs, (real double).Carries x)
    (cpu : ∀ x ∈ m.cpuPercent, (real single).Carries x) : trackerMetrics.Carries m :=
  carries_record (by decide)
    ⟨keeps_required (carries_text _), keeps_required (carries_text _),
      keeps_required (carries_bool _), keeps_required (carries_word32 _),
      keeps_required (carries_word32 _), keeps_required (carries_word64 _),
      keeps_required (carries_word32 _), keeps_required (carries_word64 _),
      keeps_required (carries_word64 _), keeps_required (carries_word64 _),
      keeps_optional (carries_option (refusesNull_real _) time),
      keeps_optional (carries_option (refusesNull_real _) cpu),
      keeps_optional (carries_word64Option _), trivial⟩ rfl

lemma carries_protocolInfo (i : ProtocolInfo) : protocolInfo.Carries i :=
  carries_record (by decide)
    ⟨keeps_required (carries_text _), keeps_required (carries_word64 _), trivial⟩ rfl

lemma carries_eventsQuery (q : EventsQuery) : eventsQuery.Carries q :=
  carries_record (by decide)
    ⟨keeps_withDefault (carries_word32 _), keeps_withDefault (carries_word32 _), trivial⟩ rfl

lemma carries_submitRequest (r : SubmitRequest) : submitRequest.Carries r :=
  carries_record (by decide)
    ⟨keeps_required (carries_text _), keeps_required (carries_jobDescriptor _), trivial⟩ rfl

/-- The body of a failure is carried. -/
lemma carries_errorBody (b : ErrorBody) : errorBody.Carries b :=
  carries_record (by decide)
    ⟨keeps_required (carries_text _), keeps_required (carries_text _),
      keeps_onlyIfSome (carries_word64Option _), keeps_onlyIfSome (carries_word64Option _),
      trivial⟩ rfl

/-- A message with one required member. -/
lemma carries_only {α : Type} {name : String} {c : Codec α} {a : α} (carries : c.Carries a) :
    (only name c .required).Carries a :=
  carries_record (List.nodup_singleton _) ⟨keeps_required carries, trivial⟩ rfl

end JobCluster.Wire.Codec
