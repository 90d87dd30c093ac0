import JobCluster.Proofs.Json.Real
import JobCluster.Proofs.Wire.Message

/-!
# Messages survive writing and reading

`MessageType` has the types of all that is sent between the parts of a cluster, lists of them
included. A value of any of them is read back from the text that it is written as
(`messages_survive`), and so reading, writing and reading again gives what was read first, in
whatever form it was written.

Two parts of messages are not carried as they are always. Instants have to be proper, which those of
the years 0 to 9999 are. Of a binary number it is assumed that its own text reads back as it
(`Rereads`), which no infinity does, and what is shown is that the text around it does not matter.
-/

namespace JobCluster.Wire

open JobCluster.Number JobCluster.Protocol JobCluster.Time

/-- A binary number is read back from its own text. -/
def Rereads {f : Format} (x : Binary f) : Prop :=
  (Codec.real f).readText ((Codec.real f).writeText x) = .ok x

instance {f : Format} (x : Binary f) : Decidable (Rereads x) :=
  inferInstanceAs (Decidable (_ = _))

/-- A binary number that is read back from its own text is so from any text around it. -/
lemma Rereads.carries {f : Format} {x : Binary f} (rereads : Rereads x) :
    (Codec.real f).Carries x := by
  have write : (Codec.real f).write x = (Json.Numeral.ofBinary x).elim .null .number := rfl
  cases written : Json.Numeral.ofBinary x with
  | none =>
    rw [written] at write
    rw [Rereads, Codec.readText_writeText (write ▸ .null), write] at rereads
    cases rereads
  | some n =>
    rw [written] at write
    have proper : ((Codec.real f).write x).Proper :=
      write ▸ .number (Json.Numeral.proper_ofBinary written)
    exact ⟨proper, (Codec.readText_writeText proper).symm.trans rereads⟩

/-- The types of what is sent: names, parts of messages, messages, and lists of these. -/
inductive MessageType where
  | name | counters | list (m : MessageType)
  | jobState | jobPriority | coordinatorState | taskKind | taskState | completionStatus
  | jobDescriptor | jobStatus | jobProfile | clusterStatus
  | inputSplit | taskAssignment | taskReport | completionEvent | taskCompletion | completionAnswer
  | registration | trackerIdMessage | heartbeat | heartbeatAnswer | assignmentAnswer
  | trackerMetrics
  | protocolInfo | jobIdAnswer | submitRequest | killRequest | killAnswer | fileSystemAnswer
  | eventsQuery | errorBody

namespace MessageType

/-- The values of a type. -/
def Value : MessageType → Type
  | .name | .trackerIdMessage | .jobIdAnswer | .fileSystemAnswer => String
  | .completionAnswer | .killRequest | .killAnswer => Bool
  | .counters => Counters
  | .list m => List m.Value
  | .jobState => JobState
  | .jobPriority => JobPriority
  | .coordinatorState => CoordinatorState
  | .taskKind => TaskKind
  | .taskState => TaskState
  | .completionStatus => CompletionStatus
  | .jobDescriptor => JobDescriptor
  | .jobStatus => JobStatus
  | .jobProfile => JobProfile
  | .clusterStatus => ClusterStatus
  | .inputSplit => InputSplit
  | .taskAssignment => TaskAssignment
  | .taskReport => TaskReport
  | .completionEvent => CompletionEvent
  | .taskCompletion => TaskCompletion
  | .registration => Registration
  | .heartbeat => Heartbeat
  | .heartbeatAnswer => HeartbeatAnswer
  | .assignmentAnswer => Option TaskAssignment
  | .trackerMetrics => TrackerMetrics
  | .protocolInfo => ProtocolInfo
  | .submitRequest => SubmitRequest
  | .eventsQuery => EventsQuery
  | .errorBody => ErrorBody

/-- How the values of a type are written and read. -/
def codec : (m : MessageType) → Codec m.Value
  | .name => Codec.text
  | .counters => Codec.counters
  | .list m => Codec.list m.codec
  | .jobState => Codec.jobState
  | .jobPriority => Codec.jobPriority
  | .coordinatorState => Codec.coordinatorState
  | .taskKind => Codec.taskKind
  | .taskState => Codec.taskState
  | .completionStatus => Codec.completionStatus
  | .jobDescriptor => Codec.jobDescriptor
  | .jobStatus => Codec.jobStatus
  | .jobProfile => Codec.jobProfile
  | .clusterStatus => Codec.clusterStatus
  | .inputSplit => Codec.inputSplit
  | .taskAssignment => Codec.taskAssignment
  | .taskReport => Codec.taskReport
  | .completionEvent => Codec.completionEvent
  | .taskCompletion => Codec.taskCompletion
  | .completionAnswer => Codec.completionAnswer
  | .registration => Codec.registration
  | .trackerIdMessage => Codec.trackerIdMessage
  | .heartbeat => Codec.heartbeat
  | .heartbeatAnswer => Codec.heartbeatAnswer
  | .assignmentAnswer => Codec.assignmentAnswer
  | .trackerMetrics => Codec.trackerMetrics
  | .protocolInfo => Codec.protocolInfo
  | .jobIdAnswer => Codec.jobIdAnswer
  | .submitRequest => Codec.submitRequest
  | .killRequest => Codec.killRequest
  | .killAnswer => Codec.killAnswer
  | .fileSystemAnswer => Codec.fileSystemAnswer
  | .eventsQuery => Codec.eventsQuery
  | .errorBody => Codec.errorBody

/-- Whether the instants of a value are proper and its binary numbers are read back from their own
texts. Only a few types have such parts. -/
def Sound : (m : MessageType) → m.Value → Prop
  | .list m, (as : List m.Value) => ∀ a ∈ as, m.Sound a
  | .jobStatus, s => s.startTime.Proper ∧ (∀ i ∈ s.finishTime, i.Proper) ∧
    Rereads s.mapProgress ∧ Rereads s.reduceProgress
  | .jobProfile, p => p.submittedAt.Proper
  | .taskReport, r => (∀ i ∈ r.startTime, i.Proper) ∧ (∀ i ∈ r.finishTime, i.Proper) ∧
    Rereads r.progress
  | .heartbeat, h => Rereads h.cpuPercent
  | .trackerMetrics, t => (∀ x ∈ t.avgTaskMs, Rereads x) ∧ ∀ x ∈ t.cpuPercent, Rereads x
  | _, _ => True

open Codec

/-- A value is carried by the codec of its type. -/
lemma carries (m : MessageType) (a : m.Value) (sound : m.Sound a) : m.codec.Carries a := by
  -- most messages carry every value; the others need proper dates and numbers
  induction m with
  | name => exact carries_text a
  | counters => exact carries_counters a
  | list m ih => exact carries_list fun x mem => ih x (sound x mem)
  | jobState => exact carries_jobState a
  | jobPriority => exact carries_jobPriority a
  | coordinatorState => exact carries_coordinatorState a
  | taskKind => exact carries_taskKind a
  | taskState => exact carries_taskState a
  | completionStatus => exact carries_completionStatus a
  | jobDescriptor => exact carries_jobDescriptor a
  | jobStatus =>
    obtain ⟨start, finish, maps, reduces⟩ := sound
    exact carries_jobStatus start finish maps.carries reduces.carries
  | jobProfile => exact carries_jobProfile sound
  | clusterStatus => exact carries_clusterStatus a
  | inputSplit => exact carries_inputSplit a
  | taskAssignment => exact carries_taskAssignment a
  | taskReport =>
    obtain ⟨start, finish, progress⟩ := sound
    exact carries_taskReport start finish progress.carries
  | completionEvent => exact carries_completionEvent a
  | taskCompletion => exact carries_taskCompletion a
  | registration => exact carries_registration a
  | heartbeat => exact carries_heartbeat (Rereads.carries sound)
  | heartbeatAnswer => exact carries_heartbeatAnswer a
  | assignmentAnswer => exact carries_assignmentAnswer a
  | trackerMetrics =>
    obtain ⟨time, cpu⟩ := sound
    exact carries_trackerMetrics (fun x mem => (time x mem).carries)
      fun x mem => (cpu x mem).carries
  | protocolInfo => exact carries_protocolInfo a
  | submitRequest => exact carries_submitRequest a
  | eventsQuery => exact carries_eventsQuery a
  | errorBody => exact carries_errorBody a
  | trackerIdMessage | jobIdAnswer | fileSystemAnswer => exact carries_only (carries_text a)
  | completionAnswer | killRequest | killAnswer => exact carries_only (carries_bool a)

end MessageType

/-- Every value of every type is read back from the text that it is written as. Of any text that
reads as the value, reading, writing and reading again gives what reading gives. -/
theorem messages_survive (m : MessageType) {a : m.Value} (sound : m.Sound a) :
    m.codec.readText (m.codec.writeText a) = .ok a ∧
    m.codec.readFront (m.codec.writeText a) = .ok a ∧
    ∀ s, m.codec.readText s = .ok a →
      (m.codec.readText s >>= fun b => m.codec.readText (m.codec.writeText b)) =
        m.codec.readText s := by
  have carries := m.carries a sound
  refine ⟨carries.readText, carries.readFront, fun s read => ?_⟩
  rw [read]
  exact carries.readText

/-- The status of a job with quotes and a line break in its name, a third of whose maps are done, at
the end of the year 9999. -/
def thirdStatus : JobStatus where
  jobId := "job \"α\"\n"
  state := .running
  mapProgress := Binary.quotient single 1 3
  reduceProgress := Binary.ofNat single 0
  startTime := ⟨253402300799, 999999999⟩
  finishTime := none
  priority := .veryHigh
  user := "ana"
  failedTasks := 4294967295
  killedTasks := 0

/-- The status as a list of its members, with the control character escaped otherwise and the number
with more digits than needed. -/
def thirdText : String :=
  "[\"job \\\"α\\\"\\u000a\", \x7b\"RUNNING\": null\x7d, 0.333333340, 0, " ++
    "\"9999-12-31T23:59:59.999999999+00:00\", null, \"VERY_HIGH\", \"ana\", 4294967295, 0]"

/-- The status is read from the list, and then survives writing and reading. -/
theorem sample_messages_survive :
    Codec.jobStatus.readText thirdText = .ok thirdStatus ∧
    Codec.jobStatus.writeText thirdStatus ≠ thirdText ∧
    Codec.jobStatus.readText (Codec.jobStatus.writeText thirdStatus) = .ok thirdStatus :=
  ⟨by decide +kernel, by decide +kernel,
    (messages_survive .jobStatus (a := thirdStatus)
      ⟨by decide, nofun, by decide +kernel, by decide +kernel⟩).1⟩

end JobCluster.Wire
