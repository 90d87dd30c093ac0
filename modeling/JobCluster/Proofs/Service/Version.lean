import JobCluster.Proofs.Client.Exchange
import JobCluster.Proofs.Coordinator.Moves
import JobCluster.Proofs.Text.Decimal

/-!
# The version gate

A request for a versioned target is looked at only if its header announces the version spoken here:
a seven, with zeros, a plus sign and blanks in front at most. Any other request is turned down and
nothing happens. The answer says which version was announced, unless the request asks for no body.

The announcement of the service stands on every answer to a versioned target and to a path without a
target, and on the handshake. All of this is `version_gate`.
-/

namespace JobCluster

open JobCluster.Coordinator JobCluster.Http JobCluster.Protocol JobCluster.Text JobCluster.Time
  JobCluster.Wire

namespace Protocol

/-- A header can be read and writes a number, with blanks around it. -/
def Writes (header : Option String) (n : Nat) : Prop :=
  ∃ text, header = some text ∧ (readableHeader text).isSome ∧ WrittenAs n (trim text.toList)

/-- The number that a header announces: the one that it writes, or 0 if it writes none of 64 bits.
-/
def Announces (header : Option String) (n : UInt64) : Prop :=
  Writes header n.toNat ∨ n = 0 ∧ ∀ m < 2 ^ 64, ¬ Writes header m

/-- A header announces the version spoken here: the trimmed text is a seven with zeros and maybe a
plus sign in front. -/
def AnnouncesOurs (header : Option String) : Prop :=
  ∃ text sign zeros, header = some text ∧ (readableHeader text).isSome ∧
    (sign = [] ∨ sign = ['+']) ∧ trim text.toList = sign ++ List.replicate zeros '0' ++ ['7']

/-- A readable header is read as it stands. -/
lemma readableHeader_eq {text : String} (readable : (readableHeader text).isSome) :
    readableHeader text = some text := by
  rw [readableHeader] at readable ⊢
  split at readable
  · next visible => rw [if_pos visible]
  · cases readable

/-- What is read of a header. -/
lemma read_iff_writes {header : Option String} {n : Nat} :
    ((header.bind readableHeader).bind fun s => readNatural maxWord64 (trim s.toList)) = some n ↔
      Writes header n ∧ n < 2 ^ 64 := by
  constructor
  · intro e
    obtain ⟨text, found, read⟩ := Option.bind_eq_some_iff.1 e
    obtain ⟨text', rfl, readable⟩ := Option.bind_eq_some_iff.1 found
    have some := Option.isSome_of_eq_some readable
    cases (readableHeader_eq some).symm.trans readable
    obtain ⟨written, le⟩ := readNatural_eq_some.1 read
    exact ⟨⟨text, rfl, some, written⟩, Nat.lt_of_le_pred (by decide) le⟩
  · rintro ⟨⟨text, rfl, readable, written⟩, lt⟩
    rw [Option.bind_some, readableHeader_eq readable, Option.bind_some]
    exact readNatural_eq_some.2 ⟨written, Nat.le_pred_of_lt lt⟩

/-- The version that is announced is a number in the header, or zero. -/
lemma announcedVersion_eq (header : Option String) : announcedVersion (header.bind readableHeader) =
    (((header.bind readableHeader).bind fun s =>
      readNatural maxWord64 (trim s.toList)).map UInt64.ofNat).getD 0 := by
  rw [announcedVersion, Option.map_bind]
  rfl

/-- The service takes the announced number from a header. -/
lemma announces_announcedVersion (header : Option String) :
    Announces header (announcedVersion (header.bind readableHeader)) := by
  rw [announcedVersion_eq]
  cases read : (header.bind readableHeader).bind fun s => readNatural maxWord64 (trim s.toList) with
  | none =>
    refine .inr ⟨rfl, fun m lt writes => ?_⟩
    cases read.symm.trans (read_iff_writes.2 ⟨writes, lt⟩)
  | some n =>
    obtain ⟨writes, lt⟩ := read_iff_writes.1 read
    refine .inl ?_
    rw [Option.map_some, Option.getD_some, UInt64.toNat_ofNat_of_lt' lt]
    exact writes

/-- A header that writes the number of the protocol announces it. -/
lemma writes_seven_iff {header : Option String} : Writes header 7 ↔ AnnouncesOurs header := by
  constructor
  · rintro ⟨text, rfl, readable, sign, ds, signs, e, ne, digits, seven⟩
    obtain ⟨zeros, rfl⟩ := (ofDigitChars_eq_digit ne digits (c := '7') rfl).1 seven
    exact ⟨text, sign, zeros, rfl, readable, signs, e.trans (List.append_assoc ..).symm⟩
  · rintro ⟨text, sign, zeros, rfl, readable, signs, e⟩
    have digits : ∀ d ∈ List.replicate zeros '0' ++ ['7'], d.isDigit := by
      intro d mem
      rcases List.mem_append.1 mem with zero | seven
      · rw [List.eq_of_mem_replicate zero]
        rfl
      · rw [List.mem_singleton.1 seven]
        rfl
    have ne : List.replicate zeros '0' ++ ['7'] ≠ [] := by simp
    exact ⟨text, rfl, readable, sign, _, signs, e.trans (List.append_assoc ..), ne, digits,
      (ofDigitChars_eq_digit ne digits (c := '7') rfl).2 ⟨zeros, rfl⟩⟩

/-- The version is that of the protocol if the header announces it. -/
lemma announcedVersion_eq_iff {header : Option String} :
    announcedVersion (header.bind readableHeader) = protocolVersion ↔ AnnouncesOurs header := by
  rw [announcedVersion_eq, protocolVersion, ← writes_seven_iff]
  constructor
  · intro e
    cases read : (header.bind readableHeader).bind fun s =>
        readNatural maxWord64 (trim s.toList) with
    | none =>
      rw [read] at e
      cases e
    | some n =>
      obtain ⟨writes, lt⟩ := read_iff_writes.1 read
      rw [read, Option.map_some, Option.getD_some] at e
      have seven : n = 7 := by
        rw [← UInt64.toNat_ofNat_of_lt' lt, e]
        rfl
      exact seven ▸ writes
  · intro writes
    rw [read_iff_writes.2 ⟨writes, by decide⟩]
    rfl

/-- A header passes exactly when it announces the version spoken here. -/
lemma ensureVersion_eq_ok_iff {header : Option String} :
    ensureVersion (header.bind readableHeader) = .ok () ↔ AnnouncesOurs header := by
  rw [← announcedVersion_eq_iff, ensureVersion]
  split_ifs with e
  · exact ⟨fun _ => e, fun _ => rfl⟩
  · exact ⟨fun ok => (by cases ok), fun ours => absurd ours e⟩

end Protocol

namespace Service

variable {s : Service} {r : Request} {clock : Readings}

/-! ## Requests that are carried out -/

/-- A request is carried out if it can be told how: there is a reply then. No reply has the status
of the gate. -/
def Passes (told : Prop) (ran : Option (Reply × Service)) : Prop :=
  (told → ran.isSome) ∧ ∀ x ∈ ran, x.1.response.status ≠ 409

/-- An answer without a conflict passes the gate. -/
lemma Passes.intro {told : Prop} {x : Reply × Service} (status : x.1.response.status ≠ 409) :
    Passes told (some x) :=
  ⟨fun _ => rfl, fun _ e => Option.some.inj e ▸ status⟩

/-- A rejected request is no conflict of versions. -/
lemma status_rejected (e : Rejection) : (Reply.rejected e).response.status ≠ 409 := by
  cases e <;> decide

/-- Reading a body raises no conflict of versions. -/
lemma passes_withBody {told : Prop} {α : Type} {c : Codec α} {run : α → Reply × Service}
    (all : ∀ a, (run a).1.response.status ≠ 409) : Passes told (s.withBody c r run) := by
  rw [withBody]
  cases readBody c r with
  | ok a => exact .intro (all a)
  | error e => exact .intro (status_rejected e)

/-- A value that is found or not is no conflict of versions. -/
lemma status_found {α : Type} (c : Codec α) (what : String) (a : Option α) :
    (found c what a).response.status ≠ 409 := by
  cases a with
  | none => exact (by decide : (404 : Nat) ≠ 409)
  | some a => exact (by decide : (200 : Nat) ≠ 409)

/-- The answer to a submission is no conflict of versions. -/
lemma status_submitJob (m : SubmitRequest) : (s.submitJob m clock).1.response.status ≠ 409 := by
  rw [submitJob]
  cases submitted : s.coordinator.submit m.jobId m.descriptor s.splitSize s.maxJobs clock.first with
  | mk result c =>
    cases result with
    | ok submission => exact (by decide : (200 : Nat) ≠ 409)
    | error e =>
      rcases submit_error (congrArg Prod.fst submitted) with ⟨reason, rfl⟩ | rfl
      · exact (by decide : (400 : Nat) ≠ 409)
      · exact (by decide : (503 : Nat) ≠ 409)

/-- A request is carried out, unless it asks for figures that cannot be told. -/
lemma passes_perform (s : Service) (r : Request) (clock : Readings) (newTracker : TrackerId)
    (t : Target) :
    Passes (t = .cluster → s.coordinator.clusterStatus.isSome)
      (s.perform t r clock newTracker) := by
  have value (v : Json.Value) : (Reply.value v).response.status ≠ 409 :=
    (by decide : (200 : Nat) ≠ 409)
  cases t with
  | health => exact .intro (by decide : (200 : Nat) ≠ 409)
  | kill => exact .intro (by decide : (204 : Nat) ≠ 409)
  | protocol | jobIds | reports | diagnostics | incompleteJobs | allJobs | fileSystem | trackers =>
    exact .intro (value _)
  | job | profile | counters => exact .intro (status_found _ _ _)
  | jobs => exact passes_withBody fun m => status_submitJob m
  | killAttempt | register | nextTask => exact passes_withBody fun _ => value _
  | events id =>
    rw [perform]
    cases eventsPage r with
    | none => exact .intro (status_rejected _)
    | some q => exact .intro (value _)
  | cluster =>
    rw [perform]
    cases s.coordinator.clusterStatus with
    | none => exact ⟨fun told => absurd (told rfl) Bool.false_ne_true, fun _ mem => by cases mem⟩
    | some status => exact .intro (value _)
  | heartbeat =>
    refine passes_withBody fun h => ?_
    split
    · exact value _
    · exact (by decide : (404 : Nat) ≠ 409)
  | completeTask =>
    refine passes_withBody fun m => ?_
    split
    · exact value _
    · exact (by decide : (404 : Nat) ≠ 409)

/-- Decoding names brings up no request for the cluster. -/
lemma decode_eq_cluster {t : Target} (e : t.decode = some .cluster) : t = .cluster := by
  cases t <;> simp [Target.decode, Option.bind_eq_some_iff] at e ⊢

/-- Every answer passes the gate; only that for the cluster can fail to come. -/
lemma passes_reply (s : Service) (r : Request) (clock : Readings) (newTracker : TrackerId)
    (t : Target) :
    Passes (t = .cluster → s.coordinator.clusterStatus.isSome)
      (s.reply t r clock newTracker) := by
  rw [reply]
  split_ifs
  · exact .intro (status_rejected _)
  · split
    · next n names =>
      obtain ⟨carried, status⟩ := passes_perform s r clock newTracker n
      exact ⟨fun told => carried fun e => told (decode_eq_cluster (e ▸ names)), status⟩
    · exact .intro (status_rejected _)

/-! ## The gate -/

/-- What the gate tells a request that it turns down. A request to read without a body gets none. -/
def refusal (t : Target) (r : Request) (announced : UInt64) : Body :=
  if r.method = "HEAD" ∧ t.isPosted = false then .empty
  else .json (Codec.errorBody.write
    { error := "version_mismatch"
      message := (ProtocolError.versionMismatch announced protocolVersion).message
      limit := none
      clientVersion := some announced })

/-- An answer announces the version spoken here, and who receives it takes it so. -/
def Marked (response : Response) : Prop :=
  response.version = some versionText ∧
    ensureVersion ((Received.ofResponse response).version.bind readableHeader) = .ok ()

/-- Every answer announces the version. -/
lemma marked_announce (response : Response) : Marked (announce response) :=
  ⟨rfl, ensureVersion_versionText⟩

/-- What a refused request is answered. -/
lemma finish_refused (t : Target) (n : UInt64) :
    announce (finish t r (Failure.protocol (.versionMismatch n protocolVersion)).response) =
      ⟨409, some versionText, refusal t r n⟩ := by
  rw [finish, refusal, Target.accepts]
  by_cases head : r.method = "HEAD"
  · cases t.isPosted <;> simp [head] <;> rfl
  · simp [head]
    rfl

/-- Finishing an answer leaves its status. -/
lemma status_finish (t : Target) (response : Response) :
    (announce (finish t r response)).status = response.status := by
  rw [finish]
  split_ifs <;> rfl

/-- A versioned target is reached through the gate. -/
lemma answer_versioned (s : Service) (clock : Readings) (newTracker : TrackerId) {t : Target}
    (path : Target.ofPath r.path = some t) (versioned : t.isVersioned) :
    (¬ AnnouncesOurs r.version → ∃ n, Announces r.version n ∧
      s.answer r clock newTracker = some (⟨409, some versionText, refusal t r n⟩, s)) ∧
    (AnnouncesOurs r.version → s.answer r clock newTracker =
      (s.reply t r clock newTracker).map fun x => (announce (finish t r x.1.response), x.2)) := by
  rw [answer, path]
  simp only [versioned, Bool.not_true, Bool.false_eq_true, if_false]
  refine ⟨fun other => ?_, fun ours => ?_⟩
  · refine ⟨_, announces_announcedVersion r.version, ?_⟩
    cases gate : ensureVersion (r.version.bind readableHeader) with
    | ok => exact absurd (ensureVersion_eq_ok_iff.1 gate) other
    | error e => exact congrArg (fun response => some (response, s)) (finish_refused ..)
  · rw [ensureVersion_eq_ok_iff.2 ours]

/-- Requests for versioned targets are carried out exactly when they announce the version spoken
here; all others are told what they announced and change nothing. Every answer to a versioned
target, to a path without a target and to a handshake announces the version. -/
theorem version_gate (s : Service) (r : Request) (clock : Readings) (newTracker : TrackerId) :
    (∀ t, Target.ofPath r.path = some t → t.isVersioned →
      (¬ AnnouncesOurs r.version → ∃ n, Announces r.version n ∧
        s.answer r clock newTracker = some (⟨409, some versionText, refusal t r n⟩, s)) ∧
      (AnnouncesOurs r.version → s.answer r clock newTracker =
        (s.reply t r clock newTracker).map fun x => (announce (finish t r x.1.response), x.2)) ∧
      (∀ response s', s.answer r clock newTracker = some (response, s') →
        Marked response ∧ (response.status ≠ 409 ↔ AnnouncesOurs r.version)) ∧
      (s.answer r clock newTracker = none → t = .cluster ∧ s.coordinator.clusterStatus = none)) ∧
    (Target.ofPath r.path = none → ∃ response, s.answer r clock newTracker = some (response, s) ∧
      response.status = 404 ∧ Marked response) ∧
    (Target.ofPath r.path = some .protocol → r.method = "GET" →
      ∃ response, s.answer r clock newTracker = some (response, s) ∧
        response.status = 200 ∧ Marked response) := by
  refine ⟨fun t path versioned => ?_, fun path => ?_, fun path get => ?_⟩
  · obtain ⟨refused, carried⟩ := answer_versioned s clock newTracker path versioned
    obtain ⟨told, status⟩ := passes_reply s r clock newTracker t
    refine ⟨refused, carried, fun response s' answered => ?_, fun silent => ?_⟩
    · by_cases ours : AnnouncesOurs r.version
      · rw [carried ours] at answered
        obtain ⟨x, ran, e⟩ := Option.map_eq_some_iff.1 answered
        cases e
        refine ⟨marked_announce _, fun _ => ours, fun _ => ?_⟩
        rw [status_finish]
        exact status x ran
      · obtain ⟨n, -, e⟩ := refused ours
        cases e.symm.trans answered
        exact ⟨⟨rfl, ensureVersion_versionText⟩, fun passed => absurd rfl passed,
          fun h => absurd h ours⟩
    · -- a request without an answer has passed the gate, and then only the figures can fail
      by_contra other
      have known : t = .cluster → s.coordinator.clusterStatus.isSome := fun e =>
        Option.isSome_iff_ne_none.2 fun none => other ⟨e, none⟩
      by_cases ours : AnnouncesOurs r.version
      · obtain ⟨x, ran⟩ := Option.isSome_iff_exists.1 (told known)
        rw [carried ours, ran] at silent
        cases silent
      · obtain ⟨n, -, e⟩ := refused ours
        cases e.symm.trans silent
  · refine ⟨_, by rw [answer, path], rfl, marked_announce _⟩
  · have answered : s.answer r clock newTracker = some (announce (Reply.value
        (Codec.protocolInfo.write ⟨protocolName, protocolVersion⟩)).response, s) := by
      rw [answer, path]
      simp [Target.isVersioned, reply, Target.accepts, Target.isPosted, get, Target.decode, perform,
        finish]
    exact ⟨_, answered, rfl, marked_announce _⟩

/-- A service that starts. -/
def atGate : Service where
  coordinator := .start "202601020304"
  files := .new .unloaded .root
  tree := ⟨[]⟩
  splitSize := 10
  maxJobs := 10

/-- A request for the figures of the cluster. -/
def figuresRequest (method version : String) : Request :=
  ⟨method, "/api/v1/cluster/status", some version, none, ""⟩

/-- A request with another version is refused; one with blanks, a sign and zeros passes. -/
theorem sample_version_gate :
    Target.ofPath (figuresRequest "GET" "6").path = some .cluster ∧
    ¬ AnnouncesOurs (figuresRequest "GET" "6").version ∧
    (∃ n, Announces (figuresRequest "GET" "6").version n ∧
      atGate.answer (figuresRequest "GET" "6") (.still ⟨0, 0⟩) "t1" =
        some (⟨409, some versionText, refusal .cluster (figuresRequest "GET" "6") n⟩, atGate)) ∧
    AnnouncesOurs (figuresRequest "GET" " +007 ").version ∧
    atGate.answer (figuresRequest "GET" " +007 ") (.still ⟨0, 0⟩) "t1" =
      (atGate.reply .cluster (figuresRequest "GET" " +007 ") (.still ⟨0, 0⟩) "t1").map fun x =>
        (announce (finish .cluster (figuresRequest "GET" " +007 ") x.1.response), x.2) := by
  have path : Target.ofPath (figuresRequest "GET" "6").path = some .cluster := by decide
  have other : ¬ AnnouncesOurs (figuresRequest "GET" "6").version := fun ours =>
    absurd (announcedVersion_eq_iff.2 ours) (by decide)
  have ours : AnnouncesOurs (figuresRequest "GET" " +007 ").version :=
    announcedVersion_eq_iff.1 (by decide)
  have refused := version_gate atGate (figuresRequest "GET" "6") (.still ⟨0, 0⟩) "t1"
  have carried := version_gate atGate (figuresRequest "GET" " +007 ") (.still ⟨0, 0⟩) "t1"
  exact ⟨path, other, (refused.1 _ path rfl).1 other, ours, (carried.1 _ path rfl).2.1 ours⟩

/-- A request for the header of an answer alone is turned down without a body: it is not told which
version it announced. -/
theorem head_refused_without_body :
    Target.ofPath (figuresRequest "HEAD" "6").path = some .cluster ∧
    ¬ AnnouncesOurs (figuresRequest "HEAD" "6").version ∧
    atGate.answer (figuresRequest "HEAD" "6") (.still ⟨0, 0⟩) "t1" =
      some (⟨409, some versionText, .empty⟩, atGate) ∧
    ¬ ∃ (response : Response) (s' : Service) (message : String),
      atGate.answer (figuresRequest "HEAD" "6") (.still ⟨0, 0⟩) "t1" = some (response, s') ∧
      response.body =
        .json (Codec.errorBody.write ⟨"version_mismatch", message, none, some 6⟩) := by
  have other : ¬ AnnouncesOurs (figuresRequest "HEAD" "6").version := fun ours =>
    absurd (announcedVersion_eq_iff.2 ours) (by decide)
  have path : Target.ofPath (figuresRequest "HEAD" "6").path = some .cluster := by decide
  obtain ⟨n, -, answered⟩ := (answer_versioned atGate (.still ⟨0, 0⟩) "t1" path rfl).1 other
  have bare : refusal .cluster (figuresRequest "HEAD" "6") n = .empty := if_pos ⟨rfl, rfl⟩
  rw [bare] at answered
  refine ⟨path, other, answered, ?_⟩
  rintro ⟨response, s', message, answered', body⟩
  cases answered.symm.trans answered'
  cases body

end Service

end JobCluster
