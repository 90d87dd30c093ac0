import JobCluster.Proofs.Client.Exchange
import JobCluster.Proofs.Wire.Message

/-!
# Errors over a link

What the service answers to an error is read back by a client (`execute_failure`): the kind of the
error and its numbers arrive as they were sent. The answer carries the message of the error, though,
and the client takes that message for the reason; so the reason why a job was refused arrives with
the words of the message in front of it, and its own message says them twice.
-/

namespace JobCluster

open JobCluster.Http JobCluster.Protocol JobCluster.Wire

namespace Protocol

/-- An error that the coordinator or its version gate ends an operation with. -/
inductive Raised : ProtocolError → Prop where
  | invalidJob (reason : String) : Raised (.invalidJob reason)
  | overCapacity (limit : UInt64) : Raised (.overCapacity limit)
  | versionMismatch (client : UInt64) : Raised (.versionMismatch client protocolVersion)

/-- The error that a caller is told over a link. -/
def ProtocolError.told : ProtocolError → ProtocolError
  | .invalidJob reason => .invalidJob (ProtocolError.invalidJob reason).message
  | e => e

end Protocol

namespace Client

variable {σ : Type} {c : Client σ} {r : Request} {s s' : σ} {e : ProtocolError}

/-- A link over which the same answer comes to every request. -/
def answering (x : Received) : Link Unit := ⟨fun _ s => (.ok x, s), fun _ s => s⟩

/-- The answer to an error, as it arrives. -/
def failureReceived (e : ProtocolError) : Received :=
  .ofResponse (Service.announce (Service.Failure.protocol e).response)

/-- The body of a failure reads back. -/
lemma errorBody_failureReceived (e : ProtocolError) :
    Codec.errorBody.readText (failureReceived e).body = .ok (Service.Failure.protocol e).body :=
  (Codec.carries_errorBody _).readText

/-- A failed request other than a missing object is an error. -/
lemma interpret_unsuccessful {x : Received} (own : x.version = some versionText)
    (unsuccessful : isSuccess x.status = false) (other : x.status ≠ 404) :
    interpret x = .error (errorOf x) := by
  rw [interpret, own, ensureVersion_versionText, unsuccessful]
  dsimp only [bind, Except.bind]
  rw [if_neg Bool.false_ne_true, if_neg other]

/-- A successful answer is taken as it is. -/
lemma interpret_success {x : Received} (own : x.version = some versionText)
    (success : isSuccess x.status = true) : interpret x = .ok (some x) := by
  rw [interpret, own, ensureVersion_versionText, success]
  rfl

/-- A missing object is no error. -/
lemma interpret_missing {x : Received} (own : x.version = some versionText)
    (missing : x.status = 404) : interpret x = .ok none := by
  rw [interpret, own, ensureVersion_versionText, missing]
  rfl

/-- A raised error arrives as the one that is told. -/
lemma interpret_failureReceived (raised : Raised e) :
    interpret (failureReceived e) = .error e.told := by
  have body := errorBody_failureReceived e
  cases raised with
  | invalidJob reason =>
    rw [interpret_unsuccessful rfl rfl (Nat.ne_of_beq_eq_false rfl), errorOf, body]
    rfl
  | overCapacity limit =>
    rw [interpret_unsuccessful rfl rfl (Nat.ne_of_beq_eq_false rfl), errorOf, body]
    rfl
  | versionMismatch client =>
    rw [interpret_unsuccessful rfl rfl (Nat.ne_of_beq_eq_false rfl), errorOf, body]
    change Except.error (ProtocolError.versionMismatch client
      (announcedVersion ((some versionText).bind readableHeader))) = _
    rw [announcedVersion_versionText]
    rfl

/-- Of the raised errors, all but an invalid job come back unchanged. -/
lemma told_eq_iff (raised : Raised e) : e.told = e ↔ ∀ reason, e ≠ .invalidJob reason := by
  cases raised with
  | invalidJob reason =>
    have longer : "invalid job: " ++ reason ≠ reason := fun same => by
      have lengths := congrArg String.length same
      rw [String.length_append] at lengths
      exact absurd lengths (Nat.ne_of_gt (Nat.lt_add_of_pos_left (by decide)))
    exact iff_of_false (fun same => longer (ProtocolError.invalidJob.inj same))
      fun other => other reason rfl
  | overCapacity limit => exact iff_of_true rfl fun _ other => by cases other
  | versionMismatch client => exact iff_of_true rfl fun _ other => by cases other

/-- What a client makes of the answer to an error: the error itself, unless a job was refused; then
the reason it reads is the whole message. -/
theorem execute_failure (raised : Raised e)
    (answered : c.link.exchange r s = (.ok (failureReceived e), s')) :
    c.execute r s = (.error e.told, s') ∧
      (c.execute r s = (.error e, s') ↔ ∀ reason, e ≠ .invalidJob reason) := by
  have read : c.execute r s = (.error e.told, s') := by
    rw [execute, answered]
    dsimp only
    rw [interpret_failureReceived raised]
  refine ⟨read, ?_⟩
  rw [read, ← told_eq_iff raised]
  exact ⟨fun same => Except.error.inj (Prod.mk.inj same).1, fun same => by rw [same]⟩

/-- The limit of a full coordinator arrives. -/
theorem sample_execute_failure :
    Raised (.overCapacity 100) ∧
      (answering (failureReceived (.overCapacity 100))).exchange ⟨"POST", "/", none, none, ""⟩ () =
        (.ok (failureReceived (.overCapacity 100)), ()) ∧
      Client.execute ⟨answering (failureReceived (.overCapacity 100)), "http://jobs"⟩
        ⟨"POST", "/", none, none, ""⟩ () = (.error (.overCapacity 100), ()) :=
  ⟨.overCapacity 100, rfl, (execute_failure (.overCapacity 100) rfl).1⟩

/-- A reason arrives with the words of the message in front of it. -/
theorem refusal_told_twice :
    Raised (.invalidJob "malo") ∧
      Client.execute ⟨answering (failureReceived (.invalidJob "malo")), "http://jobs"⟩
        ⟨"POST", "/", none, none, ""⟩ () = (.error (.invalidJob "invalid job: malo"), ()) ∧
      ProtocolError.invalidJob "invalid job: malo" ≠ .invalidJob "malo" := by
  refine ⟨.invalidJob "malo", ?_, by decide⟩
  change (interpret (failureReceived (.invalidJob "malo")), ()) = _
  rw [interpret_failureReceived (.invalidJob "malo")]
  rfl

end Client

end JobCluster
