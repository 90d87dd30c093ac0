import JobCluster.Http.Address
import JobCluster.Http.Link
import JobCluster.Protocol.Version
import JobCluster.Wire.Message

/-!
# What a worker sends

A worker posts messages to the coordinator, each under the version of the protocol, and reads the
answers (`Connection.post`). An answer that does not announce the same version is not looked at.
-/

namespace JobCluster.Worker

open JobCluster.Http JobCluster.Protocol JobCluster.Wire

/-- Why a message has no answer: the address or the link is no good, the answer is of another
version, it is no success, or it cannot be read. -/
inductive PostError where
  | unsent (url : String)
  | version (url : String) (error : ProtocolError)
  | refused (url : String) (status : Nat) (body : String)
  | unreadable
deriving DecidableEq, Repr

/-- The text of an error. -/
def PostError.message : PostError → String
  | .unsent url => "POST " ++ url
  | .version url error => "POST " ++ url ++ ": " ++ error.message
  | .refused url status body =>
    "POST " ++ url ++ " devolvió " ++ statusText status ++ ": " ++ body
  | .unreadable => "error decoding response body"

/-- The coordinator at a base address. -/
structure Connection (σ : Type) where
  link : Link σ
  base : String

namespace Connection

variable {σ : Type}

/-- A connection to a base address, without the slashes at its end. -/
def new (link : Link σ) (base : String) : Connection σ := ⟨link, trimSlashes base⟩

/-- What an answer says. -/
def interpret {β : Type} (url : String) (answer : Codec β) (r : Received) : Except PostError β :=
  match ensureVersion (r.version.bind readableHeader) with
  | .error e => .error (.version url e)
  | .ok _ =>
    if ! isSuccess r.status then .error (.refused url r.status r.body)
    else match answer.readText r.body with
      | .ok b => .ok b
      | .error _ => .error .unreadable

/-- Posts a message to a path and reads the answer. -/
def post {α β : Type} (c : Connection σ) (path : String) (message : Codec α) (answer : Codec β)
    (a : α) (s : σ) : Except PostError β × σ :=
  let url := c.base ++ path
  match Address.read url with
  | none => (.error (.unsent url), s)
  | some address =>
    let request : Request :=
      ⟨"POST", address.target, some versionText, some "application/json", message.writeText a⟩
    match c.link.exchange request s with
    | (.ok received, s) => (interpret url answer received, s)
    | (.error _, s) => (.error (.unsent url), s)

/-- Registers and gets a name. -/
def register (c : Connection σ) : Registration → σ → Except PostError TrackerId × σ :=
  c.post "/api/v1/trackers/register" Codec.registration Codec.trackerIdMessage

/-- Asks for work. -/
def nextTask (c : Connection σ) :
    TrackerId → σ → Except PostError (Option TaskAssignment) × σ :=
  c.post "/api/v1/trackers/tasks/next" Codec.trackerIdMessage Codec.assignmentAnswer

/-- Reports the end of an attempt. -/
def complete (c : Connection σ) : TaskCompletion → σ → Except PostError Bool × σ :=
  c.post "/api/v1/trackers/tasks/complete" Codec.taskCompletion Codec.completionAnswer

/-- Sends a heartbeat. -/
def heartbeat (c : Connection σ) : Heartbeat → σ → Except PostError HeartbeatAnswer × σ :=
  c.post "/api/v1/trackers/heartbeat" Codec.heartbeat Codec.heartbeatAnswer

end Connection

end JobCluster.Worker
