import JobCluster.Http.Address
import JobCluster.Http.Link
import JobCluster.Protocol.Version
import JobCluster.Wire.Message

/-!
# Talking to a coordinator

Each request of a client announces the version of the protocol, and an answer that does not announce
the same is not looked at (`Client.execute`). Other answers than success become errors: what the
service answers to an error is read back as that error.
-/

namespace JobCluster.Client

open JobCluster.Http JobCluster.Protocol JobCluster.Text JobCluster.Wire

/-- What a client does over a link. -/
abbrev Exchange (σ : Type) := ExceptT ProtocolError (StateM σ)

end JobCluster.Client

namespace JobCluster

open JobCluster.Client JobCluster.Http JobCluster.Protocol JobCluster.Text JobCluster.Wire

/-- A client of the coordinator at a base address. -/
structure Client (σ : Type) where
  link : Link σ
  base : String

namespace Client

variable {σ : Type}

/-- A client for a base address, without the slashes at its end. -/
def new (link : Link σ) (base : String) : Client σ := ⟨link, trimSlashes base⟩

/-- The address of the protocol's target with the given segments. -/
def address (c : Client σ) (segments : List String) : Except ProtocolError Address :=
  match Address.read c.base with
  | some a => .ok (a.extend (["api", "v1"] ++ segments))
  | none => .error (.transport c.base)

/-- A request without a body. -/
def plain (method : String) (a : Address) : Request :=
  ⟨method, a.target, some versionText, none, ""⟩

/-- A request with a message as its body. -/
def posting {α : Type} (a : Address) (codec : Codec α) (message : α) : Request :=
  ⟨"POST", a.target, some versionText, some "application/json", codec.writeText message⟩

/-- The error that an answer stands for. -/
def errorOf (r : Received) : ProtocolError :=
  let body := (Codec.errorBody.readText r.body).toOption
  let message := (body.map ErrorBody.message).getD (statusText r.status)
  match r.status with
  | 400 => .invalidJob message
  | 503 => .overCapacity ((body.bind ErrorBody.limit).getD 0)
  | 409 => .versionMismatch ((body.bind ErrorBody.clientVersion).getD 0)
      (announcedVersion (r.version.bind readableHeader))
  | status => .remote status message

/-- What an answer says: a body, nothing of the name asked for, or an error. -/
def interpret (r : Received) : Except ProtocolError (Option Received) := do
  ensureVersion (r.version.bind readableHeader)
  if isSuccess r.status then .ok (some r)
  else if r.status = 404 then .ok none
  else .error (errorOf r)

/-- Sends a request and takes the answer. -/
def execute (c : Client σ) (r : Request) : Exchange σ (Option Received) := fun s =>
  match c.link.exchange r s with
  | (.ok received, s) => (interpret received, s)
  | (.error detail, s) => (.error (.transport detail), s)

/-- Reads the body of an answer. -/
def readAnswer {α : Type} (codec : Codec α) (r : Received) : Except ProtocolError α :=
  match codec.readText r.body with
  | .ok a => .ok a
  | .error _ => .error (.transport "error decoding response body")

/-- Sends a request for something that may not be there. -/
def optional {α : Type} (c : Client σ) (codec : Codec α) (r : Request) : Exchange σ (Option α) := do
  match ← c.execute r with
  | some received => some <$> liftExcept (readAnswer codec received)
  | none => pure none
where
  liftExcept {β : Type} (x : Except ProtocolError β) : Exchange σ β := fun s => (x, s)

/-- Sends a request for something that has to be there. -/
def required {α : Type} (c : Client σ) (codec : Codec α) (r : Request) : Exchange σ α := do
  match ← c.optional codec r with
  | some a => pure a
  | none => throw (.remote 404 "recurso inexistente")

/-- Sends a request for a list, which is empty if it is not there. -/
def listed {α : Type} (c : Client σ) (codec : Codec α) (r : Request) : Exchange σ (List α) := do
  pure ((← c.optional (Codec.list codec) r).getD [])

/-- The address of a target, as a step. -/
def locate (c : Client σ) (segments : List String) : Exchange σ Address := fun s =>
  (c.address segments, s)

end Client

end JobCluster
