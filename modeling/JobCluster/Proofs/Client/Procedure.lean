import JobCluster.Service.Procedure
import JobCluster.Proofs.Client.Failure
import JobCluster.Proofs.Http.Address

/-!
# Calls as requests

A call over a link is one request (`Procedure.request`) whose answer is read as the operation has it
(`Procedure.shape`); this is `Client.call_eq`.
-/

namespace JobCluster

open JobCluster.Client JobCluster.Http JobCluster.Protocol JobCluster.Service JobCluster.Text
  JobCluster.Wire

variable {σ α β : Type}

namespace Client

/-! ## Answers -/

/-- Reads a message that may be missing. -/
def readMaybe (c : Codec α) : Option Received → Except ProtocolError (Option α)
  | some received => (readAnswer c received).map some
  | none => .ok none

/-- Reads a message that has to be there. -/
def readNeeded (c : Codec α) (x : Option Received) : Except ProtocolError α :=
  (readMaybe c x).bind fun
    | some a => .ok a
    | none => .error (.remote 404 "recurso inexistente")

/-- How an answer holds what an operation returns: as a message; as a message that is missing where
there is nothing of the name; as a message, with a value where it is missing; or not at all. -/
inductive Shape : Type → Type 1 where
  | message {α : Type} (c : Codec α) : Shape α
  | maybe {α : Type} (c : Codec α) (what : String) : Shape (Option α)
  | orElse {α : Type} (c : Codec α) (a : α) : Shape α
  | nothing : Shape Unit

/-- Reads what an operation returns. -/
def Shape.read : Shape α → Option Received → Except ProtocolError α
  | .message c => readNeeded c
  | .maybe c _ => readMaybe c
  | .orElse c a => fun x => (readMaybe c x).map (·.getD a)
  | .nothing => fun _ => .ok ()

end Client

/-! ## Requests -/

namespace Protocol.Procedure

/-- The segments of the path that an operation is called by, as they are before escaping. -/
def segments : Procedure α → List String
  | .newJobId => ["job-ids"]
  | .submitJob .. => ["jobs"]
  | .clusterStatus => ["cluster", "status"]
  | .killJob id => ["jobs", id, "kill"]
  | .killTask id _ => ["attempts", id, "kill"]
  | .jobProfile id => ["jobs", id, "profile"]
  | .jobStatus id => ["jobs", id]
  | .jobCounters id => ["jobs", id, "counters"]
  | .mapReports id => ["jobs", id, "tasks", "map"]
  | .reduceReports id => ["jobs", id, "tasks", "reduce"]
  | .fileSystemName => ["cluster", "filesystem"]
  | .incompleteJobs => ["cluster", "jobs", "incomplete"]
  | .allJobs => ["cluster", "jobs", "all"]
  | .completionEvents id .. => ["jobs", id, "events"]
  | .taskDiagnostics id task attempt =>
    ["jobs", id, "tasks", task, "attempts", attempt, "diagnostics"]

/-- The address that an operation is called by. -/
def address (base : Address) (p : Procedure α) : Address :=
  base.extend (["api", "v1"] ++ p.segments)

/-- The request that calls an operation. -/
def request (base : Address) : Procedure α → Request
  | p@(.newJobId) | p@(.killJob _) => plain "POST" (p.address base)
  | p@(.submitJob id d) => posting (p.address base) Codec.submitRequest ⟨id, d⟩
  | p@(.killTask _ shouldFail) => posting (p.address base) Codec.killRequest shouldFail
  | p@(.completionEvents _ start max) => plain "GET" (pageAddress (p.address base) start max)
  | p => plain "GET" (p.address base)

/-- The shape of the answer to an operation. -/
def shape : Procedure α → Shape α
  | .newJobId => .message Codec.jobIdAnswer
  | .submitJob .. => .message Codec.jobStatus
  | .clusterStatus => .message Codec.clusterStatus
  | .killJob _ => .nothing
  | .killTask .. => .orElse Codec.killAnswer false
  | .jobProfile id => .maybe Codec.jobProfile ("job " ++ id)
  | .jobStatus id => .maybe Codec.jobStatus ("job " ++ id)
  | .jobCounters id => .maybe Codec.counters ("job " ++ id)
  | .mapReports _ | .reduceReports _ => .orElse (Codec.list Codec.taskReport) []
  | .fileSystemName => .message Codec.fileSystemAnswer
  | .incompleteJobs | .allJobs => .orElse (Codec.list Codec.jobStatus) []
  | .completionEvents .. => .orElse (Codec.list Codec.completionEvent) []
  | .taskDiagnostics .. => .orElse (Codec.list Codec.text) []

end Protocol.Procedure

namespace Client

open Procedure

variable (c : Client σ)

/-- A request is sent and its answer is read. -/
def asked (r : Request) (f : Option Received → Except ProtocolError α) : Exchange σ α := fun s =>
  ((c.execute r s).1.bind f, (c.execute r s).2)

/-- What is done with the answer can be done while it is read. -/
lemma asked_bind (r : Request) (f : Option Received → Except ProtocolError α) (g : α → β) :
    (c.asked r f >>= fun a => pure (g a)) = c.asked r fun x => (f x).map g := by
  funext s
  rw [Exchange.bind_apply, asked, asked]
  rcases c.execute r s with ⟨e | x, s'⟩
  · rfl
  · change (match ((f x), s') with | (.ok a, s') => _ | (.error e, s') => _) = ((f x).map g, s')
    rcases f x with e | a <;> rfl

/-- A call that ignores its answer. -/
lemma execute_bind (r : Request) (b : β) :
    (c.execute r >>= fun _ => pure b) = c.asked r fun _ => .ok b := by
  funext s
  rw [Exchange.bind_apply, asked]
  rcases c.execute r s with ⟨e | x, s'⟩ <;> rfl

/-- A call that may find nothing, as one question. -/
lemma optional_asked (codec : Codec α) (r : Request) :
    c.optional codec r = c.asked r (readMaybe codec) := by
  funext s
  rw [optional_eq]
  rfl

/-- A call that needs an answer, as one question. -/
lemma required_asked (codec : Codec α) (r : Request) :
    c.required codec r = c.asked r (readNeeded codec) := by
  funext s
  rw [required, Exchange.bind_apply, optional_asked, asked, asked]
  rcases c.execute r s with ⟨e | x, s'⟩
  · rfl
  · change _ = ((readMaybe codec x).bind _, s')
    dsimp only [Except.bind]
    rcases readMaybe codec x with e | - | a <;> rfl

/-- A call for a list, as one question. -/
lemma listed_asked (codec : Codec α) (r : Request) :
    c.listed codec r = c.asked r (Shape.orElse (Codec.list codec) []).read := by
  rw [listed, optional_asked, asked_bind]
  rfl

/-- A call is one request, whose answer is read. -/
theorem call_eq {base : Address} (read : Address.read c.base = some base) (p : Procedure α)
    (s : σ) : c.call p s = c.asked (p.request base) p.shape.read s := by
  have address (segments : List String) :
      c.address segments = .ok (base.extend (["api", "v1"] ++ segments)) := by
    rw [Client.address, read]
  have located (segments : List String) (f : Address → Exchange σ α) :
      (c.locate segments >>= f) s = f (base.extend (["api", "v1"] ++ segments)) s := by
    rw [Exchange.bind_apply, locate, address]
  have got (segments : List String) (f : Request → Exchange σ α) : (c.getOf segments >>= f) s =
      f (plain "GET" (base.extend (["api", "v1"] ++ segments))) s := by
    rw [Exchange.bind_apply, getOf, Exchange.bind_apply, locate, address]
    rfl
  cases p with
  | newJobId | submitJob => exact (located _ _).trans (congrFun (required_asked ..) s)
  | clusterStatus | fileSystemName => exact (got _ _).trans (congrFun (required_asked ..) s)
  | jobProfile | jobStatus | jobCounters => exact (got _ _).trans (congrFun (optional_asked ..) s)
  | mapReports | reduceReports | incompleteJobs | allJobs | taskDiagnostics =>
    exact (got _ _).trans (congrFun (listed_asked ..) s)
  | completionEvents => exact (located _ _).trans (congrFun (listed_asked ..) s)
  | killJob => exact (located _ _).trans (congrFun (execute_bind ..) s)
  | killTask =>
    refine (located _ _).trans ?_
    rw [optional_asked, asked_bind]
    rfl

end Client

end JobCluster
