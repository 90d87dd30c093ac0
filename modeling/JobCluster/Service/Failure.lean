import JobCluster.Http.Message
import JobCluster.Wire.Message

/-!
# How failures are answered

A request fails because nothing has the name asked for, or by an error of the protocol.
`Failure.status` and `Failure.body` say what a client is told.
-/

namespace JobCluster.Service

open JobCluster.Protocol JobCluster.Http JobCluster.Wire

/-- Why a request is answered with an error. -/
inductive Failure where
  | notFound (what : String)
  | protocol (error : ProtocolError)
deriving DecidableEq, Repr

namespace Failure

/-- The status of the answer. -/
def status : Failure → Nat
  | .notFound _ => 404
  | .protocol (.invalidJob _) => 400
  | .protocol (.overCapacity _) => 503
  | .protocol (.versionMismatch ..) => 409
  | .protocol (.transport _) | .protocol (.remote ..) => 500

/-- The kind of the error, as the body has it. -/
def kind : Failure → String
  | .notFound _ => "not_found"
  | .protocol (.invalidJob _) => "invalid_job"
  | .protocol (.overCapacity _) => "over_capacity"
  | .protocol (.versionMismatch ..) => "version_mismatch"
  | .protocol (.transport _) | .protocol (.remote ..) => "internal"

/-- The text of the error. -/
def message : Failure → String
  | .notFound what => what
  | .protocol e => e.message

/-- The body of the answer. -/
def body (f : Failure) : ErrorBody where
  error := f.kind
  message := f.message
  limit := match f with
    | .protocol (.overCapacity limit) => some limit
    | _ => none
  clientVersion := match f with
    | .protocol (.versionMismatch client _) => some client
    | _ => none

/-- The whole answer, without a version. -/
def response (f : Failure) : Response := ⟨f.status, none, .json (Codec.errorBody.write f.body)⟩

end Failure

end JobCluster.Service
