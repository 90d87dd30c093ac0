import JobCluster.Text.Blank
import JobCluster.Text.Natural

/-!
# The job submission protocol

Its name and version, how a version is announced in a header (`announcedVersion`), and the errors
that its operations end with (`ProtocolError`). A header that is missing or is no number announces
version 0.
-/

namespace JobCluster.Protocol

open JobCluster.Text

/-- The name of the protocol. -/
def protocolName : String := "JobSubmissionProtocol"

/-- The version spoken here. -/
def protocolVersion : UInt64 := 7

/-- The version as it is announced. -/
def versionText : String := decimal protocolVersion.toNat

/-- How an operation of the protocol fails. -/
inductive ProtocolError where
  | transport (detail : String)
  | versionMismatch (client server : UInt64)
  | invalidJob (reason : String)
  | overCapacity (limit : UInt64)
  | remote (status : Nat) (message : String)
deriving DecidableEq, Repr

/-- The text of an error. -/
def ProtocolError.message : ProtocolError → String
  | .transport detail => "transport error: " ++ detail
  | .versionMismatch client server =>
    "protocol version mismatch: client=" ++ decimal client.toNat ++ " server=" ++
      decimal server.toNat
  | .invalidJob reason => "invalid job: " ++ reason
  | .overCapacity limit =>
    "coordinator over capacity (" ++ decimal limit.toNat ++ " incomplete jobs)"
  | .remote status message => "coordinator answered " ++ decimal status ++ ": " ++ message

/-- The version that a header announces. -/
def announcedVersion (header : Option String) : UInt64 :=
  ((header.bind fun s =>
    (readNatural maxWord64 (trim s.toList)).map UInt64.ofNat)).getD 0

/-- Accepts an announcement of the version spoken here. -/
def ensureVersion (header : Option String) : Except ProtocolError Unit :=
  let announced := announcedVersion header
  if announced = protocolVersion then .ok ()
  else .error (.versionMismatch protocolVersion announced)

end JobCluster.Protocol
