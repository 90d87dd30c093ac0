import JobCluster.Job.Basic
import JobCluster.Tracker.Basic
import JobCluster.Protocol.Version

/-!
# Requests and answers

The messages of the protocol that are no state of a job, task or tracker: handshake, submission,
kills, pages of the completion log, and errors.
-/

namespace JobCluster.Protocol

/-- What the coordinator answers to a handshake. -/
structure ProtocolInfo where
  name : String
  version : UInt64
deriving DecidableEq, Repr

/-- A submission under a reserved name. -/
structure SubmitRequest where
  jobId : JobId
  descriptor : JobDescriptor
deriving DecidableEq, Repr

/-- Which part of a completion log is asked for. -/
structure EventsQuery where
  start : UInt32
  max : UInt32
deriving DecidableEq, Repr

/-- How many events a page has when the query does not say. -/
def defaultMaxEvents : UInt32 := 100

/-- What an answer other than success carries. The limit is there when the coordinator is full, the
version when another one was announced. -/
structure ErrorBody where
  error : String
  message : String
  limit : Option UInt64
  clientVersion : Option UInt64
deriving DecidableEq, Repr

end JobCluster.Protocol
