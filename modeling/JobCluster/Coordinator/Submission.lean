import JobCluster.Coordinator.State
import JobCluster.Protocol.Version

/-!
# From names to running jobs

A client reserves a name, submits a job under it, and the job then gets its tasks or fails. Each
operation answers and gives the next state. A name that is not used in time is forgotten.
-/

namespace JobCluster.Coordinator

open JobCluster.Text JobCluster.Protocol JobCluster.Time

/-- What is needed to give a job its tasks. -/
structure InitRequest where
  jobId : JobId
  inputPaths : List String
  splitSize : UInt64
deriving DecidableEq, Repr

/-- The answer to a submission. There is nothing to prepare for a job that was submitted before. -/
structure Submission where
  status : JobStatus
  init : Option InitRequest
deriving DecidableEq, Repr

/-- The name of the job with a number. -/
def jobIdOf (stamp : String) (number : Nat) : JobId := "job_" ++ stamp ++ "_" ++ padded 4 number

/-- Reserves a new name. -/
def newJobId (c : Coordinator) (now : Instant) : JobId × Coordinator :=
  let id := jobIdOf c.stamp (c.issued + 1)
  (id, { c with issued := c.issued + 1, reserved := setEntry id now c.reserved })

/-- Whether a name is reserved. -/
def isReserved (c : Coordinator) (id : JobId) : Bool := c.reserved.any (·.1 == id)

/-- How many jobs have not ended. -/
def incompleteCount (c : Coordinator) : Nat := c.jobs.countP fun j => ! j.isTerminal

/-- What is wrong with a job that is to be submitted. -/
def descriptorFault? (d : JobDescriptor) : Option String :=
  if isBlankText d.name then some "el job no tiene nombre"
  else if isBlankText d.user then some "el job no tiene usuario"
  else if d.splitSize = some 0 then some "split_size debe ser > 0"
  else none

/-- Submits a job under a reserved name. A job that was submitted before is left as it is. -/
def submit (c : Coordinator) (id : JobId) (d : JobDescriptor) (defaultSplitSize maxJobs : UInt64)
    (now : Instant) : Except ProtocolError Submission × Coordinator :=
  match c.job? id with
  | some j => (.ok ⟨j.status, none⟩, c)
  | none =>
    if ! c.isReserved id then
      (.error (.invalidJob (id ++ " no fue reservado con get_new_job_id")), c)
    else match descriptorFault? d with
      | some reason => (.error (.invalidJob reason), c)
      | none =>
        if maxJobs.toNat ≤ c.incompleteCount then (.error (.overCapacity maxJobs), c)
        else
          let job := Job.new id d now
          (.ok ⟨job.status, some ⟨id, d.inputPaths, d.splitSize.getD defaultSplitSize⟩⟩,
            { c with
              reserved := c.reserved.filter (·.1 != id)
              jobs := c.jobs ++ [job] })

/-- Gives a job in preparation its tasks, and tells whether it was one. -/
def installTasks (c : Coordinator) (id : JobId) (splits : List InputSplit) : Bool × Coordinator :=
  match c.job? id with
  | some j => if j.state = .prep then (true, c.setJob (j.install splits)) else (false, c)
  | none => (false, c)

/-- Lets a job fail that has not ended, because it could not be given its tasks. -/
def failInit (c : Coordinator) (id : JobId) (now : Instant) : Coordinator :=
  match c.job? id with
  | some j => if j.isTerminal then c else c.setJob (j.finish .failed now)
  | none => c

/-- Whether a name reserved at one moment is still so at another. A clock that was set back keeps
it. -/
def isFresh (reservedAt now : Instant) (ttl : Duration) : Bool :=
  match now.since? reservedAt with
  | some age => age.nanos ≤ ttl.nanos
  | none => true

/-- Forgets the names that were reserved too long ago, and tells how many. -/
def expireReservations (c : Coordinator) (now : Instant) (ttl : Duration) : Nat × Coordinator :=
  let kept := c.reserved.filter fun r => isFresh r.2 now ttl
  (c.reserved.length - kept.length, { c with reserved := kept })

end JobCluster.Coordinator
