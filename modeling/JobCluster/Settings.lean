import JobCluster.Text.Natural

/-!
# Settings

The parts of a cluster are set up by environment variables. Each variable has a default; a number
that cannot be read counts as missing.
-/

namespace JobCluster

open JobCluster.Text

/-- The variables of a process. -/
abbrev Environment := String → Option String

namespace Environment

/-- The environment with the given variables, the first of equal names. -/
def ofList (vars : List (String × String)) : Environment := fun name =>
  (vars.find? (·.1 == name)).map Prod.snd

/-- A text, or its default. -/
def text (env : Environment) (name default : String) : String := (env name).getD default

/-- A 64-bit word, or its default. -/
def word64 (env : Environment) (name : String) (default : UInt64) : UInt64 :=
  ((env name).bind readWord64).getD default

/-- A 32-bit word, or its default. -/
def word32 (env : Environment) (name : String) (default : UInt32) : UInt32 :=
  ((env name).bind readWord32).getD default

end Environment

/-- How the file system is set up. -/
structure FileSettings where
  mount : String
  workingDirectory : Option String
deriving DecidableEq, Repr

namespace FileSettings

/-- Without any variables. -/
def default : FileSettings := ⟨"/mnt/ceph", none⟩

/-- From variables. -/
def read (env : Environment) : FileSettings :=
  ⟨env.text "CEPH_MOUNT" default.mount, env "FS_WORKING_DIR"⟩

end FileSettings

/-- How the coordinator is set up. -/
structure CoordinatorSettings where
  listen : String
  connection : String
  files : FileSettings
  splitSize : UInt64
  maxJobs : UInt64
deriving DecidableEq, Repr

namespace CoordinatorSettings

/-- Without any variables. -/
def default : CoordinatorSettings :=
  ⟨"0.0.0.0:8080", "ceph:///", FileSettings.default, 64 * 1024 * 1024, 100⟩

/-- From variables. Splits are never of size 0. -/
def read (env : Environment) : CoordinatorSettings where
  listen := env.text "MASTER_LISTEN" default.listen
  connection := env.text "FS_URI" default.connection
  files := FileSettings.read env
  splitSize :=
    let size := env.word64 "SPLIT_SIZE" default.splitSize
    if size = 0 then default.splitSize else size
  maxJobs := env.word64 "MAX_JOBS" default.maxJobs

end CoordinatorSettings

/-- Where the coordinator is expected to be. -/
def defaultAddress : String := "http://localhost:8080"

/-- The address of the coordinator. -/
def coordinatorAddress (env : Environment) : String := env.text "MASTER_URL" defaultAddress

/-- How a tracker is set up. -/
structure TrackerSettings where
  address : String
  hostname : String
  mapSlots : UInt32
  reduceSlots : UInt32
deriving DecidableEq, Repr

namespace TrackerSettings

/-- From variables; the host's own name counts where none is given. -/
def read (env : Environment) (ownName : String) : TrackerSettings where
  address := coordinatorAddress env
  hostname := env.text "TRACKER_HOST" ownName
  mapSlots := env.word32 "TRACKER_MAP_SLOTS" 2
  reduceSlots := env.word32 "TRACKER_REDUCE_SLOTS" 1

end TrackerSettings

end JobCluster
