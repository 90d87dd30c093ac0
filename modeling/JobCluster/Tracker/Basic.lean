import JobCluster.Task.Basic

/-!
# Trackers

A tracker is the part of a cluster that runs attempts on one host, in a number of slots for each
kind of task. This module holds what trackers and the coordinator tell each other, and the summaries
of all trackers that the coordinator gives.
-/

namespace JobCluster

open JobCluster.Number

/-- The name of a tracker. -/
abbrev TrackerId := String

/-- What a tracker says when it joins. -/
structure Registration where
  hostname : String
  mapSlots : UInt32
  reduceSlots : UInt32
deriving DecidableEq, Repr

/-- What a tracker says from time to time. -/
structure Heartbeat where
  trackerId : TrackerId
  cpuPercent : Binary single
  memBytes : UInt64
deriving DecidableEq, Repr

/-- The answer to a heartbeat, with the attempts to abort. -/
structure HeartbeatAnswer where
  ok : Bool
  killAttempts : List AttemptId
deriving DecidableEq, Repr

/-- What the coordinator has counted of one tracker. -/
structure TrackerMetrics where
  trackerId : TrackerId
  hostname : String
  dead : Bool
  mapSlots : UInt32
  reduceSlots : UInt32
  lastHeartbeatSecsAgo : UInt64
  runningAttempts : UInt32
  tasksStarted : UInt64
  tasksSucceeded : UInt64
  tasksFailed : UInt64
  avgTaskMs : Option (Binary double)
  cpuPercent : Option (Binary single)
  memBytes : Option UInt64
deriving DecidableEq, Repr

/-- Whether the coordinator is in service yet. -/
inductive CoordinatorState where
  | initializing
  | running
deriving DecidableEq, Repr

/-- The cluster in figures: trackers, running attempts, and slots of the live trackers. -/
structure ClusterStatus where
  taskTrackers : UInt32
  deadTrackers : UInt32
  mapTasks : UInt32
  reduceTasks : UInt32
  maxMapTasks : UInt32
  maxReduceTasks : UInt32
  state : CoordinatorState
deriving DecidableEq, Repr

end JobCluster
