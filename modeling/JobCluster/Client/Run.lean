import JobCluster.Client.Calls
import JobCluster.Client.Command
import JobCluster.Client.Report
import JobCluster.Settings

/-!
# Running commands

What a command does over a link and what it prints (`Command.run`). Every run starts with a
handshake. Most commands print once all their answers are there; waiting for a job (`waitFor`)
prints as it goes: it asks for the events after the last one seen, then for the state of the job,
until the job has ended and a page of events was empty.
-/

namespace JobCluster.Client

open JobCluster.Http JobCluster.Protocol

variable {σ : Type}

/-- How a run ends. A run that waits may use up its rounds, or see the last event number there is.
-/
inductive Ending where
  | done
  | failed (error : ProtocolError)
  | exhausted
  | waiting
deriving DecidableEq, Repr

/-- The lines that a run has printed, and how it ends. -/
structure Outcome where
  lines : List String
  ending : Ending
deriving DecidableEq, Repr

namespace Outcome

/-- An outcome with more lines in front. -/
def after (lines : List String) (o : Outcome) : Outcome := ⟨lines ++ o.lines, o.ending⟩

/-- The status that the program exits with. -/
def exitCode (o : Outcome) : Nat :=
  match o.ending with
  | .done => 0
  | .failed _ => 1
  | .exhausted | .waiting => 101

/-- What is printed. -/
def text (o : Outcome) : String := String.join (o.lines.map (· ++ "\n"))

/-- What is printed about an error. -/
def errorText (e : ProtocolError) : String := "Error: " ++ e.message ++ "\n"

end Outcome

/-- Prints the lines of an exchange if it succeeds. -/
def printing (x : Exchange σ (List String)) (s : σ) : Outcome × σ :=
  match x s with
  | (.ok lines, s) => (⟨lines, .done⟩, s)
  | (.error e, s) => (⟨[], .failed e⟩, s)

/-- How many events are asked for at once when waiting. -/
def waitPage : UInt32 := 100

/-- The largest event number there is. -/
def lastEventId : UInt32 := UInt32.ofNat Text.maxWord32

/-- Prints events in order, up to one with the largest number; otherwise gives the number after the
last. -/
def follow : UInt32 → List CompletionEvent → List String × Option UInt32
  | next, [] => ([], some next)
  | _, e :: rest =>
    if e.eventId = lastEventId then ([eventHead e], none)
    else
      let (lines, next) := follow (e.eventId + 1) rest
      (eventHead e :: lines, next)

/-- Waits for a job, for a number of rounds at most. -/
def waitFor (c : Client σ) (id : JobId) (interval : UInt64) : Nat → UInt32 → σ → Outcome × σ
  | 0, _, s => (⟨[], .waiting⟩, s)
  | rounds + 1, next, s =>
    match c.completionEvents id next waitPage s with
    | (.error e, s) => (⟨[], .failed e⟩, s)
    | (.ok events, s) =>
      match follow next events with
      | (lines, none) => (⟨lines, .exhausted⟩, s)
      | (lines, some next) =>
        match c.jobStatus id s with
        | (.error e, s) => (⟨lines, .failed e⟩, s)
        | (.ok none, s) => (⟨lines ++ [noJob id], .done⟩, s)
        | (.ok (some status), s) =>
          if events.isEmpty then
            if status.state.isTerminal then (⟨lines ++ jobStatusLines status, .done⟩, s)
            else waitFor c id interval rounds next (c.link.pause interval s)
          else
            let (o, s) := waitFor c id interval rounds next s
            (o.after lines, s)

/-- The user that a job is submitted for when none is given. -/
def defaultUser (env : Environment) : String := env.text "USER" "anonimo"

/-- The lines of an answer about a job that may not be there. -/
def aboutJob {α : Type} (id : JobId) (lines : α → List String) : Option α → List String
  | some a => lines a
  | none => [noJob id]

namespace Command

/-- Carries out a command after the handshake. -/
def perform (env : Environment) (c : Client σ) (rounds : Nat) : Command → σ → Outcome × σ
  | .submit name inputs reduces user splitSize priority => printing do
    let id ← c.newJobId
    let status ← c.submitJob id
      ⟨name, user.getD (defaultUser env), inputs, reduces, priority, splitSize⟩
    pure ("Job enviado:" :: jobStatusLines status)
  | .status id => printing (aboutJob id jobStatusLines <$> c.jobStatus id)
  | .profile id => printing (aboutJob id jobProfileLines <$> c.jobProfile id)
  | .counters id => printing (aboutJob id counterLines <$> c.jobCounters id)
  | .kill id => printing ((fun _ => [killLine id]) <$> c.killJob id)
  | .killTask id asFailure =>
    printing ((fun found => [killTaskLine id asFailure found]) <$> c.killTask id asFailure)
  | .list all => printing (jobListLines <$> if all then c.allJobs else c.incompleteJobs)
  | .cluster => printing (clusterLines <$> c.clusterStatus)
  | .events id start max => printing ((·.map eventLine) <$> c.completionEvents id start max)
  | .tasks id reduce =>
    printing ((·.flatMap taskLines) <$> if reduce then c.reduceReports id else c.mapReports id)
  | .diagnostics id task attempt =>
    printing (diagnosticLines <$> c.taskDiagnostics id task attempt)
  | .fileSystem => printing ((fun name => [name]) <$> c.fileSystemName)
  | .wait id interval => waitFor c id interval rounds 0
  | .trackers => printing (trackerLines <$> c.trackers)

/-- Runs a command over a link to the coordinator that the environment names. -/
def run (env : Environment) (link : Link σ) (rounds : Nat) (command : Command) (s : σ) :
    Outcome × σ :=
  let c := Client.new link (coordinatorAddress env)
  match c.handshake s with
  | (.ok _, s) => command.perform env c rounds s
  | (.error e, s) => (⟨[], .failed e⟩, s)

end Command

end JobCluster.Client
