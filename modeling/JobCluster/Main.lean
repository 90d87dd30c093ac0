import JobCluster.Client.Help
import JobCluster.Client.Run

/-!
# The command line

Runs the client on the arguments of the process. There is no network here: the link of the program
is the one over which nothing arrives, so that a command that is understood ends with a transport
error.
-/

namespace JobCluster.Client

/-- The variables that the client reads. -/
def readEnvironment : IO Environment := do
  let names := ["MASTER_URL", "USER"]
  let vars ← names.mapM fun name => do
    pure ((← IO.getEnv name).map fun value => (name, value))
  pure (Environment.ofList (vars.filterMap id))

/-- Runs the client and gives the status to exit with. -/
def runProgram (args : List String) : IO UInt32 := do
  match Command.read args with
  | .error (.help topic) =>
    (help topic).forM IO.println
    pure 0
  | .error .usage =>
    programHelp.forM IO.eprintln
    pure 2
  | .ok command =>
    let (outcome, _) := command.run (← readEnvironment) (Http.Link.unreachable Unit) 1 ()
    IO.print outcome.text
    match outcome.ending with
    | .failed e => IO.eprint (Outcome.errorText e)
    | _ => pure ()
    pure (UInt32.ofNat outcome.exitCode)

end JobCluster.Client

/-- Runs the client on the arguments of the process. -/
def main (args : List String) : IO UInt32 := JobCluster.Client.runProgram args
