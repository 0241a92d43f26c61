/-
The program.

The command line is carried out against a cluster whose tables are read, as JSON, from the
standard input.  Log lines go to the error output: warnings and errors, or all of them if the
program is asked to be verbose.
-/
import Driftwatch.Client.Cluster
import Driftwatch.Command.Run
import Driftwatch.Report.Layout

namespace Driftwatch.Terminal

/-- The variables of the environment that change the settings. -/
def settingNames : List String :=
  ["KAUSALITY_DETECTION_ORDER", "KAUSALITY_ASYNC_UPDATE_DELAY", "KAUSALITY_REQUEST_TIMEOUT",
    "KAUSALITY_KUBE_CONTEXT"]

/-- The part of the environment that changes the settings. -/
def readEnvironment : IO Environment :=
  settingNames.filterMapM fun name => do
    return (← IO.getEnv name).map fun value => (name, value)

/-- The cluster whose tables stand on the standard input. -/
def readCluster : IO Client.Cluster := do
  let input ← (← IO.getStdin).readToEnd
  return Client.Cluster.ofJson ((Json.read? input).getD .null)

/-- The cluster that an action needs; only tasks about objects need one. -/
def clusterFor : Command.Action → IO Client.Cluster
  | .perform (.parent _) | .perform (.drift ..) => readCluster
  | _ => return Client.Cluster.ofJson .null

/-- A line goes to the output that it is for. -/
def printLine : Command.Line → IO Unit
  | .out text => IO.println text
  | .err text => IO.eprintln text
  | .report part => part.lines.forM fun line => IO.println line

/-- A log line goes to the error output. -/
def printLog (verbose : Bool) (entry : Log.Entry) : IO Unit :=
  if verbose || entry.level != .debug then
    IO.eprintln (entry.level.name ++ " " ++ entry.message)
  else return ()

/-- A short text on how the program is used. -/
def usage : String :=
  "driftwatch [-v] hash [--uid UID] [USERNAME]\n" ++
  "driftwatch [-v] parent [-o FORMAT] [-n NAMESPACE] [--context CONTEXT] API_VERSION KIND NAME\n" ++
  "driftwatch [-v] drift [-o FORMAT] [-n NAMESPACE] [--context CONTEXT]\n" ++
  "    [--field-manager NAME] [--user NAME] [--uid UID] API_VERSION KIND NAME"

/-- What is printed about a command line that is not carried out. -/
def printHint : Command.Action → IO Unit
  | .help => IO.println usage
  | .misuse m => IO.eprintln m.message
  | .perform _ => return ()

end Driftwatch.Terminal

open Driftwatch Driftwatch.Terminal in
/-- The command line is carried out; the answer is the exit code. -/
def main (args : List String) : IO UInt32 := do
  match Settings.ofEnvironment (← readEnvironment) with
  | .error e =>
    IO.eprintln e.message
    return 1
  | .ok settings =>
    let invocation := Command.Invocation.parse args
    let cluster ← clusterFor invocation.action
    let outcome := invocation.action.run cluster.api settings
    printHint invocation.action
    outcome.logs.forM (printLog invocation.verbose)
    outcome.printed.forM printLine
    match outcome.result with
    | .ok code => return UInt32.ofNat code
    | .error e =>
      IO.eprintln e.message
      return 1
