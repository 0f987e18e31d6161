import ClusterKeeper.CommandLine.Usage
import ClusterKeeper.Definition.Resources

/-!
The command line of the operator. It reads its settings and prints the definitions of the custom
resources when they are asked for. Watching a cluster takes a connection to an API server, which a program of this
library gets from whoever runs it (`Deployment.run`); the command line has none and says so.
-/

namespace ClusterKeeper.CommandLine

/-- The variables of the environment that settings come from. -/
def settingVariables : List String :=
  [Settings.nsVariable, Settings.containerVariable, Settings.execVariable, Settings.podVariable,
    LogSettings.formatVariable] ++ LogSettings.filterVariables

/-- The environment, as far as settings come from it. -/
def readEnvironment : IO (List (String × String)) :=
  settingVariables.filterMapM fun name => do return (← IO.getEnv name).map fun value => (name, value)

end ClusterKeeper.CommandLine

open ClusterKeeper ClusterKeeper.CommandLine

/-- Runs the command line; the result is the exit code. -/
def main (words : List String) : IO UInt32 := do
  let env ← readEnvironment
  match Settings.ofWords (fun name => env.lookup name) words with
  | .error e =>
    if e.isAnswer then
      IO.println e.message
      return 0
    else
      IO.eprintln (e.message ++ "\n\n" ++ usageLine ++ "\n\nFor more information, try '--help'.")
      return 2
  | .ok settings =>
    if settings.generateCrds then
      for manifest in ResourceDefinition.manifests do
        IO.println "---"
        IO.println manifest
      return 0
    else
      IO.eprintln "error: there is no connection to an API server"
      return 1
