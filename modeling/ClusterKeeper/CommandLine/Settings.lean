import ClusterKeeper.CommandLine.Given
import ClusterKeeper.Http.Live

/-!
The settings of the operator. What the command line does not give is taken from the environment, and what
that does not give either has a default. A value of the environment is looked at only when it is needed.
-/

namespace ClusterKeeper

open CommandLine

/-- The settings of the operator. -/
structure Settings where
  generateCrds : Bool
  /-- The namespace to watch; all of them when there is none. -/
  ns : Option String
  containerName : String
  execSeconds : Nat
  logFormat : Option LogFormat
  logLevel : Option String
  deriving DecidableEq

namespace Settings

/-- The variable with the namespace. -/
def nsVariable : String := "WATCH_NAMESPACE"

/-- The variable with the container's name. -/
def containerVariable : String := "TARANTOOL_CONTAINER_NAME"

/-- The variable with the seconds that an administration call may take. -/
def execVariable : String := "TARANTOOL_EXEC_TIMEOUT_SECS"

/-- The container's name when none is given. -/
def defaultContainer : String := "pod"

/-- The seconds that are given, else those of the environment, else the default. -/
def execSecondsOf (env : String → Option String) (given : Option Nat) : Except UsageError Nat :=
  match given, env execVariable with
  | some n, _ => .ok n
  | none, some s => readSeconds s
  | none, none => .ok ConsoleAccess.defaultLimit.wholeSeconds

/-- The settings that are given, in an environment. An empty namespace is none. -/
def ofGiven (env : String → Option String) (g : Given) : Except UsageError Settings := do
  return {
    generateCrds := g.generateCrds
    ns := (g.ns <|> env nsVariable).filter (· ≠ "")
    containerName := (g.containerName <|> env containerVariable).getD defaultContainer
    execSeconds := ← execSecondsOf env g.execSeconds
    logFormat := g.logFormat
    logLevel := g.logLevel }

/-- The settings that the words of a command line give, in an environment. -/
def ofWords (env : String → Option String) (words : List String) : Except UsageError Settings := do
  ofGiven env (← Given.ofWords words)

/-- The name by which the operator reports events. -/
def controllerName : String := "tarantool-operator"

/-- The variable with the name of the operator's own pod. -/
def podVariable : String := "POD_NAME"

/-- How a pass reaches its surroundings. -/
def deployment (s : Settings) (env : String → Option String) : Deployment where
  console := ⟨some s.containerName, .seconds s.execSeconds⟩
  reporter := ⟨controllerName, env podVariable⟩

/-- The settings of the log that override others. -/
def logSettings (s : Settings) (base : LogSettings) : LogSettings :=
  base.overridden s.logFormat s.logLevel

end Settings

end ClusterKeeper
