import ClusterKeeper.Cartridge.Admin
import ClusterKeeper.Console.Chunk
import ClusterKeeper.Console.Transcript
import ClusterKeeper.Http.Exchange
import ClusterKeeper.Http.Store

/-!
The channel to the instances through the API server: a process is started in the instance's container,
the chunk of the call is written to its input, and its output is the transcript that is decoded.
-/

namespace ClusterKeeper

/-- How the consoles of instances are reached. -/
structure ConsoleAccess where
  /-- The container of the instance, which may be left to the pod. -/
  container : Option String
  /-- How long a call may take. -/
  limit : Duration

namespace ConsoleAccess

/-- How long a call may take by default. -/
def defaultLimit : Duration := .seconds 2

/-- The query of a request to start a process. -/
def query (access : ConsoleAccess) (command : ConsoleCommand) : List (String × String) :=
  [("stdin", "true"), ("stdout", "true")] ++
    (access.container.toList.map fun c => ("container", c)) ++
    command.argv.map fun word => ("command", word)

/-- What a call returns, from what came back. -/
def outcome (access : ConsoleAccess) : Option Http.Reply → Except AdminError Json
  | some (.session transcript) => Transcript.decode transcript
  | some .silence => .error (.timeout access.limit)
  | some (.answer ..) | none => .error (.transport none)

/-- Runs a script on an instance. -/
def exec (access : ConsoleAccess) (e : Exec) : Program ApiServer (Except AdminError Json) :=
  if e.pod.name = "" then return .error (.transport none)
  else do
    let path := Kind.pod.path e.pod.metadata.nsText e.pod.name ++ "/exec"
    let query := access.query (ConsoleCommand.ofCall e.script e.args)
    return access.outcome (← Http.send .get (Http.Target.text path query) none)

end ConsoleAccess

end ClusterKeeper
