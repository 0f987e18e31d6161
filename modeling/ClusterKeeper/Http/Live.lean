import ClusterKeeper.Http.Console
import ClusterKeeper.Http.Events
import ClusterKeeper.Http.Store
import ClusterKeeper.Pass.Surroundings

/-!
The surroundings of a pass in a live cluster: all of them are reached through the API server, but for the
log. So a pass becomes a program of exchanges with the server.
-/

namespace ClusterKeeper

/-- How the surroundings are reached. -/
structure Deployment where
  console : ConsoleAccess
  reporter : Reporter

namespace Deployment

/-- Answers a request of a pass. -/
def answer (d : Deployment) : (q : Request) → StateT Published (Program ApiServer) q.Answer
  | .store q => StateT.lift q.perform
  | .admin q => StateT.lift (q.perform.run d.console.exec)
  | .record about event => fun p => do return ((), ← p.record d.reporter about event)
  | .log .. => return ()

/-- Runs a part of a pass. -/
def run {α : Type} (d : Deployment) (act : Act α) : StateT Published (Program ApiServer) α :=
  Program.run (I := Surroundings) d.answer act

end Deployment

end ClusterKeeper
