import ClusterKeeper.Pass.ClusterPass
import ClusterKeeper.Pass.ConfigPass
import ClusterKeeper.Pass.Engine
import ClusterKeeper.Pass.RolePass

/-!
Controllers: a pass over an object that has changed, and what follows from it. After an error a pass is
made again.
-/

namespace ClusterKeeper.Controller

variable {C α : Type} [PassState C α] [CustomResource α]

/-- Makes a pass over an object. -/
def reconcile (steps : List (Step C)) (start : ObjectKey → C) (o : α) :
    Act (Except OperatorError Action) := do
  let (r, _) ← Pass.run steps (start (ObjectKey.ofMeta (KubeObject.metadata o)))
  return r.toExcept

/-- What follows from an error. -/
def onError (k : Kind) : Act Action := do
  Act.log .error (k.name ++ " reconciliation error")
  return .requeue retryDelay

/-- Makes a pass over an object of a kind, and tells what came of it and what follows. -/
def handle (steps : List (Step C)) (start : ObjectKey → C) (o : α) :
    Act (Except OperatorError Action × Action) := do
  match ← reconcile steps start o with
  | .ok action => return (.ok action, action)
  | .error e => return (.error e, ← onError (KubeObject.kind (α := α)))

end ClusterKeeper.Controller
