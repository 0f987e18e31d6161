import ClusterKeeper.Duration
import ClusterKeeper.Pass.Surroundings

/-!
The steps of a pass. A pass brings one object in line, in a list of steps over a state that starts with
the object's name and gathers the object, its cluster and the leader. Every step says whether the next
one follows or how the pass ends.
-/

namespace ClusterKeeper

/-- The namespace and name of the object that a pass is over. -/
structure ObjectKey where
  ns : String
  name : String
  deriving DecidableEq

/-- The key of an object. -/
def ObjectKey.ofMeta (m : ObjectMeta) : ObjectKey := ⟨m.nsText, m.nameText⟩

/-- How long a pass waits after an error, and by default. -/
def retryDelay : Duration := .seconds 10

/-- How a step ends. -/
inductive Outcome where
  /-- The next step follows. -/
  | next
  /-- The pass ends; the object is as far as it can be for now. -/
  | complete
  /-- The pass ends and is to be made again after a while. -/
  | requeue (after : Duration)
  /-- The pass ends with an error. -/
  | fail (e : OperatorError)
  deriving DecidableEq

/-- The pass ends and is to be made again after the default delay. -/
def Outcome.wait : Outcome := .requeue retryDelay

/-- A step over states of a type. It may change the state however it ends. -/
structure Step (C : Type) where
  name : String
  run : C → Act (Outcome × C)

namespace Step

variable {C : Type}

/-- A step that may fail; if it does the state stays as it is. -/
def ofAttempt (name : String) (f : C → Attempt (Outcome × C)) : Step C where
  name
  run c := do
    match ← (f c).run with
    | .ok r => return r
    | .error e => return (.fail e, c)

/-- A step that leaves the state as it is. -/
def reading (name : String) (f : C → Attempt Outcome) : Step C :=
  ofAttempt name fun c => do return (← f c, c)

end Step

/-- Custom resources, over which passes are made. -/
class CustomResource (α : Type) extends KubeObject α where
  /-- How far a pass can get. -/
  Phase : Type
  phase : α → Phase
  setPhase : Phase → α → α
  /-- Clears what the status says of the last pass. -/
  resetStatus : α → α
  /-- The stored object of a namespace and name. -/
  fetch : String → String → Attempt (Option α)
  /-- Replaces the status, which gives the object as it is stored then. -/
  replaceStatus : α → Attempt α

instance : CustomResource Cluster where
  Phase := ClusterPhase
  phase := Cluster.phase
  setPhase := Cluster.setPhase
  resetStatus := Cluster.resetStatus
  fetch := Attempt.get .cluster
  replaceStatus := Attempt.replaceStatus .cluster

instance : CustomResource Role where
  Phase := RolePhase
  phase := Role.phase
  setPhase := Role.setPhase
  resetStatus := Role.resetStatus
  fetch := Attempt.get .role
  replaceStatus := Attempt.replaceStatus .role

instance : CustomResource CartridgeConfig where
  Phase := CartridgeConfigPhase
  phase := CartridgeConfig.phase
  setPhase := CartridgeConfig.setPhase
  resetStatus := CartridgeConfig.resetStatus
  fetch := Attempt.get .cartridgeConfig
  replaceStatus := Attempt.replaceStatus .cartridgeConfig

/-- States of passes over objects of a type. -/
class PassState (C : Type) (α : outParam Type) where
  /-- The key of the object. -/
  key : C → ObjectKey
  /-- The object, once it is loaded. -/
  object : C → Option α
  withObject : α → C → C
  /-- The cluster of the object, once it is known. -/
  cluster : C → Option Cluster
  withCluster : Cluster → C → C
  /-- The leader of the topology, once it is known. -/
  leader : C → Option Pod
  withLeader : Pod → C → C

/-- The state with its object changed, if it has one. -/
def PassState.changeObject {C α : Type} [PassState C α] (f : α → α) (c : C) : C :=
  match PassState.object c with
  | some o => PassState.withObject (f o) c
  | none => c

/-- The state of a pass over an object that belongs to a cluster. -/
structure MemberPass (α : Type) where
  key : ObjectKey
  object : Option α
  cluster : Option Cluster
  leader : Option Pod

namespace MemberPass

/-- The state at the start of a pass. -/
def start {α : Type} (key : ObjectKey) : MemberPass α := ⟨key, none, none, none⟩

instance {α : Type} : PassState (MemberPass α) α where
  key := key
  object := object
  withObject o c := { c with object := some o }
  cluster := cluster
  withCluster k c := { c with cluster := some k }
  leader := leader
  withLeader p c := { c with leader := some p }

end MemberPass

/-- The state of a pass over a cluster, which is its own cluster. -/
structure ClusterPass where
  key : ObjectKey
  cluster : Option Cluster
  leader : Option Pod

namespace ClusterPass

/-- The state at the start of a pass. -/
def start (key : ObjectKey) : ClusterPass := ⟨key, none, none⟩

instance : PassState ClusterPass Cluster where
  key := key
  object := cluster
  withObject k c := { c with cluster := some k }
  cluster := cluster
  withCluster k c := { c with cluster := some k }
  leader := leader
  withLeader p c := { c with leader := some p }

end ClusterPass

end ClusterKeeper
