import ClusterKeeper.Election
import ClusterKeeper.Pass.Step

/-!
The steps that all passes share: finding the object, its cluster and the leader of the topology, and
recording how far the pass got.
-/

namespace ClusterKeeper.Pass

variable {C α : Type}

/-- Tells the log that a pass begins. -/
def info : Step C where
  name := "Info"
  run c := do
    Act.log .info "Reconciling"
    return (.next, c)

section

variable [PassState C α] [CustomResource α]

/-- Loads the object. One that is gone ends the pass. -/
def getRequestedObject : Step C :=
  .ofAttempt "GetRequestedObject" fun c => do
    let key := PassState.key c
    match ← (CustomResource.fetch key.ns key.name : Attempt (Option α)) with
    | some o => return (.next, PassState.withObject o c)
    | none =>
      Attempt.log .debug "Object is gone"
      return (.complete, c)

/-- Records how far the pass got. -/
def setPhase (phase : CustomResource.Phase α) : Step C where
  name := "SetPhase"
  run c := do
    match (PassState.object c : Option α) with
    | some o =>
      Act.log .debug "Setting phase"
      return (.next, PassState.withObject (CustomResource.setPhase phase o) c)
    | none => return (.next, c)

/-- Clears what the status says of the last pass. -/
def resetStatus : Step C where
  name := "ResetStatus"
  run c := return (.next, PassState.changeObject (CustomResource.resetStatus (α := α)) c)

/-- Loads the cluster that the object's labels name. -/
def getClusterByLabels : Step C :=
  .ofAttempt "GetClusterByLabels" fun c => do
    if (PassState.cluster c).isSome then return (.next, c)
    match (PassState.object c : Option α) with
    | none => return (.complete, c)
    | some o =>
      match (KubeObject.labels o).get? Labels.clusterName with
      | none => throw (.missingLabel Labels.clusterName)
      | some name =>
        match ← Attempt.get .cluster (PassState.key c).ns name with
        | some cluster => return (.next, PassState.withCluster cluster c)
        | none =>
          Attempt.log .info "Cluster not found, waiting"
          return (.wait, c)

end

section

variable [PassState C α]

/-- Finds the leader of the topology, elected when it has to be. -/
def getLeader : Step C :=
  .ofAttempt "GetLeader" fun c => do
    match PassState.cluster c with
    | none => throw (.invalidConfig "cluster is not resolved")
    | some cluster =>
      match ← ExceptT.lift (Election.leaderFor cluster).run with
      | .ok (leader, cluster) =>
        return (.next, PassState.withLeader leader (PassState.withCluster cluster c))
      | .error .leaderElectionConflict => return (.wait, c)
      | .error .noAvailableLeader =>
        if cluster.isBootstrapped then throw .noAvailableLeader
        Attempt.log .info "No instance can lead the topology yet"
        return (.wait, c)
      | .error e => throw e

/-- Waits until the storages of the cluster are bootstrapped. -/
def waitForClusterBootstrapped : Step C :=
  .reading "WaitForClusterBootstrapped" fun c =>
    return if (PassState.cluster c).any Cluster.isBootstrapped then .next else .wait

end

end ClusterKeeper.Pass
