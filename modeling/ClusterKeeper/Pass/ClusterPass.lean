import ClusterKeeper.ClusterService
import ClusterKeeper.Failover
import ClusterKeeper.Pass.Resolve

/-!
The pass over a cluster. It keeps the cluster's service, waits until every role is joined, bootstraps the
storages once and applies the failover parameters.
-/

namespace ClusterKeeper.ClusterPass

/-- The cluster, which has to be loaded. -/
def loaded (c : ClusterPass) : Attempt Cluster :=
  match c.cluster with
  | some cluster => pure cluster
  | none => throw (.invalidConfig "cluster is not loaded")

/-- The leader, which has to be known. -/
def known (c : ClusterPass) : Attempt Pod :=
  match c.leader with
  | some leader => pure leader
  | none => throw (.invalidConfig "leader is not resolved")

/-- Ends the pass over a cluster that is being deleted. -/
def checkDeletion : Step ClusterPass :=
  .reading "CheckDeletion" fun c =>
    return if c.cluster.any (·.metadata.isDeleting) then .complete else .next

/-- Keeps the service of the cluster. -/
def syncClusterWideService : Step ClusterPass :=
  .reading "SyncClusterWideService" fun c => do
    let wanted := (← loaded c).service
    match ← Attempt.get .service c.key.ns wanted.name with
    | none =>
      Attempt.log .info "Creating cluster-wide Service"
      let _ ← Attempt.create .service wanted
      return .next
    | some existing =>
      match Service.synced wanted existing with
      | (_, false) => return .next
      | (synced, true) =>
        Attempt.log .info "Updating cluster-wide Service"
        let _ ← Attempt.replace .service synced
        return .next

/-- Waits until there are roles and each is in one of some phases. A role wakes the cluster when it gets
there. -/
def waitForRolesPhases (phases : List RolePhase) : Step ClusterPass :=
  .reading "WaitForRolesPhases" fun c => do
    let roles : List Role ← Attempt.list .role c.key.ns (Labels.clusterSelector c.key.name)
    if roles = [] then
      Attempt.log .debug "Cluster has no roles yet"
      return .complete
    if roles.all fun role => role.phase ∈ phases then return .next
    Attempt.log .debug "Waiting for roles"
    return .complete

/-- Whether an error says that there is no instance to bootstrap. -/
def lacksRemotes (e : AdminError) : Bool :=
  e.fault?.any fun fault =>
    Admin.mentions fault.err "No remotes with role \"vshard-router\" available" ||
      Admin.mentions fault.err "No remotes with role \"vshard-storage\" available"

/-- The event of a bootstrap. -/
def bootstrapped : Event := ⟨.normal, "Bootstrapped", "Bootstrapped successfully."⟩

/-- Bootstraps the storages, once. -/
def bootstrap : Step ClusterPass :=
  .ofAttempt "Bootstrap" fun c => do
    let cluster ← loaded c
    if cluster.isBootstrapped then return (.next, c)
    let leader ← known c
    match ← ExceptT.lift (Act.admin (.bootstrapVshard leader)).run with
    | .ok () =>
      Attempt.log .info "vshard bootstrapped"
      Attempt.record (KubeObject.reference cluster) bootstrapped
      return (.next, { c with cluster := some cluster.markBootstrapped })
    | .error e =>
      if lacksRemotes e then
        Attempt.log .warn "Unable to bootstrap vshard"
        Attempt.record (KubeObject.reference cluster) ⟨.warning, "UnableToBootstrap", e.message⟩
        return (.complete, { c with cluster := some (cluster.setPhase .unableToBootstrap) })
      else throw (.admin e)

/-- Applies the failover parameters when the running ones do not satisfy them. -/
def configureFailover : Step ClusterPass :=
  .reading "ConfigureFailover" fun c => do
    let cluster ← loaded c
    let leader ← known c
    let wanted ← Failover.wanted cluster
    let actual : FailoverParams ← Attempt.admin (.failoverParams leader)
    if wanted.SatisfiedBy actual then return .next
    Attempt.log .info "Applying failover parameters"
    Attempt.admin (.setFailoverParams leader wanted)
    return .next

/-- The steps of a pass over a cluster. -/
def steps : List (Step ClusterPass) := [
  Pass.info,
  Pass.getRequestedObject,
  Pass.setPhase ClusterPhase.pending,
  checkDeletion,
  Pass.resetStatus,
  Pass.setPhase ClusterPhase.syncingService,
  syncClusterWideService,
  Pass.setPhase ClusterPhase.waitingForRoles,
  waitForRolesPhases [.waitingForBootstrap, .ready],
  Pass.setPhase ClusterPhase.waitingForLeader,
  Pass.getLeader,
  bootstrap,
  Pass.setPhase ClusterPhase.failoverConfiguring,
  configureFailover,
  Pass.setPhase ClusterPhase.ready]

end ClusterKeeper.ClusterPass
