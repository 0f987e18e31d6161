import ClusterKeeper.Pass.Resolve
import ClusterKeeper.Replicaset.Manage

/-!
The pass over a role. It keeps a StatefulSet for every replicaset, and once their pods run Cartridge it
joins them to the topology through the leader, keeps the roles of the replicasets as the role says and,
when the storages are bootstrapped, sets the replicasets' weights.
-/

namespace ClusterKeeper

/-- The state of a pass over a role. -/
abbrev RolePass := MemberPass Role

namespace RolePass

/-- What the later steps of a pass need: the role, its cluster and the leader of the topology. -/
structure Resolved where
  ns : String
  role : Role
  cluster : Cluster
  leader : Pod

/-- The role, its cluster and the leader, all of which have to be known. -/
def resolved (c : RolePass) : Attempt Resolved :=
  match c.object, c.cluster, c.leader with
  | some role, some cluster, some leader => pure ⟨c.key.ns, role, cluster, leader⟩
  | none, _, _ => throw (.invalidConfig "role is not resolved")
  | _, none, _ => throw (.invalidConfig "cluster is not resolved")
  | _, _, none => throw (.invalidConfig "leader is not resolved")

/-- A step that needs the role and its cluster, and ends the pass without them. -/
def withCluster (name : String) (f : String → Role → Cluster → Attempt Outcome) : Step RolePass :=
  .reading name fun c =>
    match c.object, c.cluster with
    | some role, some cluster => f c.key.ns role cluster
    | _, _ => pure .complete

/-- Makes the StatefulSets of the replicasets that have none, unless the role is being deleted. -/
def createStatefulSets : Step RolePass :=
  withCluster "CreateStatefulSets" fun _ role cluster => do
    if role.metadata.isDeleting then return .next
    Replicaset.createAll cluster role
    return .next

/-- Brings the StatefulSets that exist in line with the role. -/
def updateStatefulSets : Step RolePass :=
  withCluster "UpdateStatefulSets" fun _ role cluster => do
    Replicaset.updateAll cluster role
    return .next

/-- Waits until all instances of the role are up. -/
def ensureCartridgeReady : Step RolePass :=
  withCluster "EnsureCartridgeReady" fun ns role cluster => do
    let pods ← Attempt.list .pod ns (Labels.roleSelector cluster.name role.name)
    let ready := pods.countP fun pod => !pod.isDeleting && pod.isReady
    if ready < role.expectedInstances then
      Attempt.log .info "Not all pods of role are running, waiting"
      return .wait
    return .next

/-- The StatefulSets of a replicaset that are not being deleted. -/
def liveStatefulSets (r : Resolved) (ordinal : Nat) : Attempt (List StatefulSet) := do
  let all ← Attempt.list .statefulSet r.ns
    (Labels.ordinalSelector r.cluster.name r.role.name ordinal)
  return all.filter fun s => !s.metadata.isDeleting

/-- Why a replicaset is not joined. -/
inductive JoinObstacle where
  /-- Some instance is not up yet, or the leader has no topology. -/
  | pending
  /-- A request to an instance failed. -/
  | admin (e : AdminError)
  /-- Something else failed. -/
  | other (e : OperatorError)
  deriving DecidableEq

/-- A part of joining a replicaset. -/
abbrev Joining := ExceptT JoinObstacle Act

namespace Joining

/-- An attempt as a part of a join. -/
def ofAttempt {β : Type} (a : Attempt β) : Joining β :=
  ExceptT.mk do return (← a.run).mapError .other

/-- A request to an instance as a part of a join. -/
def asking (q : AdminRequest) : Joining q.Result :=
  ExceptT.mk do return (← (Act.admin q).run).mapError .admin

end Joining

/-- Whether a pod runs and is not being deleted. -/
def isUp (pod : Pod) : Bool := pod.isRunning && !pod.isDeleting

/-- Adds the address of an instance, which has to be up, to those that are to join, unless the instance
is part of a topology already. -/
def collectReplica (r : Resolved) (s : StatefulSet) (replica : Nat) (uris : List String) :
    Joining (List String) := do
  match (← Joining.ofAttempt (Attempt.get .pod r.ns (podName s.name replica))).filter isUp with
  | none =>
    ExceptT.lift (Act.log .debug "Instance is not running yet")
    throw .pending
  | some pod =>
    let uuid ← Joining.asking (.instanceUuid pod)
    return if uuid = "" then uris ++ [r.cluster.advertiseUri pod.name] else uris

/-- The addresses of the instances of a replicaset that are to join, all of which have to be up. -/
def collect (r : Resolved) (ordinal : Nat) : Joining (List String) := do
  let stateful ← Joining.ofAttempt (liveStatefulSets r ordinal)
  Program.through
    (fun s => Program.throughUpTo (collectReplica r s) r.role.replicas.toNat 0) stateful []

/-- The request by which instances join a replicaset. -/
def joinRequest (role : Role) (ordinal : Nat) : JoinRequest where
  name := Replicaset.name role.name ordinal
  uuid := Replicaset.uuid role.name ordinal
  roles := role.spec.vshard.clusterRoles
  weight := role.spec.vshard.weight
  vshardGroup := role.spec.vshard.groupName
  allRw := role.spec.allRw

/-- Joins the instances of a replicaset that are not part of a topology. The leader has to be part of it
or to join with them. -/
def joinReplicaset (r : Resolved) (ordinal : Nat) : Joining Unit := do
  let uris ← collect r ordinal
  if uris = [] then return ()
  if r.cluster.advertiseUri r.leader.name ∉ uris then
    if (← Joining.asking (.instanceUuid r.leader)) = "" then
      ExceptT.lift (Act.log .info "Leader is not part of a topology yet")
      throw .pending
  ExceptT.lift (Act.log .info "Joining instances")
  let _ ← Joining.asking (.join r.leader (joinRequest r.role ordinal) uris)

/-- Joins one replicaset after another, past those that are pending. The result tells whether none of
them was. -/
def joinAll (r : Resolved) : Joining Bool :=
  Program.throughUpTo
    (fun ordinal allJoined => do
      match ← ExceptT.lift (joinReplicaset r ordinal).run with
      | .ok () => return allJoined
      | .error .pending => return false
      | .error obstacle => throw obstacle)
    r.role.replicasets.toNat 0 true

/-- Parks the role, with a warning, until its specification changes. -/
def stopOnConfigError (c : RolePass) (role : Role) (reason : String) (e : AdminError) :
    Act (Outcome × RolePass) := do
  Act.record (KubeObject.reference role) ⟨.warning, reason, e.message⟩
  return (.complete, { c with object := some (role.setPhase .configError) })

/-- Joins the instances that are not part of the topology. -/
def joinInstances : Step RolePass :=
  .ofAttempt "JoinInstances" fun c => do
    let r ← resolved c
    match ← ExceptT.lift (joinAll r).run with
    | .ok true => return (.next, c)
    | .ok false | .error .pending =>
      Attempt.log .info "Not all pods joined the cluster"
      return (.wait, c)
    | .error (.admin (.unknownRole fault)) =>
      Attempt.log .warn "Role requests unknown cluster roles"
      ExceptT.lift (stopOnConfigError c r.role "WrongVShardRoles" (.unknownRole fault))
    | .error (.admin e) =>
      Attempt.log .error "Unable to join instances"
      throw (.admin e)
    | .error (.other e) => throw e

/-- Sets the roles of a replicaset when they do not agree with the wanted ones. -/
def configureReplicaset (r : Resolved) (ordinal : Nat) : ExceptT AdminError Act Unit := do
  let uuid := Replicaset.uuid r.role.name ordinal
  let wanted := r.role.spec.vshard.clusterRoles
  let hierarchy : RoleHierarchy ← Act.admin (.rolesHierarchy r.leader)
  let actual : List String ← Act.admin (.replicasetRoles r.leader uuid)
  if hierarchy.Agree actual wanted then return ()
  ExceptT.lift (Act.log .info "Setting replicaset roles")
  Act.admin (.setReplicasetRoles r.leader uuid wanted)

/-- Configures one replicaset after another, past those where that fails. The result tells whether none
of them failed. -/
def configureAll (r : Resolved) : Attempt Bool :=
  Program.throughUpTo
    (fun ordinal allConfigured => do
      match ← ExceptT.lift (liveStatefulSets r ordinal).run with
      | .error _ =>
        Attempt.log .warn "Unable to list replicaset StatefulSets"
        return false
      | .ok [] => return allConfigured
      | .ok _ =>
        match ← ExceptT.lift (configureReplicaset r ordinal).run with
        | .ok () => return allConfigured
        | .error _ =>
          Attempt.log .warn "Unable to configure replicaset roles"
          return false)
    r.role.replicasets.toNat 0 true

/-- Sets the roles of the replicasets that do not have those of the role, as far as dependencies make
them differ. -/
def configureVShardRoles : Step RolePass :=
  .reading "ConfigureVShardRoles" fun c => do
    let r ← resolved c
    if ← configureAll r then return .next
    Attempt.log .info "Not all vshard roles configured"
    return .wait

/-- Sets the weight of the replicaset of a StatefulSet, whose labels have to tell it. -/
def setWeight (r : Resolved) (s : StatefulSet) : Joining Unit := do
  match s.metadata.labelSet.get? Labels.replicasetUuid with
  | none =>
    ExceptT.lift (Act.log .warn "StatefulSet has no replicaset UUID label, skipping")
  | some uuid => Joining.asking (.setWeight r.leader uuid r.role.spec.vshard.weight)

/-- Sets the weights of all replicasets. -/
def setAllWeights (r : Resolved) : Joining Unit :=
  Program.throughUpTo
    (fun ordinal _ => do
      let stateful ← Joining.ofAttempt (liveStatefulSets r ordinal)
      Program.through (fun s _ => setWeight r s) stateful ())
    r.role.replicasets.toNat 0 ()

/-- Sets the weight of every replicaset of the role. -/
def setVShardWeights : Step RolePass :=
  .ofAttempt "SetVShardWeights" fun c => do
    let r ← resolved c
    match ← ExceptT.lift (setAllWeights r).run with
    | .ok () => return (.next, c)
    | .error (.admin .lastStorageWeight) =>
      Attempt.log .warn "Cartridge refused the vshard weight"
      ExceptT.lift (stopOnConfigError c r.role "WrongVShardWeight" .lastStorageWeight)
    | .error (.admin e) => throw (.admin e)
    | .error (.other e) => throw e
    | .error .pending => return (.wait, c)

/-- The steps of a pass over a role. -/
def steps : List (Step RolePass) := [
  Pass.info,
  Pass.getRequestedObject,
  Pass.resetStatus,
  Pass.setPhase RolePhase.waitingForCluster,
  Pass.getClusterByLabels,
  Pass.setPhase RolePhase.pending,
  createStatefulSets,
  updateStatefulSets,
  Pass.setPhase RolePhase.waitingForLeader,
  Pass.getLeader,
  Pass.setPhase RolePhase.waitForCartridgeReady,
  ensureCartridgeReady,
  Pass.setPhase RolePhase.joining,
  joinInstances,
  Pass.setPhase RolePhase.configuring,
  configureVShardRoles,
  Pass.setPhase RolePhase.waitingForBootstrap,
  Pass.waitForClusterBootstrapped,
  Pass.setPhase RolePhase.configuringWeights,
  setVShardWeights,
  Pass.setPhase RolePhase.ready]

end RolePass

end ClusterKeeper
