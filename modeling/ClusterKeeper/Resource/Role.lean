import ClusterKeeper.Kubernetes.Labels
import ClusterKeeper.Kubernetes.StatefulSet
import ClusterKeeper.Resource.Cluster

/-!
The Role resource: a group of replicasets that are alike. Each replicaset is one StatefulSet.
-/

namespace ClusterKeeper

/-- What every replicaset of a role is made from. -/
structure ReplicasetTemplate where
  /-- The count of instances. -/
  replicas : Int32
  podTemplate : PodTemplate
  volumeClaimTemplates : List VolumeClaim
  minReadySeconds : Option Int32
  updateStrategy : Option UpdateStrategy
  deriving DecidableEq

namespace ReplicasetTemplate

/-- A template about which nothing is said. -/
def default : ReplicasetTemplate :=
  { replicas := 1, podTemplate := .blank, volumeClaimTemplates := [], minReadySeconds := none,
    updateStrategy := none }

/-- The members in their declared order. -/
def memberNames : List String :=
  ["replicas", "podTemplate", "volumeClaimTemplates", "minReadySeconds", "updateStrategy"]

instance : Wire ReplicasetTemplate where
  read j := do
    let ms ← j.record? memberNames
    return {
      replicas := ← ms.defaulted "replicas" default.replicas
      podTemplate := ← ms.defaulted "podTemplate" .blank
      volumeClaimTemplates := ← ms.defaulted "volumeClaimTemplates" []
      minReadySeconds := ← ms.optional "minReadySeconds"
      updateStrategy := ← ms.optional "updateStrategy" }
  write t := .present [
    .always "replicas" t.replicas,
    .always "podTemplate" t.podTemplate,
    .unlessDefault [] "volumeClaimTemplates" t.volumeClaimTemplates,
    .ifSome "minReadySeconds" t.minReadySeconds,
    .ifSome "updateStrategy" t.updateStrategy]

end ReplicasetTemplate

/-- The storage settings of a role. -/
structure VshardSpec where
  /-- The group of storages. -/
  groupName : String
  /-- The roles of Cartridge that are enabled. -/
  clusterRoles : List String
  weight : Int32
  deriving DecidableEq

namespace VshardSpec

/-- Settings about which nothing is said. -/
def default : VshardSpec := ⟨"default", [], 100⟩

instance : Wire VshardSpec where
  read j := do
    let ms ← j.record? ["vshardGroupName", "clusterRoles", "weight"]
    return {
      groupName := ← ms.defaulted "vshardGroupName" default.groupName
      clusterRoles := ← ms.defaulted "clusterRoles" []
      weight := ← ms.defaulted "weight" default.weight }
  write s := .present [
    .always "vshardGroupName" s.groupName,
    .always "clusterRoles" s.clusterRoles,
    .always "weight" s.weight]

end VshardSpec

/-- What a role is to be. -/
structure RoleSpec where
  /-- The count of replicasets. -/
  replicasets : Int32
  template : ReplicasetTemplate
  /-- Whether every instance of a replicaset is writable. -/
  allRw : Bool
  vshard : VshardSpec
  deriving DecidableEq

namespace RoleSpec

/-- A role about which nothing is said. -/
def default : RoleSpec := ⟨1, .default, false, .default⟩

instance : Wire RoleSpec where
  read j := do
    let ms ← j.record? ["replicasets", "replicasetTemplate", "allRw", "vshard"]
    return {
      replicasets := ← ms.defaulted "replicasets" default.replicasets
      template := ← ms.defaulted "replicasetTemplate" .default
      allRw := ← ms.defaulted "allRw" false
      vshard := ← ms.defaulted "vshard" .default }
  write s := .present [
    .always "replicasets" s.replicasets,
    .always "replicasetTemplate" s.template,
    .always "allRw" s.allRw,
    .always "vshard" s.vshard]

end RoleSpec

/-- How far a pass over a role got. -/
inductive RolePhase where
  /-- StatefulSets are created and updated. -/
  | pending
  /-- The cluster of the role does not exist yet. -/
  | waitingForCluster
  /-- There is no leader of the topology yet. -/
  | waitingForLeader
  /-- Some instance has not started yet. -/
  | waitForCartridgeReady
  /-- Instances join their replicasets. -/
  | joining
  /-- Roles are set on the replicasets. -/
  | configuring
  /-- The cluster has not bootstrapped its storages yet. -/
  | waitingForBootstrap
  /-- Weights of storages are set. -/
  | configuringWeights
  /-- Every replicaset is joined and configured. -/
  | ready
  /-- The role cannot be applied as it is. -/
  | configError
  deriving DecidableEq

namespace RolePhase

/-- All phases. -/
def all : List RolePhase :=
  [pending, waitingForCluster, waitingForLeader, waitForCartridgeReady, joining, configuring,
    waitingForBootstrap, configuringWeights, ready, configError]

/-- The name of a phase. -/
def name : RolePhase → String
  | pending => "Pending"
  | waitingForCluster => "WaitingForCluster"
  | waitingForLeader => "WaitingForLeader"
  | waitForCartridgeReady => "WaitForCartridgeReady"
  | joining => "Joining"
  | configuring => "Configuring"
  | waitingForBootstrap => "WaitingForBootstrap"
  | configuringWeights => "ConfiguringWeights"
  | ready => "Ready"
  | configError => "ConfigError"

instance : Wire RolePhase := ⟨Wire.named all name, fun p => .str p.name⟩

/-- Whether a cluster need not wait for a role any more. -/
def isSettled (p : RolePhase) : Bool := p == waitingForBootstrap || p == ready

end RolePhase

/-- What is known of a role. -/
structure RoleStatus where
  phase : RolePhase
  deriving DecidableEq

namespace RoleStatus

/-- The status of a role that no pass has seen. -/
def initial : RoleStatus := ⟨.pending⟩

instance : Wire RoleStatus where
  read j := do
    let ms ← j.record? ["phase"]
    return { phase := ← ms.defaulted "phase" .pending }
  write s := .present [.always "phase" s.phase]

end RoleStatus

/-- A role. -/
structure Role where
  metadata : ObjectMeta
  spec : RoleSpec
  status : Option RoleStatus
  deriving DecidableEq

namespace Role

instance : KubeObject Role := ⟨.role, Role.metadata, fun m r => { r with metadata := m }⟩

instance : Wire Role where
  read j := do
    let ms ← j.resource?
    return {
      metadata := ← ms.required "metadata"
      spec := ← ms.required "spec"
      status := ← ms.optional "status" }
  write r := .present [
    .always "apiVersion" Kind.role.apiVersion,
    .always "kind" Kind.role.name,
    .always "metadata" r.metadata,
    .always "spec" r.spec,
    .ifSome "status" r.status]

/-- The name of a role. -/
def name (r : Role) : String := r.metadata.nameText

/-- How far the last pass got. -/
def phase (r : Role) : RolePhase := (r.status.getD .initial).phase

/-- Records how far a pass got. -/
def setPhase (phase : RolePhase) (r : Role) : Role :=
  { r with status := some { r.status.getD .initial with phase } }

/-- Clears the status. -/
def resetStatus (r : Role) : Role := { r with status := some .initial }

/-- The count of replicasets. -/
def replicasets (r : Role) : Int := r.spec.replicasets.toInt

/-- The count of instances in every replicaset. -/
def replicas (r : Role) : Int := r.spec.template.replicas.toInt

/-- The count of instances in all replicasets. -/
def expectedInstances (r : Role) : Int := r.replicasets * r.replicas

/-- The namespace and name of the cluster that a change of the role may let go on: its own cluster,
when the role has got as far as a cluster waits for. -/
def wakes (r : Role) : Option (String × String) :=
  if r.phase.isSettled then
    match r.metadata.ns, r.metadata.labelSet.get? Labels.clusterName with
    | some ns, some cluster => some (ns, cluster)
    | _, _ => none
  else none

end Role

end ClusterKeeper
