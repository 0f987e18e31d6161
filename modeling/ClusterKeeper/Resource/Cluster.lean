import ClusterKeeper.Cartridge.Failover
import ClusterKeeper.Kubernetes.Meta

/-!
The Cluster resource: a topology as a whole. Its specification says where instances are reached and
how leaders fail over; its status holds the phase of the last pass, the elected leader of the topology
and whether the storages are bootstrapped, which they stay for ever.
-/

namespace ClusterKeeper

/-- A key of a secret. -/
structure SecretReference where
  name : String
  /-- The namespace of the secret, by default the cluster's. -/
  ns : Option String
  /-- The key inside the secret. -/
  key : Option String
  deriving DecidableEq

instance : Wire SecretReference where
  read j := do
    let ms ← j.record? ["name", "namespace", "key"]
    return {
      name := ← ms.required "name"
      ns := ← ms.optional "namespace"
      key := ← ms.optional "key" }
  write r := .present [.always "name" r.name, .ifSome "namespace" r.ns, .ifSome "key" r.key]

/-- Settings of the etcd2 state provider. -/
structure Etcd2Spec where
  endpoints : List String
  username : String
  password : Option SecretReference
  lockDelay : Int32
  keyPrefix : String
  deriving DecidableEq

namespace Etcd2Spec

/-- Seconds until a lock expires, unless something else is said. -/
def defaultLockDelay : Int32 := 10

instance : Wire Etcd2Spec where
  read j := do
    let ms ← j.record? ["endpoints", "username", "password", "lockDelay", "prefix"]
    return {
      endpoints := ← ms.defaulted "endpoints" []
      username := ← ms.defaulted "username" ""
      password := ← ms.optional "password"
      lockDelay := ← ms.defaulted "lockDelay" defaultLockDelay
      keyPrefix := ← ms.defaulted "prefix" "" }
  write s := .present [
    .always "endpoints" s.endpoints,
    .always "username" s.username,
    .ifSome "password" s.password,
    .always "lockDelay" s.lockDelay,
    .always "prefix" s.keyPrefix]

end Etcd2Spec

/-- Settings of the stateboard state provider. -/
structure StateboardSpec where
  uri : String
  password : Option SecretReference
  deriving DecidableEq

instance : Wire StateboardSpec where
  read j := do
    let ms ← j.record? ["uri", "password"]
    return { uri := ← ms.required "uri", password := ← ms.optional "password" }
  write s := .present [.always "uri" s.uri, .ifSome "password" s.password]

/-- How leaders are to fail over. -/
structure FailoverSpec where
  mode : FailoverMode
  timeout : Int32
  stateProvider : Option StateProvider
  fencing : Bool
  fencingTimeout : Int32
  fencingPause : Int32
  etcd2 : Option Etcd2Spec
  stateboard : Option StateboardSpec
  deriving DecidableEq

namespace FailoverSpec

/-- Failover as it is when nothing is said. -/
def default : FailoverSpec :=
  { mode := .disabled, timeout := 20, stateProvider := none, fencing := false, fencingTimeout := 10,
    fencingPause := 2, etcd2 := none, stateboard := none }

/-- The members in their declared order. -/
def memberNames : List String :=
  ["mode", "timeout", "stateProvider", "fencing", "fencingTimeout", "fencingPause", "etcd2",
    "stateboard"]

instance : Wire FailoverSpec where
  read j := do
    let ms ← j.record? memberNames
    return {
      mode := ← ms.defaulted "mode" default.mode
      timeout := ← ms.defaulted "timeout" default.timeout
      stateProvider := ← ms.optional "stateProvider"
      fencing := ← ms.defaulted "fencing" default.fencing
      fencingTimeout := ← ms.defaulted "fencingTimeout" default.fencingTimeout
      fencingPause := ← ms.defaulted "fencingPause" default.fencingPause
      etcd2 := ← ms.optional "etcd2"
      stateboard := ← ms.optional "stateboard" }
  write s := .present [
    .always "mode" s.mode,
    .always "timeout" s.timeout,
    .ifSome "stateProvider" s.stateProvider,
    .always "fencing" s.fencing,
    .always "fencingTimeout" s.fencingTimeout,
    .always "fencingPause" s.fencingPause,
    .ifSome "etcd2" s.etcd2,
    .ifSome "stateboard" s.stateboard]

end FailoverSpec

/-- What a cluster is to be. -/
structure ClusterSpec where
  /-- The DNS domain of addresses. -/
  domain : String
  /-- The port every instance listens on. -/
  listenPort : Int32
  failover : FailoverSpec
  /-- A pod to lead the topology instead of an elected one. -/
  foreignLeader : Option String
  deriving DecidableEq

namespace ClusterSpec

/-- A cluster about which nothing is said. -/
def default : ClusterSpec :=
  { domain := "cluster.local", listenPort := 3301, failover := .default, foreignLeader := none }

instance : Wire ClusterSpec where
  read j := do
    let ms ← j.record? ["domain", "listenPort", "failover", "foreignLeader"]
    return {
      domain := ← ms.defaulted "domain" default.domain
      listenPort := ← ms.defaulted "listenPort" default.listenPort
      failover := ← ms.defaulted "failover" .default
      foreignLeader := ← ms.optional "foreignLeader" }
  write s := .present [
    .always "domain" s.domain,
    .always "listenPort" s.listenPort,
    .always "failover" s.failover,
    .ifSome "foreignLeader" s.foreignLeader]

end ClusterSpec

/-- How far a pass over a cluster got. -/
inductive ClusterPhase where
  /-- A pass has started. -/
  | pending
  /-- The service of the cluster is brought in line. -/
  | syncingService
  /-- Some role is not joined yet. -/
  | waitingForRoles
  /-- There is no leader of the topology yet. -/
  | waitingForLeader
  /-- The cluster is bootstrapped and configured. -/
  | ready
  /-- The storages cannot be bootstrapped with the roles there are. -/
  | unableToBootstrap
  /-- The settings of failover are applied. -/
  | failoverConfiguring
  deriving DecidableEq

namespace ClusterPhase

/-- All phases. -/
def all : List ClusterPhase :=
  [pending, syncingService, waitingForRoles, waitingForLeader, ready, unableToBootstrap,
    failoverConfiguring]

/-- The name of a phase. -/
def name : ClusterPhase → String
  | pending => "Pending"
  | syncingService => "SyncingService"
  | waitingForRoles => "WaitingForRoles"
  | waitingForLeader => "WaitingForLeader"
  | ready => "Ready"
  | unableToBootstrap => "UnableToBootstrap"
  | failoverConfiguring => "FailoverConfiguring"

instance : Wire ClusterPhase := ⟨Wire.named all name, fun p => .str p.name⟩

end ClusterPhase

/-- What is known of a cluster. -/
structure ClusterStatus where
  phase : ClusterPhase
  /-- The storages are bootstrapped. -/
  bootstrapped : Bool
  /-- The pod that leads the topology. -/
  leader : Option String
  deriving DecidableEq

namespace ClusterStatus

/-- The status of a cluster that no pass has seen. -/
def initial : ClusterStatus := ⟨.pending, false, none⟩

instance : Wire ClusterStatus where
  read j := do
    let ms ← j.record? ["phase", "bootstrapped", "leader"]
    return {
      phase := ← ms.defaulted "phase" .pending
      bootstrapped := ← ms.defaulted "bootstrapped" false
      leader := ← ms.optional "leader" }
  write s := .present [
    .always "phase" s.phase,
    .always "bootstrapped" s.bootstrapped,
    .ifSome "leader" s.leader]

end ClusterStatus

/-- A cluster. -/
structure Cluster where
  metadata : ObjectMeta
  spec : ClusterSpec
  status : Option ClusterStatus
  deriving DecidableEq

/-- The members of a custom resource. An array has to give all three. -/
def Json.resource? : Json → Option Members
  | .arr [m, spec, status] => some [("metadata", m), ("spec", spec), ("status", status)]
  | j => j.members?

namespace Cluster

instance : KubeObject Cluster := ⟨.cluster, Cluster.metadata, fun m c => { c with metadata := m }⟩

instance : Wire Cluster where
  read j := do
    let ms ← j.resource?
    return {
      metadata := ← ms.required "metadata"
      spec := ← ms.required "spec"
      status := ← ms.optional "status" }
  write c := .present [
    .always "apiVersion" Kind.cluster.apiVersion,
    .always "kind" Kind.cluster.name,
    .always "metadata" c.metadata,
    .always "spec" c.spec,
    .ifSome "status" c.status]

/-- The name of a cluster. -/
def name (c : Cluster) : String := c.metadata.nameText

/-- The namespace of a cluster. -/
def nsOf (c : Cluster) : String := c.metadata.nsText

/-- The status, as of a cluster that no pass has seen when there is none. -/
def currentStatus (c : Cluster) : ClusterStatus := c.status.getD .initial

/-- The leader that the specification names; an empty name counts as none. -/
def foreignLeader (c : Cluster) : Option String := c.spec.foreignLeader.filter (· ≠ "")

/-- The leader that was elected; an empty name counts as none. -/
def electedLeader (c : Cluster) : Option String :=
  (c.status.bind (·.leader)).filter (· ≠ "")

/-- The leader of the topology; one that the specification names goes first. -/
def leader (c : Cluster) : Option String := c.foreignLeader <|> c.electedLeader

/-- Records an elected leader. -/
def setLeader (leader : String) (c : Cluster) : Cluster :=
  { c with status := some { c.currentStatus with leader := some leader } }

/-- Whether the storages are bootstrapped. -/
def isBootstrapped (c : Cluster) : Bool := c.status.any (·.bootstrapped)

/-- Records that the storages are bootstrapped, for good. -/
def markBootstrapped (c : Cluster) : Cluster :=
  { c with status := some { c.currentStatus with bootstrapped := true } }

/-- How far the last pass got. -/
def phase (c : Cluster) : ClusterPhase := c.currentStatus.phase

/-- Records how far a pass got. -/
def setPhase (phase : ClusterPhase) (c : Cluster) : Cluster :=
  { c with status := some { c.currentStatus with phase } }

/-- Clears the status but for the leader and the record of the bootstrap. -/
def resetStatus (c : Cluster) : Cluster :=
  { c with status := some { c.currentStatus with phase := .pending } }

end Cluster

end ClusterKeeper
