import ClusterKeeper.Cartridge.Admin

/-!
A topology in memory, for trying out passes. It keeps what requests set, and a query returns what is
kept; instances start and apply their roles when they are told to.
-/

namespace ClusterKeeper.Simulation

/-- A topology in memory. -/
structure Topology where
  /-- The pods where Cartridge has started. -/
  started : SortedMap Unit
  /-- The pods that have applied their roles. -/
  configured : SortedMap Unit
  /-- The identifier of every instance that has one, by pod. -/
  instanceUuids : SortedMap String
  /-- The roles of every replicaset, by identifier. -/
  replicasetRoles : SortedMap (List String)
  /-- The weight of every replicaset that has one, by identifier. -/
  weights : SortedMap Int32
  /-- What the bootstrap fails with. -/
  bootstrapError : Option LuaFault
  hierarchy : RoleHierarchy
  /-- The roles that cannot be enabled. -/
  unknownRoles : List String
  /-- The replicasets whose weights are not to be changed. -/
  lastStorages : List String
  failover : FailoverParams
  config : Sections

namespace Topology

/-- A topology without instances. -/
def blank : Topology :=
  { started := .empty, configured := .empty, instanceUuids := .empty, replicasetRoles := .empty,
    weights := .empty, bootstrapError := none, hierarchy := .empty, unknownRoles := [],
    lastStorages := [], failover := .plain .disabled 0, config := .empty }

instance : Inhabited Topology := ⟨blank⟩

/-- The pod in an address: all before the first dot. -/
def podOfUri (uri : String) : String := String.ofList (uri.toList.takeWhile (· ≠ '.'))

/-- The fault of a request that asks for a role that cannot be enabled. -/
def unknownRole (uuid role : String) : LuaFault :=
  { LuaFault.blank with
    className := "EditTopologyError"
    err := "Replicaset " ++ uuid ++ " can not enable unknown role \"" ++ role ++ "\"" }

/-- The topology after the instance at an address has joined. -/
def withJoined (t : Topology) (uri : String) : Topology :=
  let pod := podOfUri uri
  { t with
    instanceUuids := t.instanceUuids.insert pod ("instance-" ++ pod)
    configured := t.configured.insert pod () }

/-- The answer to a request, with the topology after it. -/
def answer (t : Topology) : (q : AdminRequest) → Except AdminError q.Result × Topology
  | .join _ r uris =>
    match r.roles.find? (· ∈ t.unknownRoles) with
    | some role => (.error (.unknownRole (unknownRole r.uuid role)), t)
    | none =>
      let t := uris.foldl withJoined t
      (.ok .joined, { t with replicasetRoles := t.replicasetRoles.insert r.uuid r.roles })
  | .instanceUuid pod => (.ok ((t.instanceUuids.get? pod.name).getD ""), t)
  | .setWeight _ uuid weight =>
    if !t.replicasetRoles.contains uuid then (.error .notInConfig, t)
    else if uuid ∈ t.lastStorages then (.error .lastStorageWeight, t)
    else (.ok (), { t with weights := t.weights.insert uuid weight })
  | .replicasetRoles _ uuid => (.ok ((t.replicasetRoles.get? uuid).getD []), t)
  | .setReplicasetRoles _ uuid roles =>
    (.ok (), { t with replicasetRoles := t.replicasetRoles.insert uuid roles })
  | .bootstrapVshard _ =>
    match t.bootstrapError with
    | some fault => (.error (.lua "unable to bootstrap cluster" fault), t)
    | none => (.ok (), t)
  | .rolesHierarchy _ => (.ok t.hierarchy, t)
  | .setFailoverParams _ params => (.ok (), { t with failover := params })
  | .failoverParams _ => (.ok t.failover, t)
  | .cartridgeConfig _ => (.ok t.config, t)
  | .applyCartridgeConfig _ config => (.ok (), { t with config := t.config.patched config })
  | .isCartridgeStarted pod => (.ok (t.started.contains pod.name), t)
  | .isCartridgeConfigured pod => (.ok (t.configured.contains pod.name), t)

end Topology

end ClusterKeeper.Simulation
