import ClusterKeeper.Json.Wire

/-!
The argument of an edit of the topology: which servers and replicasets change, and which instances
join a replicaset. Members that have their default are left out when written, but for the URI of a
joining server and the identifier of a server, which are always there.
-/

namespace ClusterKeeper

/-- A server that joins a replicaset. -/
structure JoinServer where
  /-- The address other instances reach it at. -/
  uri : String
  /-- Its identifier; a new one is made when this is empty. -/
  uuid : String
  deriving DecidableEq

instance : Wire JoinServer where
  read j := do
    let ms ← j.members?
    return { uri := ← ms.defaulted "uri" "", uuid := ← ms.defaulted "uuid" "" }
  write s := .present [.always "uri" s.uri, .unlessDefault "" "uuid" s.uuid]

/-- What changes about a replicaset. -/
structure EditReplicaset where
  uuid : String
  name : String
  roles : List String
  allRw : Bool
  weight : Int32
  failoverPriority : List String
  vshardGroup : String
  joinServers : List JoinServer
  deriving DecidableEq

namespace EditReplicaset

/-- A replicaset about which nothing is said. -/
def blank : EditReplicaset := ⟨"", "", [], false, 0, [], "", []⟩

instance : Wire EditReplicaset where
  read j := do
    let ms ← j.members?
    return {
      uuid := ← ms.defaulted "uuid" ""
      name := ← ms.defaulted "alias" ""
      roles := ← ms.defaulted "roles" []
      allRw := ← ms.defaulted "all_rw" false
      weight := ← ms.defaulted "weight" 0
      failoverPriority := ← ms.defaulted "failover_priority" []
      vshardGroup := ← ms.defaulted "vshard_group" ""
      joinServers := ← ms.defaulted "join_servers" [] }
  write r := .present [
    .unlessDefault "" "uuid" r.uuid,
    .unlessDefault "" "alias" r.name,
    .unlessDefault [] "roles" r.roles,
    .unlessDefault false "all_rw" r.allRw,
    .unlessDefault 0 "weight" r.weight,
    .unlessDefault [] "failover_priority" r.failoverPriority,
    .unlessDefault "" "vshard_group" r.vshardGroup,
    .unlessDefault [] "join_servers" r.joinServers]

end EditReplicaset

/-- What changes about a server. -/
structure EditServer where
  uri : String
  uuid : String
  disabled : Bool
  expelled : Bool
  deriving DecidableEq

instance : Wire EditServer where
  read j := do
    let ms ← j.members?
    return {
      uri := ← ms.defaulted "uri" ""
      uuid := ← ms.defaulted "uuid" ""
      disabled := ← ms.defaulted "disabled" false
      expelled := ← ms.defaulted "expelled" false }
  write s := .present [
    .unlessDefault "" "uri" s.uri,
    .always "uuid" s.uuid,
    .unlessDefault false "disabled" s.disabled,
    .unlessDefault false "expelled" s.expelled]

/-- The argument of an edit of the topology. -/
structure EditTopology where
  servers : List EditServer
  replicasets : List EditReplicaset
  deriving DecidableEq

instance : Wire EditTopology where
  read j := do
    let ms ← j.members?
    return { servers := ← ms.defaulted "servers" [], replicasets := ← ms.defaulted "replicasets" [] }
  write t := .present [
    .unlessDefault [] "servers" t.servers,
    .unlessDefault [] "replicasets" t.replicasets]

/-- The settings of a replicaset that instances join. -/
structure JoinRequest where
  /-- The name of the replicaset. -/
  name : String
  /-- The identifier of the replicaset. -/
  uuid : String
  /-- The roles enabled on it. -/
  roles : List String
  /-- Its weight as a storage. -/
  weight : Int32
  /-- Its group of storages. -/
  vshardGroup : String
  /-- Whether every instance is writable. -/
  allRw : Bool
  deriving DecidableEq

instance : Wire JoinRequest where
  read j := do
    let ms ← j.members?
    return {
      name := ← ms.defaulted "alias" ""
      uuid := ← ms.defaulted "uuid" ""
      roles := ← ms.defaulted "roles" []
      weight := ← ms.defaulted "weight" 0
      vshardGroup := ← ms.defaulted "vshard_group" ""
      allRw := ← ms.defaulted "all_rw" false }
  write r := .present [
    .always "alias" r.name,
    .always "uuid" r.uuid,
    .always "roles" r.roles,
    .always "weight" r.weight,
    .always "vshard_group" r.vshardGroup,
    .always "all_rw" r.allRw]

namespace EditTopology

/-- The edit by which instances join a replicaset. -/
def join (r : JoinRequest) (uris : List String) : EditTopology where
  servers := []
  replicasets := [{ EditReplicaset.blank with
    uuid := r.uuid
    name := r.name
    roles := r.roles
    weight := r.weight
    vshardGroup := r.vshardGroup
    allRw := r.allRw
    joinServers := uris.map fun uri => ⟨uri, ""⟩ }]

/-- The edit that replaces the roles of a replicaset. -/
def setRoles (uuid : String) (roles : List String) : EditTopology where
  servers := []
  replicasets := [{ EditReplicaset.blank with uuid, roles }]

end EditTopology

end ClusterKeeper
