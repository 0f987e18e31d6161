import ClusterKeeper.Cartridge.AdminError
import ClusterKeeper.Cartridge.EditTopology
import ClusterKeeper.Cartridge.Failover
import ClusterKeeper.Cartridge.RoleHierarchy
import ClusterKeeper.Cartridge.Script
import ClusterKeeper.Cartridge.Sections
import ClusterKeeper.Kubernetes.Pod
import ClusterKeeper.Program
import ClusterKeeper.Text.Blank

/-!
The administration of a topology. `AdminRequest` lists what can be asked of an instance, most often of
the leader, and `AdminRequest.perform` carries a request out by running one script on that instance.
A failure of the channel to the instance is the failure of the request.
-/

namespace ClusterKeeper

/-- What became of a request to join instances. -/
inductive JoinOutcome where
  | joined
  | alreadyJoined
  deriving DecidableEq

/-- A request to an instance, whose pod comes first. -/
inductive AdminRequest where
  /-- Joins the instances at some addresses into a replicaset. -/
  | join (leader : Pod) (request : JoinRequest) (uris : List String)
  /-- The identifier of an instance, empty until it is part of a topology. -/
  | instanceUuid (pod : Pod)
  /-- Sets the weight of a replicaset. -/
  | setWeight (leader : Pod) (uuid : String) (weight : Int32)
  /-- The roles that are enabled on a replicaset. -/
  | replicasetRoles (leader : Pod) (uuid : String)
  /-- Replaces the roles that are enabled on a replicaset. -/
  | setReplicasetRoles (leader : Pod) (uuid : String) (roles : List String)
  /-- Bootstraps the storages, which succeeds when they already are. -/
  | bootstrapVshard (leader : Pod)
  /-- Every known role with those it depends on. -/
  | rolesHierarchy (leader : Pod)
  /-- Sets the failover parameters. -/
  | setFailoverParams (leader : Pod) (params : FailoverParams)
  /-- The failover parameters. -/
  | failoverParams (leader : Pod)
  /-- The clusterwide config without the reserved sections. -/
  | cartridgeConfig (leader : Pod)
  /-- Patches the clusterwide config, but for reserved sections. -/
  | applyCartridgeConfig (leader : Pod) (config : Sections)
  /-- Whether Cartridge has started on an instance. -/
  | isCartridgeStarted (pod : Pod)
  /-- Whether an instance has applied its roles. -/
  | isCartridgeConfigured (pod : Pod)

/-- Running a script on an instance. -/
structure Exec where
  pod : Pod
  script : String
  args : List Json

namespace AdminRequest

/-- The type of a request's result. -/
@[reducible] def Result : AdminRequest → Type
  | join .. => JoinOutcome
  | instanceUuid _ => String
  | replicasetRoles .. => List String
  | rolesHierarchy _ => RoleHierarchy
  | failoverParams _ => FailoverParams
  | cartridgeConfig _ => Sections
  | isCartridgeStarted _ | isCartridgeConfigured _ => Bool
  | setWeight .. | setReplicasetRoles .. | bootstrapVshard _ | setFailoverParams ..
  | applyCartridgeConfig .. => Unit

/-- The pod of the instance that a request goes to. -/
def pod : AdminRequest → Pod
  | join p .. | instanceUuid p | setWeight p .. | replicasetRoles p _ | setReplicasetRoles p ..
  | bootstrapVshard p | rolesHierarchy p | setFailoverParams p _ | failoverParams p
  | cartridgeConfig p | applyCartridgeConfig p _ | isCartridgeStarted p
  | isCartridgeConfigured p => p

/-- The script of a request. -/
def script : AdminRequest → String
  | join .. | setReplicasetRoles .. => Script.editTopology
  | instanceUuid _ => Script.instanceUuid
  | setWeight .. => Script.setWeight
  | replicasetRoles .. => Script.replicasetRoles
  | bootstrapVshard _ => Script.bootstrapVshard
  | rolesHierarchy _ => Script.rolesHierarchy
  | setFailoverParams .. => Script.setFailoverParams
  | failoverParams _ => Script.failoverParams
  | cartridgeConfig _ => Script.clusterwideConfig
  | applyCartridgeConfig .. => Script.patchConfig
  | isCartridgeStarted _ => Script.isStarted
  | isCartridgeConfigured _ => Script.isConfigured

/-- The arguments of a request's script. -/
def args : AdminRequest → List Json
  | join _ request uris => [Wire.write (EditTopology.join request uris)]
  | setWeight _ uuid weight => [.str uuid, Wire.write weight]
  | replicasetRoles _ uuid => [.object [("uuid", .str uuid)]]
  | setReplicasetRoles _ uuid roles => [Wire.write (EditTopology.setRoles uuid roles)]
  | setFailoverParams _ params => [Wire.write params]
  | cartridgeConfig _ => [Sections.reservedSet]
  | applyCartridgeConfig _ config => [.ofMap config, Sections.reservedSet]
  | instanceUuid _ | bootstrapVshard _ | rolesHierarchy _ | failoverParams _
  | isCartridgeStarted _ | isCartridgeConfigured _ => []

/-- What a request runs. -/
def exec (q : AdminRequest) : Exec := ⟨q.pod, q.script, q.args⟩

end AdminRequest

namespace Admin

/-- A payload of a type. -/
def typed {α : Type} (read : Json → Option α) (payload : Json) : Except AdminError α :=
  match read payload with
  | some a => .ok a
  | none => .error .decode

/-- A payload of a type that may be missing. -/
def orMissing {α : Type} (read : Json → Option α) : Json → Option (Option α)
  | .null => some none
  | payload => (read payload).map some

/-- Whether a text contains another. -/
def mentions (text part : String) : Bool := Text.containsText text.toList part.toList

/-- The flag in an envelope, or the error in it with what was being done. -/
def flag (doing : String) (payload : Json) : Except AdminError Bool := do
  let envelope ← typed Envelope.flag? payload
  match envelope.err with
  | some fault => .error (.lua doing fault)
  | none => .ok envelope.res

/-- What was being done in an edit of the topology. -/
def editing : String := "unable to edit topology"

/-- What was being done in a probe of an instance. -/
def probing : String := "unable to retrieve instance state"

/-- The outcome of a request to join, from what became of the edit. -/
def joinOutcome : Except AdminError Bool → Except AdminError JoinOutcome
  | .ok true => .ok .joined
  | .ok false => .error .topologyIsDown
  | .error (.lua doing fault) =>
    if mentions fault.err "is already joined" then .ok .alreadyJoined
    else if mentions fault.err "can not enable unknown role" then .error (.unknownRole fault)
    else .error (.lua doing fault)
  | .error e => .error e

/-- Nothing, unless an edit was not possible. -/
def editOutcome (edited : Bool) : Except AdminError Unit :=
  if edited then .ok () else .error .topologyIsDown

/-- What became of a weight. -/
def weightOutcome (e : Envelope Bool) : Except AdminError Unit :=
  match e.err with
  | none => .ok ()
  | some fault =>
    if mentions fault.message "not in config" then .error .notInConfig
    else if mentions fault.message "At least one vshard-storage (default) must have weight > 0" then
      .error .lastStorageWeight
    else .error (.lua "unable to set weight" fault)

/-- Whether an error says that the storages are bootstrapped already. -/
def saysBootstrapped (fault : LuaFault) : Bool :=
  fault.className == "Bootstrapping vshard failed" && mentions fault.err "already bootstrapped"

/-- What became of the bootstrap. -/
def bootstrapOutcome (e : Envelope Json) : Except AdminError Unit :=
  match e.err with
  | none => .ok ()
  | some fault =>
    if saysBootstrapped fault then .ok ()
    else .error (.lua "unable to bootstrap cluster" fault)

/-- What became of failover parameters. -/
def failoverOutcome (e : Envelope Json) : Except AdminError Unit :=
  match e.err with
  | none => .ok ()
  | some fault => .error (.lua "unable to set failover params" fault)

/-- What became of a patch of the config. -/
def patchOutcome (applied : Option Bool) : Except AdminError Unit :=
  if applied = some true then .ok () else .error .configRejected

/-- A config, an empty one when what was returned is none. An empty Lua table is written as an array,
which is no mapping. -/
def configOutcome : Except AdminError Sections → Except AdminError Sections
  | .error .decode => .ok .empty
  | r => r

end Admin

namespace AdminRequest

/-- The result of a request from the answer of the channel. -/
def outcome (q : AdminRequest) (answer : Except AdminError Json) : Except AdminError q.Result :=
  match q with
  | join .. => Admin.joinOutcome (answer.bind (Admin.flag Admin.editing))
  | instanceUuid _ => answer.bind (Admin.typed Wire.read)
  | setWeight .. => (answer.bind (Admin.typed Envelope.flag?)).bind Admin.weightOutcome
  | replicasetRoles .. =>
    (answer.bind (Admin.typed (Admin.orMissing Wire.read))).map fun roles => roles.getD []
  | setReplicasetRoles .. => (answer.bind (Admin.flag Admin.editing)).bind Admin.editOutcome
  | bootstrapVshard _ => (answer.bind (Admin.typed Envelope.any?)).bind Admin.bootstrapOutcome
  | rolesHierarchy _ => answer.bind (Admin.typed Wire.read)
  | setFailoverParams .. => (answer.bind (Admin.typed Envelope.any?)).bind Admin.failoverOutcome
  | failoverParams _ => answer.bind (Admin.typed Wire.read)
  | cartridgeConfig _ => Admin.configOutcome (answer.bind (Admin.typed Json.toMap?))
  | applyCartridgeConfig .. =>
    (answer.bind (Admin.typed (Admin.orMissing Wire.read))).bind Admin.patchOutcome
  | isCartridgeStarted _ | isCartridgeConfigured _ => answer.bind (Admin.flag Admin.probing)

end AdminRequest

/-- The channel to the instances. -/
def Channel : Interface where
  Ask := Exec
  Answer := fun _ => Except AdminError Json

/-- Carries a request out by running one script. -/
def AdminRequest.perform (q : AdminRequest) : Program Channel (Except AdminError q.Result) := do
  return q.outcome (← Program.question (I := Channel) q.exec)

end ClusterKeeper
