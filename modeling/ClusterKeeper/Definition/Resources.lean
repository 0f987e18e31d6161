import ClusterKeeper.Definition.Schema
import ClusterKeeper.Json.Printer
import ClusterKeeper.Resource.CartridgeConfig
import ClusterKeeper.Resource.Cluster
import ClusterKeeper.Resource.Role

/-!
The definitions of the custom resources, by which the API server comes to know them.
-/

namespace ClusterKeeper

/-- A member with the default that it has when it is read. -/
def SchemaMember.withDefault {α : Type} [Wire α] (name description : String) (schema : Schema)
    (value : α) : SchemaMember :=
  .mk name description (.defaulted (Wire.write value)) schema

/-- A column that is shown in listings. -/
structure PrinterColumn where
  name : String
  type : String
  path : String

/-- The definition of a custom resource. -/
structure ResourceDefinition where
  kind : Kind
  shortNames : List String
  columns : List PrinterColumn
  specDescription : String
  spec : List SchemaMember
  statusDescription : String
  status : List SchemaMember

namespace ResourceDefinition

/-- The column with the age of an object. -/
def ageColumn : PrinterColumn := ⟨"Age", "date", ".metadata.creationTimestamp"⟩

/-- The column with the phase of an object. -/
def phaseColumn : PrinterColumn := ⟨"Phase", "string", ".status.phase"⟩

/-- The reference to a secret. -/
def secretReference : Schema :=
  .record [
    .mk "name" "Secret name." .required .text,
    .mk "namespace" "Secret namespace, the cluster's when unset." .optional .text,
    .mk "key" "Key inside the secret." .optional .text]

/-- The settings of the etcd2 state provider. -/
def etcd2 : Schema :=
  .record [
    .withDefault "endpoints" "etcd endpoints." .texts ([] : List String),
    .withDefault "username" "etcd user." .text "",
    .mk "password" "Secret holding the etcd password." .optional secretReference,
    .withDefault "lockDelay" "Lock expiration, in seconds." .integer Etcd2Spec.defaultLockDelay,
    .withDefault "prefix" "Key prefix." .text ""]

/-- The settings of the stateboard state provider. -/
def stateboard : Schema :=
  .record [
    .mk "uri" "Stateboard URI." .required .text,
    .mk "password" "Secret holding the stateboard password." .optional secretReference]

/-- The settings of failover. -/
def failover : Schema :=
  let usual := FailoverSpec.default
  .record [
    .withDefault "mode" "Failover mode." (.oneOf (FailoverMode.all.map (·.name))) usual.mode,
    .withDefault "timeout" "Seconds before a silent instance is considered dead." .integer
      usual.timeout,
    .mk "stateProvider" "State provider for stateful mode." .optional
      (.oneOf (StateProvider.all.map (·.name))),
    .withDefault "fencing" "Enable fencing in stateful mode." .flag usual.fencing,
    .withDefault "fencingTimeout" "Fencing timeout, in seconds." .integer usual.fencingTimeout,
    .withDefault "fencingPause" "Fencing pause, in seconds." .integer usual.fencingPause,
    .mk "etcd2" "etcd2 state provider settings." .optional etcd2,
    .mk "stateboard" "Stateboard state provider settings." .optional stateboard]

/-- The definition of clusters. -/
def cluster : ResourceDefinition where
  kind := .cluster
  shortNames := ["tc"]
  columns := [
    phaseColumn,
    ⟨"Leader", "string", ".status.leader"⟩,
    ⟨"Bootstrapped", "boolean", ".status.bootstrapped"⟩,
    ageColumn]
  specDescription := "Cluster is the Schema for the clusters API."
  spec := [
    .withDefault "domain" "Cluster DNS domain used in advertise URIs." .text
      ClusterSpec.default.domain,
    .withDefault "listenPort" "Port every instance listens on." .integer
      ClusterSpec.default.listenPort,
    .withDefault "failover" "Failover settings." failover FailoverSpec.default,
    .mk "foreignLeader" "Pod to use as topology leader instead of an elected one." .optional .text]
  statusDescription := "Status of a Cluster."
  status := [
    .withDefault "phase" "Current phase." (.oneOf (ClusterPhase.all.map (·.name)))
      ClusterStatus.initial.phase,
    .withDefault "bootstrapped" "Whether vshard has been bootstrapped." .flag
      ClusterStatus.initial.bootstrapped,
    .mk "leader" "Pod acting as topology leader." .optional .text]

/-- The template of a replicaset. -/
def replicasetTemplate : Schema :=
  .record [
    .withDefault "replicas" "Instances per replicaset." .integer ReplicasetTemplate.default.replicas,
    .withDefault "podTemplate" "Pod template of the instances." .foreign PodTemplate.blank,
    .mk "volumeClaimTemplates" "Persistent volume claims of every instance." .optional .foreign,
    .mk "minReadySeconds" "Seconds a new pod must be ready before it counts as available." .optional
      .integer,
    .mk "updateStrategy" "Update strategy of the StatefulSets." .optional .foreign]

/-- The vshard settings of replicasets. -/
def vshard : Schema :=
  .record [
    .withDefault "vshardGroupName" "vshard group of storage replicasets." .text
      VshardSpec.default.groupName,
    .withDefault "clusterRoles" "Cartridge roles enabled on every replicaset." .texts
      VshardSpec.default.clusterRoles,
    .withDefault "weight" "Storage weight." .integer VshardSpec.default.weight]

/-- The definition of roles. -/
def role : ResourceDefinition where
  kind := .role
  shortNames := []
  columns := [⟨"Replicasets", "integer", ".spec.replicasets"⟩, phaseColumn, ageColumn]
  specDescription := "Role is the Schema for the roles API."
  spec := [
    .withDefault "replicasets" "Number of replicasets." .integer RoleSpec.default.replicasets,
    .withDefault "replicasetTemplate" "Template every replicaset is built from." replicasetTemplate
      ReplicasetTemplate.default,
    .withDefault "allRw" "Make every instance of a replicaset writable." .flag RoleSpec.default.allRw,
    .withDefault "vshard" "vshard settings of the replicasets." vshard VshardSpec.default]
  statusDescription := "Status of a Role."
  status := [
    .withDefault "phase" "Current phase." (.oneOf (RolePhase.all.map (·.name)))
      RoleStatus.initial.phase]

/-- The definition of configs. -/
def cartridgeConfig : ResourceDefinition where
  kind := .cartridgeConfig
  shortNames := []
  columns := [phaseColumn, ageColumn]
  specDescription := "CartridgeConfig is the Schema for the cartridgeconfigs API.\n\n" ++
    "Holds a clusterwide config document which is patched into the labelled cluster once it is " ++
    "bootstrapped."
  spec := [
    .withDefault "data" "YAML document, one top-level key per config section." .text ""]
  statusDescription := "Status of a CartridgeConfig."
  status := [
    .withDefault "phase" "Current phase." (.oneOf (CartridgeConfigPhase.all.map (·.name)))
      CartridgeConfigStatus.initial.phase]

/-- The definition of a kind, if it is a custom resource. -/
def ofKind? : Kind → Option ResourceDefinition
  | .cluster => some cluster
  | .role => some role
  | .cartridgeConfig => some cartridgeConfig
  | .pod | .statefulSet | .service | .secret => none

/-- The API group of a definition. -/
def group (d : ResourceDefinition) : String :=
  String.ofList (d.kind.apiVersion.toList.takeWhile (· ≠ '/'))

/-- The version that is served. -/
def version (d : ResourceDefinition) : String :=
  String.ofList ((d.kind.apiVersion.toList.dropWhile (· ≠ '/')).drop 1)

/-- The description of a resource as a whole. -/
def description (d : ResourceDefinition) : String :=
  "Auto-generated derived type for " ++ d.kind.name ++ "Spec via `CustomResource`"

/-- The schema of a resource. -/
def schema (elsewhere : Json) (d : ResourceDefinition) : Json :=
  let members : List SchemaMember := [
    .mk "spec" d.specDescription .required (.record d.spec),
    .mk "status" d.statusDescription .optional (.record d.status)]
  .object ([("title", .str d.kind.name), ("description", .str d.description)] ++
    (Schema.record members).said elsewhere)

/-- A column as it is written. -/
def columnJson (c : PrinterColumn) : Json :=
  .object [("name", .str c.name), ("type", .str c.type), ("jsonPath", .str c.path)]

/-- A definition as an object of the API server; `elsewhere` stands for the schemas of Kubernetes. -/
def toJson (elsewhere : Json) (d : ResourceDefinition) : Json :=
  .object [
    ("apiVersion", .str "apiextensions.k8s.io/v1"),
    ("kind", .str "CustomResourceDefinition"),
    ("metadata", .object [("name", .str (d.kind.plural ++ "." ++ d.group))]),
    ("spec", .object [
      ("group", .str d.group),
      ("names", .object [
        ("categories", .arr []),
        ("kind", .str d.kind.name),
        ("plural", .str d.kind.plural),
        ("shortNames", .arr (d.shortNames.map .str)),
        ("singular", .str d.kind.name.toLower)]),
      ("scope", .str "Namespaced"),
      ("versions", .arr [.object [
        ("name", .str d.version),
        ("served", .bool true),
        ("storage", .bool true),
        ("additionalPrinterColumns", .arr (d.columns.map columnJson)),
        ("schema", .object [("openAPIV3Schema", d.schema elsewhere)]),
        ("subresources", .object [("status", .object [])])]])])]

/-- The schema of every value. -/
def anything : Json := .object [("x-kubernetes-preserve-unknown-fields", .bool true)]

/-- The definitions as documents that can be given to an API server, which lets through every value of a
type that belongs to Kubernetes. -/
def manifests : List String := [cluster, role, cartridgeConfig].map fun d => (d.toJson anything).compact

end ResourceDefinition

end ClusterKeeper
