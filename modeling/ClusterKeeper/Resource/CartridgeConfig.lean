import ClusterKeeper.Cartridge.Sections
import ClusterKeeper.OperatorError
import ClusterKeeper.Resource.Cluster
import ClusterKeeper.Text.Blank
import ClusterKeeper.Yaml.Document

/-!
The CartridgeConfig resource: a clusterwide config as one YAML document with a key for every section.
-/

namespace ClusterKeeper

/-- What a clusterwide config is to be. -/
structure CartridgeConfigSpec where
  data : String
  deriving DecidableEq

instance : Wire CartridgeConfigSpec where
  read j := do
    let ms ← j.record? ["data"]
    return { data := ← ms.defaulted "data" "" }
  write s := .present [.always "data" s.data]

/-- How far a pass over a clusterwide config got. -/
inductive CartridgeConfigPhase where
  /-- The cluster is missing or not bootstrapped. -/
  | waitingForCluster
  /-- There is no leader of the topology yet. -/
  | waitingForLeader
  /-- The config is being uploaded. -/
  | applying
  /-- The cluster runs with the config. -/
  | ready
  deriving DecidableEq

namespace CartridgeConfigPhase

/-- All phases. -/
def all : List CartridgeConfigPhase := [waitingForCluster, waitingForLeader, applying, ready]

/-- The name of a phase. -/
def name : CartridgeConfigPhase → String
  | waitingForCluster => "WaitingForCluster"
  | waitingForLeader => "WaitingForLeader"
  | applying => "Applying"
  | ready => "Ready"

instance : Wire CartridgeConfigPhase := ⟨Wire.named all name, fun p => .str p.name⟩

end CartridgeConfigPhase

/-- What is known of a clusterwide config. -/
structure CartridgeConfigStatus where
  phase : CartridgeConfigPhase
  deriving DecidableEq

namespace CartridgeConfigStatus

/-- The status of a config that no pass has seen. -/
def initial : CartridgeConfigStatus := ⟨.waitingForCluster⟩

instance : Wire CartridgeConfigStatus where
  read j := do
    let ms ← j.record? ["phase"]
    return { phase := ← ms.defaulted "phase" .waitingForCluster }
  write s := .present [.always "phase" s.phase]

end CartridgeConfigStatus

/-- A clusterwide config. -/
structure CartridgeConfig where
  metadata : ObjectMeta
  spec : CartridgeConfigSpec
  status : Option CartridgeConfigStatus
  deriving DecidableEq

namespace CartridgeConfig

instance : KubeObject CartridgeConfig :=
  ⟨.cartridgeConfig, CartridgeConfig.metadata, fun m c => { c with metadata := m }⟩

instance : Wire CartridgeConfig where
  read j := do
    let ms ← j.resource?
    return {
      metadata := ← ms.required "metadata"
      spec := ← ms.required "spec"
      status := ← ms.optional "status" }
  write c := .present [
    .always "apiVersion" Kind.cartridgeConfig.apiVersion,
    .always "kind" Kind.cartridgeConfig.name,
    .always "metadata" c.metadata,
    .always "spec" c.spec,
    .ifSome "status" c.status]

/-- How far the last pass got. -/
def phase (c : CartridgeConfig) : CartridgeConfigPhase := (c.status.getD .initial).phase

/-- Records how far a pass got. -/
def setPhase (phase : CartridgeConfigPhase) (c : CartridgeConfig) : CartridgeConfig :=
  { c with status := some { c.status.getD .initial with phase } }

/-- Clears the status. -/
def resetStatus (c : CartridgeConfig) : CartridgeConfig := { c with status := some .initial }

end CartridgeConfig

/-- The sections of a config's document but for the reserved ones. The document may be missing or
null; it is a mapping otherwise. -/
def Sections.ofYaml (data : String) : Except OperatorError Sections :=
  if Text.trim data.toList = [] then .ok .empty
  else
    match Yaml.toJson? data with
    | none => .error .serialization
    | some (.obj members) => .ok (Sections.free (.ofList members))
    | some .null => .ok .empty
    | some other =>
      .error (.invalidConfig ("cartridge config must be a mapping, got " ++ other.compact))

end ClusterKeeper
