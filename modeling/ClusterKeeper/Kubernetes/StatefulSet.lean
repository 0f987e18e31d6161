import ClusterKeeper.Kubernetes.Pod

/-!
StatefulSets, with the volume claims and the update strategy that they carry.
-/

namespace ClusterKeeper

/-- What a volume claim asks for. -/
structure VolumeClaimSpec where
  accessModes : Option (List String)
  resources : Option ResourceRequirements
  deriving DecidableEq

instance : Wire VolumeClaimSpec where
  read j := do
    let ms ← j.members?
    return { accessModes := ← ms.optional "accessModes", resources := ← ms.optional "resources" }
  write s := .present [.ifSome "accessModes" s.accessModes, .ifSome "resources" s.resources]

/-- A claim of a volume. -/
structure VolumeClaim where
  metadata : ObjectMeta
  spec : Option VolumeClaimSpec
  deriving DecidableEq

namespace VolumeClaim

/-- The API version of volume claims. -/
def apiVersion : String := "v1"

/-- The kind of volume claims. -/
def kind : String := "PersistentVolumeClaim"

instance : Wire VolumeClaim where
  read j := do
    let ms ← j.members?
    ms.fixed "apiVersion" apiVersion
    ms.fixed "kind" kind
    return { metadata := ← ms.lenient "metadata" .blank, spec := ← ms.optional "spec" }
  write c := .present [
    .always "apiVersion" apiVersion,
    .always "kind" kind,
    .always "metadata" c.metadata,
    .ifSome "spec" c.spec]

end VolumeClaim

/-- How far a rolling update goes. -/
structure RollingUpdate where
  partition : Option Int32
  deriving DecidableEq

instance : Wire RollingUpdate where
  read j := do
    let ms ← j.members?
    return { partition := ← ms.optional "partition" }
  write r := .present [.ifSome "partition" r.partition]

/-- How the pods of a StatefulSet are updated. -/
structure UpdateStrategy where
  type : Option String
  rollingUpdate : Option RollingUpdate
  deriving DecidableEq

instance : Wire UpdateStrategy where
  read j := do
    let ms ← j.members?
    return { type := ← ms.optional "type", rollingUpdate := ← ms.optional "rollingUpdate" }
  write s := .present [.ifSome "type" s.type, .ifSome "rollingUpdate" s.rollingUpdate]

/-- What becomes of volume claims. -/
structure ClaimRetention where
  whenDeleted : Option String
  whenScaled : Option String
  deriving DecidableEq

instance : Wire ClaimRetention where
  read j := do
    let ms ← j.members?
    return { whenDeleted := ← ms.optional "whenDeleted", whenScaled := ← ms.optional "whenScaled" }
  write r := .present [.ifSome "whenDeleted" r.whenDeleted, .ifSome "whenScaled" r.whenScaled]

/-- A selector by labels. -/
structure LabelSelector where
  matchLabels : Option Labels
  deriving DecidableEq

instance : Wire LabelSelector where
  read j := do
    let ms ← j.members?
    return { matchLabels := ← ms.optional "matchLabels" }
  write s := .present [.ifSome "matchLabels" s.matchLabels]

/-- What a StatefulSet is to be. -/
structure StatefulSetSpec where
  replicas : Option Int32
  serviceName : String
  selector : LabelSelector
  template : PodTemplate
  minReadySeconds : Option Int32
  updateStrategy : Option UpdateStrategy
  podManagementPolicy : Option String
  revisionHistoryLimit : Option Int32
  claimRetention : Option ClaimRetention
  volumeClaimTemplates : Option (List VolumeClaim)
  deriving DecidableEq

namespace StatefulSetSpec

/-- A specification that says nothing. -/
def blank : StatefulSetSpec :=
  { replicas := none, serviceName := "", selector := ⟨none⟩, template := .blank,
    minReadySeconds := none, updateStrategy := none, podManagementPolicy := none,
    revisionHistoryLimit := none, claimRetention := none, volumeClaimTemplates := none }

instance : Wire StatefulSetSpec where
  read j := do
    let ms ← j.members?
    return {
      replicas := ← ms.optional "replicas"
      serviceName := ← ms.lenient "serviceName" ""
      selector := ← ms.lenient "selector" ⟨none⟩
      template := ← ms.lenient "template" .blank
      minReadySeconds := ← ms.optional "minReadySeconds"
      updateStrategy := ← ms.optional "updateStrategy"
      podManagementPolicy := ← ms.optional "podManagementPolicy"
      revisionHistoryLimit := ← ms.optional "revisionHistoryLimit"
      claimRetention := ← ms.optional "persistentVolumeClaimRetentionPolicy"
      volumeClaimTemplates := ← ms.optional "volumeClaimTemplates" }
  write s := .present [
    .ifSome "replicas" s.replicas,
    .always "serviceName" s.serviceName,
    .always "selector" s.selector,
    .always "template" s.template,
    .ifSome "minReadySeconds" s.minReadySeconds,
    .ifSome "updateStrategy" s.updateStrategy,
    .ifSome "podManagementPolicy" s.podManagementPolicy,
    .ifSome "revisionHistoryLimit" s.revisionHistoryLimit,
    .ifSome "persistentVolumeClaimRetentionPolicy" s.claimRetention,
    .ifSome "volumeClaimTemplates" s.volumeClaimTemplates]

end StatefulSetSpec

/-- A StatefulSet. -/
structure StatefulSet where
  metadata : ObjectMeta
  spec : Option StatefulSetSpec
  deriving DecidableEq

namespace StatefulSet

instance : KubeObject StatefulSet :=
  ⟨.statefulSet, StatefulSet.metadata, fun m s => { s with metadata := m }⟩

instance : Wire StatefulSet where
  read j := do
    let ms ← Members.ofKind? .statefulSet j
    return { metadata := ← ms.lenient "metadata" .blank, spec := ← ms.optional "spec" }
  write s := .present [
    .always "apiVersion" Kind.statefulSet.apiVersion,
    .always "kind" Kind.statefulSet.name,
    .always "metadata" s.metadata,
    .ifSome "spec" s.spec]

/-- The name of a StatefulSet. -/
def name (s : StatefulSet) : String := s.metadata.nameText

end StatefulSet

end ClusterKeeper
