import ClusterKeeper.Digest.Sha256
import ClusterKeeper.Drift
import ClusterKeeper.Json.Printer
import ClusterKeeper.Kubernetes.Owners
import ClusterKeeper.Replicaset.Identity
import ClusterKeeper.Resource.Role

/-!
The StatefulSet of a replicaset: how it is made from its role, and how one that exists is brought in
line with the role again.

A StatefulSet that exists keeps its selector, its volume claims and all else that can only be set once.
Its replicas only grow. Its pod template is replaced when the hash of the role's template is not the
one in its labels, and the labels of its pods always include its own.
-/

namespace ClusterKeeper

namespace PodTemplate

/-- The count of hexadecimal digits of a template's hash. -/
def hashLength : Nat := 16

/-- A hash of a template that can be the value of a label. -/
def hash (t : PodTemplate) : String :=
  let text := (Wire.write t).compact
  String.ofList ((Hex.encode (Digest.Sha256.digest text.toUTF8.data.toList)).take hashLength)

end PodTemplate

/-- The update strategy as it is set: without a rolling update where pods wait for their deletion. -/
def UpdateStrategy.settled (s : UpdateStrategy) : UpdateStrategy :=
  if s.type = some "OnDelete" then { s with rollingUpdate := none } else s

namespace Replicaset

/-- The labels that select the pods of a replicaset. -/
def selector (cluster : Cluster) (role : Role) (ordinal : Int) : Labels :=
  ((Labels.roleSelector cluster.name role.name).insert Labels.replicasetName
    (name role.name ordinal)).insert Labels.replicasetUuid (uuid role.name ordinal)

/-- The labels that a replicaset's StatefulSet has whatever its role says. -/
def requiredLabels (cluster : Cluster) (role : Role) (ordinal : Int) : Labels :=
  ((selector cluster role ordinal).insert Labels.replicasetOrdinal
    (Labels.integerText ordinal)).insert Labels.podTemplateHash role.spec.template.podTemplate.hash

/-- All labels of a replicaset's StatefulSet. -/
def labels (cluster : Cluster) (role : Role) (ordinal : Int) : Labels :=
  Labels.merge [Labels.clusterSelector cluster.name, KubeObject.labels role,
    requiredLabels cluster role ordinal]

end Replicaset

namespace StatefulSet

/-- The specification, one that says nothing when there is none. -/
def currentSpec (s : StatefulSet) : StatefulSetSpec := s.spec.getD .blank

/-- The StatefulSet with a member of its specification changed. -/
def withSpec (s : StatefulSet) (f : StatefulSetSpec → StatefulSetSpec) : StatefulSet :=
  { s with spec := some (f s.currentSpec) }

/-- Enters the role as the owner. -/
def adjustOwner (role : Role) : Adjustment StatefulSet := fun s =>
  (s.metadata.withOwner? (KubeObject.controllerReference role)).map fun m => { s with metadata := m }

/-- Raises the replicas to the role's. -/
def adjustReplicas (role : Role) : Adjustment StatefulSet := fun s =>
  let wanted := role.spec.template.replicas
  if s.currentSpec.replicas.getD 0 < wanted then
    some (s.withSpec ({ · with replicas := some wanted }))
  else none

/-- Sets the seconds until a pod counts as available. -/
def adjustMinReady (role : Role) : Adjustment StatefulSet := fun s =>
  let wanted := role.spec.template.minReadySeconds
  if s.currentSpec.minReadySeconds.getD 0 ≠ wanted.getD 0 then
    some (s.withSpec ({ · with minReadySeconds := wanted }))
  else none

/-- Sets the update strategy, where the role has one. -/
def adjustStrategy (role : Role) : Adjustment StatefulSet := fun s =>
  match role.spec.template.updateStrategy with
  | none => none
  | some strategy =>
    if s.currentSpec.updateStrategy ≠ some strategy.settled then
      some (s.withSpec ({ · with updateStrategy := some strategy.settled }))
    else none

/-- Replaces the pod template when the hash in the labels is another. -/
def adjustTemplate (role : Role) : Adjustment StatefulSet := fun s =>
  let wanted := role.spec.template.podTemplate
  if s.metadata.labelSet.get? Labels.podTemplateHash ≠ some wanted.hash then
    some (s.withSpec ({ · with template := wanted }))
  else none

/-- Sets the labels. -/
def adjustLabels (wanted : Labels) : Adjustment StatefulSet := fun s =>
  if s.metadata.labels ≠ some wanted then
    some { s with metadata := { s.metadata with labels := some wanted } }
  else none

/-- Adds the labels to those of the pods. -/
def adjustPodLabels (wanted : Labels) : Adjustment StatefulSet := fun s =>
  let template := s.currentSpec.template
  let merged := Labels.merge [template.podLabels.getD .empty, wanted]
  if template.podLabels ≠ some merged then
    some (s.withSpec ({ · with template := template.withLabels merged }))
  else none

/-- Sets the annotations. -/
def adjustAnnotations (role : Role) : Adjustment StatefulSet := fun s =>
  let wanted := role.metadata.annotations.getD .empty
  if s.metadata.annotations.getD .empty ≠ wanted then
    some { s with metadata := { s.metadata with annotations := some wanted } }
  else none

/-- All that keeps the StatefulSet of a replicaset in line with its role. -/
def adjustments (cluster : Cluster) (role : Role) (ordinal : Int) : List (Adjustment StatefulSet) :=
  let labels := Replicaset.labels cluster role ordinal
  [adjustOwner role, adjustReplicas role, adjustMinReady role, adjustStrategy role,
    adjustTemplate role, adjustLabels labels, adjustPodLabels labels, adjustAnnotations role]

/-- A StatefulSet in line with the role, and whether that needed a change. -/
def synced (cluster : Cluster) (role : Role) (ordinal : Int) (s : StatefulSet) : StatefulSet × Bool :=
  adjusted (adjustments cluster role ordinal) s

/-- What is set when a StatefulSet is made and never again. -/
def skeleton (cluster : Cluster) (role : Role) (ordinal : Int) : StatefulSet where
  metadata := { ObjectMeta.blank with
    name := some (Replicaset.name role.name ordinal)
    ns := role.metadata.ns }
  spec := some { StatefulSetSpec.blank with
    replicas := some role.spec.template.replicas
    serviceName := cluster.name
    podManagementPolicy := some "Parallel"
    revisionHistoryLimit := some 1
    claimRetention := some ⟨some "Retain", some "Retain"⟩
    selector := ⟨some (Replicaset.selector cluster role ordinal)⟩
    volumeClaimTemplates :=
      if role.spec.template.volumeClaimTemplates = [] then none
      else some role.spec.template.volumeClaimTemplates }

/-- The StatefulSet of a replicaset. -/
def ofRole (cluster : Cluster) (role : Role) (ordinal : Int) : StatefulSet :=
  (synced cluster role ordinal (skeleton cluster role ordinal)).1

/-- The ordinal in the labels of a StatefulSet. -/
def ordinal? (s : StatefulSet) : Option Int :=
  (s.metadata.labelSet.get? Labels.replicasetOrdinal).bind readInt32?

end StatefulSet

end ClusterKeeper
