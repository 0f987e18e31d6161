import ClusterKeeper.Drift
import ClusterKeeper.Kubernetes.Labels
import ClusterKeeper.Kubernetes.Owners
import ClusterKeeper.Kubernetes.Service
import ClusterKeeper.Resource.Cluster

/-!
The service of a cluster through which its instances resolve each other. It has no address of its own
and names instances before they are ready. One that exists is brought in line in its address, its
readiness rule, its selector, its ports and its owner; all else in it is left alone.
-/

namespace ClusterKeeper

/-- What tells ports apart: the name, the number and the protocol. -/
def ServicePort.key (p : ServicePort) : Option String × Int32 × Option String :=
  (p.name, p.port, p.protocol)

/-- The service of a cluster. -/
def Cluster.service (c : Cluster) : Service :=
  let selector := Labels.clusterSelector c.name
  let port := c.spec.listenPort
  let named (name protocol : String) : ServicePort :=
    { name := some name, port, protocol := some protocol, targetPort := some (.number port),
      nodePort := none }
  { metadata := { ObjectMeta.blank with
      name := some c.name
      ns := c.metadata.ns
      labels := some selector
      ownerReferences := (KubeObject.controllerReference c).map fun owner => [owner] }
    spec := some { ServiceSpec.blank with
      clusterIP := some "None"
      publishNotReadyAddresses := some true
      selector := some selector
      ports := some [named "app" "TCP", named "app-udp" "UDP"] } }

namespace Service

/-- The specification, one that says nothing when there is none. -/
def currentSpec (s : Service) : ServiceSpec := s.spec.getD .blank

/-- The service with a member of its specification changed. -/
def withSpec (s : Service) (f : ServiceSpec → ServiceSpec) : Service :=
  { s with spec := some (f s.currentSpec) }

/-- What tells the ports of a service apart, in order. -/
def portKeys (s : ServiceSpec) : List (Option String × Int32 × Option String) :=
  (s.ports.getD []).map ServicePort.key

/-- Takes over the address. -/
def adjustAddress (wanted : ServiceSpec) : Adjustment Service := fun s =>
  if s.currentSpec.clusterIP ≠ wanted.clusterIP then
    some (s.withSpec ({ · with clusterIP := wanted.clusterIP }))
  else none

/-- Takes over whether instances are named before they are ready. -/
def adjustReadiness (wanted : ServiceSpec) : Adjustment Service := fun s =>
  if s.currentSpec.publishNotReadyAddresses ≠ wanted.publishNotReadyAddresses then
    some (s.withSpec ({ · with publishNotReadyAddresses := wanted.publishNotReadyAddresses }))
  else none

/-- Takes over the selector. -/
def adjustSelector (wanted : ServiceSpec) : Adjustment Service := fun s =>
  if s.currentSpec.selector ≠ wanted.selector then
    some (s.withSpec ({ · with selector := wanted.selector }))
  else none

/-- Takes over the ports when they differ in what tells ports apart. -/
def adjustPorts (wanted : ServiceSpec) : Adjustment Service := fun s =>
  if portKeys s.currentSpec ≠ portKeys wanted then
    some (s.withSpec ({ · with ports := wanted.ports }))
  else none

/-- Enters the owner. -/
def adjustOwner (owner : Option OwnerReference) : Adjustment Service := fun s =>
  (s.metadata.withOwner? owner).map fun m => { s with metadata := m }

/-- All that keeps a service in line with another. -/
def adjustments (wanted : Service) : List (Adjustment Service) :=
  [adjustAddress wanted.currentSpec, adjustReadiness wanted.currentSpec,
    adjustSelector wanted.currentSpec, adjustPorts wanted.currentSpec,
    adjustOwner wanted.metadata.owners.head?]

/-- A service in line with another, and whether that needed a change. -/
def synced (wanted s : Service) : Service × Bool := adjusted (adjustments wanted) s

end Service

end ClusterKeeper
