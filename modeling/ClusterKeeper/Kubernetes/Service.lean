import ClusterKeeper.Kubernetes.Meta
import ClusterKeeper.Text.Base64

/-!
Services and Secrets.
-/

namespace ClusterKeeper

/-- A port by number or by name. -/
inductive PortTarget where
  | number (n : Int32)
  | named (s : String)
  deriving DecidableEq

instance : Wire PortTarget where
  read
    | .str s => some (.named s)
    | j => (Wire.read j).map .number
  write
    | .number n => Wire.write n
    | .named s => .str s

/-- A port of a service. -/
structure ServicePort where
  name : Option String
  port : Int32
  protocol : Option String
  targetPort : Option PortTarget
  nodePort : Option Int32
  deriving DecidableEq

instance : Wire ServicePort where
  read j := do
    let ms ← j.members?
    return {
      name := ← ms.optional "name"
      port := ← ms.lenient "port" 0
      protocol := ← ms.optional "protocol"
      targetPort := ← ms.optional "targetPort"
      nodePort := ← ms.optional "nodePort" }
  write p := .present [
    .ifSome "name" p.name,
    .always "port" p.port,
    .ifSome "protocol" p.protocol,
    .ifSome "targetPort" p.targetPort,
    .ifSome "nodePort" p.nodePort]

/-- What a service is to be. -/
structure ServiceSpec where
  clusterIP : Option String
  publishNotReadyAddresses : Option Bool
  selector : Option Labels
  type : Option String
  sessionAffinity : Option String
  ports : Option (List ServicePort)
  deriving DecidableEq

namespace ServiceSpec

/-- A specification that says nothing. -/
def blank : ServiceSpec := ⟨none, none, none, none, none, none⟩

instance : Wire ServiceSpec where
  read j := do
    let ms ← j.members?
    return {
      clusterIP := ← ms.optional "clusterIP"
      publishNotReadyAddresses := ← ms.optional "publishNotReadyAddresses"
      selector := ← ms.optional "selector"
      type := ← ms.optional "type"
      sessionAffinity := ← ms.optional "sessionAffinity"
      ports := ← ms.optional "ports" }
  write s := .present [
    .ifSome "clusterIP" s.clusterIP,
    .ifSome "publishNotReadyAddresses" s.publishNotReadyAddresses,
    .ifSome "selector" s.selector,
    .ifSome "type" s.type,
    .ifSome "sessionAffinity" s.sessionAffinity,
    .ifSome "ports" s.ports]

end ServiceSpec

/-- A service. -/
structure Service where
  metadata : ObjectMeta
  spec : Option ServiceSpec
  deriving DecidableEq

namespace Service

instance : KubeObject Service := ⟨.service, Service.metadata, fun m s => { s with metadata := m }⟩

instance : Wire Service where
  read j := do
    let ms ← Members.ofKind? .service j
    return { metadata := ← ms.lenient "metadata" .blank, spec := ← ms.optional "spec" }
  write s := .present [
    .always "apiVersion" Kind.service.apiVersion,
    .always "kind" Kind.service.name,
    .always "metadata" s.metadata,
    .ifSome "spec" s.spec]

/-- The name of a service. -/
def name (s : Service) : String := s.metadata.nameText

end Service

/-- Bytes, in base64 on the wire. -/
structure Bytes where
  bytes : List UInt8
  deriving DecidableEq

namespace Bytes

instance : Wire Bytes where
  read
    | .str s => (Base64.decode? s.toList).map Bytes.mk
    | _ => none
  write b := .str (String.ofList (Base64.encode b.bytes))

/-- The text that the bytes are in UTF-8, if they are. -/
def text? (b : Bytes) : Option String := String.fromUTF8? b.bytes.toByteArray

end Bytes

/-- A secret. -/
structure Secret where
  metadata : ObjectMeta
  data : Option (SortedMap Bytes)
  deriving DecidableEq

namespace Secret

instance : KubeObject Secret := ⟨.secret, Secret.metadata, fun m s => { s with metadata := m }⟩

instance : Wire Secret where
  read j := do
    let ms ← Members.ofKind? .secret j
    return { metadata := ← ms.lenient "metadata" .blank, data := ← ms.optional "data" }
  write s := .present [
    .always "apiVersion" Kind.secret.apiVersion,
    .always "kind" Kind.secret.name,
    .always "metadata" s.metadata,
    .ifSome "data" s.data]

end Secret

end ClusterKeeper
