import ClusterKeeper.Json.Printer
import ClusterKeeper.Json.Wire

/-!
What all Kubernetes objects have in common: names, labels, owners, and the marks of deletion.
-/

namespace ClusterKeeper

/-- Labels, annotations and other maps from text to text. -/
abbrev Labels := SortedMap String

namespace Timestamp

/-- The number that some digits write, if it lies in a range. -/
def field? (low high : Nat) (cs : List Char) : Option Nat :=
  if cs.all Char.isDigit then
    let n := cs.foldl (fun n c => n * 10 + (c.toNat - '0'.toNat)) 0
    if low ≤ n ∧ n ≤ high then some n else none
  else none

/-- The count of days in a month. -/
def daysOfMonth (year month : Nat) : Nat :=
  if month = 2 then
    if year % 4 = 0 ∧ (year % 100 ≠ 0 ∨ year % 400 = 0) then 29 else 28
  else if [4, 6, 9, 11].contains month then 30 else 31

/-- Whether a text writes an instant. -/
def isInstant (s : String) : Bool :=
  match s.toList with
  | [y1, y2, y3, y4, '-', m1, m2, '-', d1, d2, 'T', h1, h2, ':', n1, n2, ':', s1, s2, 'Z'] =>
    Option.isSome do
      let year ← field? 0 9999 [y1, y2, y3, y4]
      let month ← field? 1 12 [m1, m2]
      let _ ← field? 1 (daysOfMonth year month) [d1, d2]
      let _ ← field? 0 23 [h1, h2]
      let _ ← field? 0 59 [n1, n2]
      field? 0 59 [s1, s2]
  | _ => false

end Timestamp

/-- An instant in whole seconds, as it is written: `YYYY-MM-DDTHH:MM:SSZ`. -/
structure Timestamp where
  text : String
  wellFormed : Timestamp.isInstant text = true
  deriving DecidableEq

namespace Timestamp

/-- Reads an instant. -/
def ofText? (s : String) : Option Timestamp := if h : isInstant s = true then some ⟨s, h⟩ else none

instance : Wire Timestamp where
  read
    | .str s => ofText? s
    | _ => none
  write t := .str t.text

end Timestamp

/-- An object that another one belongs to. -/
structure OwnerReference where
  apiVersion : String
  kind : String
  name : String
  uid : String
  controller : Option Bool
  deriving DecidableEq

instance : Wire OwnerReference where
  read j := do
    let ms ← j.members?
    return {
      apiVersion := ← ms.lenient "apiVersion" ""
      kind := ← ms.lenient "kind" ""
      name := ← ms.lenient "name" ""
      uid := ← ms.lenient "uid" ""
      controller := ← ms.optional "controller" }
  write o := .present [
    .always "apiVersion" o.apiVersion,
    .always "kind" o.kind,
    .always "name" o.name,
    .always "uid" o.uid,
    .ifSome "controller" o.controller]

/-- The metadata of an object. -/
structure ObjectMeta where
  name : Option String
  ns : Option String
  uid : Option String
  resourceVersion : Option String
  generation : Option Int64
  labels : Option Labels
  annotations : Option Labels
  finalizers : Option (List String)
  ownerReferences : Option (List OwnerReference)
  deletionTimestamp : Option Timestamp
  deriving DecidableEq

namespace ObjectMeta

/-- Metadata without any member. -/
def blank : ObjectMeta := ⟨none, none, none, none, none, none, none, none, none, none⟩

instance : Inhabited ObjectMeta := ⟨blank⟩

instance : Wire ObjectMeta where
  read j := do
    let ms ← j.members?
    return {
      name := ← ms.optional "name"
      ns := ← ms.optional "namespace"
      uid := ← ms.optional "uid"
      resourceVersion := ← ms.optional "resourceVersion"
      generation := ← ms.optional "generation"
      labels := ← ms.optional "labels"
      annotations := ← ms.optional "annotations"
      finalizers := ← ms.optional "finalizers"
      ownerReferences := ← ms.optional "ownerReferences"
      deletionTimestamp := ← ms.optional "deletionTimestamp" }
  write m := .present [
    .ifSome "name" m.name,
    .ifSome "namespace" m.ns,
    .ifSome "uid" m.uid,
    .ifSome "resourceVersion" m.resourceVersion,
    .ifSome "generation" m.generation,
    .ifSome "labels" m.labels,
    .ifSome "annotations" m.annotations,
    .ifSome "finalizers" m.finalizers,
    .ifSome "ownerReferences" m.ownerReferences,
    .ifSome "deletionTimestamp" m.deletionTimestamp]

/-- The name, empty when there is none. -/
def nameText (m : ObjectMeta) : String := m.name.getD ""

/-- The namespace, empty when there is none. -/
def nsText (m : ObjectMeta) : String := m.ns.getD ""

/-- The labels, empty when there are none. -/
def labelSet (m : ObjectMeta) : Labels := m.labels.getD .empty

/-- Whether the object is being deleted. -/
def isDeleting (m : ObjectMeta) : Bool := m.deletionTimestamp.isSome

/-- Whether anything still holds the object. -/
def hasFinalizers (m : ObjectMeta) : Bool := m.finalizers.any (fun fs => !fs.isEmpty)

end ObjectMeta

/-- The kinds of objects, with the API group and version that they belong to. -/
inductive Kind where
  | cluster
  | role
  | cartridgeConfig
  | pod
  | statefulSet
  | service
  | secret
  deriving DecidableEq

namespace Kind

/-- All kinds. -/
def all : List Kind := [cluster, role, cartridgeConfig, pod, statefulSet, service, secret]

/-- The name of a kind. -/
def name : Kind → String
  | cluster => "Cluster"
  | role => "Role"
  | cartridgeConfig => "CartridgeConfig"
  | pod => "Pod"
  | statefulSet => "StatefulSet"
  | service => "Service"
  | secret => "Secret"

/-- The kind of a name. -/
def ofName? (s : String) : Option Kind := all.find? (·.name = s)

/-- The API group and version. -/
def apiVersion : Kind → String
  | cluster => "tarantool.io/v1alpha2"
  | role | cartridgeConfig => "tarantool.io/v1beta1"
  | statefulSet => "apps/v1"
  | pod | service | secret => "v1"

/-- The name of a kind's collection in paths. -/
def plural : Kind → String
  | cluster => "clusters"
  | role => "roles"
  | cartridgeConfig => "cartridgeconfigs"
  | pod => "pods"
  | statefulSet => "statefulsets"
  | service => "services"
  | secret => "secrets"

end Kind

namespace Members

/-- A member that may be absent but has to be a given text otherwise. -/
def fixed (ms : Members) (k : String) (text : String) : Option Unit :=
  match Entries.get? ms k with
  | none => some ()
  | some (.str s) => if s = text then some () else none
  | some _ => none

/-- The members of an object of a kind; the kind and its API version may be left out. -/
def ofKind? (kind : Kind) (j : Json) : Option Members := do
  let ms ← j.members?
  ms.fixed "apiVersion" kind.apiVersion
  ms.fixed "kind" kind.name
  return ms

end Members

/-- A reference to an object, as events carry it. -/
structure ObjectReference where
  apiVersion : Option String
  kind : Option String
  name : Option String
  ns : Option String
  uid : Option String
  resourceVersion : Option String
  fieldPath : Option String
  deriving DecidableEq

namespace ObjectReference

instance : Wire ObjectReference where
  read j := do
    let ms ← j.members?
    return {
      apiVersion := ← ms.optional "apiVersion"
      kind := ← ms.optional "kind"
      name := ← ms.optional "name"
      ns := ← ms.optional "namespace"
      uid := ← ms.optional "uid"
      resourceVersion := ← ms.optional "resourceVersion"
      fieldPath := ← ms.optional "fieldPath" }
  write r := .present [
    .ifSome "apiVersion" r.apiVersion,
    .ifSome "kind" r.kind,
    .ifSome "name" r.name,
    .ifSome "namespace" r.ns,
    .ifSome "uid" r.uid,
    .ifSome "resourceVersion" r.resourceVersion,
    .ifSome "fieldPath" r.fieldPath]

end ObjectReference

/-- Objects of a kind, with their metadata. -/
class KubeObject (α : Type) where
  kind : Kind
  metadata : α → ObjectMeta
  setMetadata : ObjectMeta → α → α

namespace KubeObject

variable {α : Type} [KubeObject α]

/-- The name of an object. -/
def name (a : α) : String := (metadata a).nameText

/-- The namespace of an object. -/
def nsOf (a : α) : String := (metadata a).nsText

/-- The labels of an object. -/
def labels (a : α) : Labels := (metadata a).labelSet

/-- A reference to an object. -/
def reference (a : α) : ObjectReference :=
  let k := kind (α := α)
  { apiVersion := some k.apiVersion
    kind := some k.name
    name := (metadata a).name
    ns := (metadata a).ns
    uid := (metadata a).uid
    resourceVersion := none
    fieldPath := none }

/-- An object as the controlling owner of others; it needs a name and an identifier. -/
def controllerReference (a : α) : Option OwnerReference :=
  let k := kind (α := α)
  match (metadata a).name, (metadata a).uid with
  | some name, some uid =>
    some { apiVersion := k.apiVersion, kind := k.name, name, uid, controller := some true }
  | _, _ => none

end KubeObject

end ClusterKeeper
