import ClusterKeeper.Http.Exchange
import ClusterKeeper.Store

/-!
The store of objects as the API server serves it. Every request to the store is one exchange: objects are
read with GET, created with POST in their kind's collection, and replaced with PUT, a status by itself
under the object. That an object was modified since it was read is told by the code of the refusal.
-/

namespace ClusterKeeper

namespace Kind

/-- The path of a kind's collection in a namespace. Only the oldest group has no name of its own. -/
def collection (k : Kind) (ns : String) : String :=
  let root := match k with
    | pod | service | secret => "/api/"
    | cluster | role | cartridgeConfig | statefulSet => "/apis/"
  root ++ k.apiVersion ++ "/namespaces/" ++ ns ++ "/" ++ k.plural

/-- The path of an object. -/
def path (k : Kind) (ns name : String) : String := k.collection ns ++ "/" ++ name

end Kind

/-- Whether the metadata of a list can be read. -/
def listMetadataReadable (j : Json) : Option Unit := do
  let ms ← j.members?
  let _ : Option String ← ms.optional "continue"
  let _ : Option Int64 ← ms.optional "remainingItemCount"
  let _ : Option String ← ms.optional "resourceVersion"
  let _ : Option String ← ms.optional "selfLink"

/-- The objects of a list. -/
def Kind.itemsOf? (k : Kind) (body : Json) : Option (List k.Object) := do
  let ms ← body.members?
  let _ : String ← ms.defaulted "apiVersion" ""
  let _ : String ← ms.defaulted "kind" ""
  match body.get? "metadata" with
  | none => some ()
  | some m => listMetadataReadable m
  ms.required "items"

/-- Objects in the order in which they are looked at: roles by name, all others as they come. -/
def Kind.arranged (k : Kind) (items : List k.Object) : List k.Object :=
  match k with
  | .role => items.mergeSort fun a b => decide (KubeObject.name a ≤ KubeObject.name b)
  | .cluster | .cartridgeConfig | .pod | .statefulSet | .service | .secret => items

namespace StoreRequest

/-- The reason of a refusal that says that there is no object. -/
def absentReason : String := "NotFound"

/-- The object, or none when the server says that there is none. -/
def orAbsent {α : Type} : Except (Option ApiRefusal) α → Except OperatorError (Option α)
  | .ok a => .ok (some a)
  | .error (some refusal) =>
    if refusal.reason = absentReason then .ok none else .error (.kube (some refusal))
  | .error none => .error (.kube none)

/-- The failure of a replacement. -/
def replaceError (kind : Kind) (name : String) : Option ApiRefusal → OperatorError
  | some refusal =>
    if refusal.code = OperatorError.conflictCode then .conflict kind.name name
    else .kube (some refusal)
  | none => .kube none

/-- Sends an object to where it is, or to a part of it, and reads the object as it then is. -/
def put (kind : Kind) (o : kind.Object) (part : String) : Exchange kind.Object := do
  Exchange.named (KubeObject.name o)
  let target := Http.Target.text (kind.path (KubeObject.nsOf o) (KubeObject.name o) ++ part) []
  Exchange.typed Wire.read (← Exchange.call .put target (some (Wire.write o)))

/-- Carries a request to the store out. -/
def perform : (q : StoreRequest) → Program ApiServer (Except OperatorError q.Result)
  | get kind ns name => do
    let found : Exchange kind.Object := do
      Exchange.named name
      Exchange.typed Wire.read (← Exchange.call .get (kind.path ns name) none)
    return orAbsent (← found.run)
  | list kind ns selector => do
    let target := Http.Target.text (kind.collection ns) [("labelSelector", selector.selectorText)]
    let items : Exchange (List kind.Object) := do
      Exchange.typed kind.itemsOf? (← Exchange.call .get target none)
    return ((← items.run).map kind.arranged).mapError OperatorError.kube
  | create kind o => do
    let target := Http.Target.text (kind.collection (KubeObject.nsOf o)) []
    let created : Exchange kind.Object := do
      Exchange.typed Wire.read (← Exchange.call .post target (some (Wire.write o)))
    return (← created.run).mapError OperatorError.kube
  | replace kind o => do
    return (← (put kind o "").run).mapError (replaceError kind (KubeObject.name o))
  | replaceStatus kind o => do
    return (← (put kind o "/status").run).mapError (replaceError kind (KubeObject.name o))

end StoreRequest

end ClusterKeeper
