import ClusterKeeper.Kubernetes.Labels
import ClusterKeeper.Kubernetes.Service
import ClusterKeeper.OperatorError
import ClusterKeeper.Resource.CartridgeConfig
import ClusterKeeper.Resource.Cluster
import ClusterKeeper.Resource.Role

/-!
What is asked of the store of objects. A replacement carries the version of the object that was read
and is refused as a conflict when the stored one has another.
-/

namespace ClusterKeeper

/-- The objects of a kind. -/
@[reducible] def Kind.Object : Kind → Type
  | .cluster => Cluster
  | .role => Role
  | .cartridgeConfig => CartridgeConfig
  | .pod => Pod
  | .statefulSet => StatefulSet
  | .service => Service
  | .secret => Secret

instance (k : Kind) : Wire k.Object :=
  match k with
  | .cluster => inferInstanceAs (Wire Cluster)
  | .role => inferInstanceAs (Wire Role)
  | .cartridgeConfig => inferInstanceAs (Wire CartridgeConfig)
  | .pod => inferInstanceAs (Wire Pod)
  | .statefulSet => inferInstanceAs (Wire StatefulSet)
  | .service => inferInstanceAs (Wire Service)
  | .secret => inferInstanceAs (Wire Secret)

instance (k : Kind) : KubeObject k.Object :=
  match k with
  | .cluster => inferInstanceAs (KubeObject Cluster)
  | .role => inferInstanceAs (KubeObject Role)
  | .cartridgeConfig => inferInstanceAs (KubeObject CartridgeConfig)
  | .pod => inferInstanceAs (KubeObject Pod)
  | .statefulSet => inferInstanceAs (KubeObject StatefulSet)
  | .service => inferInstanceAs (KubeObject Service)
  | .secret => inferInstanceAs (KubeObject Secret)

/-- A request to the store. -/
inductive StoreRequest where
  /-- The object of a name in a namespace, if there is one. -/
  | get (kind : Kind) (ns name : String)
  /-- The objects in a namespace whose labels match a selector, by name. -/
  | list (kind : Kind) (ns : String) (selector : Labels)
  /-- Creates an object, which must not exist. -/
  | create (kind : Kind) (o : kind.Object)
  /-- Replaces an object. -/
  | replace (kind : Kind) (o : kind.Object)
  /-- Replaces the status of an object and nothing else. -/
  | replaceStatus (kind : Kind) (o : kind.Object)

namespace StoreRequest

/-- The type of a request's result. -/
@[reducible] def Result : StoreRequest → Type
  | get k _ _ => Option k.Object
  | list k _ _ => List k.Object
  | create k _ | replace k _ | replaceStatus k _ => k.Object

/-- The kind of the objects that a request is about. -/
def kind : StoreRequest → Kind
  | get k .. | list k .. | create k _ | replace k _ | replaceStatus k _ => k

end StoreRequest

end ClusterKeeper
