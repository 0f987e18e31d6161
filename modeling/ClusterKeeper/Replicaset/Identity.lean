import ClusterKeeper.Digest.Uuid
import ClusterKeeper.Kubernetes.Labels
import ClusterKeeper.Resource.Cluster

/-!
What a replicaset and its instances are called. The replicaset with an ordinal in a role is named after
both, and its identifier is made from the name, so that it is the same whenever the replicaset is made
again.
-/

namespace ClusterKeeper

namespace Replicaset

/-- The name of a replicaset of a role. -/
def name (role : String) (ordinal : Int) : String := role ++ "-" ++ Labels.integerText ordinal

/-- The namespace of the identifiers of replicasets. -/
def idSpace : List UInt8 :=
  [0x86, 0x01, 0x61, 0x5b, 0xc3, 0x9f, 0x4f, 0xd9, 0xa8, 0x8b, 0x9d, 0xf6, 0x88, 0x65, 0x6c, 0xbd]

/-- The identifier that a name has. -/
def uuidOfName (name : String) : String := Uuid.text (Uuid.ofName idSpace name.toUTF8.data.toList)

/-- The identifier of a replicaset of a role. -/
def uuid (role : String) (ordinal : Int) : String := uuidOfName (name role ordinal)

end Replicaset

/-- The address at which instances of a cluster reach a pod. -/
def Cluster.advertiseUri (c : Cluster) (pod : String) : String :=
  pod ++ "." ++ c.name ++ "." ++ c.nsOf ++ ".svc." ++ c.spec.domain ++ ":" ++
    Labels.integerText c.spec.listenPort.toInt

end ClusterKeeper
