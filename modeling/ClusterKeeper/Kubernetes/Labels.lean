import ClusterKeeper.Kubernetes.Meta

/-!
The labels that tie objects to a cluster, a role and a replicaset, the selectors made of them, and the
names of pods.
-/

namespace ClusterKeeper

namespace Labels

/-- The name of the cluster an object belongs to. -/
def clusterName : String := "tarantool.io/cluster-name"

/-- The name of the role an object belongs to. -/
def roleName : String := "tarantool.io/role-name"

/-- The name of a replicaset. -/
def replicasetName : String := "tarantool.io/replicaset-name"

/-- The identifier of a replicaset. -/
def replicasetUuid : String := "tarantool.io/replicaset-uuid"

/-- The ordinal of a replicaset within its role. -/
def replicasetOrdinal : String := "tarantool.io/replicaset-ordinal"

/-- The hash of the pod template that a StatefulSet was made from. -/
def podTemplateHash : String := "tarantool.io/replicaset-pod-template-hash"

/-- The decimal text of an integer. -/
def integerText (i : Int) : String := String.ofList (Json.integer i)

/-- Selects every object of a cluster. -/
def clusterSelector (cluster : String) : Labels := SortedMap.empty.insert clusterName cluster

/-- Selects every object of a role. -/
def roleSelector (cluster role : String) : Labels := (clusterSelector cluster).insert roleName role

/-- Selects the objects of one replicaset of a role. -/
def ordinalSelector (cluster role : String) (ordinal : Int) : Labels :=
  (roleSelector cluster role).insert replicasetOrdinal (integerText ordinal)

/-- The text of a selector: its pairs with an equals sign in each and commas between them. -/
def selectorText (selector : Labels) : String :=
  ",".intercalate (selector.entries.map fun e => e.1 ++ "=" ++ e.2)

/-- Whether labels, if there are any, carry every pair of a selector. -/
def Matches (labels : Option Labels) (selector : Labels) : Prop :=
  ∀ e ∈ selector.entries, (labels.bind (·.get? e.1)) = some e.2

instance (labels : Option Labels) (selector : Labels) : Decidable (Matches labels selector) :=
  inferInstanceAs (Decidable (∀ e ∈ selector.entries, _))

/-- Several sets of labels as one, the later ones winning. -/
def merge (sets : List Labels) : Labels := sets.foldl SortedMap.union .empty

end Labels

/-- The name of the pod of a StatefulSet with an ordinal. -/
def podName (statefulSet : String) (ordinal : Int) : String :=
  statefulSet ++ "-" ++ Labels.integerText ordinal

/-- The integer of 32 bits that a text writes in ASCII digits with a sign or none. -/
def readInt32? (s : String) : Option Int :=
  let (negative, ds) := match s.toList with
    | '+' :: ds => (false, ds)
    | '-' :: ds => (true, ds)
    | ds => (false, ds)
  if ds = [] ∨ !ds.all Char.isDigit then none
  else
    let n := ds.foldl (fun n c => n * 10 + (c.toNat - '0'.toNat)) 0
    let i : Int := if negative then -Int.ofNat n else Int.ofNat n
    if -0x80000000 ≤ i ∧ i < 0x80000000 then some i else none

end ClusterKeeper
