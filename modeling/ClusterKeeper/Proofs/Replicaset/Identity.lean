import ClusterKeeper.Proofs.Pass.Probing

/-!
What replicasets and instances are called, over all roles. Names are put together with a hyphen, which the
name of a role may contain: the instances of a role "a" and the replicasets of a role "a-1" share names.
But the last hyphen is always the one before the ordinal, as a number that is not negative has none, so within
a kind a name tells all that it was made from.

Main statement: identities never collide (`InstanceId.identities_injective`).
-/

namespace ClusterKeeper

/-- What tells a replicaset: its role and its ordinal in it. -/
structure ReplicasetId where
  role : String
  ordinal : Nat
  deriving DecidableEq

namespace ReplicasetId

/-- The name of the replicaset, which is also that of its StatefulSet. -/
def name (i : ReplicasetId) : String := Replicaset.name i.role i.ordinal

/-- The bytes that the identifier of the replicaset is made from. -/
def hashed (i : ReplicasetId) : List UInt8 := i.name.toUTF8.data.toList

theorem name_injective : Function.Injective name := by
  rintro ⟨role, ordinal⟩ ⟨role', ordinal'⟩ h
  obtain ⟨rfl, rfl⟩ := append_integerText_inj h
  rfl

theorem hashed_injective : Function.Injective hashed := by
  intro i i' h
  have hbytes : i.name.toUTF8 = i'.name.toUTF8 := ByteArray.ext (Array.toList_inj.1 h)
  exact name_injective (String.toByteArray_inj.1 hbytes)

end ReplicasetId

/-- What tells an instance: its replicaset and its replica in it. -/
structure InstanceId where
  replicaset : ReplicasetId
  replica : Nat
  deriving DecidableEq

namespace InstanceId

/-- The name of the instance's pod. -/
def pod (i : InstanceId) : String := podName i.replicaset.name i.replica

theorem pod_injective : Function.Injective pod := by
  rintro ⟨replicaset, replica⟩ ⟨replicaset', replica'⟩ h
  obtain ⟨hname, rfl⟩ := RolePass.podName_inj h
  obtain rfl : replicaset = replicaset' := ReplicasetId.name_injective hname
  rfl

/-- The names of replicasets and of pods tell what they were made from, addresses in a cluster tell the pod, and
identifiers are made from bytes that tell the replicaset. -/
theorem identities_injective :
    Function.Injective ReplicasetId.name ∧
    Function.Injective pod ∧
    (∀ cluster : Cluster, Function.Injective cluster.advertiseUri ∧
      Function.Injective fun i : InstanceId => cluster.advertiseUri i.pod) ∧
    Function.Injective ReplicasetId.hashed ∧
    ∀ i : ReplicasetId,
      Replicaset.uuid i.role i.ordinal = Uuid.text (Uuid.ofName Replicaset.idSpace i.hashed) := by
  have hadvertise (cluster : Cluster) : Function.Injective cluster.advertiseUri :=
    fun _ _ h => RolePass.advertiseUri_inj h
  exact ⟨ReplicasetId.name_injective, pod_injective,
    fun cluster => ⟨hadvertise cluster, (hadvertise cluster).comp pod_injective⟩,
    ReplicasetId.hashed_injective, fun _ => rfl⟩

/-- A pod and a replicaset may share a name. -/
example : pod ⟨⟨"a", 1⟩, 0⟩ = ReplicasetId.name ⟨"a-1", 0⟩ := by decide

/-- Ordinals that are negative would not be told from the name of the role. -/
example : Replicaset.name "a" (-1) = Replicaset.name "a-" 1 := by decide

end InstanceId

end ClusterKeeper
