import ClusterKeeper.Pass.Surroundings
import ClusterKeeper.Replicaset.Workload

/-!
Keeping the StatefulSets of a role in the store: one is made for every replicaset that has none, and
those that have drifted from the role are replaced.
-/

namespace ClusterKeeper.Replicaset

/-- The namespace of an object, which it has to have. -/
def namespaceOf (m : ObjectMeta) : Attempt String :=
  match m.ns with
  | some ns => pure ns
  | none => throw (.invalidConfig "Resource must be namespaced")

/-- Makes the StatefulSet of a replicaset that has none. -/
def createMissing (cluster : Cluster) (role : Role) (ns : String) (ordinal : Nat) : Attempt Unit := do
  let existing ← Attempt.list .statefulSet ns
    (Labels.ordinalSelector cluster.name role.name ordinal)
  if existing.isEmpty then
    Attempt.log .info "Creating replicaset StatefulSet"
    let _ ← Attempt.create .statefulSet (StatefulSet.ofRole cluster role ordinal)

/-- Makes the StatefulSets of the replicasets that have none. -/
def createAll (cluster : Cluster) (role : Role) : Attempt Unit := do
  let ns ← namespaceOf role.metadata
  Program.throughUpTo (fun ordinal _ => createMissing cluster role ns ordinal)
    role.replicasets.toNat 0 ()

/-- Replaces a StatefulSet that has drifted. One whose labels do not tell its ordinal is left alone. -/
def updateDrifted (cluster : Cluster) (role : Role) (s : StatefulSet) : Attempt Unit := do
  match s.ordinal? with
  | none => Attempt.log .warn "StatefulSet has no replicaset ordinal label, skipping"
  | some ordinal =>
    match StatefulSet.synced cluster role ordinal s with
    | (_, false) => return ()
    | (synced, true) =>
      Attempt.log .info "Updating replicaset StatefulSet"
      let _ ← Attempt.replace .statefulSet synced

/-- Replaces the StatefulSets of a role that have drifted. -/
def updateAll (cluster : Cluster) (role : Role) : Attempt Unit := do
  let ns ← namespaceOf role.metadata
  let existing ← Attempt.list .statefulSet ns (Labels.roleSelector cluster.name role.name)
  Program.through (fun s _ => updateDrifted cluster role s) existing ()

end ClusterKeeper.Replicaset
