import ClusterKeeper.Kubernetes.Meta

/-!
Entering an object's owner in its metadata. Owners are told apart by their identifiers.
-/

namespace ClusterKeeper.ObjectMeta

/-- The owners, empty when there are none. -/
def owners (m : ObjectMeta) : List OwnerReference := m.ownerReferences.getD []

/-- Whether an object of an identifier is an owner. -/
def isOwnedBy (m : ObjectMeta) (uid : String) : Bool := m.owners.any (·.uid == uid)

/-- The metadata with one more owner at the end, or nothing when that owner is there or there is none
to enter. -/
def withOwner? (owner : Option OwnerReference) (m : ObjectMeta) : Option ObjectMeta := do
  let owner ← owner
  if m.isOwnedBy owner.uid then none
  else some { m with ownerReferences := some (m.owners ++ [owner]) }

end ClusterKeeper.ObjectMeta
