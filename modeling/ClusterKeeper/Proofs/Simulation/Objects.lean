import ClusterKeeper.Proofs.SortedMap
import ClusterKeeper.Simulation.Objects

/-!
The store in memory. Storing an object changes what is found in its place and nowhere else, and every
object is found under its own name and has an identifier (`Objects.Kept`), whatever is asked of the store
(`Objects.Kept.answer`).

A status that is replaced changes nothing of the stored object but the status and the version: what
there is besides is its `Kind.core`.
-/

namespace ClusterKeeper

/-- Metadata without the version. -/
def ObjectMeta.unversioned (m : ObjectMeta) : ObjectMeta := { m with resourceVersion := none }

section

variable {k : Kind}

@[simp] theorem KubeObject.metadata_setMetadata (m : ObjectMeta) (o : k.Object) :
    KubeObject.metadata (KubeObject.setMetadata m o) = m := by
  cases k <;> rfl

/-- An object without its version and its status. -/
def Kind.core {k : Kind} (o : k.Object) : k.Object :=
  let m := (KubeObject.metadata o).unversioned
  match k, o with
  | .cluster, o => { o with metadata := m, status := none }
  | .role, o => { o with metadata := m, status := none }
  | .cartridgeConfig, o => { o with metadata := m, status := none }
  | .pod, o => { o with metadata := m, status := none }
  | .statefulSet, o => { o with metadata := m }
  | .service, o => { o with metadata := m }
  | .secret, o => { o with metadata := m }

variable {o o' : k.Object}

theorem Kind.metadata_core :
    KubeObject.metadata (Kind.core o) = (KubeObject.metadata o).unversioned := by
  cases k <;> rfl

/-- Objects with one core agree in all of their metadata that does not depend on the version. -/
theorem Kind.of_core {β : Type} (h : Kind.core o = Kind.core o') (f : ObjectMeta → β)
    (hf : ∀ m, f m.unversioned = f m) :
    f (KubeObject.metadata o) = f (KubeObject.metadata o') := by
  rw [← hf, ← hf (KubeObject.metadata o'), ← Kind.metadata_core, ← Kind.metadata_core, h]

theorem Kind.nsText_of_core (h : Kind.core o = Kind.core o') :
    (KubeObject.metadata o).nsText = (KubeObject.metadata o').nsText :=
  Kind.of_core h ObjectMeta.nsText fun _ => rfl

theorem Kind.nameText_of_core (h : Kind.core o = Kind.core o') :
    (KubeObject.metadata o).nameText = (KubeObject.metadata o').nameText :=
  Kind.of_core h ObjectMeta.nameText fun _ => rfl

end

/-- Clusters with one core have the same specification. -/
theorem Cluster.spec_of_core {c c' : Cluster}
    (h : Kind.core (k := .cluster) c = Kind.core (k := .cluster) c') : c.spec = c'.spec := by
  have hspec := congrArg Cluster.spec h
  exact hspec

namespace Simulation

namespace Shelf

variable {α : Type} {s : Shelf α} {ns ns' name name' : String} {o : α}

theorem get?_inNamespace : (s.inNamespace ns).get? name = s.find? ns name := by
  rw [inNamespace, find?]
  cases s.get? ns <;> rfl

theorem find?_put : (s.put ns name o).find? ns' name' =
    if ns' = ns ∧ name' = name then some o else s.find? ns' name' := by
  rw [put, find?, SortedMap.get?_insert]
  by_cases hns : ns' = ns
  · rw [if_pos hns, Option.bind_some, SortedMap.get?_insert, get?_inNamespace, hns]
    simp only [true_and]
  · rw [if_neg hns, if_neg fun h => hns h.1]
    rfl

end Shelf

namespace Objects

variable {os : Objects} {k k' : Kind} {o stored given : k.Object} {ns name : String}

/-- The objects in a namespace whose labels match a selector. -/
def matching (os : Objects) (k : Kind) (ns : String) (selector : Labels) : List k.Object :=
  ((os.shelf k).inNamespace ns).values.filter fun o =>
    Labels.Matches (KubeObject.metadata o).labels selector

theorem mem_matching {selector : Labels} : o ∈ os.matching k ns selector ↔
    (∃ name, os.find? k ns name = some o) ∧ Labels.Matches (KubeObject.metadata o).labels selector := by
  rw [matching, List.mem_filter, SortedMap.mem_values, decide_eq_true_iff]
  simp only [Shelf.get?_inNamespace]
  rfl

/-- Stores of the same objects of a kind list the same. -/
theorem matching_congr {os' : Objects} (h : os'.shelf k = os.shelf k) (ns : String) (selector : Labels) :
    os'.matching k ns selector = os.matching k ns selector := by
  rw [matching, matching, h]

theorem find?_congr {os' : Objects} (h : os'.shelf k = os.shelf k) (ns name : String) :
    os'.find? k ns name = os.find? k ns name := by
  rw [find?, find?, h]

/-! ### Storing an object -/

@[simp] theorem metadata_put : KubeObject.metadata (os.put k o).1 =
    stamped (os.version + 1) (KubeObject.metadata o) := KubeObject.metadata_setMetadata _ _

theorem shelf_put_of_ne (h : k' ≠ k) : (os.put k o).2.shelf k' = os.shelf k' :=
  dif_neg fun heq => h heq.symm

theorem find?_put_of_ne (h : k' ≠ k) : (os.put k o).2.find? k' ns name = os.find? k' ns name :=
  find?_congr (shelf_put_of_ne h) ns name

theorem find?_put : (os.put k o).2.find? k ns name =
    if ns = (KubeObject.metadata o).nsText ∧ name = (KubeObject.metadata o).nameText
    then some (os.put k o).1 else os.find? k ns name := by
  have hshelf : (os.put k o).2.shelf k = (os.shelf k).put (KubeObject.metadata o).nsText
      (KubeObject.metadata o).nameText (os.put k o).1 := dif_pos rfl
  rw [find?, hshelf, Shelf.find?_put]
  rfl

/-! ### Objects in their places -/

/-- Every object is found under its own name, and has an identifier. -/
structure Kept (os : Objects) : Prop where
  ns : ∀ {k ns name} {o : k.Object}, os.find? k ns name = some o → (KubeObject.metadata o).nsText = ns
  name : ∀ {k ns name} {o : k.Object}, os.find? k ns name = some o →
    (KubeObject.metadata o).nameText = name
  uid : ∀ {k ns name} {o : k.Object}, os.find? k ns name = some o →
    (KubeObject.metadata o).uid.isSome = true

/-- An object is found under its own name. -/
theorem Kept.found {o : k.Object} (h : os.Kept) (hfound : os.find? k ns name = some o) :
    os.find? k (KubeObject.metadata o).nsText (KubeObject.metadata o).nameText = some o := by
  rw [h.ns hfound, h.name hfound, hfound]

/-- A store without objects has them in their places. -/
theorem kept_blank : blank.Kept := ⟨nofun, nofun, nofun⟩

theorem Kept.put (h : os.Kept) (k : Kind) (o : k.Object) : (os.put k o).2.Kept := by
  have hfound : ∀ {k' ns name} {o' : k'.Object}, (os.put k o).2.find? k' ns name = some o' →
      (∃ name, os.find? k' ns name = some o') ∧ (KubeObject.metadata o').nameText = name ∨
      (KubeObject.metadata o').nsText = ns ∧ (KubeObject.metadata o').nameText = name ∧
        (KubeObject.metadata o').uid.isSome = true := by
    intro k' ns name o' ho'
    by_cases hk : k' = k
    · subst hk
      rw [find?_put] at ho'
      split at ho'
      next hplace =>
        rw [← Option.some.inj ho', metadata_put]
        exact Or.inr ⟨hplace.1.symm, hplace.2.symm, rfl⟩
      next => exact Or.inl ⟨⟨name, ho'⟩, h.name ho'⟩
    · rw [find?_put_of_ne hk] at ho'
      exact Or.inl ⟨⟨name, ho'⟩, h.name ho'⟩
  refine ⟨fun ho' => ?_, fun ho' => ?_, fun ho' => ?_⟩
  · exact (hfound ho').elim (fun ⟨⟨_, hold⟩, _⟩ => h.ns hold) fun hnew => hnew.1
  · exact (hfound ho').elim (fun hold => hold.2) fun hnew => hnew.2.1
  · exact (hfound ho').elim (fun ⟨⟨_, hold⟩, _⟩ => h.uid hold) fun hnew => hnew.2.2

/-- Objects that are listed have different names. -/
theorem Kept.pairwise_matching (h : os.Kept) (ns : String) (selector : Labels) :
    (os.matching k ns selector).Pairwise fun o o' =>
      (KubeObject.metadata o).nameText ≠ (KubeObject.metadata o').nameText := by
  refine List.Pairwise.filter _ (List.pairwise_map.2 ?_)
  refine List.Pairwise.imp_of_mem (fun {e e'} he he' hlt heq => ?_) ((os.shelf k).inNamespace ns).ordered
  have hname : ∀ e ∈ ((os.shelf k).inNamespace ns).entries, (KubeObject.metadata e.2).nameText = e.1 := by
    rintro ⟨name, o⟩ hmem
    have hfound : os.find? k ns name = some o :=
      Shelf.get?_inNamespace.symm.trans (SortedMap.mem_entries.1 hmem)
    exact h.name hfound
  rw [hname e he, hname e' he'] at heq
  exact String.lt_irrefl _ (heq ▸ hlt)

theorem Kept.update (h : os.Kept) (given : k.Object) (merge : k.Object → k.Object) :
    (os.update k given merge).2.Kept := by
  rw [Objects.update]
  dsimp only
  split
  · exact h
  · split
    · exact h
    · exact h.put k _

/-- Whatever is asked of the store, objects stay in their places. -/
theorem Kept.answer (h : os.Kept) (q : StoreRequest) : (os.answer q).2.Kept := by
  cases q with
  | get k ns name => exact h
  | list k ns selector => exact h
  | create k o =>
    rw [Objects.answer]
    dsimp only
    split
    · exact h
    · exact h.put k o
  | replace k o => exact h.update o _
  | replaceStatus k o => exact h.update o _

/-! ### Writing an object -/

/-- An object that is created had no place yet. -/
theorem create_eq_ok {r : k.Object} (h : (os.answer (.create k o)).1 = .ok r) :
    os.find? k (KubeObject.metadata o).nsText (KubeObject.metadata o).nameText = none ∧
      r = (os.put k o).1 ∧ (os.answer (.create k o)).2 = (os.put k o).2 := by
  rw [answer] at h ⊢
  dsimp only at h ⊢
  split at h
  next => cases h
  next hfree =>
    rw [if_neg hfree]
    exact ⟨by simpa using hfree, (Except.ok.inj h).symm, rfl⟩

/-- An object is created in a place that is free. -/
theorem create_of_free
    (hfree : os.find? k (KubeObject.metadata o).nsText (KubeObject.metadata o).nameText = none) :
    os.answer (.create k o) = (.ok (os.put k o).1, (os.put k o).2) := by
  rw [answer]
  dsimp only
  rw [hfree]
  rfl

/-- A replacement that is accepted is stored in place of the object of its name. -/
theorem update_eq_ok {merge : k.Object → k.Object} {r : k.Object}
    (h : (os.update k given merge).1 = .ok r) :
    ∃ stored, os.find? k (KubeObject.metadata given).nsText (KubeObject.metadata given).nameText =
        some stored ∧
      r = (os.put k (merge stored)).1 ∧ (os.update k given merge).2 = (os.put k (merge stored)).2 := by
  rw [update] at h ⊢
  dsimp only at h ⊢
  split at h
  next => cases h
  next stored hstored =>
    split at h
    next => cases h
    next haccepted =>
      rw [if_neg haccepted]
      exact ⟨stored, hstored, (Except.ok.inj h).symm, rfl⟩

/-- A replacement is refused when there is nothing to replace. -/
theorem update_of_missing {merge : k.Object → k.Object}
    (hmissing : os.find? k (KubeObject.metadata given).nsText (KubeObject.metadata given).nameText = none) :
    os.update k given merge =
      (.error (.notFound k.name (KubeObject.metadata given).nsText (KubeObject.metadata given).nameText), os) := by
  rw [update]
  dsimp only
  rw [hmissing]

/-- A replacement in another version than the stored one is refused. -/
theorem update_of_stale {merge : k.Object → k.Object}
    (hstored : os.find? k (KubeObject.metadata given).nsText (KubeObject.metadata given).nameText =
      some stored)
    (hversion : (KubeObject.metadata given).resourceVersion ≠ none ∧
      (KubeObject.metadata given).resourceVersion ≠ (KubeObject.metadata stored).resourceVersion) :
    os.update k given merge = (.error (.conflict k.name (KubeObject.metadata given).nameText), os) := by
  rw [update]
  dsimp only
  rw [hstored]
  exact if_pos hversion

/-- A replacement that is not stale is accepted. -/
theorem update_of_not_stale {merge : k.Object → k.Object}
    (hstored : os.find? k (KubeObject.metadata given).nsText (KubeObject.metadata given).nameText =
      some stored)
    (hversion : ¬((KubeObject.metadata given).resourceVersion ≠ none ∧
      (KubeObject.metadata given).resourceVersion ≠ (KubeObject.metadata stored).resourceVersion)) :
    os.update k given merge = (.ok (os.put k (merge stored)).1, (os.put k (merge stored)).2) := by
  rw [update]
  dsimp only
  rw [hstored]
  exact if_neg hversion

/-- A replacement in the version that is stored is accepted. -/
theorem update_of_version {merge : k.Object → k.Object}
    (hstored : os.find? k (KubeObject.metadata given).nsText (KubeObject.metadata given).nameText =
      some stored)
    (hversion : (KubeObject.metadata given).resourceVersion = (KubeObject.metadata stored).resourceVersion) :
    os.update k given merge = (.ok (os.put k (merge stored)).1, (os.put k (merge stored)).2) :=
  update_of_not_stale hstored fun h => h.2 hversion

/-- A conflict is about an object of the kind that is to be created or replaced. -/
theorem update_eq_conflict {merge : k.Object → k.Object} {kind : String}
    (h : (os.update k given merge).1 = .error (.conflict kind name)) : kind = k.name := by
  cases hfound : os.find? k (KubeObject.metadata given).nsText (KubeObject.metadata given).nameText with
  | none =>
    rw [update_of_missing hfound] at h
    cases h
  | some stored =>
    by_cases hversion : (KubeObject.metadata given).resourceVersion ≠ none ∧
        (KubeObject.metadata given).resourceVersion ≠ (KubeObject.metadata stored).resourceVersion
    · rw [update_of_stale hfound hversion] at h
      cases h
      rfl
    · rw [update_of_not_stale hfound hversion] at h
      cases h

/-- A replacement leaves objects of other kinds alone. -/
theorem find?_update_of_ne {merge : k.Object → k.Object} (h : k' ≠ k) :
    (os.update k given merge).2.find? k' ns name = os.find? k' ns name := by
  rw [update]
  dsimp only
  split
  next => rfl
  next =>
    split
    next => rfl
    next => exact find?_put_of_ne h

/-- A request leaves objects of other kinds alone. -/
theorem find?_answer_of_ne {q : StoreRequest} (h : k' ≠ q.kind) :
    (os.answer q).2.find? k' ns name = os.find? k' ns name := by
  cases q with
  | get _ _ _ => rfl
  | list _ _ _ => rfl
  | create k o =>
    rw [answer]
    dsimp only
    split
    next => rfl
    next => exact find?_put_of_ne h
  | replace k o => exact find?_update_of_ne h
  | replaceStatus k o => exact find?_update_of_ne h

@[simp] theorem metadata_withStatusOf :
    KubeObject.metadata (withStatusOf k stored given) = KubeObject.metadata stored := by
  cases k <;> rfl

/-- What is stored when a status is replaced has the core of what was stored. -/
theorem core_put_withStatusOf (huid : (KubeObject.metadata stored).uid.isSome = true) :
    Kind.core (os.put k (withStatusOf k stored given)).1 = Kind.core stored := by
  have hstamped : (KubeObject.metadata (os.put k (withStatusOf k stored given)).1).unversioned =
      (KubeObject.metadata stored).unversioned := by
    obtain ⟨uid, huid⟩ := Option.isSome_iff_exists.1 huid
    rw [metadata_put, metadata_withStatusOf, stamped]
    simp [ObjectMeta.unversioned, huid]
  unfold Kind.core
  rw [hstamped]
  cases k <;> rfl

end Objects

end Simulation

end ClusterKeeper
