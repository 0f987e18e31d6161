import ClusterKeeper.Proofs.Drift

/-!
How the StatefulSet of a replicaset is found again. A role may give its objects and its pods any labels, also
under the keys that selectors go by; the labels of the replicaset win over all of them. So the StatefulSet
keeps being found by its ordinal and by its role, and its pods by its own selector, however often it is
brought in line with clusters and roles of the same names (`StatefulSet.Selected`).

Two things carry this through a life of edits (`StatefulSet.Attuned`): the last edit left the StatefulSet in line
with some cluster and role of these names, and no edit touches what is set when a StatefulSet is made.

Main statement: `StatefulSet.selected_of_edits`.
-/

namespace ClusterKeeper

/-! ### The labels of a replicaset -/

namespace Replicaset

variable {cluster cluster' : Cluster} {role role' : Role} {ordinal : Int}

/-- The selector of a replicaset goes by the names of its cluster and its role alone. -/
theorem selector_congr (hcluster : cluster'.name = cluster.name) (hrole : role'.name = role.name) :
    selector cluster' role' ordinal = selector cluster role ordinal := by
  rw [selector, selector, hcluster, hrole]

/-- It says nothing of the ordinal nor of the hash of the pod template. -/
theorem selector_get?_eq_none {k : String} (hk : k = Labels.replicasetOrdinal ∨ k = Labels.podTemplateHash) :
    (selector cluster role ordinal).get? k = none := by
  rcases hk with rfl | rfl <;>
    rw [selector, SortedMap.get?_insert_of_ne (by decide), SortedMap.get?_insert_of_ne (by decide),
      Labels.roleSelector, SortedMap.get?_insert_of_ne (by decide), Labels.clusterSelector,
      SortedMap.get?_insert_of_ne (by decide), SortedMap.get?_empty]

/-- Whatever labels the role has, those that the pods are selected by are among the labels of the replicaset. -/
theorem matches_labels_selector :
    Labels.Matches (some (labels cluster role ordinal)) (selector cluster role ordinal) := by
  rw [Labels.matches_iff]
  intro k v hk
  have hordinal : k ≠ Labels.replicasetOrdinal := by
    intro hk'
    simp [selector_get?_eq_none (.inl hk')] at hk
  have hhash : k ≠ Labels.podTemplateHash := by
    intro hk'
    simp [selector_get?_eq_none (.inr hk')] at hk
  -- the required labels go last in the merge, so that no label of the role stands over them
  rw [Option.bind_some]
  refine StatefulSet.get?_labels ?_
  rw [requiredLabels, SortedMap.get?_insert_of_ne hhash, SortedMap.get?_insert_of_ne hordinal]
  exact hk

end Replicaset

namespace StatefulSet

variable {clusterName roleName : String} {cluster : Cluster} {role : Role} {ordinal : Int} {s : StatefulSet}

/-! ### What no edit touches -/

/-- A specification without the members that edits change. -/
def lasting (spec : StatefulSetSpec) : StatefulSetSpec :=
  { spec with replicas := none, template := .blank, minReadySeconds := none, updateStrategy := none }

/-- Bringing a StatefulSet in line changes its replicas, its template, its update strategy and the seconds
until a pod counts as available, and nothing else of its specification. -/
theorem lasting_synced (cluster : Cluster) (role : Role) (ordinal : Int) (s : StatefulSet) :
    lasting (synced cluster role ordinal s).1.currentSpec = lasting s.currentSpec := by
  refine adjusted_keeps (f := fun s : StatefulSet => lasting s.parts.1) (fun a ha s => ?_) s
  simp only [adjustments, List.mem_cons, List.not_mem_nil, or_false] at ha
  rcases ha with rfl | rfl | rfl | rfl | rfl | rfl | rfl | rfl
  · rw [parts_owner]
  · obtain ⟨replicas, _, hmade⟩ := parts_replicas role s
    rw [hmade]
    rfl
  · obtain ⟨minReady, _, hmade⟩ := parts_minReady role s
    rw [hmade]
    rfl
  · obtain ⟨strategy, _, hmade⟩ := parts_strategy role s
    rw [hmade]
    rfl
  · obtain ⟨template, hmade⟩ := parts_template role s
    rw [hmade]
    rfl
  · rw [parts_labels]
  · obtain ⟨template, _, hmade⟩ := parts_podLabels (Replicaset.labels cluster role ordinal) s
    rw [hmade]
    rfl
  · obtain ⟨annotations, _, hmade⟩ := parts_annotations role s
    rw [hmade]

/-- The pods stay selected by the same labels. -/
theorem selector_synced (cluster : Cluster) (role : Role) (ordinal : Int) (s : StatefulSet) :
    (synced cluster role ordinal s).1.currentSpec.selector = s.currentSpec.selector := by
  show (lasting (synced cluster role ordinal s).1.currentSpec).selector = _
  rw [lasting_synced]
  rfl

/-! ### A life of edits -/

/-- A StatefulSet after it was brought in line with one cluster and role after another. -/
def edited (ordinal : Int) (edits : List (Cluster × Role)) (s : StatefulSet) : StatefulSet :=
  edits.foldl (fun s edit => (synced edit.1 edit.2 ordinal s).1) s

/-- A StatefulSet is in line with some cluster and role of two names, and selects its pods as it did when it
was made for them. -/
structure Attuned (clusterName roleName : String) (ordinal : Int) (s : StatefulSet) : Prop where
  exists_fits : ∃ (cluster : Cluster) (role : Role), cluster.name = clusterName ∧ role.name = roleName ∧
    Fits cluster role ordinal s ∧
    s.currentSpec.selector.matchLabels = some (Replicaset.selector cluster role ordinal)

/-- A StatefulSet is found by the selectors of its ordinal and its role, and tells its ordinal; its pods carry
all of its labels, so that they are found by its own selector and by that of the role. -/
structure Selected (clusterName roleName : String) (ordinal : Int) (s : StatefulSet) : Prop where
  byOrdinal : Labels.Matches s.metadata.labels (Labels.ordinalSelector clusterName roleName ordinal)
  byRole : Labels.Matches s.metadata.labels (Labels.roleSelector clusterName roleName)
  ordinal : s.ordinal? = some ordinal
  podsCarry : ∀ k v, s.metadata.labelSet.get? k = some v →
    s.currentSpec.template.podLabels.bind (·.get? k) = some v
  podsByOwn : ∃ own, s.currentSpec.selector.matchLabels = some own ∧
    Labels.Matches s.currentSpec.template.podLabels own
  podsByRole : Labels.Matches s.currentSpec.template.podLabels (Labels.roleSelector clusterName roleName)

/-- A StatefulSet is attuned when it is made. -/
theorem attuned_ofRole (cluster : Cluster) (role : Role) (ordinal : Int) :
    Attuned cluster.name role.name ordinal (ofRole cluster role ordinal) := by
  refine ⟨cluster, role, rfl, rfl, fits_synced cluster role ordinal _, ?_⟩
  rw [ofRole, selector_synced]
  rfl

/-- An edit with a cluster and a role of the same names keeps a StatefulSet attuned. -/
theorem Attuned.synced (h : Attuned clusterName roleName ordinal s) (hcluster : cluster.name = clusterName)
    (hrole : role.name = roleName) : Attuned clusterName roleName ordinal (synced cluster role ordinal s).1 := by
  obtain ⟨cluster', role', hcluster', hrole', _, hselector⟩ := h
  refine ⟨cluster, role, hcluster, hrole, fits_synced cluster role ordinal s, ?_⟩
  rw [selector_synced, hselector,
    Replicaset.selector_congr (hcluster'.trans hcluster.symm) (hrole'.trans hrole.symm)]

/-- So does any number of edits. -/
theorem Attuned.edited (h : Attuned clusterName roleName ordinal s) (edits : List (Cluster × Role))
    (hnames : ∀ edit ∈ edits, edit.1.name = clusterName ∧ edit.2.name = roleName) :
    Attuned clusterName roleName ordinal (edited ordinal edits s) := by
  induction edits generalizing s with
  | nil => exact h
  | cons edit edits ih =>
    obtain ⟨hcluster, hrole⟩ := hnames edit List.mem_cons_self
    exact ih (h.synced hcluster hrole) fun e he => hnames e (List.mem_cons_of_mem _ he)

/-! ### What selects an attuned StatefulSet -/

/-- The pods of a StatefulSet in line carry all of its labels. -/
theorem Fits.podLabels_get? (h : Fits cluster role ordinal s) {k v : String}
    (hk : s.metadata.labelSet.get? k = some v) :
    s.currentSpec.template.podLabels.bind (·.get? k) = some v := by
  rw [ObjectMeta.labelSet, h.labels, Option.getD_some] at hk
  have hcarried : (Labels.merge ([s.currentSpec.template.podLabels.getD .empty] ++
      [Replicaset.labels cluster role ordinal])).get? k = some v := Labels.get?_merge_last hk
  rw [h.podLabels, Option.bind_some]
  exact hcarried

/-- So the pods are found by whatever the StatefulSet is found by. -/
theorem Fits.podLabels_matches (h : Fits cluster role ordinal s) {selector : Labels}
    (hselector : Labels.Matches s.metadata.labels selector) :
    Labels.Matches s.currentSpec.template.podLabels selector := by
  rw [Labels.matches_iff] at hselector ⊢
  intro k v hk
  have hlabel := hselector k v hk
  rw [h.labels, Option.bind_some] at hlabel
  refine h.podLabels_get? ?_
  rw [ObjectMeta.labelSet, h.labels, Option.getD_some]
  exact hlabel

/-- An attuned StatefulSet is found, and so are its pods. -/
theorem Attuned.selected (h : Attuned clusterName roleName ordinal s)
    (hrange : 0 ≤ ordinal ∧ ordinal < 0x80000000) : Selected clusterName roleName ordinal s := by
  obtain ⟨cluster, role, rfl, rfl, hfits, hselector⟩ := h
  have hrole : Labels.Matches s.metadata.labels (Labels.roleSelector cluster.name role.name) :=
    Labels.matches_roleSelector hfits.matches
  have hown : Labels.Matches s.metadata.labels (Replicaset.selector cluster role ordinal) := by
    rw [hfits.labels]
    exact Replicaset.matches_labels_selector
  exact {
    byOrdinal := hfits.matches
    byRole := hrole
    ordinal := hfits.ordinal? ⟨by omega, hrange.2⟩
    podsCarry := fun k v hk => hfits.podLabels_get? hk
    podsByOwn := ⟨_, hselector, hfits.podLabels_matches hown⟩
    podsByRole := hfits.podLabels_matches hrole }

/-- For every cluster and role, with any labels and any template, and every ordinal (an integer of 32 bits that
is not negative): the StatefulSet that is made for them, and what becomes of it after any number of edits with
clusters and roles of the same names, is found by its ordinal and its role, and its pods by its own selector
and by that of the role. -/
theorem selected_of_edits (cluster : Cluster) (role : Role) (ordinal : Int)
    (hrange : 0 ≤ ordinal ∧ ordinal < 0x80000000) (edits : List (Cluster × Role))
    (hnames : ∀ edit ∈ edits, edit.1.name = cluster.name ∧ edit.2.name = role.name) :
    Selected cluster.name role.name ordinal (edited ordinal edits (ofRole cluster role ordinal)) :=
  ((attuned_ofRole cluster role ordinal).edited edits hnames).selected hrange

/-! ### An example: labels that contend with those of the replicaset -/

/-- A cluster called shop. -/
def shop : Cluster where
  metadata := { ObjectMeta.blank with name := some "shop", ns := some "db" }
  spec := .default
  status := none

/-- A role called storage that labels its objects and its pods as if they were of another role. -/
def contending (objects pods : String) : Role where
  metadata := { ObjectMeta.blank with
    name := some "storage"
    ns := some "db"
    labels := some ((Labels.ordinalSelector "market" objects 7).insert Labels.replicasetUuid "none") }
  spec := { RoleSpec.default with
    template := { ReplicasetTemplate.default with
      podTemplate := ⟨some { ObjectMeta.blank with labels := some (Labels.ordinalSelector "market" pods 8) }, none⟩ } }
  status := none

/-- No label of the role wins, neither when the StatefulSet is made nor when role and template are edited. -/
theorem contending_selected :
    Selected "shop" "storage" 0 (edited 0
      [(shop, contending "router" "router"), ({ shop with status := some .initial }, contending "market" "spare")]
      (ofRole shop (contending "router" "spare") 0)) :=
  selected_of_edits shop (contending "router" "spare") 0 (by decide) _ (by simp [shop, contending, Cluster.name,
    Role.name, ObjectMeta.nameText])

end StatefulSet

end ClusterKeeper
