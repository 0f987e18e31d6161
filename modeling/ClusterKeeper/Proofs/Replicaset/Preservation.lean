import ClusterKeeper.Proofs.Replicaset.Selection
import Mathlib.Data.List.Induction

/-!
What bringing a StatefulSet in line may touch. Of the metadata only the labels, the annotations and the owners
change, of the specification only the replicas, the template, the update strategy and the seconds until a pod
counts as available. The replicas are raised and never lowered, owners are entered at the end, once each, and
the template is exchanged for the role's when the labels tell another hash; otherwise its pods get labels and
nothing else (`StatefulSet.Touched`).

All of this is read off what the adjustments make of a StatefulSet in turn (`StatefulSet.parts_synced`). What one
call may touch adds up over any number of calls, with any clusters, roles and ordinals (`StatefulSet.Kept`).

Main statement: `StatefulSet.kept_of_calls`.
-/

namespace ClusterKeeper

/-- A template whose pods have the labels already. -/
theorem PodTemplate.withLabels_of_podLabels {template : PodTemplate} {labels : Labels}
    (h : template.podLabels = some labels) : template.withLabels labels = template := by
  obtain ⟨metadata, spec⟩ := template
  cases metadata with
  | none => cases h
  | some m =>
    have hlabels : m.labels = some labels := h
    simp [withLabels, ← hlabels]

namespace StatefulSet

/-! ### What the adjustments make of a StatefulSet -/

/-- The replicas, raised to the wanted ones if they are fewer. -/
def raised (replicas : Option Int32) (wanted : Int32) : Option Int32 :=
  if replicas.getD 0 < wanted then some wanted else replicas

theorem raised_getD (replicas : Option Int32) (wanted : Int32) :
    (raised replicas wanted).getD 0 = max (replicas.getD 0) wanted := by
  show _ = if replicas.getD 0 ≤ wanted then wanted else replicas.getD 0
  rw [raised]
  split
  next hlt => rw [if_pos (Int32.le_of_lt hlt), Option.getD_some]
  next hnot =>
    split
    next hle => exact Int32.le_antisymm hle (Int32.not_lt.1 hnot)
    next => rfl

theorem le_raised (replicas : Option Int32) (wanted : Int32) :
    replicas.getD 0 ≤ (raised replicas wanted).getD 0 := by
  rw [raised]
  split
  next hlt => exact Int32.le_of_lt hlt
  next => exact Int32.le_refl _

/-- The template, or that of the role if the labels tell another hash. -/
def exchanged (role : Role) (metadata : ObjectMeta) (template : PodTemplate) : PodTemplate :=
  if metadata.labelSet.get? Labels.podTemplateHash = some role.spec.template.podTemplate.hash then template
  else role.spec.template.podTemplate

variable {cluster : Cluster} {role : Role} {ordinal : Int} {s s' : StatefulSet}

theorem parts_raised (role : Role) (s : StatefulSet) : ((adjustReplicas role).made s).parts =
    ({ s.parts.1 with replicas := raised s.parts.1.replicas role.spec.template.replicas }, s.parts.2) := by
  dsimp only [Adjustment.made, adjustReplicas, raised, parts]
  split
  next => rfl
  next => rfl

theorem parts_exchanged (role : Role) (s : StatefulSet) : ((adjustTemplate role).made s).parts =
    ({ s.parts.1 with template := exchanged role s.parts.2 s.parts.1.template }, s.parts.2) := by
  dsimp only [Adjustment.made, adjustTemplate, exchanged, parts]
  rw [ite_not]
  split
  next => rfl
  next => rfl

theorem parts_labelled (labels : Labels) (s : StatefulSet) : ∃ podLabels, ((adjustPodLabels labels).made s).parts =
    ({ s.parts.1 with template := s.parts.1.template.withLabels podLabels }, s.parts.2) := by
  refine ⟨Labels.merge [s.parts.1.template.podLabels.getD .empty, labels], ?_⟩
  dsimp only [Adjustment.made, adjustPodLabels, parts]
  split
  next => rfl
  next h =>
    rw [PodTemplate.withLabels_of_podLabels (not_not.1 h)]
    rfl

/-- What all adjustments make of a StatefulSet. -/
theorem parts_synced (cluster : Cluster) (role : Role) (ordinal : Int) (s : StatefulSet) :
    ∃ minReadySeconds updateStrategy podLabels labels annotations, (synced cluster role ordinal s).1.parts =
      ({ s.parts.1 with
          replicas := raised s.parts.1.replicas role.spec.template.replicas
          minReadySeconds
          updateStrategy
          template := (exchanged role s.parts.2 s.parts.1.template).withLabels podLabels },
        { (s.parts.2.withOwner? (KubeObject.controllerReference role)).getD s.parts.2 with labels, annotations }) := by
  rw [synced, adjusted_fst]
  simp only [adjustments, List.foldl_cons, List.foldl_nil]
  have hparts := parts_owner role s
  generalize (adjustOwner role).made s = x at hparts ⊢
  have hmade := parts_raised role x
  rw [hparts] at hmade
  generalize (adjustReplicas role).made x = x at hmade ⊢
  obtain ⟨minReadySeconds, _, hparts⟩ := parts_minReady role x
  rw [hmade] at hparts
  generalize (adjustMinReady role).made x = x at hparts ⊢
  obtain ⟨updateStrategy, _, hmade⟩ := parts_strategy role x
  rw [hparts] at hmade
  generalize (adjustStrategy role).made x = x at hmade ⊢
  have hparts := parts_exchanged role x
  rw [hmade] at hparts
  generalize (adjustTemplate role).made x = x at hparts ⊢
  have hmade := parts_labels (Replicaset.labels cluster role ordinal) x
  rw [hparts] at hmade
  generalize (adjustLabels _).made x = x at hmade ⊢
  obtain ⟨podLabels, hparts⟩ := parts_labelled (Replicaset.labels cluster role ordinal) x
  rw [hmade] at hparts
  generalize (adjustPodLabels _).made x = x at hparts ⊢
  obtain ⟨annotations, _, hmade⟩ := parts_annotations role x
  rw [hparts] at hmade
  have hlabels : exchanged role ((s.parts.2.withOwner? (KubeObject.controllerReference role)).getD s.parts.2)
      s.parts.1.template = exchanged role s.parts.2 s.parts.1.template := by
    obtain ⟨ownerReferences, howner⟩ := ObjectMeta.withOwner?_getD_eq (KubeObject.controllerReference role) s.parts.2
    rw [howner]
    rfl
  refine ⟨minReadySeconds, updateStrategy, podLabels, some (Replicaset.labels cluster role ordinal), annotations, ?_⟩
  rw [hmade, ← hlabels]

/-! ### What one call touches -/

/-- What a StatefulSet is brought in line with. -/
structure Alignment where
  cluster : Cluster
  role : Role
  ordinal : Int

/-- A StatefulSet after it was brought in line with one thing after another. -/
def aligned (calls : List Alignment) (s : StatefulSet) : StatefulSet :=
  calls.foldl (fun s call => (synced call.cluster call.role call.ordinal s).1) s

/-- The count of replicas, none where nothing is said of them. -/
def replicaCount (s : StatefulSet) : Int32 := s.currentSpec.replicas.getD 0

/-- A StatefulSet is another one but for what may change: labels, annotations and owners in its metadata, and
replicas, the seconds until a pod counts as available, the update strategy and the template in its
specification. -/
structure Framed (s s' : StatefulSet) : Prop where
  metadata : s'.metadata = { s.metadata with
    labels := s'.metadata.labels
    annotations := s'.metadata.annotations
    ownerReferences := s'.metadata.ownerReferences }
  spec : s'.spec = some { s.currentSpec with
    replicas := s'.currentSpec.replicas
    minReadySeconds := s'.currentSpec.minReadySeconds
    updateStrategy := s'.currentSpec.updateStrategy
    template := s'.currentSpec.template }

theorem Framed.currentSpec_eq (h : Framed s s') : s'.currentSpec = { s.currentSpec with
    replicas := s'.currentSpec.replicas
    minReadySeconds := s'.currentSpec.minReadySeconds
    updateStrategy := s'.currentSpec.updateStrategy
    template := s'.currentSpec.template } := congrArg (fun spec => spec.getD .blank) h.spec

/-- What one call makes of a StatefulSet. -/
structure Touched (call : Alignment) (s s' : StatefulSet) : Prop extends Framed s s' where
  replicas : s'.replicaCount = max s.replicaCount call.role.spec.template.replicas
  owners : s'.metadata.owners = s.metadata.owners ∨
    ∃ owner, KubeObject.controllerReference call.role = some owner ∧ s.metadata.isOwnedBy owner.uid = false ∧
      s'.metadata.owners = s.metadata.owners ++ [owner]
  template : ∃ podLabels,
    s'.currentSpec.template = (exchanged call.role s.metadata s.currentSpec.template).withLabels podLabels

/-- A StatefulSet that was brought in line has a specification. -/
theorem Fits.spec_eq (h : Fits cluster role ordinal s) : s.spec = some s.currentSpec := by
  cases hspec : s.spec with
  | none =>
    have hpods := h.podLabels
    simp [currentSpec, hspec, StatefulSetSpec.blank, PodTemplate.blank, PodTemplate.podLabels] at hpods
  | some spec => rw [currentSpec, hspec, Option.getD_some]

theorem owners_withOwner? (owner : Option OwnerReference) (m : ObjectMeta) :
    ((m.withOwner? owner).getD m).owners = m.owners ∨ ∃ o, owner = some o ∧ m.isOwnedBy o.uid = false ∧
      ((m.withOwner? owner).getD m).owners = m.owners ++ [o] := by
  cases owner with
  | none => exact Or.inl rfl
  | some o =>
    rw [ObjectMeta.withOwner?, Option.bind_eq_bind, Option.bind_some]
    split
    next => exact Or.inl rfl
    next hnew => exact Or.inr ⟨o, rfl, Bool.eq_false_iff.2 hnew, rfl⟩

theorem touched_synced (cluster : Cluster) (role : Role) (ordinal : Int) (s : StatefulSet) :
    Touched ⟨cluster, role, ordinal⟩ s (synced cluster role ordinal s).1 := by
  obtain ⟨minReadySeconds, updateStrategy, podLabels, labels, annotations, hparts⟩ :=
    parts_synced cluster role ordinal s
  have hspec := (fits_synced cluster role ordinal s).spec_eq
  generalize (synced cluster role ordinal s).1 = s' at hparts hspec ⊢
  obtain ⟨hcurrent, hmeta⟩ := Prod.mk.inj hparts
  obtain ⟨ownerReferences, howner⟩ :=
    ObjectMeta.withOwner?_getD_eq (KubeObject.controllerReference role) s.metadata
  have howners : s'.metadata.owners =
      ((s.metadata.withOwner? (KubeObject.controllerReference role)).getD s.metadata).owners := by
    rw [hmeta]
    rfl
  exact {
    metadata := by rw [hmeta, parts, howner]
    spec := by rw [hspec, hcurrent, parts]
    replicas := by rw [replicaCount, hcurrent, raised_getD]; rfl
    owners := howners ▸ owners_withOwner? _ _
    template := ⟨podLabels, by rw [hcurrent]; rfl⟩ }

/-! ### What any number of calls keeps -/

/-- A StatefulSet is another one but for what may change, with no fewer replicas, and with all of its owners in
front. -/
structure Kept (s s' : StatefulSet) : Prop extends Framed s s' where
  replicas : s.replicaCount ≤ s'.replicaCount
  owners : s.metadata.owners <+: s'.metadata.owners

theorem Kept.refl (hspec : s.spec.isSome = true) : Kept s s where
  metadata := rfl
  spec := by
    obtain ⟨spec, hspec⟩ := Option.isSome_iff_exists.1 hspec
    rw [currentSpec, hspec, Option.getD_some]
  replicas := Int32.le_refl _
  owners := List.prefix_rfl

/-- A call keeps what was kept. -/
theorem Kept.touched {s'' : StatefulSet} {call : Alignment} (h : Kept s s') (htouched : Touched call s' s'') :
    Kept s s'' where
  metadata := by rw [htouched.metadata, h.metadata]
  spec := by
    rw [htouched.spec, h.currentSpec_eq]
  replicas := by
    refine Int32.le_trans h.replicas ?_
    rw [htouched.replicas]
    show _ ≤ max (s'.currentSpec.replicas.getD 0) _
    rw [← raised_getD]
    exact le_raised _ _
  owners := by
    refine h.owners.trans ?_
    rcases htouched.owners with hsame | ⟨owner, _, _, hmore⟩
    · exact hsame ▸ List.prefix_rfl
    · exact hmore ▸ List.prefix_append _ _

theorem aligned_concat (calls : List Alignment) (call : Alignment) (s : StatefulSet) :
    aligned (calls ++ [call]) s =
      (synced call.cluster call.role call.ordinal (aligned calls s)).1 := List.foldl_concat _ _ _ _

/-- However often a StatefulSet with a specification is brought in line, with whatever clusters, roles and
ordinals: it stays as it is but for what may change, its replicas never become fewer, and its owners stay in
front of those that are entered. Whichever call comes next raises the replicas to those of its role, enters an
owner that was not there or none, and makes the role's template that of the pods where the labels told another
hash, or gives the pods labels and nothing else. -/
theorem kept_of_calls (s : StatefulSet) (hspec : s.spec.isSome = true) (calls : List Alignment) :
    Kept s (aligned calls s) ∧ ∀ call, Touched call (aligned calls s) (aligned (calls ++ [call]) s) := by
  have hone : ∀ earlier call, Touched call (aligned earlier s) (aligned (earlier ++ [call]) s) := by
    intro earlier call
    rw [aligned_concat]
    exact touched_synced call.cluster call.role call.ordinal (aligned earlier s)
  refine ⟨?_, hone calls⟩
  -- the calls are made from the first on, so that the last one made is the last of the list
  induction calls using List.reverseRecOn with
  | nil => exact Kept.refl hspec
  | append_singleton earlier call ih => exact ih.touched (hone earlier call)

/-! ### An example: a StatefulSet that was made by hand -/

/-- A StatefulSet of three replicas, owned by somebody else and selecting its pods by a label of its own. -/
def handmade : StatefulSet where
  metadata := { ObjectMeta.blank with
    name := some "storage-0"
    ns := some "db"
    uid := some "41"
    resourceVersion := some "9"
    finalizers := some ["backup"]
    ownerReferences := some [⟨"v1", "ConfigMap", "legacy", "40", none⟩] }
  spec := some { StatefulSetSpec.blank with
    replicas := some 3
    serviceName := "legacy"
    selector := ⟨some (SortedMap.empty.insert "app" "legacy")⟩ }

/-- A role of replicasets with so many instances. -/
def sized (replicas : Int32) : Role where
  metadata := { ObjectMeta.blank with name := some "storage", ns := some "db", uid := some "42" }
  spec := { RoleSpec.default with template := { ReplicasetTemplate.default with replicas } }
  status := none

/-- A role of one instance shrinks nothing, one of five grows the StatefulSet, and then the one of one shrinks
nothing again; the name, the finalizers, the selector and the owner from before stay. -/
theorem handmade_outgrown :
    let s := aligned [⟨shop, sized 1, 0⟩, ⟨shop, sized 5, 7⟩] handmade
    s.replicaCount = 5 ∧ (aligned [⟨shop, sized 1, 0⟩, ⟨shop, sized 5, 7⟩, ⟨shop, sized 1, 0⟩] handmade).replicaCount = 5 ∧
      s.metadata.nameText = "storage-0" ∧ s.metadata.finalizers = some ["backup"] ∧
      s.currentSpec.selector = ⟨some (SortedMap.empty.insert "app" "legacy")⟩ ∧
      ⟨"v1", "ConfigMap", "legacy", "40", none⟩ ∈ s.metadata.owners := by
  have hone : (aligned [⟨shop, sized 1, 0⟩] handmade).replicaCount = 3 :=
    ((kept_of_calls handmade rfl []).2 ⟨shop, sized 1, 0⟩).replicas
  have hsecond := (kept_of_calls handmade rfl [⟨shop, sized 1, 0⟩]).2 ⟨shop, sized 5, 7⟩
  obtain ⟨hkept, hnext⟩ := kept_of_calls handmade rfl [⟨shop, sized 1, 0⟩, ⟨shop, sized 5, 7⟩]
  have hthird := hnext ⟨shop, sized 1, 0⟩
  have hfive : (aligned [⟨shop, sized 1, 0⟩, ⟨shop, sized 5, 7⟩] handmade).replicaCount = 5 :=
    hsecond.replicas.trans (by rw [hone]; rfl)
  refine ⟨hfive, ?_, ?_, ?_, ?_, hkept.owners.subset ?_⟩
  · exact hthird.replicas.trans (by rw [hfive]; rfl)
  · rw [hkept.metadata]
    rfl
  · rw [hkept.metadata]
    rfl
  · rw [hkept.currentSpec_eq]
    rfl
  · exact List.mem_singleton.2 rfl

end StatefulSet

end ClusterKeeper
