import ClusterKeeper.ClusterService
import ClusterKeeper.Proofs.Kubernetes.Labels
import ClusterKeeper.Replicaset.Workload

/-!
An object that was brought in line is in line: bringing it in line again changes nothing, as long as all
that is compared stays.

What an adjustment makes of an object is told member by member, whether or not anything had to change, so
that what all of them make is what they make in turn (`adjusted_fst`). From this follows that a service
(`Service.fits_synced`) and a StatefulSet (`StatefulSet.fits_synced`) need no second adjustment.
-/

namespace ClusterKeeper

/-- What an adjustment makes of an object. -/
def Adjustment.made {α : Type} (a : Adjustment α) (x : α) : α := (a x).getD x

theorem adjusted_fst {α : Type} (as : List (Adjustment α)) (x : α) :
    (adjusted as x).1 = as.foldl (fun x a => a.made x) x := by
  rw [adjusted]
  refine (List.foldl_hom Prod.fst fun acc a => ?_).symm
  rw [Adjustment.made]
  cases a acc.1 <;> rfl

/-- What no adjustment changes is as it was. -/
theorem adjusted_keeps {α β : Type} {as : List (Adjustment α)} {f : α → β}
    (h : ∀ a ∈ as, ∀ x, f (a.made x) = f x) (x : α) : f (adjusted as x).1 = f x := by
  rw [adjusted_fst]
  induction as generalizing x with
  | nil => rfl
  | cons a as ih =>
    rw [List.foldl_cons, ih fun b hb => h b (List.mem_cons_of_mem _ hb), h a List.mem_cons_self]

namespace ObjectMeta

variable {owner : Option OwnerReference} {m m' : ObjectMeta}

/-- An owner that is entered changes nothing else. -/
theorem withOwner?_getD_eq (owner : Option OwnerReference) (m : ObjectMeta) : ∃ ownerReferences,
    (m.withOwner? owner).getD m = { m with ownerReferences } := by
  cases h : m.withOwner? owner with
  | none => exact ⟨m.ownerReferences, rfl⟩
  | some m' =>
    cases owner with
    | none => cases h
    | some o =>
      rw [withOwner?, Option.bind_eq_bind, Option.bind_some, Option.ite_none_left_eq_some] at h
      exact ⟨some (m.owners ++ [o]), (Option.some.inj h.2).symm⟩

/-- The place of an object: its namespace and its name. -/
def place (m : ObjectMeta) : Option String × Option String := (m.ns, m.name)

theorem nsText_of_place (h : m.place = m'.place) : m.nsText = m'.nsText :=
  congrArg (fun p : Option String × Option String => p.1.getD "") h

theorem nameText_of_place (h : m.place = m'.place) : m.nameText = m'.nameText :=
  congrArg (fun p : Option String × Option String => p.2.getD "") h

theorem place_withOwner? (m : ObjectMeta) : ((m.withOwner? owner).getD m).place = m.place := by
  obtain ⟨ownerReferences, h⟩ := withOwner?_getD_eq owner m
  rw [h]
  rfl

theorem withOwner?_eq_none_iff :
    m.withOwner? owner = none ↔ ∀ o, owner = some o → m.isOwnedBy o.uid = true := by
  cases owner with
  | none => exact ⟨fun _ _ h => (nomatch h), fun _ => rfl⟩
  | some o => simp [withOwner?]

/-- Whether an owner is missing is told by the owners there are. -/
theorem withOwner?_eq_none_of_eq (hm : m'.ownerReferences = m.ownerReferences)
    (h : m.withOwner? owner = none) : m'.withOwner? owner = none := by
  rw [withOwner?_eq_none_iff] at h ⊢
  intro o ho
  rw [isOwnedBy, owners, hm]
  exact h o ho

/-- An owner that was entered is there. -/
theorem withOwner?_getD (m : ObjectMeta) : ((m.withOwner? owner).getD m).withOwner? owner = none := by
  cases h : m.withOwner? owner with
  | none => exact h
  | some m' =>
    rw [Option.getD_some, withOwner?_eq_none_iff]
    rintro o rfl
    rw [withOwner?, Option.bind_eq_bind, Option.bind_some, Option.ite_none_left_eq_some] at h
    rw [← Option.some.inj h.2]
    simp [isOwnedBy, owners]

end ObjectMeta

/-! ### Services -/

namespace Service

/-- All of a service that is compared. -/
def parts (s : Service) : ServiceSpec × ObjectMeta := (s.currentSpec, s.metadata)

section

variable (wanted : ServiceSpec) (owner : Option OwnerReference) (s : Service)

theorem parts_address : ((adjustAddress wanted).made s).parts =
    ({ s.parts.1 with clusterIP := wanted.clusterIP }, s.parts.2) := by
  rw [Adjustment.made, adjustAddress]
  split
  next => rfl
  next h => rw [← not_not.1 h]; rfl

theorem parts_readiness : ((adjustReadiness wanted).made s).parts =
    ({ s.parts.1 with publishNotReadyAddresses := wanted.publishNotReadyAddresses }, s.parts.2) := by
  rw [Adjustment.made, adjustReadiness]
  split
  next => rfl
  next h => rw [← not_not.1 h]; rfl

theorem parts_selector : ((adjustSelector wanted).made s).parts =
    ({ s.parts.1 with selector := wanted.selector }, s.parts.2) := by
  rw [Adjustment.made, adjustSelector]
  split
  next => rfl
  next h => rw [← not_not.1 h]; rfl

theorem parts_ports : ∃ ports, portKeys { s.parts.1 with ports } = portKeys wanted ∧
    ((adjustPorts wanted).made s).parts = ({ s.parts.1 with ports }, s.parts.2) := by
  rw [Adjustment.made, adjustPorts]
  split
  next => exact ⟨wanted.ports, rfl, rfl⟩
  next h => exact ⟨s.currentSpec.ports, not_not.1 h, rfl⟩

theorem parts_owner : ((adjustOwner owner).made s).parts =
    (s.parts.1, (s.parts.2.withOwner? owner).getD s.parts.2) := by
  rw [Adjustment.made, adjustOwner, parts, parts]
  cases s.metadata.withOwner? owner <;> rfl

end

variable {wanted s : Service}

/-- A service that is in line with another. -/
structure Fits (wanted s : Service) : Prop where
  address : s.currentSpec.clusterIP = wanted.currentSpec.clusterIP
  readiness : s.currentSpec.publishNotReadyAddresses = wanted.currentSpec.publishNotReadyAddresses
  selector : s.currentSpec.selector = wanted.currentSpec.selector
  ports : portKeys s.currentSpec = portKeys wanted.currentSpec
  owner : s.metadata.withOwner? wanted.metadata.owners.head? = none

/-- A service is in line with itself. -/
theorem fits_self (s : Service) : Fits s s := by
  refine ⟨rfl, rfl, rfl, rfl, ObjectMeta.withOwner?_eq_none_iff.2 fun o ho => ?_⟩
  rw [ObjectMeta.isOwnedBy, List.any_eq_true]
  exact ⟨o, List.mem_of_mem_head? ho, by simp⟩

/-- A service that is in line needs no change. -/
theorem Fits.synced (h : Fits wanted s) : synced wanted s = (s, false) := by
  refine adjusted_of_forall_none fun a ha => ?_
  simp only [adjustments, List.mem_cons, List.not_mem_nil, or_false] at ha
  rcases ha with rfl | rfl | rfl | rfl | rfl
  · simp [adjustAddress, h.address]
  · simp [adjustReadiness, h.readiness]
  · simp [adjustSelector, h.selector]
  · simp [adjustPorts, h.ports]
  · simp [adjustOwner, h.owner]

/-- A service that was brought in line is in line. -/
theorem fits_synced (wanted s : Service) : Fits wanted (Service.synced wanted s).1 := by
  rw [Service.synced, adjusted_fst]
  simp only [adjustments, List.foldl_cons, List.foldl_nil]
  have hparts := parts_selector wanted.currentSpec
    ((adjustReadiness wanted.currentSpec).made ((adjustAddress wanted.currentSpec).made s))
  rw [parts_readiness, parts_address] at hparts
  generalize (adjustSelector _).made _ = x at hparts ⊢
  obtain ⟨ports, hkeys, hmade⟩ := parts_ports wanted.currentSpec x
  rw [hparts] at hkeys hmade
  generalize (adjustPorts _).made x = x at hmade ⊢
  have hlast := parts_owner wanted.metadata.owners.head? x
  rw [hmade] at hlast
  obtain ⟨hspec, hmeta⟩ := Prod.mk.inj hlast
  exact ⟨hspec ▸ rfl, hspec ▸ rfl, hspec ▸ rfl, hspec ▸ hkeys, hmeta ▸ ObjectMeta.withOwner?_getD _⟩

/-- A service stays in its place. -/
theorem place_synced (wanted s : Service) :
    (Service.synced wanted s).1.metadata.place = s.metadata.place := by
  refine adjusted_keeps (f := fun s : Service => s.parts.2.place) (fun a ha s => ?_) s
  simp only [adjustments, List.mem_cons, List.not_mem_nil, or_false] at ha
  rcases ha with rfl | rfl | rfl | rfl | rfl
  · rw [parts_address]
  · rw [parts_readiness]
  · rw [parts_selector]
  · obtain ⟨ports, _, hmade⟩ := parts_ports wanted.currentSpec s
    rw [hmade]
  · rw [parts_owner]
    exact ObjectMeta.place_withOwner? _

end Service

/-! ### StatefulSets -/

/-- Labels that were merged once are not changed by merging them again. -/
theorem Labels.merge_merge (labels wanted : Labels) :
    Labels.merge [Labels.merge [labels, wanted], wanted] = Labels.merge [labels, wanted] := by
  have hself : SortedMap.empty.union (Labels.merge [labels, wanted]) = Labels.merge [labels, wanted] :=
    SortedMap.ext_get? fun k => by rw [SortedMap.get?_union]; simp
  show (SortedMap.empty.union (Labels.merge [labels, wanted])).union wanted = _
  rw [hself]
  exact SortedMap.union_eq_left fun k v h => SortedMap.get?_union_right h

namespace StatefulSet

/-- All of a StatefulSet that is compared. -/
def parts (s : StatefulSet) : StatefulSetSpec × ObjectMeta := (s.currentSpec, s.metadata)

section

variable (cluster : Cluster) (role : Role) (labels : Labels) (s : StatefulSet)

theorem parts_owner : ((adjustOwner role).made s).parts = (s.parts.1,
    (s.parts.2.withOwner? (KubeObject.controllerReference role)).getD s.parts.2) := by
  rw [Adjustment.made, adjustOwner, parts, parts]
  cases s.metadata.withOwner? (KubeObject.controllerReference role) <;> rfl

theorem parts_replicas : ∃ replicas, ¬replicas.getD 0 < role.spec.template.replicas ∧
    ((adjustReplicas role).made s).parts = ({ s.parts.1 with replicas }, s.parts.2) := by
  rw [Adjustment.made, adjustReplicas]
  split
  next => exact ⟨some role.spec.template.replicas, Int32.lt_irrefl, rfl⟩
  next h => exact ⟨s.currentSpec.replicas, h, rfl⟩

theorem parts_minReady : ∃ minReadySeconds : Option Int32,
    minReadySeconds.getD 0 = role.spec.template.minReadySeconds.getD 0 ∧
    ((adjustMinReady role).made s).parts = ({ s.parts.1 with minReadySeconds }, s.parts.2) := by
  rw [Adjustment.made, adjustMinReady]
  split
  next => exact ⟨role.spec.template.minReadySeconds, rfl, rfl⟩
  next h => exact ⟨s.currentSpec.minReadySeconds, not_not.1 h, rfl⟩

theorem parts_strategy : ∃ updateStrategy,
    (∀ strategy, role.spec.template.updateStrategy = some strategy →
      updateStrategy = some strategy.settled) ∧
    ((adjustStrategy role).made s).parts = ({ s.parts.1 with updateStrategy }, s.parts.2) := by
  rw [Adjustment.made, adjustStrategy]
  split
  next hnone =>
    exact ⟨s.currentSpec.updateStrategy, fun _ h => absurd (hnone.symm.trans h) nofun, rfl⟩
  next strategy hstrategy =>
    have hwanted : ∀ strategy', role.spec.template.updateStrategy = some strategy' →
        some strategy.settled = some strategy'.settled :=
      fun _ h => congrArg (Option.map UpdateStrategy.settled) (hstrategy.symm.trans h)
    split
    next => exact ⟨some strategy.settled, hwanted, rfl⟩
    next h => exact ⟨s.currentSpec.updateStrategy, fun _ h' => (not_not.1 h).trans (hwanted _ h'), rfl⟩

theorem parts_template : ∃ template,
    ((adjustTemplate role).made s).parts = ({ s.parts.1 with template }, s.parts.2) := by
  rw [Adjustment.made, adjustTemplate]
  split
  next => exact ⟨role.spec.template.podTemplate, rfl⟩
  next => exact ⟨s.currentSpec.template, rfl⟩

theorem parts_labels : ((adjustLabels labels).made s).parts =
    (s.parts.1, { s.parts.2 with labels := some labels }) := by
  rw [Adjustment.made, adjustLabels]
  split
  next => rfl
  next h => rw [← not_not.1 h]; rfl

/-- The labels of the pods, with those of the StatefulSet. -/
theorem parts_podLabels : ∃ template : PodTemplate,
    template.podLabels = some (Labels.merge [template.podLabels.getD .empty, labels]) ∧
    ((adjustPodLabels labels).made s).parts = ({ s.parts.1 with template }, s.parts.2) := by
  rw [Adjustment.made, adjustPodLabels]
  split
  next =>
    exact ⟨s.currentSpec.template.withLabels _, congrArg some (Labels.merge_merge _ _).symm, rfl⟩
  next h => exact ⟨s.currentSpec.template, not_not.1 h, rfl⟩

theorem parts_annotations : ∃ annotations : Option Labels,
    annotations.getD .empty = role.metadata.annotations.getD .empty ∧
    ((adjustAnnotations role).made s).parts = (s.parts.1, { s.parts.2 with annotations }) := by
  rw [Adjustment.made, adjustAnnotations]
  split
  next => exact ⟨some (role.metadata.annotations.getD .empty), rfl, rfl⟩
  next h => exact ⟨s.metadata.annotations, not_not.1 h, rfl⟩

end

/-- A StatefulSet that is in line with its role. -/
structure Fits (cluster : Cluster) (role : Role) (ordinal : Int) (s : StatefulSet) : Prop where
  owner : s.metadata.withOwner? (KubeObject.controllerReference role) = none
  replicas : ¬s.currentSpec.replicas.getD 0 < role.spec.template.replicas
  minReady : s.currentSpec.minReadySeconds.getD 0 = role.spec.template.minReadySeconds.getD 0
  strategy : ∀ strategy, role.spec.template.updateStrategy = some strategy →
    s.currentSpec.updateStrategy = some strategy.settled
  labels : s.metadata.labels = some (Replicaset.labels cluster role ordinal)
  podLabels : s.currentSpec.template.podLabels = some (Labels.merge
    [s.currentSpec.template.podLabels.getD .empty, Replicaset.labels cluster role ordinal])
  annotations : s.metadata.annotations.getD .empty = role.metadata.annotations.getD .empty

variable {cluster : Cluster} {role : Role} {ordinal : Int} {s : StatefulSet}

/-- The labels that a replicaset must have stand over those of its role. -/
theorem get?_labels {k v : String} (h : (Replicaset.requiredLabels cluster role ordinal).get? k = some v) :
    (Replicaset.labels cluster role ordinal).get? k = some v := by
  show (Labels.merge ([Labels.clusterSelector cluster.name, KubeObject.labels role] ++
    [Replicaset.requiredLabels cluster role ordinal])).get? k = some v
  exact Labels.get?_merge_last h

/-- The labels of a replicaset tell the hash of the role's template. -/
theorem get?_labels_hash : (Replicaset.labels cluster role ordinal).get? Labels.podTemplateHash =
    some role.spec.template.podTemplate.hash := by
  refine get?_labels ?_
  rw [Replicaset.requiredLabels, SortedMap.get?_insert_self]

/-- A StatefulSet that is in line needs no change. -/
theorem Fits.synced (h : Fits cluster role ordinal s) : synced cluster role ordinal s = (s, false) := by
  refine adjusted_of_forall_none fun a ha => ?_
  simp only [adjustments, List.mem_cons, List.not_mem_nil, or_false] at ha
  rcases ha with rfl | rfl | rfl | rfl | rfl | rfl | rfl | rfl
  · simp [adjustOwner, h.owner]
  · simp [adjustReplicas, h.replicas]
  · simp [adjustMinReady, h.minReady]
  · rw [adjustStrategy]
    split
    next => rfl
    next strategy hstrategy => rw [if_neg (not_not.2 (h.strategy strategy hstrategy))]
  · have hhash : s.metadata.labelSet.get? Labels.podTemplateHash =
        some role.spec.template.podTemplate.hash := by
      rw [ObjectMeta.labelSet, h.labels, Option.getD_some, get?_labels_hash]
    simp [adjustTemplate, hhash]
  · simp [adjustLabels, h.labels]
  · simp only [adjustPodLabels]
    rw [if_neg (not_not.2 h.podLabels)]
  · simp [adjustAnnotations, h.annotations]

/-- A StatefulSet that was brought in line is in line. -/
theorem fits_synced (cluster : Cluster) (role : Role) (ordinal : Int) (s : StatefulSet) :
    Fits cluster role ordinal (synced cluster role ordinal s).1 := by
  rw [synced, adjusted_fst]
  simp only [adjustments, List.foldl_cons, List.foldl_nil]
  -- one adjustment after the other, each with what it makes of the parts
  have hparts := parts_owner role s
  generalize (adjustOwner role).made s = x at hparts ⊢
  obtain ⟨replicas, hreplicas, hmade⟩ := parts_replicas role x
  rw [hparts] at hmade
  generalize (adjustReplicas role).made x = x at hmade ⊢
  obtain ⟨minReady, hminReady, hparts⟩ := parts_minReady role x
  rw [hmade] at hparts
  generalize (adjustMinReady role).made x = x at hparts ⊢
  obtain ⟨strategy, hstrategy, hmade⟩ := parts_strategy role x
  rw [hparts] at hmade
  generalize (adjustStrategy role).made x = x at hmade ⊢
  obtain ⟨template, hparts⟩ := parts_template role x
  rw [hmade] at hparts
  generalize (adjustTemplate role).made x = x at hparts ⊢
  have hmade := parts_labels (Replicaset.labels cluster role ordinal) x
  rw [hparts] at hmade
  generalize (adjustLabels _).made x = x at hmade ⊢
  obtain ⟨template, hpodLabels, hparts⟩ := parts_podLabels (Replicaset.labels cluster role ordinal) x
  rw [hmade] at hparts
  generalize (adjustPodLabels _).made x = x at hparts ⊢
  obtain ⟨annotations, hannotations, hmade⟩ := parts_annotations role x
  rw [hparts] at hmade
  obtain ⟨hspec, hmeta⟩ := Prod.mk.inj hmade
  refine ⟨?_, hspec ▸ hreplicas, hspec ▸ hminReady, hspec ▸ hstrategy, hmeta ▸ rfl, hspec ▸ hpodLabels,
    hmeta ▸ hannotations⟩
  exact ObjectMeta.withOwner?_eq_none_of_eq (hmeta ▸ rfl) (ObjectMeta.withOwner?_getD s.metadata)

/-- A StatefulSet stays in its place. -/
theorem place_synced (cluster : Cluster) (role : Role) (ordinal : Int) (s : StatefulSet) :
    (synced cluster role ordinal s).1.metadata.place = s.metadata.place := by
  refine adjusted_keeps (f := fun s : StatefulSet => s.parts.2.place) (fun a ha s => ?_) s
  simp only [adjustments, List.mem_cons, List.not_mem_nil, or_false] at ha
  rcases ha with rfl | rfl | rfl | rfl | rfl | rfl | rfl | rfl
  · rw [parts_owner]
    exact ObjectMeta.place_withOwner? _
  · obtain ⟨replicas, _, hmade⟩ := parts_replicas role s
    rw [hmade]
  · obtain ⟨minReady, _, hmade⟩ := parts_minReady role s
    rw [hmade]
  · obtain ⟨strategy, _, hmade⟩ := parts_strategy role s
    rw [hmade]
  · obtain ⟨template, hmade⟩ := parts_template role s
    rw [hmade]
  · rw [parts_labels]
    rfl
  · obtain ⟨template, _, hmade⟩ := parts_podLabels (Replicaset.labels cluster role ordinal) s
    rw [hmade]
  · obtain ⟨annotations, _, hmade⟩ := parts_annotations role s
    rw [hmade]
    rfl

/-! ### What the labels of a StatefulSet tell -/

theorem get?_labels_ordinal : (Replicaset.labels cluster role ordinal).get? Labels.replicasetOrdinal =
    some (Labels.integerText ordinal) := by
  refine get?_labels ?_
  have hne : Labels.replicasetOrdinal ≠ Labels.podTemplateHash := by decide
  rw [Replicaset.requiredLabels, SortedMap.get?_insert_of_ne hne, SortedMap.get?_insert_self]

/-- A StatefulSet that is in line has the ordinal that it is in line for. -/
theorem Fits.ordinal? (h : Fits cluster role ordinal s)
    (hrange : -0x80000000 ≤ ordinal ∧ ordinal < 0x80000000) : s.ordinal? = some ordinal := by
  rw [StatefulSet.ordinal?, ObjectMeta.labelSet, h.labels, Option.getD_some, get?_labels_ordinal]
  exact readInt32?_integerText hrange

/-- A StatefulSet that is in line is selected by its role and its ordinal. -/
theorem Fits.matches (h : Fits cluster role ordinal s) : Labels.Matches s.metadata.labels
    (Labels.ordinalSelector cluster.name role.name ordinal) := by
  rw [h.labels]
  have hrole : (Replicaset.labels cluster role ordinal).get? Labels.roleName = some role.name := by
    refine get?_labels ?_
    rw [Replicaset.requiredLabels, Replicaset.selector, SortedMap.get?_insert_of_ne (by decide),
      SortedMap.get?_insert_of_ne (by decide), SortedMap.get?_insert_of_ne (by decide),
      SortedMap.get?_insert_of_ne (by decide), Labels.roleSelector, SortedMap.get?_insert_self]
  have hcluster : (Replicaset.labels cluster role ordinal).get? Labels.clusterName = some cluster.name := by
    refine get?_labels ?_
    rw [Replicaset.requiredLabels, Replicaset.selector, SortedMap.get?_insert_of_ne (by decide),
      SortedMap.get?_insert_of_ne (by decide), SortedMap.get?_insert_of_ne (by decide),
      SortedMap.get?_insert_of_ne (by decide), Labels.roleSelector,
      SortedMap.get?_insert_of_ne (by decide), Labels.clusterSelector, SortedMap.get?_insert_self]
  have hempty : Labels.Matches (some (Replicaset.labels cluster role ordinal)) SortedMap.empty :=
    fun _ he => absurd he List.not_mem_nil
  have hbind : ∀ {k v : String}, (Replicaset.labels cluster role ordinal).get? k = some v →
      (some (Replicaset.labels cluster role ordinal)).bind (·.get? k) = some v := by
    intro k v hk
    rw [Option.bind_some, hk]
  exact Labels.matches_insert (Labels.matches_insert (Labels.matches_insert hempty (hbind hcluster)) (hbind hrole))
    (hbind get?_labels_ordinal)

/-- A StatefulSet that is selected by an ordinal has that ordinal. -/
theorem ordinal?_of_matches {clusterName roleName : String}
    (h : Labels.Matches s.metadata.labels (Labels.ordinalSelector clusterName roleName ordinal))
    (hrange : -0x80000000 ≤ ordinal ∧ ordinal < 0x80000000) : s.ordinal? = some ordinal := by
  have htext := Labels.Matches.get? h
  rw [StatefulSet.ordinal?, ObjectMeta.labelSet]
  cases hlabels : s.metadata.labels with
  | none =>
    rw [hlabels] at htext
    cases htext
  | some labels =>
    rw [hlabels, Option.bind_some] at htext
    rw [Option.getD_some, htext, Option.bind_some]
    exact readInt32?_integerText hrange

end StatefulSet

end ClusterKeeper
