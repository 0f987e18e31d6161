import ClusterKeeper.Proofs.SortedMap
import ClusterKeeper.Proofs.Simulation.Stage
import ClusterKeeper.Simulation.Topology

/-!
A topology in memory that keeps the addresses of the instances that joined, and for the rest is the
topology for trying out passes. It remembers what it is told (`Registry.remembers`).
-/

namespace ClusterKeeper.Simulation

namespace Topology

/-- Nothing of a topology is undone in another. -/
structure Grows (t t' : Topology) : Prop where
  configured : ∀ {pod}, t.configured.contains pod = true → t'.configured.contains pod = true
  replicasetRoles : ∀ {uuid}, t.replicasetRoles.contains uuid = true →
    t'.replicasetRoles.contains uuid = true
  lastStorages : t'.lastStorages = t.lastStorages
  hierarchy : t'.hierarchy = t.hierarchy

variable {t t₁ t₂ : Topology}

theorem Grows.rfl : Grows t t := ⟨id, id, Eq.refl _, Eq.refl _⟩

theorem Grows.trans (h₁ : Grows t t₁) (h₂ : Grows t₁ t₂) : Grows t t₂ :=
  ⟨fun h => h₂.configured (h₁.configured h), fun h => h₂.replicasetRoles (h₁.replicasetRoles h),
    h₂.lastStorages.trans h₁.lastStorages, h₂.hierarchy.trans h₁.hierarchy⟩

theorem grows_setReplicasetRoles (uuid : String) (roles : List String) :
    Grows t { t with replicasetRoles := t.replicasetRoles.insert uuid roles } :=
  ⟨id, fun h => SortedMap.contains_insert.2 (.inr h), Eq.refl _, Eq.refl _⟩

theorem grows_withJoined (uris : List String) : Grows t (uris.foldl withJoined t) := by
  induction uris generalizing t with
  | nil => exact .rfl
  | cons uri uris ih =>
    have hfirst : Grows t (t.withJoined uri) :=
      ⟨fun h => SortedMap.contains_insert.2 (.inr h), id, Eq.refl _, Eq.refl _⟩
    exact hfirst.trans ih

theorem grows_answer (t : Topology) (q : AdminRequest) : Grows t (t.answer q).2 := by
  cases q with
  | join leader r uris =>
    rw [answer]
    split
    next => exact .rfl
    next => exact (grows_withJoined uris).trans (grows_setReplicasetRoles r.uuid r.roles)
  | setWeight leader uuid weight =>
    rw [answer]
    split
    next => exact .rfl
    next =>
      split
      next => exact .rfl
      next => exact ⟨id, id, rfl, rfl⟩
  | setReplicasetRoles leader uuid roles => exact grows_setReplicasetRoles uuid roles
  | bootstrapVshard leader =>
    rw [answer]
    split <;> exact .rfl
  | setFailoverParams leader params => exact ⟨id, id, rfl, rfl⟩
  | applyCartridgeConfig leader config => exact ⟨id, id, rfl, rfl⟩
  | instanceUuid | replicasetRoles | rolesHierarchy | failoverParams | cartridgeConfig
  | isCartridgeStarted | isCartridgeConfigured => exact .rfl

end Topology

/-- A topology with the addresses of its instances. -/
structure Registry where
  topology : Topology
  addresses : List String

namespace Registry

/-- An instance is at an address, whose first part is the name of the pod. -/
def IsAt (pod : Pod) (address : String) : Prop := (pod.name ++ ".").toList <+: address.toList

instance (pod : Pod) (address : String) : Decidable (IsAt pod address) :=
  inferInstanceAs (Decidable (_ <+: _))

/-- The answer to a request, with the topology after it. -/
def answer : Answering Registry := fun t q =>
  match q with
  | .instanceUuid pod =>
    (.ok (if ∃ address ∈ t.addresses, IsAt pod address then "instance-" ++ pod.name else ""), t)
  | .join leader r uris =>
    ((t.topology.answer (.join leader r uris)).1,
      ⟨(t.topology.answer (.join leader r uris)).2, t.addresses ++ uris⟩)
  | q => ((t.topology.answer q).1, { t with topology := (t.topology.answer q).2 })

variable {t : Registry}

theorem isAt_advertiseUri (cluster : Cluster) (pod : Pod) : IsAt pod (cluster.advertiseUri pod.name) := by
  simp only [IsAt, Cluster.advertiseUri, String.toList_append, List.append_assoc]
  exact ⟨_, List.append_assoc _ _ _⟩

theorem joined_iff {pod : Pod} : Joined answer t pod ↔ ∃ address ∈ t.addresses, IsAt pod address := by
  rw [Joined, answer]
  dsimp only
  split
  next h =>
    refine iff_of_true ⟨"instance-" ++ pod.name, fun hempty => ?_, rfl⟩ h
    have hchars := congrArg String.toList hempty
    simp at hchars
  next h => simp [h]

theorem answer_setWeight {leader : Pod} {uuid : String} {weight : Int32} :
    TakesWeight answer t leader uuid weight ↔
      t.topology.replicasetRoles.contains uuid = true ∧ uuid ∉ t.topology.lastStorages := by
  show (t.topology.answer (.setWeight leader uuid weight)).1 = .ok () ↔ _
  rw [Topology.answer]
  cases hroles : t.topology.replicasetRoles.contains uuid with
  | false => simp
  | true =>
    by_cases hlast : uuid ∈ t.topology.lastStorages <;> simp [hlast]

theorem grows_answer (t : Registry) (q : AdminRequest) :
    t.topology.Grows (answer t q).2.topology ∧ t.addresses ⊆ (answer t q).2.addresses := by
  cases q with
  | join leader r uris => exact ⟨t.topology.grows_answer _, List.subset_append_left _ _⟩
  | instanceUuid pod => exact ⟨.rfl, List.Subset.refl _⟩
  | _ => exact ⟨t.topology.grows_answer _, List.Subset.refl _⟩

theorem later_answer (t : Registry) (q : AdminRequest) : Later answer t (answer t q).2 := by
  obtain ⟨hgrows, hsub⟩ := grows_answer t q
  refine ⟨fun {pod} hjoined => ?_, fun {pod} hconfigured => ?_, fun {leader uuid weight} htakes => ?_,
    fun leader => ?_⟩
  · rw [joined_iff] at hjoined ⊢
    obtain ⟨address, hmem, hat⟩ := hjoined
    exact ⟨address, hsub hmem, hat⟩
  · have h : t.topology.configured.contains pod.name = true := Except.ok.inj hconfigured
    exact congrArg Except.ok (hgrows.configured h)
  · rw [answer_setWeight] at htakes ⊢
    exact ⟨hgrows.replicasetRoles htakes.1, hgrows.lastStorages ▸ htakes.2⟩
  · exact congrArg Except.ok hgrows.hierarchy

/-- The topology keeps what it is told. -/
theorem remembers : Remembers answer where
  query t q hq := by
    cases q with
    | join | setWeight | setReplicasetRoles | bootstrapVshard | setFailoverParams
    | applyCartridgeConfig => exact hq.elim
    | _ => rfl
  later := later_answer
  join h cluster pod _ hmem := by
    rw [joined_iff]
    exact ⟨_, List.mem_append_right _ hmem, isAt_advertiseUri cluster pod⟩
  roles {t leader uuid roles} _ := by
    show Except.ok (((t.topology.replicasetRoles.insert uuid roles).get? uuid).getD []) = _
    rw [SortedMap.get?_insert_self]
    rfl
  otherRoles {t leader uuid roles uuid'} hne := by
    show Except.ok (((t.topology.replicasetRoles.insert uuid roles).get? uuid').getD []) = _
    rw [SortedMap.get?_insert_of_ne hne]
    rfl
  rolesOfWeight {t leader uuid weight uuid'} := by
    have hsame : (t.topology.answer (.setWeight leader uuid weight)).2.replicasetRoles =
        t.topology.replicasetRoles := by
      rw [Topology.answer]
      split
      next => rfl
      next => split <;> rfl
    exact congrArg (fun roles : SortedMap (List String) => Except.ok ((roles.get? uuid').getD [])) hsame
  params _ := rfl
  config {t leader config} _ := ⟨t.topology.config.union config, rfl, fun _ _ => SortedMap.get?_union_right⟩

end Registry

end ClusterKeeper.Simulation
