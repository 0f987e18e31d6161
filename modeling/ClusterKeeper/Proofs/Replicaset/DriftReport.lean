import ClusterKeeper.Proofs.Drift

/-!
What is told of a StatefulSet that was brought in line is exact: a change is told if and only if the
StatefulSet is another than it was, and bringing it in line once more tells none
(`StatefulSet.drift_reported`).

Room may be made for what is to be compared before it is compared: an empty list of owners, a
specification, metadata of the pods (`StatefulSet.furnished`). Such room is never all that was changed.
No adjustment sees it (`Adjustment.Blind`), and a StatefulSet that is in line has all of it anyway
(`StatefulSet.Fits.furnished_eq`), so that it makes no difference whether it is made before or left to the
adjustments that need it.
-/

namespace ClusterKeeper

/-! ### What adjustments tell -/

/-- An object of which no change is told is the one that there was. -/
theorem adjusted_fst_of_snd {α : Type} {as : List (Adjustment α)} {x : α} (h : (adjusted as x).2 = false) :
    (adjusted as x).1 = x := by
  -- as long as no change is told, the object is the first
  refine List.foldlRecOn (motive := fun acc : α × Bool => acc.2 = false → acc.1 = x) as _ (fun _ => rfl) ?_ h
  intro acc hacc a _
  cases a acc.1 with
  | none => exact hacc
  | some y =>
    intro htold
    simp at htold

/-- An adjustment to which it makes no difference whether `f` was applied before. -/
def Adjustment.Blind {α : Type} (f : α → α) (a : Adjustment α) : Prop :=
  ∀ x, (a (f x)).map f = (a x).map f

theorem Adjustment.blind_ite {α : Type} {f g : α → α} {P : α → Prop} [DecidablePred P]
    (hread : ∀ x, P (f x) ↔ P x) (hmade : ∀ x, f (g (f x)) = f (g x)) :
    Adjustment.Blind f fun x => if P x then some (g x) else none := by
  intro x
  by_cases h : P x
  · simp [h, hread, hmade]
  · simp [h, hread]

/-- Objects that are the same to `f` stay so under adjustments that are blind to it. -/
theorem adjusted_of_blind {α : Type} {f : α → α} {as : List (Adjustment α)}
    (h : ∀ a ∈ as, a.Blind f) {x y : α} (hxy : f x = f y) :
    f (adjusted as x).1 = f (adjusted as y).1 ∧ (adjusted as x).2 = (adjusted as y).2 := by
  rw [adjusted, adjusted]
  generalize false = told
  induction as generalizing x y told with
  | nil => exact ⟨hxy, rfl⟩
  | cons a as ih =>
    have hstep : (a x).map f = (a y).map f := by
      rw [← h a List.mem_cons_self x, ← h a List.mem_cons_self y, hxy]
    have hrest : ∀ b ∈ as, b.Blind f := fun b hb => h b (List.mem_cons_of_mem a hb)
    rw [List.foldl_cons, List.foldl_cons]
    cases hx : a x with
    | none =>
      have hy : a y = none := by simpa [hx] using hstep.symm
      simp only [hy]
      exact ih hrest hxy told
    | some x' =>
      cases hy : a y with
      | none => simp [hx, hy] at hstep
      | some y' =>
        have hxy' : f x' = f y' := by simpa [hx, hy] using hstep
        exact ih hrest hxy' true

namespace StatefulSet

/-! ### The room for what is compared -/

/-- The owners, in a list where there is one to enter. -/
def roomForOwner (role : Role) (owners : Option (List OwnerReference)) : Option (List OwnerReference) :=
  if (KubeObject.controllerReference role).isSome then some (owners.getD []) else owners

/-- The StatefulSet with room for all that is compared: a list of owners, where there is one to enter, a
specification, and metadata of the pods. -/
def furnished (role : Role) (s : StatefulSet) : StatefulSet where
  metadata := { s.metadata with ownerReferences := roomForOwner role s.metadata.ownerReferences }
  spec := some { s.currentSpec with
    template := { s.currentSpec.template with
      metadata := some (s.currentSpec.template.metadata.getD .blank) } }

variable {cluster : Cluster} {role : Role} {ordinal : Int} {s : StatefulSet}

theorem roomForOwner_getD (owners : Option (List OwnerReference)) :
    (roomForOwner role owners).getD [] = owners.getD [] := by
  rw [roomForOwner]
  split
  · rfl
  · rfl

theorem roomForOwner_roomForOwner (owners : Option (List OwnerReference)) :
    roomForOwner role (roomForOwner role owners) = roomForOwner role owners := by
  rw [roomForOwner, roomForOwner_getD, roomForOwner]
  split
  · rfl
  · rfl

theorem owners_furnished : (furnished role s).metadata.owners = s.metadata.owners :=
  roomForOwner_getD s.metadata.ownerReferences

/-- Labels that are not there are not there either once there is room for them. -/
theorem podLabels_furnished :
    (furnished role s).currentSpec.template.podLabels = s.currentSpec.template.podLabels := by
  simp only [furnished, currentSpec, Option.getD_some, PodTemplate.podLabels]
  cases (s.spec.getD .blank).template.metadata with
  | none => rfl
  | some m => rfl

theorem blind_owner : (adjustOwner role).Blind (furnished role) := by
  intro s
  simp only [adjustOwner, Option.map_map]
  cases hrole : KubeObject.controllerReference role with
  | none => rfl
  | some owner =>
    have howned : (furnished role s).metadata.isOwnedBy owner.uid = s.metadata.isOwnedBy owner.uid := by
      rw [ObjectMeta.isOwnedBy, ObjectMeta.isOwnedBy, owners_furnished]
    simp only [ObjectMeta.withOwner?, Option.bind_eq_bind, Option.bind_some, howned, owners_furnished]
    split
    · rfl
    · simp [furnished, currentSpec, roomForOwner]

theorem blind_replicas : (adjustReplicas role).Blind (furnished role) :=
  Adjustment.blind_ite (fun _ => Iff.rfl) fun _ => by simp [furnished, withSpec, currentSpec, roomForOwner_roomForOwner]

theorem blind_minReady : (adjustMinReady role).Blind (furnished role) :=
  Adjustment.blind_ite (fun _ => Iff.rfl) fun _ => by simp [furnished, withSpec, currentSpec, roomForOwner_roomForOwner]

theorem blind_strategy : (adjustStrategy role).Blind (furnished role) := by
  intro s
  cases hstrategy : role.spec.template.updateStrategy with
  | none => simp [adjustStrategy, hstrategy]
  | some strategy =>
    have hblind : Adjustment.Blind (furnished role) fun s =>
        if s.currentSpec.updateStrategy ≠ some strategy.settled then
          some (s.withSpec ({ · with updateStrategy := some strategy.settled }))
        else none :=
      Adjustment.blind_ite (fun _ => Iff.rfl) fun _ => by
        simp [furnished, withSpec, currentSpec, roomForOwner_roomForOwner]
    simp only [adjustStrategy, hstrategy]
    exact hblind s

theorem blind_template : (adjustTemplate role).Blind (furnished role) :=
  Adjustment.blind_ite (fun _ => Iff.rfl) fun _ => by simp [furnished, withSpec, currentSpec, roomForOwner_roomForOwner]

theorem blind_labels (labels : Labels) : (adjustLabels labels).Blind (furnished role) :=
  Adjustment.blind_ite (fun _ => Iff.rfl) fun _ => by
    simp [furnished, currentSpec, roomForOwner_roomForOwner]

theorem blind_podLabels (labels : Labels) : (adjustPodLabels labels).Blind (furnished role) := by
  refine Adjustment.blind_ite (fun s => ?_) fun s => ?_
  · rw [podLabels_furnished]
  · rw [podLabels_furnished]
    simp [furnished, withSpec, currentSpec, PodTemplate.withLabels, roomForOwner_roomForOwner]

theorem blind_annotations : (adjustAnnotations role).Blind (furnished role) :=
  Adjustment.blind_ite (fun _ => Iff.rfl) fun _ => by
    simp [furnished, currentSpec, roomForOwner_roomForOwner]

/-- No adjustment sees whether there is room for what it compares. -/
theorem blind_adjustments (cluster : Cluster) (role : Role) (ordinal : Int) :
    ∀ a ∈ adjustments cluster role ordinal, a.Blind (furnished role) := by
  intro a ha
  simp only [adjustments, List.mem_cons, List.not_mem_nil, or_false] at ha
  rcases ha with rfl | rfl | rfl | rfl | rfl | rfl | rfl | rfl
  · exact blind_owner
  · exact blind_replicas
  · exact blind_minReady
  · exact blind_strategy
  · exact blind_template
  · exact blind_labels _
  · exact blind_podLabels _
  · exact blind_annotations

theorem furnished_furnished : furnished role (furnished role s) = furnished role s := by
  simp [furnished, currentSpec, roomForOwner_roomForOwner]

/-- A StatefulSet that is in line has room for all that is compared. -/
theorem Fits.furnished_eq (h : Fits cluster role ordinal s) : furnished role s = s := by
  have howners : roomForOwner role s.metadata.ownerReferences = s.metadata.ownerReferences := by
    rw [roomForOwner]
    split
    next hrole =>
      obtain ⟨owner, howner⟩ := Option.isSome_iff_exists.1 hrole
      have howned : s.metadata.isOwnedBy owner.uid = true :=
        ObjectMeta.withOwner?_eq_none_iff.1 h.owner owner howner
      cases hrefs : s.metadata.ownerReferences with
      | none => simp [ObjectMeta.isOwnedBy, ObjectMeta.owners, hrefs] at howned
      | some refs => rfl
    next => rfl
  have hpods := h.podLabels
  -- without a specification or without metadata, the pods have no labels
  cases hspec : s.spec with
  | none => simp [currentSpec, hspec, StatefulSetSpec.blank, PodTemplate.blank, PodTemplate.podLabels] at hpods
  | some spec =>
    cases hmeta : spec.template.metadata with
    | none => simp [currentSpec, hspec, PodTemplate.podLabels, hmeta] at hpods
    | some m =>
      have hroom : { spec with template := { spec.template with
          metadata := some (spec.template.metadata.getD .blank) } } = spec := by
        rw [hmeta, Option.getD_some, ← hmeta]
      rw [furnished, howners, currentSpec, hspec, Option.getD_some, hroom, ← hspec]

/-! ### What is told of a StatefulSet -/

/-- A change is told of a StatefulSet if and only if it is another than it was, and none when it is
brought in line once more. Whether there was room for what is compared makes no difference. -/
theorem drift_reported (cluster : Cluster) (role : Role) (ordinal : Int) (s : StatefulSet) :
    ((synced cluster role ordinal s).2 = true ↔ (synced cluster role ordinal s).1 ≠ s) ∧
    synced cluster role ordinal (synced cluster role ordinal s).1 =
      ((synced cluster role ordinal s).1, false) ∧
    synced cluster role ordinal (furnished role s) = synced cluster role ordinal s := by
  have hagain : synced cluster role ordinal (synced cluster role ordinal s).1 =
      ((synced cluster role ordinal s).1, false) := (fits_synced cluster role ordinal s).synced
  refine ⟨⟨?_, ?_⟩, hagain, ?_⟩
  · intro htold hsame
    rw [hsame] at hagain
    rw [hagain] at htold
    simp at htold
  · intro hother
    rcases Bool.eq_false_or_eq_true (synced cluster role ordinal s).2 with htold | hsilent
    · exact htold
    · exact absurd (adjusted_fst_of_snd hsilent) hother
  · obtain ⟨hmade, htold⟩ :=
      adjusted_of_blind (blind_adjustments cluster role ordinal) (furnished_furnished (s := s))
    have hfst : (synced cluster role ordinal (furnished role s)).1 = (synced cluster role ordinal s).1 := by
      rw [← (fits_synced cluster role ordinal (furnished role s)).furnished_eq,
        ← (fits_synced cluster role ordinal s).furnished_eq]
      exact hmade
    exact Prod.ext hfst htold

end StatefulSet

end ClusterKeeper
