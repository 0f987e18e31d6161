import ClusterKeeper.Proofs.Pass.Conclusion
import ClusterKeeper.Proofs.Pass.RoleWalk

/-!
What it takes for a role to be ready. When a pass ends with the role in phase `Ready`, each of its
replicasets was joined to the end, and a join looks at all instances of the StatefulSets that are listed and
are not being deleted: each is up, and is part of a topology or among those that a join was granted for
(`RolePass.Covers`). A join of a replicaset without such a StatefulSet ends as well, so that a role may be
ready without any instance (`RolePass.ready_without_instances`).

Main statement: `RolePass.covers_of_ready`.
-/

namespace ClusterKeeper

open Program

namespace RolePass

variable {r : Resolved} {t t' : Talk Surroundings} {uris uris' : List String} {s : StatefulSet}
  {replica ordinal : Nat}

/-! ### Instances -/

/-- An instance of a StatefulSet is up, and is part of a topology or among those that are to join. -/
def Handled (r : Resolved) (t : Talk Surroundings) (uris : List String) (s : StatefulSet) (replica : Nat) : Prop :=
  ∃ pod : Pod,
    (⟨Request.store (.get .pod r.ns (podName s.name replica)), Except.ok (some pod)⟩ : Turn Surroundings) ∈ t ∧
    isUp pod = true ∧ (Placed t pod ∨ r.cluster.advertiseUri pod.name ∈ uris)

theorem Handled.mono (h : Handled r t uris s replica) (hsuffix : t <:+ t') (huris : uris ⊆ uris') :
    Handled r t' uris' s replica := by
  obtain ⟨pod, hpod, hup, hknown⟩ := h
  refine ⟨pod, hsuffix.mem hpod, hup, hknown.imp ?_ fun huri => huris huri⟩
  rintro ⟨uuid, hne, huuid⟩
  exact ⟨uuid, hne, hsuffix.mem huuid⟩

theorem collectReplica_handles (r : Resolved) (s : StatefulSet) (replica : Nat) (uris : List String)
    (t : Talk Surroundings) :
    KeepsOr (fun _ _ => True) (collectReplica r s replica uris)
      (fun t' uris' => t <:+ t' ∧ uris ⊆ uris' ∧ Handled r t' uris' s replica) (fun _ _ => True) t := by
  suffices hall : KeepsOr (fun _ _ => True) (collectReplica r s replica uris)
      (fun t' uris' => uris ⊆ uris' ∧ Handled r t' uris' s replica) (fun _ _ => True) t from
    hall.suffix.mono (fun _ _ h => h) fun _ _ _ => trivial
  rw [collectReplica, keepsOr_bind, keepsOr_ofAttempt, Attempt.get, keepsOr_store]
  refine ⟨trivial, fun found => ?_, fun _ => trivial⟩
  split
  · simp
  next pod hpod =>
    obtain ⟨rfl, hup⟩ := Option.filter_eq_some_iff.1 hpod
    rw [keepsOr_bind, keepsOr_asking, keepsOr_ask]
    refine ⟨trivial, fun uuid => ?_, fun _ => trivial⟩
    have hfound : (⟨Request.store (.get .pod r.ns (podName s.name replica)), Except.ok (some pod)⟩ :
        Turn Surroundings) ∈ ⟨Request.admin (.instanceUuid pod), Except.ok uuid⟩ ::
          ⟨Request.store (.get .pod r.ns (podName s.name replica)), Except.ok (some pod)⟩ :: t := by simp
    rw [keepsOr_pure]
    split
    next hnew => exact ⟨List.subset_append_left _ _, pod, hfound, hup, Or.inr (by simp)⟩
    next hplaced => exact ⟨List.Subset.refl _, pod, hfound, hup, Or.inl ⟨uuid, hplaced, List.mem_cons_self⟩⟩

/-! ### Replicasets -/

/-- All instances of the StatefulSets that are not being deleted are up, and are part of a topology or among
those that are to join. -/
def HandlesAll (r : Resolved) (t : Talk Surroundings) (uris : List String) (all : List StatefulSet) : Prop :=
  ∀ s ∈ all, s.metadata.isDeleting = false → ∀ replica < r.role.replicas.toNat, Handled r t uris s replica

/-- The listing of the StatefulSets of a replicaset. -/
abbrev listing (r : Resolved) (ordinal : Nat) (all : List StatefulSet) : Turn Surroundings :=
  ⟨Request.store (.list .statefulSet r.ns (Labels.ordinalSelector r.cluster.name r.role.name ordinal)),
    Except.ok all⟩

/-- The replicas of one StatefulSet after another. -/
theorem through_handles (r : Resolved) {stateful : List StatefulSet} :
    KeepsOr (fun _ _ => True)
      (through (fun s => throughUpTo (collectReplica r s) r.role.replicas.toNat 0) stateful [])
      (fun t' uris => t <:+ t' ∧ ∀ s ∈ stateful, ∀ replica < r.role.replicas.toNat, Handled r t' uris s replica)
      (fun _ _ => True) t := by
  -- those of the items before are handled, whatever is still to come
  refine (keepsOr_throughItems (fun left t' uris => t <:+ t' ∧ ∀ s ∈ stateful, s ∉ left →
    ∀ replica < r.role.replicas.toNat, Handled r t' uris s replica) (fun s left uris t₁ h => ?_) stateful []
    ⟨List.suffix_rfl, fun s hs hnot => absurd hs hnot⟩).mono (fun t' uris h => ?_) fun _ _ h => h
  · obtain ⟨hsuffix, hdone⟩ := h
    refine (keepsOr_throughFirst (fun n t' uris' => t₁ <:+ t' ∧ uris ⊆ uris' ∧
      ∀ replica < n, Handled r t' uris' s replica) _ (fun n uris' t₂ _ h => ?_) uris
      ⟨List.suffix_rfl, List.Subset.refl _, fun _ hlt => absurd hlt (Nat.not_lt_zero _)⟩).mono
      (fun t' uris' h => ?_) fun _ _ h => h
    · obtain ⟨hsuffix₂, huris, hall⟩ := h
      refine (collectReplica_handles r s n uris' t₂).mono (fun t₃ uris₃ h => ?_) fun _ _ h => h
      obtain ⟨hsuffix₃, huris₃, hthis⟩ := h
      refine ⟨hsuffix₂.trans hsuffix₃, List.Subset.trans huris huris₃, fun replica hlt => ?_⟩
      rcases Nat.lt_succ_iff_lt_or_eq.1 hlt with hlt | rfl
      · exact (hall replica hlt).mono hsuffix₃ huris₃
      · exact hthis
    · obtain ⟨hsuffix₂, huris, hall⟩ := h
      refine ⟨hsuffix.trans hsuffix₂, fun s' hs' hnot replica hlt => ?_⟩
      by_cases hsame : s' = s
      · exact hsame ▸ hall replica hlt
      · exact (hdone s' hs' (by simp [hsame, hnot]) replica hlt).mono hsuffix₂ huris
  · exact ⟨h.1, fun s hs => h.2 s hs List.not_mem_nil⟩

theorem collect_handles (r : Resolved) (ordinal : Nat) :
    KeepsOr (fun _ _ => True) (collect r ordinal)
      (fun t' uris => ∃ all, listing r ordinal all :: t <:+ t' ∧ HandlesAll r t' uris all)
      (fun _ _ => True) t := by
  rw [collect, keepsOr_bind, keepsOr_ofAttempt, liveStatefulSets, keepsOr_bind, Attempt.list, keepsOr_store]
  refine ⟨trivial, fun all => ?_, fun _ => trivial⟩
  rw [keepsOr_pure]
  refine (through_handles r).mono (fun t' uris h => ?_) fun _ _ h => h
  exact ⟨all, h.1, fun s hs hlive => h.2 s (by simp [hs, hlive])⟩

/-- A join that ended: it listed StatefulSets first, and all instances of those that are not being deleted
are up, and are part of a topology or among those that the join was granted for. -/
def Covers (r : Resolved) (ordinal : Nat) (said : Talk Surroundings) : Prop :=
  ∃ all, [listing r ordinal all] <:+ said ∧
    ∀ s ∈ all, s.metadata.isDeleting = false → ∀ replica < r.role.replicas.toNat, ∃ pod : Pod,
      (⟨Request.store (.get .pod r.ns (podName s.name replica)), Except.ok (some pod)⟩ :
        Turn Surroundings) ∈ said ∧
      isUp pod = true ∧
      (Placed said pod ∨ ∃ request uris outcome, r.cluster.advertiseUri pod.name ∈ uris ∧
        (⟨Request.admin (.join r.leader request uris), Except.ok outcome⟩ : Turn Surroundings) ∈ said)

/-- All instances are part of a topology. -/
theorem covers_of_nil {all : List StatefulSet} (hlisted : [listing r ordinal all] <:+ t)
    (h : HandlesAll r t [] all) : Covers r ordinal t := by
  refine ⟨all, hlisted, fun s hs hlive replica hlt => ?_⟩
  obtain ⟨pod, hpod, hup, hknown⟩ := h s hs hlive replica hlt
  exact ⟨pod, hpod, hup, Or.inl (hknown.resolve_right List.not_mem_nil)⟩

/-- The join is granted. -/
theorem covers_of_granted {all : List StatefulSet} {request : JoinRequest} {outcome : JoinOutcome}
    (hlisted : [listing r ordinal all] <:+ t) (h : HandlesAll r t uris all) (hsuffix : t <:+ t') :
    Covers r ordinal (⟨Request.admin (.join r.leader request uris), Except.ok outcome⟩ :: t') := by
  have hlater := hsuffix.trans (List.suffix_cons ⟨Request.admin (.join r.leader request uris), Except.ok outcome⟩ t')
  refine ⟨all, hlisted.trans hlater, fun s hs hlive replica hlt => ?_⟩
  obtain ⟨pod, hpod, hup, hplaced | huri⟩ := (h s hs hlive replica hlt).mono hlater (List.Subset.refl _)
  · exact ⟨pod, hpod, hup, Or.inl hplaced⟩
  · exact ⟨pod, hpod, hup, Or.inr ⟨request, uris, outcome, huri, List.mem_cons_self⟩⟩

theorem joinReplicaset_covers (r : Resolved) (ordinal : Nat) :
    KeepsOr (fun _ _ => True) (joinReplicaset r ordinal) (fun said _ => Covers r ordinal said)
      (fun _ _ => True) [] := by
  rw [joinReplicaset, keepsOr_bind]
  refine (collect_handles r ordinal).mono (fun t uris h => ?_) fun _ _ h => h
  obtain ⟨all, hlisted, h⟩ := h
  have hjoins : ∀ t', t <:+ t' → KeepsOr (fun _ _ => True) (do
      ExceptT.lift (Act.log .info "Joining instances")
      let _ ← Joining.asking (.join r.leader (joinRequest r.role ordinal) uris))
      (fun said _ => Covers r ordinal said) (fun _ _ => True) t' := by
    intro t' hsuffix
    rw [keepsOr_bind, keepsOr_lift, keeps_log, keepsOr_bind, keepsOr_asking, keepsOr_ask]
    exact ⟨trivial, trivial, fun outcome => covers_of_granted hlisted h (hsuffix.trans (List.suffix_cons _ t')),
      fun _ => trivial⟩
  rw [keepsOr_ite]
  refine ⟨fun hnil => covers_of_nil hlisted (hnil ▸ h), fun _ => ?_⟩
  rw [keepsOr_ite]
  refine ⟨fun _ => ?_, fun _ => hjoins t List.suffix_rfl⟩
  rw [keepsOr_bind, keepsOr_asking, keepsOr_ask]
  refine ⟨trivial, fun uuid => ?_, fun _ => trivial⟩
  rw [keepsOr_ite]
  refine ⟨fun _ => ?_, fun _ => hjoins _ (List.suffix_cons _ t)⟩
  rw [keepsOr_bind, keepsOr_lift, keeps_log]
  exact ⟨trivial, trivial⟩

/-- The talk of a join that ended, somewhere in the talk of the pass. -/
theorem covers_of_joins (h : t.Joins r ordinal) :
    ∃ said, said <:+: t ∧ (joinReplicaset r ordinal).run.Goes [] said (.ok ()) ∧ Covers r ordinal said := by
  obtain ⟨before, after, hgoes, later, rfl⟩ := h
  obtain ⟨said, rfl, hjoined⟩ := (goes_append []).1 hgoes
  exact ⟨said, ⟨later, before, by simp⟩, hjoined, (Keeps.of_goes (joinReplicaset_covers r ordinal) hjoined).1⟩

/-! ### Roles -/

/-- When the steps of a pass over a role end with the role in phase `Ready`, each of its replicasets was
joined in the pass, and each join covers the instances of the StatefulSets that it listed. -/
theorem covers_of_ready {key : ObjectKey} {last : String} {outcome : Outcome} {c : RolePass} {role : Role}
    (hwalk : (Pass.walk steps "" (MemberPass.start key)).Goes [] t (last, outcome, c))
    (hrole : c.object = some role) (hready : role.phase = .ready) :
    ∃ cluster leader, ∀ ordinal < role.replicasets.toNat, ∃ said, said <:+: t ∧
      (joinReplicaset ⟨key.ns, role, cluster, leader⟩ ordinal).run.Goes [] said (.ok ()) ∧
      Covers ⟨key.ns, role, cluster, leader⟩ ordinal said := by
  have hends : Ends key t outcome c := ((walk_keeps key).of_goes hwalk).1
  cases hends with
  | gone _ => cases hrole
  | unread _ => cases hrole
  | again _ _ _ hrests _ =>
    obtain rfl := Option.some.inj hrole
    exact absurd (Or.inl hready) hrests
  | parked _ _ =>
    obtain rfl := Option.some.inj hrole
    cases hready
  | @ready _ loaded cluster leader _ hjoins =>
    obtain rfl := Option.some.inj hrole
    exact ⟨cluster, leader, fun ordinal hlt => covers_of_joins (hjoins ordinal hlt)⟩

/-! ### An example: the instance of a shop -/

/-- The steps of the pass over a role of the shop. -/
def storageWalk : Act (String × Outcome × RolePass) :=
  Pass.walk steps "" (MemberPass.start ⟨"db", "storage"⟩)

/-- The StatefulSets that are listed are the one that there is. -/
theorem listed_storage {s : StatefulSet} {uuid : Except AdminError String} {join : Except AdminError JoinOutcome}
    {ns : String} {selector : Labels} {all : List StatefulSet}
    (h : (⟨Request.store (.list .statefulSet ns selector), Except.ok all⟩ : Turn Surroundings) ∈
      storageWalk.hear (Shop.answer s uuid join) []) : all = [s] :=
  Except.ok.inj (answer_of_mem_hear (I := Surroundings) h)

/-- The role gets ready, and its instance is up and was joined. -/
theorem storage_covered :
    ∃ (said : Talk Surroundings) (pod : Pod),
      said <:+: storageWalk.hear (Shop.answer (Shop.stateful none) (.ok "") (.ok .joined)) [] ∧
      (⟨Request.store (.get .pod "db" "storage-0-0"), Except.ok (some pod)⟩ : Turn Surroundings) ∈ said ∧
      isUp pod = true ∧ ∃ leader request uris outcome,
        (⟨Request.admin (.join leader request uris), Except.ok outcome⟩ : Turn Surroundings) ∈ said := by
  have hends : Program.run (m := Id) (Shop.answer (Shop.stateful none) (.ok "") (.ok .joined)) storageWalk =
      ("SetPhase", .next, ⟨⟨"db", "storage"⟩, some (Shop.storage.setPhase .ready), some Shop.shop,
        some (Shop.podOf "router-0-0")⟩) := by
    with_unfolding_all rfl
  have hgoes := goes_hear (Shop.answer (Shop.stateful none) (.ok "") (.ok .joined)) storageWalk []
  rw [hends] at hgoes
  obtain ⟨cluster, leader, hall⟩ := covers_of_ready hgoes rfl rfl
  obtain ⟨said, hsaid, _, all, hlisted, hcovers⟩ := hall 0 (by decide)
  obtain rfl := listed_storage (hsaid.subset (hlisted.mem List.mem_cons_self))
  have hone : 0 < (Shop.storage.setPhase .ready).replicas.toNat := by decide
  obtain ⟨pod, hpod, hup, hknown⟩ := hcovers _ List.mem_cons_self rfl 0 hone
  refine ⟨said, pod, hsaid, hpod, hup, ?_⟩
  have hfound := answer_of_mem_hear (I := Surroundings) (hsaid.subset hpod)
  obtain rfl : pod = Shop.podOf "storage-0-0" := Option.some.inj (Except.ok.inj hfound)
  rcases hknown with ⟨uuid, hne, hmem⟩ | ⟨request, uris, outcome, _, hjoin⟩
  · have htold : Except.ok uuid = Shop.answer (Shop.stateful none) (.ok "") (.ok .joined)
        (.admin (.instanceUuid (Shop.podOf "storage-0-0"))) :=
      answer_of_mem_hear (I := Surroundings) (hsaid.subset hmem)
    exact absurd (Except.ok.inj htold) hne
  · exact ⟨leader, request, uris, outcome, hjoin⟩

/-- The role gets ready while its only StatefulSet is being deleted: no instance of it is looked at. -/
theorem ready_without_instances :
    ∃ t last outcome c role, storageWalk.Goes [] t (last, outcome, c) ∧ c.object = some role ∧
      role.phase = .ready ∧ role.metadata.isDeleting = false ∧ role.replicasets = 1 ∧ role.replicas = 1 ∧
      ∀ ns selector all, (⟨Request.store (.list .statefulSet ns selector), Except.ok all⟩ : Turn Surroundings) ∈ t →
        ∀ s ∈ all, s.metadata.isDeleting = true := by
  have hends : Program.run (m := Id) (Shop.answer (Shop.stateful (some ⟨"2024-01-01T00:00:00Z", rfl⟩)) (.ok "")
      (.ok .joined)) storageWalk = ("SetPhase", .next, ⟨⟨"db", "storage"⟩, some (Shop.storage.setPhase .ready),
        some Shop.shop, some (Shop.podOf "router-0-0")⟩) := by
    rfl
  have hgoes := goes_hear (Shop.answer (Shop.stateful (some ⟨"2024-01-01T00:00:00Z", rfl⟩)) (.ok "") (.ok .joined))
    storageWalk []
  rw [hends] at hgoes
  refine ⟨_, _, _, _, _, hgoes, rfl, rfl, rfl, rfl, rfl, fun ns selector all hall s hs => ?_⟩
  rw [listed_storage hall, List.mem_singleton] at hs
  rw [hs]
  rfl

end RolePass

end ClusterKeeper
