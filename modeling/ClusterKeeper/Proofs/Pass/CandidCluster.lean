import ClusterKeeper.Proofs.Pass.Candour

/-!
The pass over a cluster keeps to the rule of candour. Up to the bootstrap it records phases that claim
nothing (`ClusterPass.Holds`); after it the storages are bootstrapped, because they were found so or were
bootstrapped just now (`ClusterPass.Settled`).
-/

namespace ClusterKeeper

open Program

namespace ClusterPass

variable {t t' : Talk Surroundings} {c : ClusterPass} {k : Cluster}

/-- The cluster is held, if it is loaded. -/
def Holds (t : Talk Surroundings) (c : ClusterPass) : Prop := ∀ k, c.cluster = some k → Held t k

/-- The cluster's storages are bootstrapped. -/
structure Booted (t : Talk Surroundings) (k : Cluster) : Prop where
  given : ∃ base : Cluster, t.Given .cluster base ∧ k.metadata = base.metadata
  isBootstrapped : k.isBootstrapped = true

/-- The cluster's storages are bootstrapped and its phase does not deny it. -/
def Settled (t : Talk Surroundings) (c : ClusterPass) : Prop :=
  ∀ k, c.cluster = some k → Booted t k ∧ k.phase ≠ .unableToBootstrap

theorem Holds.mono (h : Holds t c) (hsuffix : t <:+ t') : Holds t' c := fun k hk => (h k hk).mono hsuffix

theorem Booted.mono (h : Booted t k) (hsuffix : t <:+ t') : Booted t' k where
  given := by
    obtain ⟨base, hgiven, hmeta⟩ := h.given
    exact ⟨base, hgiven.mono hsuffix, hmeta⟩
  isBootstrapped := h.isBootstrapped

theorem persists_holds (c : ClusterPass) : Persists fun t => Holds t c :=
  persists_of_mono fun _ _ hsuffix h => h.mono hsuffix

theorem persists_settled (c : ClusterPass) : Persists fun t => Settled t c :=
  persists_of_mono fun _ _ hsuffix h k hk => (h k hk).imp_left fun hbooted => hbooted.mono hsuffix

theorem holds_some {key : ObjectKey} {leader : Option Pod} (h : Held t k) :
    Holds t ⟨key, some k, leader⟩ := fun _ hk => Option.some.inj hk ▸ h

/-- A phase that claims nothing about the storages. -/
def IsNeutral (p : ClusterPhase) : Prop := p ≠ .failoverConfiguring ∧ p ≠ .ready ∧ p ≠ .unableToBootstrap

instance (p : ClusterPhase) : Decidable (IsNeutral p) := inferInstanceAs (Decidable (_ ∧ _ ∧ _))

theorem truthful_of_isNeutral (h : IsNeutral k.phase) : k.Truthful where
  bootstrapped hp := hp.elim (fun hp => absurd hp h.1) fun hp => absurd hp h.2.1
  unable hp := absurd hp h.2.2

theorem truthful_of_isBootstrapped (hboot : k.isBootstrapped = true)
    (hphase : k.phase ≠ .unableToBootstrap) : k.Truthful where
  bootstrapped _ := hboot
  unable hp := absurd hp hphase

theorem holds_setPhase {phase : ClusterPhase} (hphase : IsNeutral phase) :
    (Pass.setPhase (C := ClusterPass) phase).Preserves Candid Holds := by
  refine Pass.preserves_setPhase Candid persists_holds phase fun t c k hk h => ?_
  obtain ⟨base, hgiven, hmeta, hboot, _⟩ := h k hk
  exact holds_some ⟨base, hgiven, hmeta, (Cluster.isBootstrapped_setPhase phase).trans hboot,
    fun _ => truthful_of_isNeutral hphase⟩

theorem holds_resetStatus : (Pass.resetStatus (C := ClusterPass)).Preserves Candid Holds := by
  refine Pass.preserves_resetStatus Candid fun t c k hk h => ?_
  obtain ⟨base, hgiven, hmeta, hboot, _⟩ := h k hk
  exact holds_some ⟨base, hgiven, hmeta, Cluster.isBootstrapped_resetStatus.trans hboot,
    fun _ => truthful_of_isNeutral ⟨nofun, nofun, nofun⟩⟩

theorem holds_getRequestedObject : (Pass.getRequestedObject (C := ClusterPass)).Preserves Candid Holds := by
  refine Pass.preserves_getRequestedObject Candid persists_holds fun t c hc => ?_
  show KeepsOr _ (Attempt.get .cluster _ _) _ _ _
  rw [Attempt.get, keepsOr_store]
  refine ⟨trivial, Option.forall.2 ⟨?_, fun k => ?_⟩, fun e => ?_⟩
  · exact hc.mono (List.suffix_cons _ t)
  · exact holds_some (held_of_given (Talk.given_of_gives .got))
  · exact hc.mono (List.suffix_cons _ t)

theorem holds_getLeader : (Pass.getLeader (C := ClusterPass)).Preserves Candid Holds := by
  refine Election.getLeader_candid (fun _ _ _ hsuffix h => h.mono hsuffix) (fun t c k h hk => h k hk)
    fun t c k found leader h hk hfound => ?_
  rcases hfound with rfl | ⟨hgiven, _⟩
  · exact holds_some (h _ hk)
  · exact holds_some (held_of_given hgiven)

theorem candid_before : ∀ step ∈ steps.take 11, step.Preserves Candid Holds := by
  simp only [steps, List.take_succ_cons, List.take_zero, List.forall_mem_cons]
  exact ⟨Pass.preserves_info Candid persists_holds, holds_getRequestedObject,
    holds_setPhase (by decide), checkDeletion_preserves Candid persists_holds,
    holds_resetStatus, holds_setPhase (by decide),
    syncClusterWideService_preserves Candid persists_holds, holds_setPhase (by decide),
    waitForRolesPhases_preserves Candid persists_holds _, holds_setPhase (by decide),
    holds_getLeader, List.forall_mem_nil _⟩

/-- After the bootstrap the storages are bootstrapped, or the status says no more than before. -/
theorem bootstrap_candid (h : Holds t c) :
    Keeps Candid (bootstrap.run c)
      (fun t r => (r.1 = .next → ∀ k, r.2.cluster = some k → Booted t k) ∧
        (r.1 ≠ .next → Holds t r.2)) t := by
  refine (bootstrap_keeps Candid (persists_holds c) h).mono fun t r ⟨h, hends⟩ => ?_
  cases hends with
  | @already k hcluster hboot =>
    refine ⟨fun _ k' hk' => ?_, fun hne => absurd rfl hne⟩
    obtain rfl : k = k' := Option.some.inj (hcluster.symm.trans hk')
    obtain ⟨base, hgiven, hmeta, _⟩ := h k hk'
    exact ⟨⟨base, hgiven, hmeta⟩, hboot⟩
  | @now k hcluster =>
    refine ⟨fun _ k' hk' => ?_, fun hne => absurd rfl hne⟩
    obtain rfl := Option.some.inj hk'
    obtain ⟨base, hgiven, hmeta, _⟩ := h k hcluster
    exact ⟨⟨base, hgiven, hmeta⟩, Cluster.isBootstrapped_markBootstrapped⟩
  | @unable k hcluster hboot =>
    refine ⟨nofun, fun _ => ?_⟩
    obtain ⟨base, hgiven, hmeta, hsame, _⟩ := h k hcluster
    have hstays : (k.setPhase .unableToBootstrap).isBootstrapped = false :=
      (Cluster.isBootstrapped_setPhase _).trans hboot
    exact holds_some ⟨base, hgiven, hmeta, (Cluster.isBootstrapped_setPhase _).trans hsame,
      fun _ => ⟨fun hp => hp.elim nofun nofun, fun _ => hstays⟩⟩
  | failed => exact ⟨nofun, fun _ => h⟩

/-- Once the storages are bootstrapped, all but one of the phases may be recorded. -/
theorem setPhase_settles {phase : ClusterPhase} (hphase : phase ≠ .unableToBootstrap)
    (h : ∀ k, c.cluster = some k → Booted t k) :
    Keeps Candid ((Pass.setPhase (C := ClusterPass) phase).run c)
      (fun t r => r.1 = .next ∧ Settled t r.2) t := by
  rw [Pass.setPhase]
  dsimp only
  split
  next k hk =>
    rw [keeps_bind, keeps_log]
    refine ⟨AdmitsJoinFree.of_joinFree _ _ Request.joinFree_log, rfl, fun k' hk' => ?_⟩
    obtain rfl := Option.some.inj hk'
    obtain ⟨hgiven, hboot⟩ := (h k hk).mono (List.suffix_cons _ t)
    exact ⟨⟨hgiven, (Cluster.isBootstrapped_setPhase phase).trans hboot⟩, hphase⟩
  next hnone => exact ⟨rfl, fun k hk => absurd (hk.symm.trans hnone) (Option.some_ne_none k)⟩

theorem settled_setPhase {phase : ClusterPhase} (hphase : phase ≠ .unableToBootstrap) :
    (Pass.setPhase (C := ClusterPass) phase).Preserves Candid Settled := fun _ _ h =>
  (setPhase_settles hphase fun k hk => (h k hk).1).mono fun _ _ hr => hr.2

theorem candid_after : ∀ step ∈ steps.drop 13, step.Preserves Candid Settled := by
  simp only [steps, List.drop_succ_cons, List.drop_zero, List.forall_mem_cons]
  exact ⟨configureFailover_preserves Candid persists_settled, settled_setPhase (by decide),
    List.forall_mem_nil _⟩

theorem Holds.persist_candid (h : Holds t c) :
    KeepsOr Candid (Pass.persist c) (fun _ _ => True) (fun _ _ => True) t := by
  refine Pass.persist_keeps fun k hk => ?_
  obtain ⟨base, hgiven, hmeta, hboot, htruth⟩ := h k hk
  show KeepsOr _ (Attempt.replaceStatus .cluster k) _ _ _
  rw [Attempt.replaceStatus, keepsOr_store]
  exact ⟨⟨base, hgiven, hmeta, fun hb => hboot.trans hb, htruth⟩, fun _ => trivial, fun _ => trivial⟩

theorem Settled.persist_candid (h : Settled t c) :
    KeepsOr Candid (Pass.persist c) (fun _ _ => True) (fun _ _ => True) t := by
  refine Pass.persist_keeps fun k hk => ?_
  obtain ⟨⟨⟨base, hgiven, hmeta⟩, hboot⟩, hphase⟩ := h k hk
  show KeepsOr _ (Attempt.replaceStatus .cluster k) _ _ _
  rw [Attempt.replaceStatus, keepsOr_store]
  exact ⟨⟨base, hgiven, hmeta, fun _ => hboot, fun _ => truthful_of_isBootstrapped hboot hphase⟩,
    fun _ => trivial, fun _ => trivial⟩

/-- A pass over a cluster is candid. -/
theorem reconcile_candid (cluster : Cluster) :
    Keeps Candid (Controller.reconcile steps start cluster) (fun _ _ => True) [] := by
  refine Pass.keeps_reconcile ?_
  have hsteps : steps = steps.take 11 ++ bootstrap ::
      Pass.setPhase ClusterPhase.failoverConfiguring :: steps.drop 13 := rfl
  rw [hsteps]
  refine Pass.keeps_walk_append persists_holds candid_before (fun t last c h => ?_)
    (fun t last outcome c h => h.persist_candid) (fun k hk => absurd hk.symm (Option.some_ne_none k))
  refine Pass.keeps_walk_cons ((bootstrap_candid (h.mono (List.suffix_cons _ t))).mono fun t r hr =>
    ⟨fun hnext => ?_, fun hne => (hr.2 hne).persist_candid⟩)
  have hbooted : ∀ k, r.2.cluster = some k → Booted (⟨Request.log .debug "Running step", ()⟩ :: t) k :=
    fun k hk => (hr.1 hnext k hk).mono (List.suffix_cons _ t)
  have hphase : ClusterPhase.failoverConfiguring ≠ .unableToBootstrap := nofun
  refine Pass.keeps_walk_cons ((setPhase_settles hphase hbooted).mono fun t r hr =>
    ⟨fun _ => ?_, fun hne => absurd hr.1 hne⟩)
  exact Pass.keeps_walk persists_settled candid_after (fun _ _ _ _ h => h.persist_candid) hr.2

end ClusterPass

end ClusterKeeper
