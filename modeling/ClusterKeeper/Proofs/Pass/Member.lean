import ClusterKeeper.Proofs.Pass.Walk

/-!
The rule of passes for the pass over an object that belongs to a cluster. Such a pass never changes its
copy of the cluster, so the copy is the one that the store gave last, and its leader leads this copy
(`MemberPass.Tied`).
-/

namespace ClusterKeeper

open Program

/-- The cluster is the one that the store gave last, and the leader leads it. -/
structure MemberPass.Tied {α : Type} (t : Talk Surroundings) (c : MemberPass α) : Prop where
  copied : ∀ k, c.cluster = some k → t.copy = some k
  leads : ∀ p, c.leader = some p → ∃ k, c.cluster = some k ∧ Leads t k p

namespace MemberPass

variable {α : Type} {t : Talk Surroundings} {c : MemberPass α}

/-- What the pass holds besides the cluster and the leader does not matter. -/
theorem Tied.withObject (h : Tied t c) (o : Option α) : Tied t { c with object := o } :=
  ⟨h.copied, h.leads⟩

theorem persists_tied (c : MemberPass α) : Persists fun t => Tied t c := by
  intro t q a hq h
  refine ⟨fun k hk => (Talk.copy_cons hq a).trans (h.copied k hk), fun p hp => ?_⟩
  obtain ⟨k, hk, hleads⟩ := h.leads p hp
  exact ⟨k, hk, persists_leads k p t q a hq hleads⟩

/-- Nor do later turns as long as the copy is the same. -/
theorem Tied.of_suffix {t' : Talk Surroundings} (h : Tied t c) (hsuffix : t <:+ t')
    (hcopy : t'.copy = t.copy) : Tied t' c := by
  refine ⟨fun k hk => hcopy.trans (h.copied k hk), fun p hp => ?_⟩
  obtain ⟨k, hk, hleads⟩ := h.leads p hp
  exact ⟨k, hk, hleads.of_suffix hsuffix⟩

/-- A pass without a cluster has no leader either. -/
theorem Tied.leader_eq_none (h : Tied t c) (hnone : c.cluster = none) : c.leader = none := by
  refine Option.eq_none_iff_forall_ne_some.2 fun p hp => ?_
  obtain ⟨k, hk, _⟩ := h.leads p hp
  exact Option.some_ne_none k (hk.symm.trans hnone)

/-- A cluster, if one is known, is the copy; there is no leader yet. -/
theorem tied_of_leader_eq_none (hleader : c.leader = none)
    (hcopied : ∀ k, c.cluster = some k → t.copy = some k) : Tied t c :=
  ⟨hcopied, fun p hp => absurd (hp.symm.trans hleader) (Option.some_ne_none p)⟩

theorem tied_start (key : ObjectKey) : Tied t (start key : MemberPass α) :=
  tied_of_leader_eq_none rfl fun k hk => absurd hk.symm (Option.some_ne_none k)

/-- The leader that is found leads the cluster that it was found with. -/
theorem tied_of_leads {k : Cluster} {p : Pod} (key : ObjectKey) (o : Option α)
    (hcopy : t.copy = some k) (hleads : Leads t k p) : Tied t ⟨key, o, some k, some p⟩ := by
  refine ⟨fun k' hk' => hcopy.trans hk', fun p' hp' => ⟨k, rfl, ?_⟩⟩
  exact Option.some.inj hp' ▸ hleads

theorem preserves_getLeader : (Pass.getLeader (C := MemberPass α)).Preserves Proper Tied := by
  refine Pass.preserves_getLeader fun t c k hc hk => ?_
  have hcopy : t.copy = some k := hc.copied k hk
  refine ⟨k, hcopy, Cluster.Alike.refl k, fun t' hsuffix => ⟨fun hcopy' => ?_, fun r hr => ?_⟩⟩
  · exact hc.of_suffix hsuffix (hcopy'.trans hcopy.symm)
  · obtain ⟨hwhere, hleads⟩ := hr
    refine tied_of_leads _ _ ?_ hleads
    rcases hwhere with ⟨hsame, hstays⟩ | hwritten
    · rw [hstays, hsame]
    · exact hwritten

variable [CustomResource α]

theorem preserves_setPhase (phase : CustomResource.Phase α) :
    (Pass.setPhase (C := MemberPass α) phase).Preserves Proper Tied :=
  Pass.preserves_setPhase Proper persists_tied phase fun _ _ _ _ h => h.withObject _

theorem preserves_resetStatus : (Pass.resetStatus (C := MemberPass α)).Preserves Proper Tied :=
  Pass.preserves_resetStatus Proper fun _ _ _ _ h => h.withObject _

theorem preserves_getRequestedObject
    (hfetch : ∀ ns name, (CustomResource.fetch ns name : Attempt (Option α)).run.Only Request.JoinFree) :
    (Pass.getRequestedObject (C := MemberPass α)).Preserves Proper Tied := by
  refine Pass.preserves_getRequestedObject Proper persists_tied fun t c hc => ?_
  refine (keepsOr_of_joinFree (hfetch _ _) (persists_tied c) hc).mono (fun t o h => ?_) fun _ _ h => h
  cases o with
  | none => exact h
  | some o => exact h.withObject _

theorem preserves_getClusterByLabels :
    (Pass.getClusterByLabels (C := MemberPass α)).Preserves Proper Tied := by
  refine Pass.preserves_ofAttempt fun t c hc => ?_
  rw [keepsOr_ite]
  refine ⟨fun _ => hc, fun hnone => ?_⟩
  split
  next => exact hc
  next o _ =>
    split
    next => exact hc
    next name _ =>
      rw [keepsOr_bind, Attempt.get, keepsOr_store]
      have hnone : c.cluster = none := Option.not_isSome_iff_eq_none.1 hnone
      have hstays : ∀ t', Tied t' c := fun t' =>
        tied_of_leader_eq_none (hc.leader_eq_none hnone) fun k hk =>
          absurd (hk.symm.trans hnone) (Option.some_ne_none k)
      refine ⟨trivial, Option.forall.2 ⟨by simpa using hstays _, fun k => ?_⟩, fun e => hstays _⟩
      refine tied_of_leader_eq_none (hc.leader_eq_none hnone) fun k' hk' => ?_
      exact hk' ▸ Talk.copy_cons_of_some rfl

/-- A pass keeps to the rule when it may write its object, and its steps preserve what ties it to its
cluster. -/
theorem reconcile_keeps {steps : List (Step (MemberPass α))}
    (hwrite : ∀ (o : α) t,
      KeepsOr Proper (CustomResource.replaceStatus o) (fun _ _ => True) (fun _ _ => True) t)
    (hsteps : ∀ step ∈ steps, step.Preserves Proper Tied) (o : α) :
    Keeps Proper (Controller.reconcile steps start o) (fun _ _ => True) t := by
  refine Pass.keeps_reconcile (Pass.keeps_walk persists_tied hsteps (fun t _ _ c _ => ?_) (tied_start _))
  exact Pass.persist_keeps fun o _ => hwrite o t

end MemberPass

namespace ConfigPass

open MemberPass

theorem configure_preserves (rule : Talk Surroundings → Request → Prop) [AdmitsJoinFree rule]
    {inv : Talk Surroundings → ConfigPass → Prop} (hinv : ∀ c, Persists fun t => inv t c) :
    configure.Preserves rule inv := by
  refine Pass.preserves_reading rule hinv fun c t => ?_
  rw [keeps_run]
  split
  · trivial
  · trivial
  · rw [keepsOr_bind, keepsOr_ofExcept]
    split <;> simp

theorem steps_preserve : ∀ step ∈ steps, step.Preserves Proper Tied := by
  have hfetch : ∀ ns name,
      (CustomResource.fetch ns name : Attempt (Option CartridgeConfig)).run.Only Request.JoinFree := by
    intro ns name t
    simp [CustomResource.fetch]
  simp only [steps, List.forall_mem_cons]
  exact ⟨Pass.preserves_info Proper persists_tied, preserves_getRequestedObject hfetch,
    preserves_resetStatus, preserves_setPhase _, preserves_getClusterByLabels,
    Pass.preserves_waitForClusterBootstrapped Proper persists_tied, preserves_setPhase _,
    preserves_getLeader, preserves_setPhase _, configure_preserves Proper persists_tied,
    preserves_setPhase _,
    List.forall_mem_nil _⟩

/-- A pass over a clusterwide config keeps to the rule. -/
theorem reconcile_keeps (config : CartridgeConfig) :
    Keeps Proper (Controller.reconcile steps MemberPass.start config) (fun _ _ => True) [] := by
  refine MemberPass.reconcile_keeps (fun o t => ?_) steps_preserve config
  simp [CustomResource.replaceStatus, Proper]

end ConfigPass

end ClusterKeeper
