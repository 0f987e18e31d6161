import ClusterKeeper.Pass.ConfigPass
import ClusterKeeper.Proofs.Pass.Gates

/-!
The walk over a clusterwide config, whatever it is answered: it ends with the config applied, and the pass is
made again otherwise. Between the wait for the bootstrap and the upload a leader may be elected, which
replaces the copy of the cluster; the copy is still bootstrapped if the store keeps the status that it takes.

Main statement: `ConfigPass.walk_keeps`.
-/

namespace ClusterKeeper

open Program

namespace ConfigPass

variable {rule : Talk Surroundings → Request → Prop} [AdmitsDeedFree rule] {t : Talk Surroundings}
  {key : ObjectKey} {config : CartridgeConfig} {cluster : Cluster} {leader : Pod}
  {on : Talk Surroundings → ConfigPass → Prop} {ends : Talk Surroundings → Outcome → ConfigPass → Prop}

theorem configure_keeps
    (happly : ∀ t' sections, t.Extends Turn.Harmless t' → rule t' (.admin (.applyCartridgeConfig leader sections)))
    (hends : ∀ t' outcome, t.Extends Turn.Harmless t' → outcome.Retries →
      ends t' outcome ⟨key, some config, some cluster, some leader⟩)
    (hon : ∀ t', t.Extends Turn.Harmless t' → on t' ⟨key, some config, some cluster, some leader⟩) :
    configure.Keeps rule on ends t ⟨key, some config, some cluster, some leader⟩ := by
  have hharmless : ∀ {t'} {q : AdminRequest} (a : Except AdminError q.Result), (∀ e, ¬q.Parks e) →
      t.Extends Turn.Harmless t' → t.Extends Turn.Harmless (⟨Request.admin q, a⟩ :: t') :=
    fun a hq ht => ht.cons (Turn.harmless_admin fun e _ => hq e)
  rw [configure, Pass.keeps_reading]
  dsimp only
  rw [keepsOr_bind, keepsOr_ofExcept]
  split
  next wanted _ =>
    rw [keepsOr_bind, keepsOr_admin]
    refine ⟨AdmitsDeedFree.of_deedFree _ _ trivial, fun actual => ?_,
      fun e => hends _ (.fail _) (hharmless (q := .cartridgeConfig leader) _ (fun _ => id) (extends_log t _ _)) trivial⟩
    have ht₁ := hharmless (q := .cartridgeConfig leader) (.ok actual) (fun _ => id)
      (extends_log t .debug "Running step")
    rw [keepsOr_ite]
    refine ⟨fun _ => ?_, fun _ => ?_⟩
    · rw [keepsOr_log_bind]
      exact hon _ (ht₁.trans (extends_log _ _ _))
    · have ht₂ := ht₁.trans (extends_log _ .info "Applying cartridge config")
      rw [keepsOr_log_bind, keepsOr_bind, keepsOr_admin]
      refine ⟨happly _ _ ht₂, fun _ => hon _ ?_, fun e => hends _ (.fail _) ?_ trivial⟩
      · exact hharmless (q := .applyCartridgeConfig leader wanted) _ (fun _ => id) ht₂
      · exact hharmless (q := .applyCartridgeConfig leader wanted) _ (fun _ => id) ht₂
  next e _ => exact hends _ (.fail e) (extends_log t _ _) trivial

/-- How the steps of a pass over a config end: the config is gone or cannot be read; the pass is made again;
or the config is applied. -/
inductive Ends (key : ObjectKey) : Talk Surroundings → Outcome → ConfigPass → Prop
  | gone {t : Talk Surroundings} : t.Fetches .cartridgeConfig key (.ok none) → Ends key t .complete (MemberPass.start key)
  | unread {t : Talk Surroundings} {e : OperatorError} : t.Fetches .cartridgeConfig key (.error e) →
      Ends key t (.fail e) (MemberPass.start key)
  | again {t : Talk Surroundings} (config : CartridgeConfig) (phase : CartridgeConfigPhase)
      {cluster : Option Cluster} {leader : Option Pod} {outcome : Outcome} :
      t.Knows .cartridgeConfig key config → phase ≠ .ready → outcome.Retries →
      Ends key t outcome ⟨key, some (config.setPhase phase), cluster, leader⟩
  | ready {t : Talk Surroundings} {config : CartridgeConfig} {cluster : Cluster} {leader : Pod} :
      t.Knows .cartridgeConfig key config →
      Ends key t .next ⟨key, some (config.setPhase .ready), some cluster, some leader⟩

theorem setPhase_keeps {cluster? : Option Cluster} {leader? : Option Pod} (config : CartridgeConfig)
    (old phase : CartridgeConfigPhase)
    (hon : ∀ t', t.Extends Turn.Harmless t' →
      on t' ⟨key, some (config.setPhase phase), cluster?, leader?⟩) :
    (Pass.setPhase (C := ConfigPass) phase).Keeps rule on ends t
      ⟨key, some (config.setPhase old), cluster?, leader?⟩ :=
  Pass.setPhase_keeps (C := ConfigPass) (o := config.setPhase old) phase rfl fun t' ht' => hon t' ht'.harmless

/-- However a pass over a config is answered, its requests pass their gates if the store keeps the statuses
that it takes, and its steps end in one of the ways that there are. -/
theorem walk_keeps (key : ObjectKey) :
    Keeps (IfTakesStatus (Gated key)) (Pass.walk steps "" (MemberPass.start key))
      (fun t r => Ends key t r.2.1 r.2.2) [] := by
  have hfree : ∀ {t t' : Talk Surroundings}, t.Extends Turn.Harmless t' →
      t.Extends (Turn.LookupBlameFree .cartridgeConfig) t' := Talk.lookupBlameFree_of_extends rfl
  refine MemberPass.walk_keeps_of_opening (k := .cartridgeConfig) rfl (by decide) (fun _ _ => rfl)
    (fun _ _ _ _ _ => trivial) (fun _ _ => .gone) (fun _ _ _ => .unread) (fun t last config outcome h => ?_)
    fun t last config cluster h hcopy => ?_
  · exact .again config .waitingForCluster h (by decide)
  refine Pass.keeps_walk_of_step (Pass.waitForClusterBootstrapped_keeps rfl (fun t' ht => ?_)
    fun hboot t ht => ?_)
  · exact .again config .waitingForCluster (h.extends (hfree ht)) (by decide) rfl
  replace h := h.extends (hfree ht)
  replace hcopy := (Talk.copy_of_extends ht).trans hcopy
  refine Pass.keeps_walk_of_step (setPhase_keeps config .waitingForCluster .waitingForLeader
    fun t ht => ?_)
  replace h := h.extends (hfree ht)
  replace hcopy := (Talk.copy_of_extends ht).trans hcopy
  refine Pass.keeps_walk_of_step (Pass.getLeader_keeps (fun _ _ _ => trivial) rfl hcopy (Cluster.Alike.refl _)
    (fun t' outcome ht => ?_) fun t leader found ht hfound htaken => ?_)
  · exact .again config .waitingForLeader (h.extends (ht.imp fun _ he => he.lookupBlameFree rfl)) (by decide)
  replace h := h.extends (ht.imp fun _ he => he.lookupBlameFree (k := .cartridgeConfig) rfl)
  replace hcopy : t.copy = some found := by rcases hfound with ⟨rfl, hcopy⟩ | hcopy <;> exact hcopy
  refine Pass.keeps_walk_of_step (setPhase_keeps config .waitingForLeader .applying
    fun t' ht' => ?_)
  replace h := h.extends (hfree ht')
  refine Pass.keeps_walk_of_step (configure_keeps (fun t'' sections ht'' htakes => ?_)
    (fun t'' outcome ht'' => ?_) fun t'' ht'' => ?_)
  · have htakes₀ : t.TakesStatus := fun e he => htakes e ((ht'.trans ht'').suffix.mem he)
    exact ⟨found, (Talk.copy_of_extends (ht'.trans ht'')).trans hcopy, (htaken htakes₀).trans hboot⟩
  · exact .again config .applying (h.extends (hfree ht'')) (by decide)
  replace h := h.extends (hfree ht'')
  refine Pass.keeps_walk_of_step (setPhase_keeps config .applying .ready fun t ht => ?_)
  exact .ready (h.extends (hfree ht))

end ConfigPass

end ClusterKeeper
