import ClusterKeeper.Proofs.Cartridge.Settings
import ClusterKeeper.Proofs.Quiescence.Member

/-!
Passes over a clusterwide config, on a stage. When such a pass ends in the phase `ready`, the topology has
the sections of the document (`Uploaded`), and the next pass uploads nothing.
-/

namespace ClusterKeeper

theorem CartridgeConfig.setPhase_of_status {config : CartridgeConfig} {phase : CartridgeConfigPhase}
    (h : config.status = some ⟨phase⟩) : config.setPhase phase = config := by
  obtain ⟨metadata, spec, status⟩ := config
  obtain rfl : status = some ⟨phase⟩ := h
  rfl

namespace Simulation

open Program ConfigPass

variable {τ : Type} {answer : Answering τ} {s s' : Stage τ} {rule : Stage τ → Request → Prop}
  {on : Stage τ → ConfigPass → Prop} {ends : Stage τ → Outcome → ConfigPass → Prop} {key : ObjectKey}
  {config : CartridgeConfig} {name : String} {cluster : Cluster} {leader : Pod}

/-- The topology has the sections of a document. -/
def Uploaded (answer : Answering τ) (t : τ) (leader : Pod) (data : String) : Prop :=
  ∃ wanted actual, Sections.ofYaml data = .ok wanted ∧ (answer t (.cartridgeConfig leader)).1 = .ok actual ∧
    wanted.subset actual = true

/-! ### The step -/

theorem configure_settles (h : Remembers answer)
    (hends : ∀ s outcome, outcome.Retries →
      ends s outcome ⟨key, some config, some cluster, some leader⟩)
    (hon : ∀ s', Onward answer s s' → Uploaded answer s'.topology leader config.spec.data →
      on s' ⟨key, some config, some cluster, some leader⟩) :
    Goes answer Free configure on ends s ⟨key, some config, some cluster, some leader⟩ := by
  rw [configure, goes_reading]
  dsimp only
  rw [playsOr_bind, playsOr_ofExcept]
  split
  next wanted hwanted =>
    rw [playsOr_bind, playsOr_admin, playsOr_query h (.cartridgeConfig leader) trivial]
    refine ⟨fun actual hactual => ?_, fun e _ => hends s (.fail (.admin e)) trivial⟩
    rw [playsOr_ite]
    refine ⟨fun hsubset => ?_, fun _ => ?_⟩
    · rw [playsOr_bind, playsOr_log]
      exact hon s .rfl ⟨wanted, actual, hwanted, hactual, hsubset⟩
    · rw [playsOr_bind, playsOr_log, playsOr_bind, playsOr_admin, playsOr_ask]
      refine ⟨trivial, fun _ hset => ?_, fun e _ => hends _ (.fail (.admin e)) trivial⟩
      obtain ⟨actual', hactual', hthere⟩ := h.config hset
      exact hon _ (onward_admin h _) ⟨wanted, actual', hwanted, hactual', Sections.subset_of_get? hthere⟩
  next e _ => exact hends s (.fail e) trivial

theorem configure_of_uploaded [AdmitsReads rule] (h : Remembers answer)
    (hon : on s ⟨key, some config, some cluster, some leader⟩)
    (huploaded : Uploaded answer s.topology leader config.spec.data) :
    Goes answer rule configure on ends s ⟨key, some config, some cluster, some leader⟩ := by
  obtain ⟨wanted, actual, hwanted, hactual, hsubset⟩ := huploaded
  rw [configure, goes_reading]
  dsimp only
  rw [playsOr_bind, playsOr_ofExcept, hwanted]
  dsimp only
  rw [playsOr_bind, playsOr_admin, playsOr_query_of_ok h (.cartridgeConfig leader) trivial hactual, playsOr_ite]
  refine ⟨fun _ => ?_, fun hmissing => absurd hsubset hmissing⟩
  rw [playsOr_bind, playsOr_log]
  exact hon

/-! ### The pass -/

/-- Nothing is left to do for a clusterwide config, but for its status. -/
structure Applied (answer : Answering τ) (s : Stage τ) (key : ObjectKey) (config : CartridgeConfig)
    (name : String) (cluster : Cluster) (leader : Pod) : Prop extends
    Belongs answer s key (k := .cartridgeConfig) config name cluster leader where
  uploaded : Uploaded answer s.topology leader config.spec.data

theorem configPass_of_applied [AdmitsReads rule] (h : Remembers answer)
    (happlied : Applied answer s key config name cluster leader)
    (hwritten : ¬Vanishes config.metadata → config.status = some ⟨.ready⟩)
    (hstatus : rule s (.store (.replaceStatus .cartridgeConfig config))) :
    Plays (Stage.respond answer) rule (Pass.run steps (MemberPass.start key))
      (fun _ x => EndsIn CartridgeConfigPhase.ready x) s := by
  refine run_of_found (k := .cartridgeConfig) ?_
  rw [steps, plays_walk_cons, goes_info, plays_walk_cons,
    goes_getRequestedObject_of_found (k := .cartridgeConfig) happlied.found,
    plays_walk_cons, goes_resetStatus (k := .cartridgeConfig) rfl, plays_walk_cons,
    goes_setPhase (k := .cartridgeConfig) _ rfl, plays_walk_cons,
    goes_getClusterByLabels_of_found (k := .cartridgeConfig) (o := config.setPhase .waitingForCluster) rfl rfl
      happlied.label happlied.foundCluster,
    plays_walk_cons, goes_waitForClusterBootstrapped rfl happlied.bootstrapped,
    plays_walk_cons, goes_setPhase (k := .cartridgeConfig) _ rfl, plays_walk_cons]
  refine getLeader_of_led rfl happlied.bootstrapped h happlied.led ?_
  rw [plays_walk_cons, goes_setPhase (k := .cartridgeConfig) _ rfl, plays_walk_cons]
  refine configure_of_uploaded h ?_ happlied.uploaded
  rw [plays_walk_cons, goes_setPhase (k := .cartridgeConfig) _ rfl]
  refine ⟨rfl, config.setPhase .ready, rfl, rfl, fun hstays => ?_⟩
  rw [CartridgeConfig.setPhase_of_status (hwritten hstays)]
  exact ⟨s.kept.found happlied.found, hstatus⟩

theorem Applied.restatused {given stored : CartridgeConfig}
    (h : Applied answer s key config name cluster leader) (hgiven : given.metadata = config.metadata)
    (hstored : Restatused s s' (k := .cartridgeConfig) given stored) :
    Applied answer s' key stored name cluster leader := by
  obtain ⟨hcore, hbelongs⟩ := h.toBelongs.restatused nofun nofun hgiven hstored
  have hspec := congrArg CartridgeConfig.spec hcore
  have hspec : config.spec = stored.spec := hspec
  refine ⟨hbelongs, ?_⟩
  rw [hstored.topology, ← hspec]
  exact h.uploaded

/-- When a pass over a clusterwide config ends in the phase `ready`, nothing is left to do. -/
theorem configPass_settles (h : Remembers answer)
    (hboot : ∀ config name cluster, s.objects.find? .cartridgeConfig key.ns key.name = some config →
      (KubeObject.metadata config).labelSet.get? Labels.clusterName = some name →
      s.objects.find? .cluster key.ns name = some cluster → Cluster.isBootstrapped cluster = true) :
    Plays (Stage.respond answer) Free (Pass.run steps (MemberPass.start key))
      (fun s' x => EndsIn CartridgeConfigPhase.ready x → ∃ config name cluster leader,
        Applied answer s' key config name cluster leader ∧
        (¬Vanishes config.metadata → config.status = some ⟨.ready⟩)) s := by
  refine run_settles (k := .cartridgeConfig) (fun s' c => ∃ config name cluster leader,
    c.object = some (config.setPhase .ready) ∧ Applied answer s' key config name cluster leader) ?_ ?_
  · rw [steps, plays_walk_cons, goes_info, plays_walk_cons]
    refine getRequestedObject_settles (k := .cartridgeConfig) (Or.inl (fallsShort_of_none rfl))
      fun config hconfig => ?_
    rw [plays_walk_cons, goes_resetStatus (k := .cartridgeConfig) rfl, plays_walk_cons,
      goes_setPhase (k := .cartridgeConfig) _ rfl, plays_walk_cons]
    refine getClusterByLabels_settles (k := .cartridgeConfig) (o := config.setPhase .waitingForCluster) rfl rfl
      (fun _ => fallsShort_of_retry) fun name cluster hname hcluster => ?_
    have hbootstrapped := hboot config name cluster hconfig hname hcluster
    rw [plays_walk_cons, goes_waitForClusterBootstrapped rfl hbootstrapped, plays_walk_cons,
      goes_setPhase (k := .cartridgeConfig) _ rfl, plays_walk_cons]
    refine getLeader_belongs h (by decide) rfl hconfig hname hcluster hbootstrapped
      (fun _ _ => fallsShort_of_retry) fun s₁ leader cluster' _ _ hbelongs => ?_
    rw [plays_walk_cons, goes_setPhase (k := .cartridgeConfig) _ rfl, plays_walk_cons]
    refine configure_settles h (fun _ _ => fallsShort_of_retry) fun s₂ hs₂ huploaded => ?_
    rw [plays_walk_cons, goes_setPhase (k := .cartridgeConfig) _ rfl]
    exact Or.inr ⟨config, name, cluster', leader, rfl, hbelongs.onward hs₂, huploaded⟩
  · rintro s' c ⟨config, name, cluster, leader, hobject, happlied⟩
    have hgiven : (config.setPhase .ready).metadata = config.metadata := rfl
    refine ⟨_, hobject, fun hvanishes => ?_, fun _ s'' stored hstored => ?_⟩
    · exact ⟨config, name, cluster, leader, happlied, fun hstays => absurd hvanishes hstays⟩
    · refine ⟨stored, name, cluster, leader, happlied.restatused hgiven hstored, fun _ => ?_⟩
      exact (congrArg CartridgeConfig.status hstored.status).symm

end Simulation

end ClusterKeeper
