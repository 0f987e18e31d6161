import ClusterKeeper.Proofs.Quiescence.ClusterSteps

/-!
Passes over a cluster, on a stage. When such a pass ends in the phase `ready`, the service of the cluster is
in line and its failover parameters are told (`Sustained`), and nothing is left to do for the next one.
-/

namespace ClusterKeeper

theorem Cluster.leader_congr {c d : Cluster} (hspec : c.spec = d.spec)
    (helected : c.electedLeader = d.electedLeader) : c.leader = d.leader := by
  rw [leader, leader, foreignLeader, foreignLeader, hspec, helected]

namespace Simulation

open Program ClusterPass

variable {τ : Type} {answer : Answering τ} {s s' : Stage τ} {rule : Stage τ → Request → Prop}
  {key : ObjectKey} {cluster cluster' : Cluster} {leader : Pod}

/-- A leader leads a cluster whatever its status says besides the leader. -/
theorem Led.of_core (h : Led answer s cluster leader)
    (hcore : Kind.core (k := .cluster) cluster' = Kind.core (k := .cluster) cluster)
    (helected : cluster'.electedLeader = cluster.electedLeader) : Led answer s cluster' leader := by
  have hns : cluster'.nsOf = cluster.nsOf := Kind.nsText_of_core hcore
  exact ⟨(Cluster.leader_congr (Cluster.spec_of_core hcore) helected).trans h.named, hns ▸ h.found, h.able⟩

theorem Serviced.of_core {os : Objects} {ns : String} (h : Serviced os ns cluster)
    (hcore : Kind.core (k := .cluster) cluster' = Kind.core (k := .cluster) cluster) :
    Serviced os ns cluster' := by
  have hself : Serviced os ns (Kind.core (k := .cluster) cluster) := h
  rw [← hcore] at hself
  exact hself

/-- Nothing is left to do for a cluster, but for its status. -/
structure Sustained (answer : Answering τ) (s : Stage τ) (key : ObjectKey) (cluster : Cluster)
    (leader : Pod) : Prop where
  ns : cluster.nsOf = key.ns
  name : cluster.name = key.name
  core : ∀ old, s.objects.find? .cluster key.ns key.name = some old →
    Kind.core (k := .cluster) old = Kind.core (k := .cluster) cluster
  stays : cluster.metadata.isDeleting = false
  bootstrapped : cluster.isBootstrapped = true
  serviced : Serviced s.objects key.ns cluster
  awaited : Awaited s.objects key [.waitingForBootstrap, .ready]
  led : Led answer s cluster leader
  failsOver : FailsOver answer s cluster leader

/-- What is left to do does not depend on the status of a cluster but for the leader and the bootstrap. -/
theorem Sustained.of_core (h : Sustained answer s key cluster leader)
    (hcore : Kind.core (k := .cluster) cluster' = Kind.core (k := .cluster) cluster)
    (hboot : cluster'.isBootstrapped = true) (helected : cluster'.electedLeader = cluster.electedLeader) :
    Sustained answer s key cluster' leader := by
  have hfails : FailsOver answer s (Kind.core (k := .cluster) cluster) leader := h.failsOver
  rw [← hcore] at hfails
  refine ⟨(Kind.nsText_of_core hcore).trans h.ns, (Kind.nameText_of_core hcore).trans h.name,
    fun old hold => (h.core old hold).trans hcore.symm, ?_, hboot, h.serviced.of_core hcore, h.awaited,
    h.led.of_core hcore helected, hfails⟩
  exact (Kind.of_core hcore ObjectMeta.isDeleting fun _ => rfl).trans h.stays

theorem Sustained.restatused {stored : Cluster} (h : Sustained answer s key cluster leader)
    (hstored : Restatused s s' (k := .cluster) (cluster.setPhase .ready) stored) :
    Sustained answer s' key stored leader ∧
      s'.objects.find? .cluster key.ns key.name = some stored ∧ stored.setPhase .ready = stored := by
  have hns : (cluster.setPhase .ready).metadata.nsText = key.ns := h.ns
  have hname : (cluster.setPhase .ready).metadata.nameText = key.name := h.name
  have hfound : s'.objects.find? .cluster (cluster.setPhase .ready).metadata.nsText
      (cluster.setPhase .ready).metadata.nameText = some stored := hstored.found
  rw [hns, hname] at hfound
  have hcore : Kind.core (k := .cluster) stored = Kind.core (k := .cluster) cluster := by
    obtain ⟨old, hold, hcore⟩ := hstored.core
    exact hcore.trans (h.core old (hns ▸ hname ▸ hold))
  have hstatus : stored.status = (cluster.setPhase .ready).status :=
    (congrArg Cluster.status hstored.status).symm
  have hboot : stored.isBootstrapped = true := by
    rw [Cluster.isBootstrapped_congr hstatus, Cluster.isBootstrapped_setPhase, h.bootstrapped]
  have helected : stored.electedLeader = cluster.electedLeader := by
    rw [Cluster.electedLeader_congr hstatus, Cluster.electedLeader_setPhase]
  have hsecret : s'.objects.shelf .secret = s.objects.shelf .secret := hstored.shelf .secret (by decide)
  have hmoved : Sustained answer s' key cluster leader := by
    obtain ⟨service, hservice, hsynced⟩ := h.serviced
    refine ⟨h.ns, h.name, fun old hold => ?_, h.stays, h.bootstrapped, ⟨service, ?_, hsynced⟩, ?_,
      h.led.later (hstored.shelf .pod (by decide)) (hstored.topology ▸ .rfl),
      h.failsOver.congr hsecret hstored.topology⟩
    · rw [← Option.some.inj (hfound.symm.trans hold), hcore]
    · exact (Objects.find?_congr (hstored.shelf .service (by decide)) _ _).trans hservice
    · rw [Awaited, Objects.matching_congr (hstored.shelf .role (by decide))]
      exact h.awaited
  refine ⟨hmoved.of_core hcore hboot helected, hfound, ?_⟩
  obtain ⟨metadata, spec, status⟩ := stored
  obtain rfl : status = (cluster.setPhase .ready).status := hstatus
  rfl

/-- A pass over a cluster ends in the phase `ready` when nothing is left to do. -/
theorem clusterPass_of_sustained [AdmitsReads rule] (h : Remembers answer)
    (hsustained : Sustained answer s key cluster leader)
    (hfound : s.objects.find? .cluster key.ns key.name = some cluster)
    (hwritten : cluster.setPhase .ready = cluster)
    (hstatus : rule s (.store (.replaceStatus .cluster cluster))) :
    Plays (Stage.respond answer) rule (Pass.run steps (start key))
      (fun _ x => EndsIn ClusterPhase.ready x) s := by
  refine run_of_found (k := .cluster) ?_
  rw [steps, plays_walk_cons, goes_info, plays_walk_cons,
    goes_getRequestedObject_of_found (k := .cluster) hfound, plays_walk_cons,
    goes_setPhase (k := .cluster) _ rfl, plays_walk_cons]
  refine goes_checkDeletion.2 ⟨fun hdeleting => ?_, fun _ => ?_⟩
  · cases hsustained.stays.symm.trans hdeleting
  rw [plays_walk_cons, goes_resetStatus (k := .cluster) rfl, plays_walk_cons,
    goes_setPhase (k := .cluster) _ rfl, plays_walk_cons]
  refine syncClusterWideService_of_serviced ?_ hsustained.serviced
  rw [plays_walk_cons, goes_setPhase (k := .cluster) _ rfl, plays_walk_cons]
  refine waitForRolesPhases_of_awaited ?_ hsustained.awaited
  rw [plays_walk_cons, goes_setPhase (k := .cluster) _ rfl, plays_walk_cons]
  have hboot : (cluster.setPhase .waitingForLeader).isBootstrapped = true :=
    (Cluster.isBootstrapped_setPhase _).trans hsustained.bootstrapped
  have hled : Led answer s (cluster.setPhase .waitingForLeader) leader :=
    hsustained.led.of_core rfl (Cluster.electedLeader_setPhase _)
  refine getLeader_of_led rfl hboot h hled ?_
  rw [plays_walk_cons]
  refine bootstrap_of_bootstrapped hboot ?_
  rw [plays_walk_cons, goes_setPhase (k := .cluster) _ rfl, plays_walk_cons]
  refine configureFailover_of_failsOver h ?_ hsustained.failsOver
  rw [plays_walk_cons, goes_setPhase (k := .cluster) _ rfl]
  refine ⟨rfl, cluster.setPhase .ready, rfl, rfl, fun _ => ?_⟩
  rw [hwritten]
  exact ⟨s.kept.found hfound, hstatus⟩

/-- When the steps of a pass over a cluster that is bootstrapped come to their end, nothing is left to do. -/
theorem clusterWalk_settles (h : Remembers answer)
    (hboot : ∀ cluster, s.objects.find? .cluster key.ns key.name = some cluster →
      Cluster.isBootstrapped cluster = true) :
    Plays (Stage.respond answer) Free (Pass.walk steps "" (start key))
      (fun s' x => FallsShort ClusterPhase.ready x.2.1 x.2.2 ∨ ∃ cluster leader,
        x.2.2.cluster = some (cluster.setPhase .ready) ∧ Sustained answer s' key cluster leader) s := by
  rw [steps, plays_walk_cons, goes_info, plays_walk_cons]
  refine getRequestedObject_settles (k := .cluster) (Or.inl (fallsShort_of_none rfl)) fun cluster hcluster => ?_
  rw [plays_walk_cons, goes_setPhase (k := .cluster) _ rfl, plays_walk_cons]
  have hpending : ClusterPhase.pending ≠ .ready := by decide
  refine goes_checkDeletion.2 ⟨fun _ => Or.inl (fallsShort_of_phase_ne rfl hpending), fun hstays => ?_⟩
  rw [plays_walk_cons, goes_resetStatus (k := .cluster) rfl, plays_walk_cons,
    goes_setPhase (k := .cluster) _ rfl, plays_walk_cons]
  have hns : cluster.nsOf = key.ns := s.kept.ns hcluster
  have hname : cluster.name = key.name := s.kept.name hcluster
  refine syncClusterWideService_settles hns (fun _ _ => fallsShort_of_retry) fun s₁ hs₁ hserviced => ?_
  rw [plays_walk_cons, goes_setPhase (k := .cluster) _ rfl, plays_walk_cons]
  have hwaits : ClusterPhase.waitingForRoles ≠ .ready := by decide
  refine waitForRolesPhases_settles (Or.inl (fallsShort_of_phase_ne rfl hwaits)) fun hawaited => ?_
  rw [plays_walk_cons, goes_setPhase (k := .cluster) _ rfl, plays_walk_cons]
  have hboot₁ : (cluster.setPhase .waitingForLeader).isBootstrapped = true :=
    (Cluster.isBootstrapped_setPhase _).trans (hboot cluster hcluster)
  have hcluster₁ : s₁.objects.find? .cluster key.ns key.name = some cluster :=
    (Objects.find?_congr (hs₁.shelf .cluster (by decide)) _ _).trans hcluster
  refine getLeader_settles rfl hboot₁ h (fun old hold => ?_) (fun _ _ => fallsShort_of_retry)
    fun s₂ leader cluster' helected => ?_
  · have hplace : s₁.objects.find? .cluster cluster.nsOf cluster.name = some old := hold
    rw [hns, hname, hcluster₁] at hplace
    rw [← Option.some.inj hplace]
    rfl
  rw [plays_walk_cons]
  refine bootstrap_of_bootstrapped helected.bootstrapped ?_
  rw [plays_walk_cons, goes_setPhase (k := .cluster) _ rfl, plays_walk_cons]
  refine configureFailover_settles h (fun _ _ => fallsShort_of_retry) fun s₃ hs₃ hfails => ?_
  rw [plays_walk_cons, goes_setPhase (k := .cluster) _ rfl]
  have hcore : Kind.core (k := .cluster) cluster' = Kind.core (k := .cluster) cluster := helected.core
  refine Or.inr ⟨cluster', leader, rfl, (Kind.nsText_of_core hcore).trans hns,
    (Kind.nameText_of_core hcore).trans hname, fun old hold => ?_,
    (Kind.of_core hcore ObjectMeta.isDeleting fun _ => rfl).trans hstays, helected.bootstrapped, ?_, ?_,
    helected.led.later (by rw [hs₃.objects]) hs₃.later, hfails⟩
  · rw [hs₃.objects] at hold
    rcases helected.stored with ⟨rfl, rfl⟩ | hstored
    · rw [← Option.some.inj (hcluster₁.symm.trans hold)]
      rfl
    · have hplace : s₂.objects.find? .cluster cluster.nsOf cluster.name = some cluster' := hstored
      rw [hns, hname, hold] at hplace
      rw [Option.some.inj hplace]
  · obtain ⟨service, hservice, hsynced⟩ := hserviced.of_core hcore
    refine ⟨service, ?_, hsynced⟩
    rw [hs₃.objects, Objects.find?_congr (helected.shelf .service (by decide))]
    exact hservice
  · rw [hs₃.objects, Awaited, Objects.matching_congr (helected.shelf .role (by decide))]
    exact hawaited

/-- When a pass over a cluster that is bootstrapped ends in the phase `ready`, nothing is left to do. -/
theorem clusterPass_settles (h : Remembers answer)
    (hboot : ∀ cluster, s.objects.find? .cluster key.ns key.name = some cluster →
      Cluster.isBootstrapped cluster = true) :
    Plays (Stage.respond answer) Free (Pass.run steps (start key))
      (fun s' x => EndsIn ClusterPhase.ready x → ∃ cluster leader, Sustained answer s' key cluster leader ∧
        s'.objects.find? .cluster key.ns key.name = some cluster ∧ cluster.setPhase .ready = cluster) s := by
  refine run_settles (k := .cluster) (fun s' c => ∃ cluster leader,
    c.cluster = some (cluster.setPhase .ready) ∧ Sustained answer s' key cluster leader)
    (clusterWalk_settles h hboot) ?_
  rintro s' c ⟨cluster, leader, hobject, hsustained⟩
  refine ⟨_, hobject, fun hvanishes => ?_, fun _ s'' stored hstored => ?_⟩
  · have hstays : (KubeObject.metadata (cluster.setPhase .ready)).isDeleting = false := hsustained.stays
    rw [Vanishes, hstays] at hvanishes
    cases hvanishes
  · exact ⟨stored, leader, hsustained.restatused hstored⟩

end Simulation

end ClusterKeeper
