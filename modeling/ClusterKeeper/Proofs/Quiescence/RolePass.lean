import ClusterKeeper.Proofs.Quiescence.Member
import ClusterKeeper.Proofs.Quiescence.RoleSteps

/-!
Passes over a role, on a stage. When such a pass ends in the phase `ready`, what the role asks for is there
(`Upheld`), and nothing is left to do for the next one.
-/

namespace ClusterKeeper

theorem Role.setPhase_of_status {role : Role} {phase : RolePhase} (h : role.status = some ⟨phase⟩) :
    role.setPhase phase = role := by
  obtain ⟨metadata, spec, status⟩ := role
  obtain rfl : status = some ⟨phase⟩ := h
  rfl

namespace Simulation

open Program RolePass

variable {τ : Type} {answer : Answering τ} {s s' : Stage τ} {rule : Stage τ → Request → Prop}
  {key : ObjectKey} {role role' : Role} {cluster cluster' : Cluster} {leader : Pod} {r : Resolved}

/-! ### What a role asks for -/

/-- The StatefulSets of a role are there and in line with it. -/
structure Supplied (os : Objects) (r : Resolved) : Prop where
  namespaced : r.role.metadata.ns = some r.ns
  stocked : r.role.metadata.isDeleting = false → Stocked os r.ns r.cluster r.role
  aligned : Aligned os r.ns r.cluster r.role

/-- The instances of a role are up and part of the topology, where their replicasets have their roles and
take their weights. -/
structure Enrolled (answer : Answering τ) (s : Stage τ) (r : Resolved) : Prop where
  staffed : Staffed s.objects r.ns r.cluster r.role
  seated : ∀ i < r.role.replicasets.toNat, Seated answer s r [] i
  agreed : AllAgreed answer s r r.role.replicasets.toNat
  weighed : AllWeighed answer s r r.role.replicasets.toNat

/-- What is asked for does not depend on the status of a role, nor on that of its cluster. -/
theorem Supplied.of_core {os : Objects} {ns : String} (h : Supplied os ⟨ns, role, cluster, leader⟩)
    (hrole : Kind.core (k := .role) role = Kind.core (k := .role) role')
    (hcluster : Kind.core (k := .cluster) cluster = Kind.core (k := .cluster) cluster') :
    Supplied os ⟨ns, role', cluster', leader⟩ := by
  have hself : Supplied os ⟨ns, Kind.core (k := .role) role, Kind.core (k := .cluster) cluster, leader⟩ :=
    ⟨h.namespaced, h.stocked, h.aligned⟩
  rw [hrole, hcluster] at hself
  exact ⟨hself.namespaced, hself.stocked, hself.aligned⟩

theorem Enrolled.of_core {ns : String} (h : Enrolled answer s ⟨ns, role, cluster, leader⟩)
    (hrole : Kind.core (k := .role) role = Kind.core (k := .role) role') :
    Enrolled answer s ⟨ns, role', cluster, leader⟩ := by
  have hself : Enrolled answer s ⟨ns, Kind.core (k := .role) role, cluster, leader⟩ :=
    ⟨h.staffed, h.seated, h.agreed, h.weighed⟩
  rw [hrole] at hself
  exact ⟨hself.staffed, hself.seated, hself.agreed, hself.weighed⟩

/-- Nor does it depend on objects of other kinds. -/
theorem Supplied.congr {os os' : Objects} (h : Supplied os r)
    (hshelf : os'.shelf .statefulSet = os.shelf .statefulSet) : Supplied os' r where
  namespaced := h.namespaced
  stocked hstays i hi := by
    rw [Objects.matching_congr hshelf]
    exact h.stocked hstays i hi
  aligned st hst := by
    rw [Objects.matching_congr hshelf] at hst
    exact h.aligned st hst

theorem Enrolled.of_onlyIn (h : Enrolled answer s r) (hs : OnlyIn .role s s') : Enrolled answer s' r := by
  have hpod : s'.objects.shelf .pod = s.objects.shelf .pod := hs.shelf .pod nofun
  have hlive : ∀ i, live s'.objects r i = live s.objects r i := by
    intro i
    rw [live, live, Objects.matching_congr (hs.shelf .statefulSet nofun)]
  refine ⟨?_, fun i hi st hst replica hreplica => ?_, fun i hi hne => ?_, fun i hi st hst => ?_⟩
  · rw [Staffed, Objects.matching_congr hpod]
    exact h.staffed
  · rw [hlive] at hst
    obtain ⟨pod, hfound, hup, hjoined⟩ := h.seated i hi st hst replica hreplica
    exact ⟨pod, (Objects.find?_congr hpod _ _).trans hfound, hup, hs.topology ▸ hjoined⟩
  · rw [hlive] at hne
    exact hs.topology ▸ h.agreed i hi hne
  · rw [hlive] at hst
    exact hs.topology ▸ h.weighed i hi st hst

/-! ### The steps behind the leader -/

/-- When the steps behind the leader come to their end, the role is enrolled. -/
theorem enroll_settles (h : Remembers answer) (hns : cluster.nsOf = key.ns)
    (hboot : cluster.isBootstrapped = true) (last : String) :
    Plays (Stage.respond answer) Free
      (Pass.walk (steps.drop 10) last ⟨key, some role, some cluster, some leader⟩)
      (fun s' x => FallsShort RolePhase.ready x.2.1 x.2.2 ∨
        x.2.2 = ⟨key, some (role.setPhase .ready), some cluster, some leader⟩ ∧ Onward answer s s' ∧
          Enrolled answer s' ⟨key.ns, role, cluster, leader⟩) s := by
  have hparked : ∀ {done : Prop}, FallsShort RolePhase.ready .complete
      (⟨key, some (role.setPhase .configError), some cluster, some leader⟩ : RolePass) ∨ done :=
    Or.inl (fallsShort_of_phase_ne rfl nofun)
  simp only [steps, List.drop_succ_cons, List.drop_zero]
  rw [plays_walk_cons, goes_setPhase (k := .role) _ rfl, plays_walk_cons]
  refine ensureCartridgeReady_settles (fun _ _ => fallsShort_of_retry) fun hstaffed => ?_
  rw [plays_walk_cons, goes_setPhase (k := .role) _ rfl, plays_walk_cons]
  refine joinInstances_settles h (fun _ _ => fallsShort_of_retry) hns (fun _ => hparked)
    fun s₁ hs₁ hseated => ?_
  rw [plays_walk_cons, goes_setPhase (k := .role) _ rfl, plays_walk_cons]
  refine configureVShardRoles_settles h (fun _ _ => fallsShort_of_retry) fun s₂ hs₂ hagreed => ?_
  rw [plays_walk_cons, goes_setPhase (k := .role) _ rfl, plays_walk_cons,
    goes_waitForClusterBootstrapped rfl hboot, plays_walk_cons, goes_setPhase (k := .role) _ rfl,
    plays_walk_cons]
  refine setVShardWeights_settles h (fun _ _ => fallsShort_of_retry) (fun _ => hparked)
    fun s₃ hs₃ hweighed => ?_
  rw [plays_walk_cons, goes_setPhase (k := .role) _ rfl]
  have hafter : Onward answer s₁ s₃ := hs₂.trans hs₃.toOnward
  refine Or.inr ⟨rfl, hs₁.trans hafter, ?_, fun i hi => (hseated i hi).onward hafter,
    fun i hi hne => ?_, hweighed⟩
  · rw [(hs₁.trans hafter).objects]
    exact hstaffed
  · rw [hs₃.objects] at hne
    exact (hagreed i hi hne).of_sameRoles hs₃.later hs₃.roles

/-- The steps behind the leader come to their end when the role is enrolled. -/
theorem enroll_of_enrolled [AdmitsReads rule] (h : Remembers answer)
    (hrule : ∀ s leader uuid weight, rule s (.admin (.setWeight leader uuid weight)))
    (hboot : cluster.isBootstrapped = true) (henrolled : Enrolled answer s ⟨key.ns, role, cluster, leader⟩)
    (last : String) :
    Plays (Stage.respond answer) rule
      (Pass.walk (steps.drop 10) last ⟨key, some role, some cluster, some leader⟩)
      (fun s' x => x.2.1 = .next ∧
        x.2.2 = ⟨key, some (role.setPhase .ready), some cluster, some leader⟩ ∧ s'.objects = s.objects) s := by
  simp only [steps, List.drop_succ_cons, List.drop_zero]
  rw [plays_walk_cons, goes_setPhase (k := .role) _ rfl, plays_walk_cons]
  refine ensureCartridgeReady_of_staffed ?_ henrolled.staffed
  rw [plays_walk_cons, goes_setPhase (k := .role) _ rfl, plays_walk_cons]
  refine joinInstances_of_seated h ?_ henrolled.seated
  rw [plays_walk_cons, goes_setPhase (k := .role) _ rfl, plays_walk_cons]
  refine configureVShardRoles_of_agreed h ?_ henrolled.agreed
  rw [plays_walk_cons, goes_setPhase (k := .role) _ rfl, plays_walk_cons,
    goes_waitForClusterBootstrapped rfl hboot, plays_walk_cons, goes_setPhase (k := .role) _ rfl,
    plays_walk_cons]
  refine setVShardWeights_of_weighed h hrule (fun s' hs' => ?_) henrolled.weighed
  rw [plays_walk_cons, goes_setPhase (k := .role) _ rfl]
  exact ⟨rfl, rfl, hs'.objects⟩

/-! ### The pass -/

/-- Nothing is left to do for a role of a cluster that is bootstrapped, but for its status. -/
structure Upheld (answer : Answering τ) (s : Stage τ) (key : ObjectKey) (role : Role) (name : String)
    (cluster : Cluster) (leader : Pod) : Prop extends
    Belongs answer s key (k := .role) role name cluster leader where
  supplied : Supplied s.objects ⟨key.ns, role, cluster, leader⟩
  enrolled : Enrolled answer s ⟨key.ns, role, cluster, leader⟩

variable {name : String}

/-- A pass over a role ends in the phase `ready` when nothing is left to do. -/
theorem rolePass_of_upheld [AdmitsReads rule] (h : Remembers answer)
    (hupheld : Upheld answer s key role name cluster leader)
    (hwritten : ¬Vanishes role.metadata → role.status = some ⟨.ready⟩)
    (hweight : ∀ s leader uuid weight, rule s (.admin (.setWeight leader uuid weight)))
    (hstatus : ∀ s', s'.objects = s.objects → rule s' (.store (.replaceStatus .role role))) :
    Plays (Stage.respond answer) rule (Pass.run steps (MemberPass.start key))
      (fun _ x => EndsIn RolePhase.ready x) s := by
  refine run_of_found (k := .role) ?_
  rw [← List.take_append_drop 10 steps]
  simp only [steps, List.take_succ_cons, List.take_zero, List.cons_append, List.nil_append]
  rw [plays_walk_cons, goes_info, plays_walk_cons, goes_getRequestedObject_of_found (k := .role) hupheld.found,
    plays_walk_cons, goes_resetStatus (k := .role) rfl, plays_walk_cons,
    goes_setPhase (k := .role) _ rfl, plays_walk_cons,
    goes_getClusterByLabels_of_found (k := .role) (o := role.setPhase .waitingForCluster) rfl rfl
      hupheld.label hupheld.foundCluster,
    plays_walk_cons, goes_setPhase (k := .role) _ rfl, plays_walk_cons]
  refine createStatefulSets_of_stocked ?_
    fun hstays => ⟨hupheld.supplied.namespaced, hupheld.supplied.stocked hstays⟩
  rw [plays_walk_cons]
  refine updateStatefulSets_of_aligned ?_ hupheld.supplied.namespaced hupheld.supplied.aligned
  rw [plays_walk_cons, goes_setPhase (k := .role) _ rfl, plays_walk_cons]
  refine getLeader_of_led rfl hupheld.bootstrapped h hupheld.led ?_
  have henrolled : Enrolled answer s ⟨key.ns, role.setPhase .waitingForLeader, cluster, leader⟩ :=
    hupheld.enrolled.of_core rfl
  refine Plays.mono (enroll_of_enrolled h hweight hupheld.bootstrapped henrolled _) fun s' x hx => ?_
  obtain ⟨hnext, hc, hobjects⟩ := hx
  refine ⟨hnext, role.setPhase .ready, congrArg MemberPass.object hc, rfl, fun hstays => ?_⟩
  rw [Role.setPhase_of_status (hwritten hstays), hobjects]
  exact ⟨s.kept.found hupheld.found, hstatus s' hobjects⟩

/-- Nor is it when the status was written. -/
theorem Upheld.restatused {given stored : Role} (h : Upheld answer s key role name cluster leader)
    (hgiven : given.metadata = role.metadata)
    (hstored : Restatused s s' (k := .role) given stored) :
    Upheld answer s' key stored name cluster leader := by
  obtain ⟨hcore, hbelongs⟩ := h.toBelongs.restatused nofun nofun hgiven hstored
  refine ⟨hbelongs, ?_, ?_⟩
  · exact (h.supplied.of_core hcore rfl).congr (hstored.shelf .statefulSet nofun)
  · exact (h.enrolled.of_core hcore).of_onlyIn hstored.toOnlyIn

theorem supplied_of_settled {os os' : Objects} (hns : role.metadata.nsText = key.ns)
    (hstocked : role.metadata.isDeleting = false →
      ∃ ns, role.metadata.ns = some ns ∧ Stocked os ns cluster role)
    (haligned : ∃ ns, role.metadata.ns = some ns ∧ Aligned os' ns cluster role ∧
      (Stocked os ns cluster role → Stocked os' ns cluster role)) (leader : Pod) :
    Supplied os' ⟨key.ns, role, cluster, leader⟩ := by
  obtain ⟨ns, hsome, haligned, hkept⟩ := haligned
  obtain rfl : ns = key.ns := by rw [← hns, ObjectMeta.nsText, hsome]; rfl
  refine ⟨hsome, fun hstays => ?_, haligned⟩
  obtain ⟨ns', hsome', hstocked⟩ := hstocked hstays
  obtain rfl : ns' = key.ns := Option.some.inj (hsome'.symm.trans hsome)
  exact hkept hstocked

/-- When the steps of a pass come to their end, nothing is left to do. -/
theorem roleWalk_settles (h : Remembers answer)
    (hboot : ∀ role name cluster, s.objects.find? .role key.ns key.name = some role →
      (KubeObject.metadata role).labelSet.get? Labels.clusterName = some name →
      s.objects.find? .cluster key.ns name = some cluster → Cluster.isBootstrapped cluster = true) :
    Plays (Stage.respond answer) Free (Pass.walk steps "" (MemberPass.start key))
      (fun s' x => FallsShort RolePhase.ready x.2.1 x.2.2 ∨ ∃ role name cluster leader,
        x.2.2.object = some (role.setPhase .ready) ∧ Upheld answer s' key role name cluster leader) s := by
  rw [← List.take_append_drop 10 steps]
  simp only [steps, List.take_succ_cons, List.take_zero, List.cons_append, List.nil_append]
  rw [plays_walk_cons, goes_info, plays_walk_cons]
  refine getRequestedObject_settles (k := .role) (Or.inl (fallsShort_of_none rfl)) fun role hrole => ?_
  rw [plays_walk_cons, goes_resetStatus (k := .role) rfl, plays_walk_cons,
    goes_setPhase (k := .role) _ rfl, plays_walk_cons]
  refine getClusterByLabels_settles (k := .role) (o := role.setPhase .waitingForCluster) rfl rfl
    (fun _ => fallsShort_of_retry) fun name cluster hname hcluster => ?_
  rw [plays_walk_cons, goes_setPhase (k := .role) _ rfl, plays_walk_cons]
  refine createStatefulSets_settles (fun _ _ => fallsShort_of_retry) fun s₁ hs₁ hstocked => ?_
  rw [plays_walk_cons]
  refine updateStatefulSets_settles (fun _ _ => fallsShort_of_retry) fun s₂ hs₂ haligned => ?_
  rw [plays_walk_cons, goes_setPhase (k := .role) _ rfl, plays_walk_cons]
  have hsupplied := supplied_of_settled (s.kept.ns hrole) hstocked haligned
  have hshelf : ∀ k ≠ Kind.statefulSet, s₂.objects.shelf k = s.objects.shelf k := (hs₁.trans hs₂).shelf
  have hrole₂ := (Objects.find?_congr (hshelf .role nofun) key.ns key.name).trans hrole
  have hcluster₂ := (Objects.find?_congr (hshelf .cluster nofun) key.ns name).trans hcluster
  refine getLeader_belongs h (by decide) rfl hrole₂ hname hcluster₂
    (hboot role name cluster hrole hname hcluster) (fun _ _ => fallsShort_of_retry)
    fun s₃ leader cluster' honly hcore hbelongs => ?_
  have hns : Cluster.nsOf cluster' = key.ns := s₃.kept.ns hbelongs.foundCluster
  refine Plays.mono (enroll_settles h hns hbelongs.bootstrapped _) fun s₄ x hx => hx.imp_right ?_
  rintro ⟨hc, honward, henrolled⟩
  refine ⟨role, name, cluster', leader, congrArg MemberPass.object hc, hbelongs.onward honward, ?_,
    henrolled.of_core rfl⟩
  rw [honward.objects]
  exact ((hsupplied leader).congr (honly.shelf .statefulSet nofun)).of_core rfl hcore.symm

/-- When a pass over a role of a cluster that is bootstrapped ends in the phase `ready`, nothing is left to
do. -/
theorem rolePass_settles (h : Remembers answer)
    (hboot : ∀ role name cluster, s.objects.find? .role key.ns key.name = some role →
      (KubeObject.metadata role).labelSet.get? Labels.clusterName = some name →
      s.objects.find? .cluster key.ns name = some cluster → Cluster.isBootstrapped cluster = true) :
    Plays (Stage.respond answer) Free (Pass.run steps (MemberPass.start key))
      (fun s' x => EndsIn RolePhase.ready x → ∃ role name cluster leader,
        Upheld answer s' key role name cluster leader ∧
        (¬Vanishes role.metadata → role.status = some ⟨.ready⟩)) s := by
  refine run_settles (k := .role) (fun s' c => ∃ role name cluster leader,
    c.object = some (role.setPhase .ready) ∧ Upheld answer s' key role name cluster leader)
    (roleWalk_settles h hboot) ?_
  rintro s' c ⟨role, name, cluster, leader, hobject, hupheld⟩
  have hgiven : (role.setPhase .ready).metadata = role.metadata := rfl
  refine ⟨_, hobject, fun hvanishes => ?_, fun _ s'' stored hstored => ?_⟩
  · exact ⟨role, name, cluster, leader, hupheld, fun hstays => absurd hvanishes hstays⟩
  · refine ⟨stored, name, cluster, leader, hupheld.restatused hgiven hstored, fun _ => ?_⟩
    exact (congrArg Role.status hstored.status).symm

end Simulation

end ClusterKeeper
