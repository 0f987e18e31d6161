import ClusterKeeper.Proofs.Pass.Member

/-!
The rule of passes for the pass over a role. All requests but those that join instances are free of
joins and of writes of custom resources. A replicaset is joined after its instances are collected, and when
the leader is not among them, after the leader has told that it is part of a topology.
-/

namespace ClusterKeeper

open Program

namespace Replicaset

variable {cluster : Cluster} {role : Role}

theorem namespaceOf_deedFree (m : ObjectMeta) : (namespaceOf m).run.Only Request.DeedFree := by
  intro t
  rw [namespaceOf]
  split <;> trivial

/-- The request makes a StatefulSet. -/
def MakesStatefulSet (q : Request) : Prop := ∃ s, q = .store (.create .statefulSet s)

/-- Nothing is done but to make StatefulSets. -/
theorem createAll_makes : (createAll cluster role).run.Only (Request.DeedFreeOr MakesStatefulSet) := by
  intro t
  rw [createAll, keeps_run, keepsOr_bind]
  have hns : (namespaceOf role.metadata).run.Only (Request.DeedFreeOr MakesStatefulSet) :=
    (namespaceOf_deedFree _).imp fun _ => Or.inl
  refine ((keeps_run _).1 (hns t)).mono (fun t ns _ => ?_) fun _ _ h => h
  refine keepsOr_throughUpTo (fun ordinal s t _ => ?_) _ _ _ trivial
  simp [createMissing, MakesStatefulSet]

theorem createAll_joinFree : (createAll cluster role).run.Only Request.JoinFree := by
  refine createAll_makes.imp ?_
  rintro q (hq | ⟨s, rfl⟩)
  · exact hq.joinFree
  · simp

theorem updateDrifted_deedFree (s : StatefulSet) :
    (updateDrifted cluster role s).run.Only Request.DeedFree := by
  intro t
  rw [keeps_run, updateDrifted]
  split
  · simp
  · split <;> simp

theorem updateAll_deedFree : (updateAll cluster role).run.Only Request.DeedFree := by
  intro t
  rw [updateAll, keeps_run, keepsOr_bind]
  refine ((keeps_run _).1 (namespaceOf_deedFree _ t)).mono (fun t ns _ => ?_) fun _ _ h => h
  rw [keepsOr_bind, Attempt.list, keepsOr_store]
  refine ⟨by simp, fun existing => ?_, fun _ => trivial⟩
  refine keepsOr_through (fun s _ t _ => ?_) _ _ trivial
  exact (keeps_run _).1 (updateDrifted_deedFree s t)

end Replicaset

namespace RolePass

open MemberPass

variable {r : Resolved} {t : Talk Surroundings} {inv : Talk Surroundings → Prop}

/-! ### Joining -/

section

variable {rule : Talk Surroundings → Request → Prop} {fails : Talk Surroundings → JoinObstacle → Prop}

@[simp] theorem keepsOr_ofAttempt {β : Type} (a : Attempt β) {ok : Talk Surroundings → β → Prop} :
    KeepsOr rule (Joining.ofAttempt a) ok fails t ↔
      KeepsOr rule a ok (fun t e => fails t (.other e)) t := keepsOr_mapError a _

@[simp] theorem keepsOr_asking (q : AdminRequest) {ok : Talk Surroundings → q.Result → Prop} :
    @KeepsOr Surroundings (no_index q.Result) JoinObstacle rule (Joining.asking q) ok fails t ↔
      KeepsOr rule (Act.admin q) ok (fun t e => fails t (.admin e)) t := keepsOr_mapError _ _

end

theorem collectReplica_joinFree (s : StatefulSet) (replica : Nat) (uris : List String) :
    (collectReplica r s replica uris).run.Only Request.JoinFree := by
  intro t
  rw [keeps_run, collectReplica, keepsOr_bind]
  simp only [Attempt.get, bind_pure_comp, keepsOr_ofAttempt, keepsOr_store, Request.joinFree_store,
    StoreRequest.kind, StoreRequest.CustomWriteFree, ne_eq, reduceCtorEq, not_false_eq_true, implies_true, and_true,
    true_and]
  intro pod
  split <;> simp

theorem liveStatefulSets_deedFree (ordinal : Nat) :
    (liveStatefulSets r ordinal).run.Only Request.DeedFree := by
  intro t
  simp [liveStatefulSets]

theorem liveStatefulSets_joinFree (ordinal : Nat) :
    (liveStatefulSets r ordinal).run.Only Request.JoinFree :=
  (liveStatefulSets_deedFree ordinal).joinFree

theorem collect_joinFree (ordinal : Nat) : (collect r ordinal).run.Only Request.JoinFree := by
  intro t
  rw [keeps_run, collect, keepsOr_bind, keepsOr_ofAttempt]
  refine ((keeps_run _).1 (liveStatefulSets_joinFree ordinal t)).mono (fun t stateful _ => ?_) fun _ _ h => h
  refine keepsOr_through (fun s uris t _ => ?_) _ _ trivial
  refine keepsOr_throughUpTo (fun replica uris t _ => ?_) _ _ _ trivial
  exact (keeps_run _).1 (collectReplica_joinFree s replica uris t)

theorem resolved_joinFree (c : RolePass) : (resolved c).run.Only Request.JoinFree := by
  intro t
  rw [resolved]
  split <;> trivial

/-- The request sets the roles of a replicaset, through an instance. -/
def SetsRoles (leader : Pod) (q : Request) : Prop :=
  ∃ uuid roles, q = .admin (.setReplicasetRoles leader uuid roles)

/-- Nothing is done but to set the roles of replicasets. -/
theorem configureAll_sets : (configureAll r).run.Only (Request.DeedFreeOr (SetsRoles r.leader)) := by
  intro t
  refine (keeps_run _).2 (keepsOr_throughUpTo (fun ordinal allConfigured t _ => ?_) _ _ _ trivial)
  simp only [keepsOr_bind, keepsOr_lift, keeps_run]
  have hlive : (liveStatefulSets r ordinal).run.Only (Request.DeedFreeOr (SetsRoles r.leader)) :=
    (liveStatefulSets_deedFree ordinal).imp fun _ => Or.inl
  refine ((keeps_run _).1 (hlive t)).mono (fun t stateful _ => ?_) fun t e _ => by simp
  cases stateful with
  | nil => trivial
  | cons s stateful => simp [configureReplicaset, SetsRoles]

theorem configureAll_joinFree : (configureAll r).run.Only Request.JoinFree := by
  refine configureAll_sets.imp ?_
  rintro q (hq | ⟨uuid, roles, rfl⟩)
  · exact hq.joinFree
  · simp

theorem setAllWeights_joinFree : (setAllWeights r).run.Only Request.JoinFree := by
  intro t
  refine (keeps_run _).2 (keepsOr_throughUpTo (fun ordinal _ t _ => ?_) _ _ _ trivial)
  rw [keepsOr_bind, keepsOr_ofAttempt]
  refine ((keeps_run _).1 (liveStatefulSets_joinFree ordinal t)).mono (fun t stateful _ => ?_) fun _ _ h => h
  refine keepsOr_through (fun s _ t _ => ?_) _ _ trivial
  rw [setWeight]
  split <;> simp

/-! ### Under any rule that admits requests without joins -/

section

variable {rule : Talk Surroundings → Request → Prop} [AdmitsJoinFree rule]

theorem joinReplicaset_keeps (hinv : Persists inv)
    (hjoin : ∀ t request uris, inv t → SoundJoin t r.cluster r.leader uris →
      rule t (.admin (.join r.leader request uris))) (ordinal : Nat) (ht : inv t) :
    KeepsOr rule (joinReplicaset r ordinal) (fun t _ => inv t) (fun t _ => inv t) t := by
  have hlogged : ∀ t message, inv t → inv (⟨Request.log .info message, ()⟩ :: t) :=
    fun t _ ht => hinv t _ _ Request.elsewhere_log ht
  have hjoins : ∀ uris t, inv t → SoundJoin t r.cluster r.leader uris →
      KeepsOr rule (do
        ExceptT.lift (Act.log .info "Joining instances")
        let _ ← Joining.asking (.join r.leader (joinRequest r.role ordinal) uris))
        (fun t _ => inv t) (fun t _ => inv t) t := by
    intro uris t ht hsound
    have hlog := hlogged t "Joining instances" ht
    rw [keepsOr_bind, keepsOr_lift, keeps_log]
    refine ⟨AdmitsJoinFree.of_joinFree _ _ Request.joinFree_log, ?_⟩
    rw [keepsOr_bind, keepsOr_asking, keepsOr_ask]
    refine ⟨hjoin _ _ _ hlog ?_, fun a => ?_, fun e => ?_⟩
    · exact persists_soundJoin _ _ _ _ _ _ Request.elsewhere_log hsound
    · exact hinv _ _ _ Request.elsewhere_admin hlog
    · exact hinv _ _ _ Request.elsewhere_admin hlog
  rw [joinReplicaset, keepsOr_bind]
  refine (keepsOr_of_joinFree (collect_joinFree ordinal) hinv ht).mono (fun t uris ht => ?_) fun _ _ h => h
  rw [keepsOr_ite]
  refine ⟨fun _ => ht, fun _ => ?_⟩
  rw [keepsOr_ite]
  refine ⟨fun _ => ?_, fun hmem => hjoins uris t ht (Or.inl (Decidable.not_not.1 hmem))⟩
  rw [keepsOr_bind, keepsOr_asking, keepsOr_ask]
  refine ⟨AdmitsJoinFree.of_joinFree _ _ (by simp), fun uuid => ?_, fun e => hinv _ _ _ Request.elsewhere_admin ht⟩
  have hasked := hinv _ (.admin (.instanceUuid r.leader)) (.ok uuid) Request.elsewhere_admin ht
  rw [keepsOr_ite]
  refine ⟨fun _ => ?_, fun hplaced => ?_⟩
  · rw [keepsOr_bind, keepsOr_lift, keeps_log]
    exact ⟨AdmitsJoinFree.of_joinFree _ _ Request.joinFree_log, hlogged _ _ hasked⟩
  · exact hjoins uris _ hasked (Or.inr ⟨uuid, hplaced, List.mem_cons_self⟩)

theorem joinAll_keeps (hinv : Persists inv)
    (hjoin : ∀ t request uris, inv t → SoundJoin t r.cluster r.leader uris →
      rule t (.admin (.join r.leader request uris))) (ht : inv t) :
    KeepsOr rule (joinAll r) (fun t _ => inv t) (fun t _ => inv t) t := by
  refine keepsOr_throughUpTo (fun ordinal allJoined t ht => ?_) _ _ _ ht
  simp only [keepsOr_bind, keepsOr_lift, keeps_run]
  refine (joinReplicaset_keeps hinv hjoin ordinal ht).mono (fun t _ ht => ht) fun t e ht => ?_
  cases e <;> exact ht

/-- What was resolved is what the state holds. -/
structure Resolved.Of (r : Resolved) (c : RolePass) : Prop where
  role : c.object = some r.role
  cluster : c.cluster = some r.cluster
  leader : c.leader = some r.leader

omit [AdmitsJoinFree rule] in
theorem resolved_keeps {c : RolePass} (ht : inv t) :
    KeepsOr rule (resolved c) (fun t r => inv t ∧ r.Of c) (fun t _ => inv t) t := by
  rw [resolved]
  split
  next hrole hcluster hleader => exact ⟨ht, hrole, hcluster, hleader⟩
  next => exact ht
  next => exact ht
  next => exact ht

/-- An invariant that stays when the role is parked. -/
def StaysParked (inv : Talk Surroundings → RolePass → Prop) : Prop :=
  ∀ t c role, c.object = some role → inv t c →
    inv t { c with object := some (role.setPhase .configError) }

variable (rule) {inv : Talk Surroundings → RolePass → Prop} (hinv : ∀ c, Persists fun t => inv t c)
include hinv

theorem withCluster_preserves {name : String} {f : String → Role → Cluster → Attempt Outcome}
    (hf : ∀ ns role cluster, (f ns role cluster).run.Only Request.JoinFree) :
    (withCluster name f).Preserves rule inv := by
  refine Pass.preserves_reading rule hinv fun c t => ?_
  split
  · exact hf _ _ _ t
  · trivial

theorem createStatefulSets_preserves : createStatefulSets.Preserves rule inv := by
  refine withCluster_preserves rule hinv fun ns role cluster t => ?_
  rw [keeps_run, keepsOr_ite]
  refine ⟨fun _ => trivial, fun _ => ?_⟩
  rw [bind_pure_comp, keepsOr_map]
  exact (keeps_run _).1 (Replicaset.createAll_joinFree t)

theorem updateStatefulSets_preserves : updateStatefulSets.Preserves rule inv := by
  refine withCluster_preserves rule hinv fun ns role cluster t => ?_
  rw [keeps_run, bind_pure_comp, keepsOr_map]
  exact (keeps_run _).1 (Replicaset.updateAll_deedFree.joinFree t)

theorem ensureCartridgeReady_preserves : ensureCartridgeReady.Preserves rule inv :=
  withCluster_preserves rule hinv fun ns role cluster t => by simp

theorem configureVShardRoles_preserves : configureVShardRoles.Preserves rule inv := by
  refine Pass.preserves_reading rule hinv fun c t => ?_
  rw [keeps_run, keepsOr_bind]
  refine ((keeps_run _).1 (resolved_joinFree c t)).mono (fun t r _ => ?_) fun _ _ h => h
  rw [keepsOr_bind]
  refine ((keeps_run _).1 (configureAll_joinFree t)).mono (fun t configured _ => ?_) fun _ _ h => h
  simp

theorem stopOnConfigError_keeps (hparked : StaysParked inv) {c : RolePass} {role : Role}
    (hrole : c.object = some role) (hc : inv t c) (reason : String) (e : AdminError) :
    Keeps rule (stopOnConfigError c role reason e) (fun t r => inv t r.2) t := by
  rw [stopOnConfigError, keeps_bind, keeps_record]
  refine ⟨AdmitsJoinFree.of_joinFree _ _ Request.joinFree_record, ?_⟩
  exact hparked _ _ _ hrole (hinv c _ _ _ Request.elsewhere_record hc)

theorem joinInstances_preserves (hparked : StaysParked inv)
    (hjoin : ∀ t c cluster leader request uris, inv t c → c.cluster = some cluster →
      c.leader = some leader → SoundJoin t cluster leader uris →
      rule t (.admin (.join leader request uris))) : joinInstances.Preserves rule inv := by
  refine Pass.preserves_ofAttempt fun t c hc => ?_
  rw [keepsOr_bind]
  have hresolved : KeepsOr rule (resolved c) (fun t r => inv t c ∧ r.Of c) (fun t _ => inv t c) t :=
    resolved_keeps hc
  refine hresolved.mono (fun t r ⟨hc, hr⟩ => ?_) fun _ _ h => h
  simp only [keepsOr_bind, keepsOr_lift, keeps_run]
  refine (joinAll_keeps (hinv c) (fun t request uris ht hsound => ?_) hc).mono (fun t joined ht => ?_)
    fun t e ht => ?_
  · exact hjoin t c _ _ _ _ ht hr.cluster hr.leader hsound
  · cases joined with
    | true => exact ht
    | false => exact (hinv c).keepsOr_log ht fun _ h => h
  · split
    next h => cases h
    next => exact (hinv c).keepsOr_log ht fun _ h => h
    next => exact (hinv c).keepsOr_log ht fun _ h => h
    next =>
      refine (hinv c).keepsOr_log ht fun t ht => ?_
      exact (keepsOr_lift _).2 (stopOnConfigError_keeps rule hinv hparked hr.role ht _ _)
    next => exact (hinv c).keepsOr_log ht fun _ h => h
    next => exact ht

theorem setVShardWeights_preserves (hparked : StaysParked inv) :
    setVShardWeights.Preserves rule inv := by
  refine Pass.preserves_ofAttempt fun t c hc => ?_
  rw [keepsOr_bind]
  have hresolved : KeepsOr rule (resolved c) (fun t r => inv t c ∧ r.Of c) (fun t _ => inv t c) t :=
    resolved_keeps hc
  refine hresolved.mono (fun t r ⟨hc, hr⟩ => ?_) fun _ _ h => h
  simp only [keepsOr_bind, keepsOr_lift, keeps_run]
  refine (keepsOr_of_joinFree setAllWeights_joinFree (hinv c) hc).mono (fun t _ ht => ht) fun t e ht => ?_
  split
  next h => cases h
  next =>
    refine (hinv c).keepsOr_log ht fun t ht => ?_
    exact (keepsOr_lift _).2 (stopOnConfigError_keeps rule hinv hparked hr.role ht _ _)
  next => exact ht
  next => exact ht
  next => exact ht

end

/-! ### Under the rule of passes -/

theorem stays_tied : StaysParked Tied := fun _ _ _ _ h => h.withObject _

theorem join_proper {c : RolePass} {cluster : Cluster} {leader : Pod} {uris : List String}
    (request : JoinRequest) (hc : Tied t c) (hcluster : c.cluster = some cluster)
    (hleader : c.leader = some leader) (hsound : SoundJoin t cluster leader uris) :
    Proper t (.admin (.join leader request uris)) := by
  obtain ⟨k, hk, hleads⟩ := hc.leads leader hleader
  obtain rfl : k = cluster := Option.some.inj (hk.symm.trans hcluster)
  exact ⟨k, hc.copied k hcluster, hsound, hleads⟩

theorem steps_preserve : ∀ step ∈ steps, step.Preserves Proper Tied := by
  have hfetch : ∀ ns name,
      (CustomResource.fetch ns name : Attempt (Option Role)).run.Only Request.JoinFree := by
    intro ns name t
    simp [CustomResource.fetch]
  simp only [steps, List.forall_mem_cons]
  exact ⟨Pass.preserves_info Proper persists_tied, preserves_getRequestedObject hfetch,
    preserves_resetStatus, preserves_setPhase _, preserves_getClusterByLabels, preserves_setPhase _,
    createStatefulSets_preserves Proper persists_tied, updateStatefulSets_preserves Proper persists_tied,
    preserves_setPhase _, preserves_getLeader, preserves_setPhase _,
    ensureCartridgeReady_preserves Proper persists_tied, preserves_setPhase _,
    joinInstances_preserves Proper persists_tied stays_tied (fun _ _ _ _ request _ => join_proper request),
    preserves_setPhase _, configureVShardRoles_preserves Proper persists_tied, preserves_setPhase _,
    Pass.preserves_waitForClusterBootstrapped Proper persists_tied, preserves_setPhase _,
    setVShardWeights_preserves Proper persists_tied stays_tied, preserves_setPhase _,
    List.forall_mem_nil _⟩

/-- A pass over a role keeps to the rule. -/
theorem reconcile_keeps (role : Role) :
    Keeps Proper (Controller.reconcile steps MemberPass.start role) (fun _ _ => True) [] := by
  refine MemberPass.reconcile_keeps (fun o t => ?_) steps_preserve role
  simp [CustomResource.replaceStatus, Proper]

end RolePass

end ClusterKeeper
