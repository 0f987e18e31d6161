import ClusterKeeper.Proofs.Pass.Candour

/-!
Passes over objects that belong to a cluster keep to the rule of candour. Such a pass writes over the
object as it loaded it, and only past the step that waits for the storages to be bootstrapped does it
record a phase that claims so (`MemberPass.Attested`).
-/

namespace ClusterKeeper

open Program

/-- Resources of a kind that belong to a cluster: they are stored under the kind, passes change nothing
but their status, and a status that was cleared claims nothing. -/
class MemberKind (k : Kind) [CustomResource k.Object] : Prop where
  isCustom : k.isCustom = true
  ne_cluster : k ≠ .cluster
  metadata_eq (o : k.Object) : CustomResource.toKubeObject.metadata o = Kind.metadata o
  fetch_eq (ns name : String) : CustomResource.fetch ns name = Attempt.get k ns name
  replaceStatus_eq (o : k.Object) : CustomResource.replaceStatus o = Attempt.replaceStatus k o
  metadata_setPhase (p : CustomResource.Phase k.Object) (o : k.Object) :
    Kind.metadata (CustomResource.setPhase p o) = Kind.metadata o
  metadata_resetStatus (o : k.Object) : Kind.metadata (CustomResource.resetStatus o) = Kind.metadata o
  not_claims_resetStatus (o : k.Object) : ¬k.Claims (CustomResource.resetStatus o)

instance : MemberKind .role where
  isCustom := rfl
  ne_cluster h := nomatch h
  metadata_eq _ := rfl
  fetch_eq _ _ := rfl
  replaceStatus_eq _ := rfl
  metadata_setPhase _ _ := rfl
  metadata_resetStatus _ := rfl
  not_claims_resetStatus _ h := by rcases h with h | h <;> cases h

instance : MemberKind .cartridgeConfig where
  isCustom := rfl
  ne_cluster h := nomatch h
  metadata_eq _ := rfl
  fetch_eq _ _ := rfl
  replaceStatus_eq _ := rfl
  metadata_setPhase _ _ := rfl
  metadata_resetStatus _ := rfl
  not_claims_resetStatus _ h := by rcases h with h | h | h <;> cases h

namespace MemberPass

variable {k : Kind} {t t' : Talk Surroundings} {c : MemberPass k.Object}

/-- The object and the cluster are those that the store gave, but for the object's status, and that
claims no more than before until it is `settled` that the storages are bootstrapped. -/
structure Attested (settled : Prop) (t : Talk Surroundings) (c : MemberPass k.Object) : Prop where
  object : ∀ o, c.object = some o → ∃ base, t.Given k base ∧ Kind.metadata o = Kind.metadata base ∧
    (k.Claims o → k.Claims base ∨ settled)
  key : ∀ o, c.object = some o → t.Honest → Kind.keyOf o = c.key
  cluster : ∀ cluster, c.cluster = some cluster → t.Given .cluster cluster ∧
    ∃ o name, c.object = some o ∧ (Kind.metadata o).labelSet.get? Labels.clusterName = some name ∧
      (t.Honest → ObjectKey.ofMeta cluster.metadata = ⟨c.key.ns, name⟩)
  vouched : settled → ∃ o, c.object = some o ∧ Vouched t (Kind.metadata o)

variable {settled : Prop}

theorem Attested.mono (h : Attested settled t c) (hsuffix : t <:+ t') : Attested settled t' c where
  object o ho := by
    obtain ⟨base, hgiven, hbase⟩ := h.object o ho
    exact ⟨base, hgiven.mono hsuffix, hbase⟩
  key o ho ht' := h.key o ho (ht'.mono hsuffix)
  cluster cluster hcluster := by
    obtain ⟨hgiven, o, name, ho, hlabel, hkey⟩ := h.cluster cluster hcluster
    exact ⟨hgiven.mono hsuffix, o, name, ho, hlabel, fun ht' => hkey (ht'.mono hsuffix)⟩
  vouched hs := by
    obtain ⟨o, ho, hvouched⟩ := h.vouched hs
    exact ⟨o, ho, hvouched.mono hsuffix⟩

theorem persists_attested (c : MemberPass k.Object) : Persists fun t => Attested settled t c :=
  persists_of_mono fun _ _ hsuffix h => h.mono hsuffix

/-- The object may change its status, to one that claims nothing if nothing is settled. -/
theorem Attested.withObject {o o' : k.Object} (h : Attested settled t c) (ho : c.object = some o)
    (hmeta : Kind.metadata o' = Kind.metadata o) (hclaims : k.Claims o' → settled) :
    Attested settled t { c with object := some o' } where
  object o'' ho'' := by
    obtain rfl := Option.some.inj ho''
    obtain ⟨base, hgiven, hbase, _⟩ := h.object o ho
    exact ⟨base, hgiven, hmeta.trans hbase, fun hc => Or.inr (hclaims hc)⟩
  key o'' ho'' ht := by
    obtain rfl := Option.some.inj ho''
    rw [Kind.keyOf, hmeta]
    exact h.key o ho ht
  cluster cluster hcluster := by
    obtain ⟨hgiven, o₁, name, ho₁, hlabel, hkey⟩ := h.cluster cluster hcluster
    obtain rfl : o₁ = o := Option.some.inj (ho₁.symm.trans ho)
    exact ⟨hgiven, o', name, rfl, hmeta ▸ hlabel, hkey⟩
  vouched hs := by
    obtain ⟨o₁, ho₁, hvouched⟩ := h.vouched hs
    obtain rfl : o₁ = o := Option.some.inj (ho₁.symm.trans ho)
    exact ⟨o', rfl, hmeta ▸ hvouched⟩

theorem attested_loaded {ns name : String} {o : k.Object} (hcustom : k.isCustom = true)
    (hc : c = start ⟨ns, name⟩) :
    Attested False (⟨Request.store (.get k ns name), Except.ok (some o)⟩ :: t)
      { c with object := some o } where
  object o' ho' := by
    obtain rfl := Option.some.inj ho'
    exact ⟨o, Talk.given_of_gives .got, rfl, Or.inl⟩
  key o' ho' ht := by
    obtain rfl := Option.some.inj ho'
    rw [hc]
    exact ht _ List.mem_cons_self hcustom
  cluster cluster hcluster := by
    rw [hc] at hcluster
    exact absurd hcluster.symm (Option.some_ne_none cluster)
  vouched := False.elim

variable [CustomResource k.Object] [MemberKind k]

theorem attested_setPhase (phase : CustomResource.Phase k.Object)
    (hphase : ∀ o : k.Object, k.Claims (CustomResource.setPhase phase o) → settled) :
    (Pass.setPhase (C := MemberPass k.Object) phase).Preserves Candid (Attested settled) :=
  Pass.preserves_setPhase Candid persists_attested phase fun _ _ o ho h =>
    h.withObject ho (MemberKind.metadata_setPhase phase o) (hphase o)

theorem attested_resetStatus :
    (Pass.resetStatus (C := MemberPass k.Object)).Preserves Candid (Attested settled) :=
  Pass.preserves_resetStatus Candid fun _ _ o ho h =>
    h.withObject ho (MemberKind.metadata_resetStatus o)
      fun hclaims => absurd hclaims (MemberKind.not_claims_resetStatus o)

theorem attested_getClusterByLabels :
    (Pass.getClusterByLabels (C := MemberPass k.Object)).Preserves Candid (Attested settled) := by
  refine Pass.preserves_ofAttempt fun t c hc => ?_
  rw [keepsOr_ite]
  refine ⟨fun _ => hc, fun _ => ?_⟩
  split
  next => exact hc
  next o ho =>
    split
    next => exact hc
    next name hlabel =>
      have hlabel : (Kind.metadata o).labelSet.get? Labels.clusterName = some name := by
        rw [← MemberKind.metadata_eq]
        exact hlabel
      rw [keepsOr_bind, Attempt.get, keepsOr_store]
      have hstays : ∀ a : Except OperatorError (Option Cluster), Attested settled
          (⟨Request.store (.get .cluster (PassState.key c).ns name), a⟩ :: t) c :=
        fun a => hc.mono (List.suffix_cons _ t)
      refine ⟨trivial, Option.forall.2 ⟨?_, fun cluster => ?_⟩, fun e => hstays _⟩
      · exact (persists_attested c).keepsOr_log (hstays _) fun t ht => ht
      · have hloaded := hstays (.ok (some cluster))
        refine ⟨hloaded.object, hloaded.key, fun cluster' hcluster' => ?_, hloaded.vouched⟩
        obtain rfl := Option.some.inj hcluster'
        exact ⟨Talk.given_of_gives .got, o, name, ho, hlabel, fun ht => ht _ List.mem_cons_self rfl⟩

omit [CustomResource k.Object] [MemberKind k] in
theorem attested_getLeader :
    (Pass.getLeader (C := MemberPass k.Object)).Preserves Candid (Attested settled) := by
  refine Election.getLeader_candid (fun _ _ _ hsuffix h => h.mono hsuffix) (fun t c cluster hc hcluster => ?_)
    fun t c cluster found leader hc hcluster hfound => ?_
  · exact held_of_given (hc.cluster cluster hcluster).1
  · obtain ⟨hgiven, o, name, ho, hlabel, hkey⟩ := hc.cluster cluster hcluster
    refine ⟨hc.object, hc.key, fun cluster' hcluster' => ?_, hc.vouched⟩
    obtain rfl := Option.some.inj hcluster'
    rcases hfound with rfl | ⟨hgiven', hkey'⟩
    · exact ⟨hgiven, o, name, ho, hlabel, hkey⟩
    · exact ⟨hgiven', o, name, ho, hlabel, fun ht => (hkey' ht).trans (hkey ht)⟩

omit [CustomResource k.Object] [MemberKind k] in
/-- A cluster whose storages are bootstrapped settles it. -/
theorem Attested.settle {cluster : Cluster} (h : Attested settled t c)
    (hcluster : c.cluster = some cluster) (hboot : cluster.isBootstrapped = true) :
    Attested True t c where
  object o ho := by
    obtain ⟨base, hgiven, hbase, _⟩ := h.object o ho
    exact ⟨base, hgiven, hbase, fun _ => Or.inr trivial⟩
  key := h.key
  cluster := h.cluster
  vouched _ := by
    obtain ⟨hgiven, o, name, ho, hlabel, hkey⟩ := h.cluster cluster hcluster
    refine ⟨o, ho, name, cluster, hlabel, hgiven, hboot, fun ht => (hkey ht).trans ?_⟩
    rw [← h.key o ho ht]
    rfl

omit [CustomResource k.Object] [MemberKind k] in
/-- The step that waits for the bootstrap goes on when it is settled. -/
theorem waitForClusterBootstrapped_candid (hc : Attested False t c) :
    Keeps Candid ((Pass.waitForClusterBootstrapped (C := MemberPass k.Object)).run c)
      (fun t r => (r.1 = .next → Attested True t r.2) ∧ Attested False t r.2) t := by
  refine ⟨fun hnext => ?_, hc⟩
  dsimp only at hnext
  split at hnext
  next hboot =>
    obtain ⟨hsome, hboot⟩ := (Option.any_eq_true_iff_get _ _).1 hboot
    exact hc.settle (Option.some_get hsome).symm hboot
  next => cases hnext

/-- The step that loads the object attests it. -/
theorem getRequestedObject_candid {key : ObjectKey} (hc : c = start key) :
    Keeps Candid ((Pass.getRequestedObject (C := MemberPass k.Object)).run c)
      (fun t r => (r.1 = .next → Attested False t r.2) ∧ (r.1 ≠ .next → r.2.object = none)) t := by
  subst hc
  rw [Pass.getRequestedObject, Step.ofAttempt, keeps_bind, keeps_run]
  dsimp only
  rw [MemberKind.fetch_eq, keepsOr_bind, Attempt.get, keepsOr_store]
  refine ⟨trivial, Option.forall.2 ⟨?_, fun o => ?_⟩, fun e => ⟨fun h => Outcome.noConfusion h, fun _ => rfl⟩⟩
  · rw [keepsOr_bind, keepsOr_log, keeps_log]
    exact ⟨AdmitsJoinFree.of_joinFree _ _ Request.joinFree_log, fun h => Outcome.noConfusion h, fun _ => rfl⟩
  · exact ⟨fun _ => attested_loaded MemberKind.isCustom rfl, fun hne => absurd rfl hne⟩

/-- The status may be written over what is attested. -/
theorem persist_candid (h : Attested settled t c) :
    KeepsOr Candid (Pass.persist c) (fun _ _ => True) (fun _ _ => True) t := by
  refine Pass.persist_keeps fun o ho => ?_
  obtain ⟨base, hgiven, hmeta, hclaims⟩ := h.object o ho
  rw [MemberKind.replaceStatus_eq, Attempt.replaceStatus, keepsOr_store]
  refine ⟨(candid_replaceStatus_iff MemberKind.isCustom MemberKind.ne_cluster).2 ?_, fun _ => trivial,
    fun _ => trivial⟩
  refine ⟨base, hgiven, hmeta, fun hc => (hclaims hc).imp_right fun hs => ?_⟩
  obtain ⟨o', ho', hvouched⟩ := h.vouched hs
  exact Option.some.inj (ho'.symm.trans ho) ▸ hvouched

/-- A pass is candid when its steps are, up to the one that waits for the bootstrap and after it. -/
theorem reconcile_candid {before after : List (Step (MemberPass k.Object))}
    (hbefore : ∀ step ∈ before, step.Preserves Candid (Attested False))
    (hafter : ∀ step ∈ after, step.Preserves Candid (Attested True)) (o : k.Object) :
    Keeps Candid (Controller.reconcile (Pass.info :: Pass.getRequestedObject ::
      (before ++ Pass.waitForClusterBootstrapped :: after)) start o) (fun _ _ => True) [] := by
  refine Pass.keeps_reconcile (Pass.keeps_walk_cons ?_)
  rw [Pass.info, keeps_bind, keeps_log]
  refine ⟨AdmitsJoinFree.of_joinFree _ _ Request.joinFree_log, fun _ => ?_, fun hne => absurd rfl hne⟩
  refine Pass.keeps_walk_cons ((getRequestedObject_candid rfl).mono fun t r hr =>
    ⟨fun hnext => ?_, fun hne => ?_⟩)
  · refine Pass.keeps_walk_append persists_attested hbefore (fun t last c hc => ?_)
      (fun _ _ _ _ hc => persist_candid hc) (hr.1 hnext)
    refine Pass.keeps_walk_cons ((waitForClusterBootstrapped_candid
      (hc.mono (List.suffix_cons _ t))).mono fun t r hr => ⟨fun hnext => ?_, fun _ => ?_⟩)
    · exact Pass.keeps_walk persists_attested hafter (fun _ _ _ _ hc => persist_candid hc) (hr.1 hnext)
    · exact persist_candid hr.2
  · refine Pass.persist_keeps fun o ho => ?_
    exact absurd (ho.symm.trans (hr.2 hne)) (Option.some_ne_none o)

end MemberPass

namespace RolePass

open MemberPass

variable {settled : Prop}

theorem not_claims_setPhase {phase : RolePhase} (hphase : phase ≠ .configuringWeights ∧ phase ≠ .ready)
    (r : Role) : ¬Kind.Claims .role (r.setPhase phase) :=
  fun h => h.elim hphase.1 hphase.2

theorem attested_setPhase {phase : RolePhase} (hphase : phase ≠ .configuringWeights ∧ phase ≠ .ready) :
    (Pass.setPhase (C := RolePass) phase).Preserves Candid (Attested (k := .role) settled) :=
  MemberPass.attested_setPhase (k := .role) phase fun r h => absurd h (not_claims_setPhase hphase r)

theorem staysParked_attested : StaysParked (Attested (k := .role) settled) := by
  intro t c role hrole h
  refine h.withObject hrole rfl fun hclaims => absurd hclaims (not_claims_setPhase (by decide) role)

theorem candid_before :
    ∀ step ∈ (steps.take 17).drop 2, step.Preserves Candid (Attested (k := .role) False) := by
  have hjoin : ∀ t c cluster leader request uris, Attested (k := .role) False t c →
      c.cluster = some cluster → c.leader = some leader → SoundJoin t cluster leader uris →
      Candid t (.admin (.join leader request uris)) := fun _ _ _ _ _ _ _ _ _ _ => trivial
  have hinv : ∀ c, Persists fun t => Attested (k := .role) False t c := persists_attested (k := .role)
  simp only [steps, List.take_succ_cons, List.take_zero, List.drop_succ_cons, List.drop_zero,
    List.forall_mem_cons]
  exact ⟨attested_resetStatus (k := .role), attested_setPhase (by decide),
    attested_getClusterByLabels (k := .role), attested_setPhase (by decide),
    createStatefulSets_preserves Candid hinv,
    updateStatefulSets_preserves Candid hinv, attested_setPhase (by decide),
    attested_getLeader (k := .role), attested_setPhase (by decide),
    ensureCartridgeReady_preserves Candid hinv, attested_setPhase (by decide),
    joinInstances_preserves Candid hinv staysParked_attested hjoin,
    attested_setPhase (by decide), configureVShardRoles_preserves Candid hinv,
    attested_setPhase (by decide), List.forall_mem_nil _⟩

theorem candid_after : ∀ step ∈ steps.drop 18, step.Preserves Candid (Attested (k := .role) True) := by
  have hinv : ∀ c, Persists fun t => Attested (k := .role) True t c := persists_attested (k := .role)
  simp only [steps, List.drop_succ_cons, List.drop_zero, List.forall_mem_cons]
  exact ⟨MemberPass.attested_setPhase (k := .role) _ fun _ _ => trivial,
    setVShardWeights_preserves Candid hinv staysParked_attested,
    MemberPass.attested_setPhase (k := .role) _ fun _ _ => trivial, List.forall_mem_nil _⟩

/-- A pass over a role is candid. -/
theorem reconcile_candid (role : Role) :
    Keeps Candid (Controller.reconcile steps MemberPass.start role) (fun _ _ => True) [] :=
  MemberPass.reconcile_candid (k := .role) candid_before candid_after role

end RolePass

namespace ConfigPass

open MemberPass

theorem candid_before :
    ∀ step ∈ (steps.take 5).drop 2, step.Preserves Candid (Attested (k := .cartridgeConfig) False) := by
  have hphase : ∀ c : CartridgeConfig,
      ¬Kind.Claims .cartridgeConfig (c.setPhase .waitingForCluster) := by
    intro c h
    rcases h with h | h | h <;> cases h
  simp only [steps, List.take_succ_cons, List.take_zero, List.drop_succ_cons, List.drop_zero,
    List.forall_mem_cons]
  exact ⟨attested_resetStatus (k := .cartridgeConfig),
    MemberPass.attested_setPhase (k := .cartridgeConfig) _ fun c h => absurd h (hphase c),
    attested_getClusterByLabels (k := .cartridgeConfig), List.forall_mem_nil _⟩

theorem candid_after :
    ∀ step ∈ steps.drop 6, step.Preserves Candid (Attested (k := .cartridgeConfig) True) := by
  have hphase : ∀ phase, (Pass.setPhase (C := ConfigPass) phase).Preserves Candid
      (Attested (k := .cartridgeConfig) True) := fun phase =>
    MemberPass.attested_setPhase (k := .cartridgeConfig) phase fun _ _ => trivial
  have hinv : ∀ c, Persists fun t => Attested (k := .cartridgeConfig) True t c :=
    persists_attested (k := .cartridgeConfig)
  simp only [steps, List.drop_succ_cons, List.drop_zero, List.forall_mem_cons]
  exact ⟨hphase _, attested_getLeader (k := .cartridgeConfig), hphase _,
    configure_preserves Candid hinv, hphase _, List.forall_mem_nil _⟩

/-- A pass over a clusterwide config is candid. -/
theorem reconcile_candid (config : CartridgeConfig) :
    Keeps Candid (Controller.reconcile steps MemberPass.start config) (fun _ _ => True) [] :=
  MemberPass.reconcile_candid (k := .cartridgeConfig) candid_before candid_after config

end ConfigPass

end ClusterKeeper
