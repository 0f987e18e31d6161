import ClusterKeeper.Proofs.Pass.Gates
import ClusterKeeper.Proofs.Pass.RoleConduct

/-!
The steps of a pass over a role, whatever they are answered. Every answer by which an instance or the
topology parks the role ends the pass with a warning (`RolePass.Parking`); every other failure lets it be
made again; and the step that joins instances goes on when every replicaset was joined to the end.
-/

namespace ClusterKeeper

open Program

namespace RolePass

variable {rule : Talk Surroundings → Request → Prop} [AdmitsDeedFree rule] {t t₀ : Talk Surroundings}
  {key : ObjectKey} {role : Role} {cluster : Cluster} {leader : Pod} {r : Resolved} {c : RolePass}
  {on : Talk Surroundings → RolePass → Prop} {ends : Talk Surroundings → Outcome → RolePass → Prop}

/-! ### Answers that park the role -/

/-- How a part of a step fails: with the answer that parks the role, which is the last turn then, or
otherwise. -/
inductive Halts (parks : AdminError → Prop) (t : Talk Surroundings) : Talk Surroundings → JoinObstacle → Prop
  | parked {t₁ q e} : parks e → q.Parks e → t.Extends Turn.Harmless t₁ →
      Halts parks t (⟨Request.admin q, Except.error e⟩ :: t₁) (.admin e)
  | passing {t' obstacle} : (∀ e, obstacle = .admin e → ¬parks e) → t.Extends Turn.Harmless t' →
      Halts parks t t' obstacle

omit [AdmitsDeedFree rule] in
theorem halts_pending {parks : AdminError → Prop} (ht : t.Extends Turn.Harmless t₀) :
    Halts parks t t₀ .pending := .passing (fun _ h => JoinObstacle.noConfusion h) ht

omit [AdmitsDeedFree rule] in
/-- A request to an instance fails with an answer that parks the role, or otherwise. -/
theorem asking_keeps {parks : AdminError → Prop} (q : AdminRequest) (hparks : ∀ e, q.Parks e ↔ parks e)
    (hrule : rule t₀ (.admin q)) (ht : t.Extends Turn.Harmless t₀)
    {ok : Talk Surroundings → q.Result → Prop}
    (hok : ∀ a, t.Extends Turn.Harmless (⟨Request.admin q, Except.ok a⟩ :: t₀) →
      ok (⟨Request.admin q, Except.ok a⟩ :: t₀) a) :
    @KeepsOr Surroundings (no_index q.Result) JoinObstacle rule (Joining.asking q) ok (Halts parks t) t₀ := by
  rw [keepsOr_asking, keepsOr_ask]
  refine ⟨hrule, fun a => hok a (ht.cons (Turn.harmless_admin nofun)), fun e => ?_⟩
  by_cases he : parks e
  · exact .parked he ((hparks e).2 he) ht
  · refine .passing (fun e' he' => ?_) (ht.cons (Turn.harmless_admin fun e' he' => ?_))
    · obtain rfl := JoinObstacle.admin.inj he'
      exact he
    · obtain rfl := Except.error.inj he'
      rw [hparks]
      exact he

theorem ofAttempt_keeps {β : Type} {parks : AdminError → Prop} {x : Attempt β}
    (hx : x.run.Only Request.DeedFree) (ht : t.Extends Turn.Harmless t₀) :
    KeepsOr rule (Joining.ofAttempt x) (fun t' _ => t.Extends Turn.Harmless t') (Halts parks t) t₀ := by
  rw [keepsOr_ofAttempt]
  exact (keepsOr_of_deedFree hx ht).mono (fun _ _ h => h) fun _ _ h => .passing nofun h

/-! ### StatefulSets and pods -/

section

variable {leader? : Option Pod}

theorem createStatefulSets_keeps
    (hmake : role.metadata.isDeleting = false →
      ∀ t' s, t.Extends Turn.Harmless t' → rule t' (.store (.create .statefulSet s)))
    (hends : ∀ t' outcome, t.Extends Turn.Harmless t' → outcome.Retries →
      ends t' outcome ⟨key, some role, some cluster, leader?⟩)
    (hon : ∀ t', t.Extends Turn.Harmless t' → on t' ⟨key, some role, some cluster, leader?⟩) :
    createStatefulSets.Keeps rule on ends t ⟨key, some role, some cluster, leader?⟩ := by
  rw [createStatefulSets, withCluster, Pass.keeps_reading]
  dsimp only
  rw [keepsOr_ite]
  refine ⟨fun _ => hon _ (extends_log t _ _), fun hstays => ?_⟩
  have hall : KeepsOr rule (Replicaset.createAll cluster role) (fun t' _ => t.Extends Turn.Harmless t')
      (fun t' _ => t.Extends Turn.Harmless t') (⟨Request.log .debug "Running step", ()⟩ :: t) := by
    refine (keeps_run _).1 (keeps_of_deedFreeOr Replicaset.createAll_makes ?_ ?_ (extends_log t _ _))
    · rintro q a ⟨s, rfl⟩
      exact Turn.harmless_store (q := .create .statefulSet s) nofun nofun a
    · rintro t' q ht' ⟨s, rfl⟩
      exact hmake (Bool.eq_false_iff.2 hstays) t' s ht'
  rw [keepsOr_bind]
  exact hall.mono (fun t' _ ht' => hon t' ht') fun t' e ht' => hends t' (.fail e) ht' trivial

theorem updateStatefulSets_keeps
    (hends : ∀ t' outcome, t.Extends Turn.Harmless t' → outcome.Retries →
      ends t' outcome ⟨key, some role, some cluster, leader?⟩)
    (hon : ∀ t', t.Extends Turn.Harmless t' → on t' ⟨key, some role, some cluster, leader?⟩) :
    updateStatefulSets.Keeps rule on ends t ⟨key, some role, some cluster, leader?⟩ := by
  rw [updateStatefulSets, withCluster, Pass.keeps_reading]
  dsimp only
  rw [keepsOr_bind]
  exact (keepsOr_of_deedFree Replicaset.updateAll_deedFree (extends_log t _ _)).mono
    (fun t' _ ht' => hon t' ht') fun t' e ht' => hends t' (.fail e) ht' trivial

/-- The step goes on when as many ready pods are counted as the role is to have. -/
theorem ensureCartridgeReady_keeps
    (hends : ∀ t' outcome, t.Extends Turn.Harmless t' → outcome.Retries →
      ends t' outcome ⟨key, some role, some cluster, leader?⟩)
    (hon : ∀ t', t.Extends Turn.Harmless t' → t'.Counts key.ns cluster role →
      on t' ⟨key, some role, some cluster, leader?⟩) :
    ensureCartridgeReady.Keeps rule on ends t ⟨key, some role, some cluster, leader?⟩ := by
  have hasked : ∀ a : Except OperatorError (List Pod), t.Extends Turn.Harmless
      (⟨Request.store (.list .pod key.ns (Labels.roleSelector cluster.name role.name)), a⟩ ::
        ⟨Request.log .debug "Running step", ()⟩ :: t) :=
    fun a => (extends_log t _ _).cons (Turn.harmless_of_deedFree (q := .store (.list .pod _ _)) nofun a)
  rw [ensureCartridgeReady, withCluster, Pass.keeps_reading]
  dsimp only
  rw [keepsOr_bind, Attempt.list, keepsOr_store]
  refine ⟨AdmitsDeedFree.of_deedFree _ _ (by simp), fun pods => ?_, fun e => hends _ (.fail e) (hasked _) trivial⟩
  rw [keepsOr_ite]
  refine ⟨fun _ => ?_, fun hready => hon _ (hasked _) ⟨pods, List.mem_cons_self, ?_⟩⟩
  · rw [keepsOr_log_bind]
    exact hends _ .wait ((hasked _).trans (extends_log _ _ _)) rfl
  · rw [Int.not_lt] at hready
    exact Int.max_le.2 ⟨Int.natCast_nonneg _, hready⟩

end

/-! ### Joining -/

/-- The roles of a replicaset are not known. -/
def UnknownRoles (e : AdminError) : Prop := ∃ fault, e = .unknownRole fault

theorem join_parks_iff {leader : Pod} {request : JoinRequest} {uris : List String} (e : AdminError) :
    (AdminRequest.join leader request uris).Parks e ↔ UnknownRoles e := by
  cases e <;> simp [AdminRequest.Parks, UnknownRoles]

theorem instanceUuid_parks_iff {pod : Pod} (e : AdminError) :
    (AdminRequest.instanceUuid pod).Parks e ↔ UnknownRoles e := by
  cases e <;> simp [AdminRequest.Parks, UnknownRoles]

/-- A rule by which instances may be asked for their identifiers. -/
def AsksUuids (rule : Talk Surroundings → Request → Prop) : Prop :=
  ∀ t pod, rule t (.admin (.instanceUuid pod))

theorem collectReplica_keeps (huuid : AsksUuids rule) (s : StatefulSet) (replica : Nat)
    (uris : List String) (ht : t.Extends Turn.Harmless t₀) :
    KeepsOr rule (collectReplica r s replica uris) (fun t' _ => t.Extends Turn.Harmless t')
      (Halts UnknownRoles t) t₀ := by
  have hget : (Attempt.get .pod r.ns (podName s.name replica)).run.Only Request.DeedFree := by
    intro t
    simp
  rw [collectReplica, keepsOr_bind]
  refine (ofAttempt_keeps hget ht).mono (fun t₁ pod ht₁ => ?_) fun _ _ h => h
  split
  · rw [keepsOr_lift_log_bind]
    exact halts_pending (ht₁.trans (extends_log _ _ _))
  · rw [keepsOr_bind]
    exact asking_keeps _ instanceUuid_parks_iff (huuid _ _) ht₁ fun _ h => h

theorem collect_keeps (huuid : AsksUuids rule) (ordinal : Nat) (ht : t.Extends Turn.Harmless t₀) :
    KeepsOr rule (collect r ordinal) (fun t' _ => t.Extends Turn.Harmless t') (Halts UnknownRoles t) t₀ := by
  rw [collect, keepsOr_bind]
  refine (ofAttempt_keeps (liveStatefulSets_deedFree ordinal) ht).mono (fun t₁ stateful ht₁ => ?_) fun _ _ h => h
  refine keepsOr_through (fun s uris t₁ ht₁ => ?_) _ _ ht₁
  exact keepsOr_throughUpTo (fun replica uris t₁ ht₁ => collectReplica_keeps huuid s replica uris ht₁) _ _ _ ht₁

theorem joinReplicaset_halts (huuid : AsksUuids rule)
    (hjoin : ∀ t' request uris, t.Extends Turn.Harmless t' → rule t' (.admin (.join r.leader request uris)))
    (ordinal : Nat) (ht : t.Extends Turn.Harmless t₀) :
    KeepsOr rule (joinReplicaset r ordinal) (fun t' _ => t.Extends Turn.Harmless t')
      (Halts UnknownRoles t) t₀ := by
  have hjoins : ∀ uris {t₁}, t.Extends Turn.Harmless t₁ → KeepsOr rule (do
      ExceptT.lift (Act.log .info "Joining instances")
      let _ ← Joining.asking (.join r.leader (joinRequest r.role ordinal) uris))
      (fun t' _ => t.Extends Turn.Harmless t') (Halts UnknownRoles t) t₁ := by
    intro uris t₁ ht₁
    have hlogged := ht₁.trans (extends_log t₁ .info "Joining instances")
    rw [keepsOr_bind, keepsOr_lift, keeps_log, keepsOr_bind]
    exact ⟨AdmitsDeedFree.of_deedFree _ _ Request.deedFree_log,
      asking_keeps _ join_parks_iff (hjoin _ _ _ hlogged) hlogged fun _ h => h⟩
  rw [joinReplicaset, keepsOr_bind]
  refine (collect_keeps huuid ordinal ht).mono (fun t₁ uris ht₁ => ?_) fun _ _ h => h
  rw [keepsOr_ite]
  refine ⟨fun _ => ht₁, fun _ => ?_⟩
  rw [keepsOr_ite]
  refine ⟨fun _ => ?_, fun _ => hjoins uris ht₁⟩
  rw [keepsOr_bind]
  refine asking_keeps _ instanceUuid_parks_iff (huuid _ _) ht₁ fun uuid ht₂ => ?_
  rw [keepsOr_ite]
  refine ⟨fun _ => ?_, fun _ => hjoins uris ht₂⟩
  rw [keepsOr_lift_log_bind]
  exact halts_pending (ht₂.trans (extends_log _ _ _))

/-- When all replicasets are joined, each of them was joined to the end. -/
theorem joinAll_halts (huuid : AsksUuids rule)
    (hjoin : ∀ t' request uris, t.Extends Turn.Harmless t' → rule t' (.admin (.join r.leader request uris)))
    (ht : t.Extends Turn.Harmless t₀) :
    KeepsOr rule (joinAll r)
      (fun t' allJoined => t.Extends Turn.Harmless t' ∧
        (allJoined = true → ∀ ordinal < r.role.replicasets.toNat, t'.Joins r ordinal))
      (Halts UnknownRoles t) t₀ := by
  refine keepsOr_throughFirst (fun n t' allJoined => t.Extends Turn.Harmless t' ∧
    (allJoined = true → ∀ ordinal < n, t'.Joins r ordinal)) _ (fun ordinal allJoined t₁ _ h => ?_) _
    ⟨ht, fun _ ordinal hlt => absurd hlt (Nat.not_lt_zero _)⟩
  obtain ⟨ht₁, hjoined⟩ := h
  have hone := Keeps.goes (joinReplicaset_halts huuid hjoin ordinal ht₁)
  simp only [keepsOr_bind, keepsOr_lift]
  refine hone.mono fun t₂ result h => ?_
  obtain ⟨hgoes, hresult⟩ := h
  cases result with
  | ok u =>
    refine ⟨hresult, fun hall i hi => ?_⟩
    rcases Nat.lt_succ_iff_lt_or_eq.1 hi with hlt | rfl
    · exact (hjoined hall i hlt).mono hgoes.suffix
    · exact ⟨t₁, t₂, hgoes, List.suffix_rfl⟩
  | error obstacle =>
    cases obstacle with
    | pending =>
      cases hresult with
      | passing _ ht₂ => exact ⟨ht₂, fun hall => Bool.noConfusion hall⟩
    | admin e => exact hresult
    | other e => exact hresult

/-! ### Weights -/

/-- The weight would leave no storage. -/
def LeavesNoStorage (e : AdminError) : Prop := e = .lastStorageWeight

theorem setWeight_parks_iff {leader : Pod} {uuid : String} {weight : Int32} (e : AdminError) :
    (AdminRequest.setWeight leader uuid weight).Parks e ↔ LeavesNoStorage e := by
  cases e <;> simp [AdminRequest.Parks, LeavesNoStorage]

theorem setAllWeights_halts
    (hweight : ∀ t' uuid weight, t.Extends Turn.Harmless t' → rule t' (.admin (.setWeight r.leader uuid weight)))
    (ht : t.Extends Turn.Harmless t₀) :
    KeepsOr rule (setAllWeights r) (fun t' _ => t.Extends Turn.Harmless t') (Halts LeavesNoStorage t) t₀ := by
  refine keepsOr_throughUpTo (fun ordinal _ t₁ ht₁ => ?_) _ _ _ ht
  rw [keepsOr_bind]
  refine (ofAttempt_keeps (liveStatefulSets_deedFree ordinal) ht₁).mono (fun t₂ stateful ht₂ => ?_) fun _ _ h => h
  refine keepsOr_through (fun s _ t₂ ht₂ => ?_) _ _ ht₂
  rw [setWeight]
  split
  · rw [keepsOr_lift, keeps_log_iff]
    exact ht₂.trans (extends_log _ _ _)
  · exact asking_keeps _ setWeight_parks_iff (hweight _ _ _ ht₂) ht₂ fun _ h => h

/-! ### The steps behind the leader -/

/-- The pass ends with an answer that parks the role and a warning about it. -/
inductive Parking (t : Talk Surroundings) (role : Role) : Talk Surroundings → Prop
  | parked {t₁ q e message reason} : q.Parks e → t.Extends Turn.Harmless t₁ →
      Parking t role (⟨Request.record (KubeObject.reference role) ⟨.warning, reason, e.message⟩, ()⟩ ::
        ⟨Request.log .warn message, ()⟩ :: ⟨Request.admin q, Except.error e⟩ :: t₁)

/-- A step parks the role. -/
theorem stopOnConfigError_keeps_of_parks {q : AdminRequest} {e : AdminError} (message reason : String)
    (hwarns : ∀ t' event, rule t' (.record (KubeObject.reference role) event))
    (hparks : q.Parks e) (ht : t.Extends Turn.Harmless t₀)
    (hends : ∀ t', Parking t role t' →
      ends t' .complete ⟨key, some (role.setPhase .configError), some cluster, some leader⟩) :
    KeepsOr rule (do
        Attempt.log .warn message
        ExceptT.lift (stopOnConfigError ⟨key, some role, some cluster, some leader⟩ role reason e))
      (fun t r => Meets (on t r.2) (fun outcome => ends t outcome r.2) r.1)
      (fun t e => ends t (.fail e) ⟨key, some role, some cluster, some leader⟩)
      (⟨Request.admin q, Except.error e⟩ :: t₀) := by
  rw [keepsOr_log_bind, keepsOr_lift, stopOnConfigError, keeps_bind, keeps_record]
  exact ⟨hwarns _ _, hends _ (.parked hparks ht)⟩

theorem joinInstances_keeps (huuid : AsksUuids rule)
    (hwarns : ∀ t' event, rule t' (.record (KubeObject.reference role) event))
    (hjoin : ∀ t' request uris, t.Extends Turn.Harmless t' → rule t' (.admin (.join leader request uris)))
    (hends : ∀ t' outcome, t.Extends Turn.Harmless t' → outcome.Retries →
      ends t' outcome ⟨key, some role, some cluster, some leader⟩)
    (hparked : ∀ t', Parking t role t' →
      ends t' .complete ⟨key, some (role.setPhase .configError), some cluster, some leader⟩)
    (hon : ∀ t', t.Extends Turn.Harmless t' →
      (∀ ordinal < role.replicasets.toNat, t'.Joins ⟨key.ns, role, cluster, leader⟩ ordinal) →
      on t' ⟨key, some role, some cluster, some leader⟩) :
    joinInstances.Keeps rule on ends t ⟨key, some role, some cluster, some leader⟩ := by
  have hwaits : ∀ {t'} level message, t.Extends Turn.Harmless t' →
      KeepsOr rule (do
          Attempt.log level message
          return (.wait, ⟨key, some role, some cluster, some leader⟩))
        (fun t r => Meets (on t r.2) (fun outcome => ends t outcome r.2) r.1)
        (fun t e => ends t (.fail e) ⟨key, some role, some cluster, some leader⟩) t' := by
    intro t' level message ht'
    rw [keepsOr_log_bind]
    exact hends _ .wait (ht'.trans (extends_log _ _ _)) rfl
  have hall := joinAll_halts (r := ⟨key.ns, role, cluster, leader⟩) huuid hjoin
    (extends_log t .debug "Running step")
  rw [joinInstances, Pass.keeps_ofAttempt, keepsOr_bind, resolved, keepsOr_pure]
  simp only [keepsOr_bind, keepsOr_lift, keeps_run]
  refine hall.mono (fun t' allJoined h => ?_) fun t' obstacle h => ?_
  · cases allJoined with
    | true => exact hon t' h.1 (h.2 rfl)
    | false => exact hwaits _ _ h.1
  · cases h with
    | @parked t₁ q e hfinal hparks ht₁ =>
      obtain ⟨fault, rfl⟩ := hfinal
      exact stopOnConfigError_keeps_of_parks _ _ hwarns hparks ht₁ hparked
    | passing hnot ht' =>
      split
      next heq => cases heq
      next => exact hwaits _ _ ht'
      next => exact hwaits _ _ ht'
      next fault heq => exact absurd ⟨fault, rfl⟩ (hnot _ (Except.error.inj heq))
      next =>
        rw [keepsOr_log_bind]
        exact hends _ _ (ht'.trans (extends_log _ _ _)) trivial
      next => exact hends _ _ ht' trivial

theorem configureVShardRoles_keeps
    (hset : ∀ t' uuid roles, t.Extends Turn.Harmless t' →
      rule t' (.admin (.setReplicasetRoles leader uuid roles)))
    (hends : ∀ t' outcome, t.Extends Turn.Harmless t' → outcome.Retries →
      ends t' outcome ⟨key, some role, some cluster, some leader⟩)
    (hon : ∀ t', t.Extends Turn.Harmless t' → on t' ⟨key, some role, some cluster, some leader⟩) :
    configureVShardRoles.Keeps rule on ends t ⟨key, some role, some cluster, some leader⟩ := by
  have hall : KeepsOr rule (configureAll ⟨key.ns, role, cluster, leader⟩)
      (fun t' _ => t.Extends Turn.Harmless t') (fun t' _ => t.Extends Turn.Harmless t')
      (⟨Request.log .debug "Running step", ()⟩ :: t) := by
    refine (keeps_run _).1 (keeps_of_deedFreeOr configureAll_sets ?_ ?_ (extends_log t _ _))
    · rintro q a ⟨uuid, roles, rfl⟩
      exact Turn.harmless_admin fun _ _ => id
    · rintro t' q ht' ⟨uuid, roles, rfl⟩
      exact hset t' uuid roles ht'
  rw [configureVShardRoles, Pass.keeps_reading, keepsOr_bind, resolved, keepsOr_pure, keepsOr_bind]
  refine hall.mono (fun t' configured ht' => ?_) fun t' e ht' => hends t' (.fail e) ht' trivial
  rw [keepsOr_ite]
  refine ⟨fun _ => hon t' ht', fun _ => ?_⟩
  rw [keepsOr_log_bind]
  exact hends _ .wait (ht'.trans (extends_log _ _ _)) rfl

theorem setVShardWeights_keeps
    (hwarns : ∀ t' event, rule t' (.record (KubeObject.reference role) event))
    (hweight : ∀ t' uuid weight, t.Extends Turn.Harmless t' → rule t' (.admin (.setWeight leader uuid weight)))
    (hends : ∀ t' outcome, t.Extends Turn.Harmless t' → outcome.Retries →
      ends t' outcome ⟨key, some role, some cluster, some leader⟩)
    (hparked : ∀ t', Parking t role t' →
      ends t' .complete ⟨key, some (role.setPhase .configError), some cluster, some leader⟩)
    (hon : ∀ t', t.Extends Turn.Harmless t' → on t' ⟨key, some role, some cluster, some leader⟩) :
    setVShardWeights.Keeps rule on ends t ⟨key, some role, some cluster, some leader⟩ := by
  have hall := setAllWeights_halts (r := ⟨key.ns, role, cluster, leader⟩) hweight
    (extends_log t .debug "Running step")
  rw [setVShardWeights, Pass.keeps_ofAttempt, keepsOr_bind, resolved, keepsOr_pure]
  simp only [keepsOr_bind, keepsOr_lift, keeps_run]
  refine hall.mono (fun t' _ ht' => hon t' ht') fun t' obstacle h => ?_
  cases h with
  | @parked t₁ q e hfinal hparks ht₁ =>
    obtain rfl : e = .lastStorageWeight := hfinal
    exact stopOnConfigError_keeps_of_parks _ _ hwarns hparks ht₁ hparked
  | passing hnot ht' =>
    split
    next heq => cases heq
    next heq => exact absurd rfl (hnot _ (Except.error.inj heq))
    next => exact hends _ _ ht' trivial
    next => exact hends _ _ ht' trivial
    next => exact hends _ .wait ht' rfl

end RolePass

end ClusterKeeper
