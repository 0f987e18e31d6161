import ClusterKeeper.Proofs.Pass.ClusterConduct
import ClusterKeeper.Proofs.Pass.Gates

/-!
The steps of a pass over a cluster, whatever they are answered. Up to the wait for the roles they list no
roles and make only requests that are no deeds (`ClusterPass.Serves`); the wait goes on when all roles that it lists
are in one of its phases; and the bootstrap goes on with storages that are bootstrapped.
-/

namespace ClusterKeeper

open Program

namespace ClusterPass

variable {rule : Talk Surroundings → Request → Prop} [AdmitsDeedFree rule] {t : Talk Surroundings}
  {key : ObjectKey} {cluster : Cluster} {leader : Pod}
  {on : Talk Surroundings → ClusterPass → Prop} {ends : Talk Surroundings → Outcome → ClusterPass → Prop}

/-- The turn is no deed and lists no roles. -/
structure Serves (e : Turn Surroundings) : Prop where
  deedFree : e.ask.DeedFree
  lists : ¬e.ask.ListsRoles

theorem serves_of_logs {e : Turn Surroundings} (h : e.Logs) : Serves e := by
  obtain ⟨level, message, hask⟩ := h
  refine ⟨hask ▸ trivial, ?_⟩
  rintro ⟨ns, selector, hlists⟩
  rw [hask] at hlists
  cases hlists

/-- Requests about services serve. -/
theorem serves_service {q : StoreRequest} (hkind : q.kind = .service) (a : Except OperatorError q.Result) :
    Serves ⟨Request.store q, a⟩ := by
  refine ⟨?_, ?_⟩
  · cases q <;> cases hkind <;> simp [Request.DeedFree]
  · rintro ⟨ns, selector, hlists⟩
    cases Request.store.inj hlists
    cases hkind

omit [AdmitsDeedFree rule] in
theorem checkDeletion_keeps
    (hdeleting : cluster.metadata.isDeleting = true → ∀ t', t.Extends Turn.Logs t' →
      ends t' .complete ⟨key, some cluster, none⟩)
    (hon : cluster.metadata.isDeleting = false → ∀ t', t.Extends Turn.Logs t' →
      on t' ⟨key, some cluster, none⟩) :
    checkDeletion.Keeps rule on ends t ⟨key, some cluster, none⟩ := by
  rw [checkDeletion, Pass.keeps_reading, keepsOr_pure, Option.any_some]
  cases hdel : cluster.metadata.isDeleting with
  | true => exact hdeleting hdel _ (logs_log t _ _)
  | false => exact hon hdel _ (logs_log t _ _)

theorem syncClusterWideService_keeps
    (hends : ∀ t' outcome, t.Extends Serves t' → outcome.Retries → ends t' outcome ⟨key, some cluster, none⟩)
    (hon : ∀ t', t.Extends Serves t' → on t' ⟨key, some cluster, none⟩) :
    syncClusterWideService.Keeps rule on ends t ⟨key, some cluster, none⟩ := by
  have hlog : ∀ {t'} level message, t.Extends Serves t' →
      t.Extends Serves (⟨Request.log level message, ()⟩ :: t') :=
    fun level message ht => ht.cons (serves_of_logs ⟨level, message, rfl⟩)
  have hasked : ∀ {t'} (q : StoreRequest) (a : Except OperatorError q.Result), q.kind = .service →
      t.Extends Serves t' → t.Extends Serves (⟨Request.store q, a⟩ :: t') :=
    fun q a hq ht => ht.cons (serves_service hq a)
  have hstart := hlog .debug "Running step" Talk.extends_refl
  -- whatever is written of the service, the step goes on if it can be
  have hwrites : ∀ {t'} message (q : StoreRequest), q.kind = .service → (Request.store q).DeedFree →
      t.Extends Serves t' →
      KeepsOr rule (do
          Attempt.log .info message
          let _ ← Attempt.store q
          return Outcome.next)
        (fun t outcome => Meets (on t ⟨key, some cluster, none⟩)
          (fun outcome => ends t outcome ⟨key, some cluster, none⟩) outcome)
        (fun t e => ends t (.fail e) ⟨key, some cluster, none⟩) t' := by
    intro t' message q hq hdeedFree ht
    rw [keepsOr_log_bind, keepsOr_bind, keepsOr_store]
    exact ⟨AdmitsDeedFree.of_deedFree _ _ hdeedFree, fun a => hon _ (hasked q _ hq (hlog _ _ ht)),
      fun e => hends _ (.fail e) (hasked q _ hq (hlog _ _ ht)) trivial⟩
  rw [syncClusterWideService, Pass.keeps_reading, keepsOr_bind, loaded, keepsOr_pure]
  dsimp only
  rw [keepsOr_bind, Attempt.get, keepsOr_store]
  refine ⟨AdmitsDeedFree.of_deedFree _ _ rfl, Option.forall.2 ⟨?_, fun existing => ?_⟩, fun e => ?_⟩
  · exact hwrites _ (.create .service _) rfl ⟨rfl, by decide⟩ (hasked (.get .service _ _) _ rfl hstart)
  · dsimp only
    split
    · exact hon _ (hasked (.get .service _ _) _ rfl hstart)
    · exact hwrites _ (.replace .service _) rfl rfl (hasked (.get .service _ _) _ rfl hstart)
  · exact hends _ (.fail e) (hasked (.get .service _ _) _ rfl hstart) trivial

/-- The step goes on when there are roles and each of them is in one of the phases. -/
theorem waitForRolesPhases_keeps {phases : List RolePhase}
    (hretries : ∀ t' e, t.Extends Turn.Elects t' → ends t' (.fail e) ⟨key, some cluster, none⟩)
    (hends : ∀ t', t.Extends Turn.Elects t' → ends t' .complete ⟨key, some cluster, none⟩)
    (hon : ∀ (roles : List Role) t₀, t.Extends Turn.Logs t₀ → roles ≠ [] →
      (∀ role ∈ roles, role.phase ∈ phases) →
      on (⟨Request.store (.list .role key.ns (Labels.clusterSelector key.name)), Except.ok roles⟩ :: t₀)
        ⟨key, some cluster, none⟩) :
    (waitForRolesPhases phases).Keeps rule on ends t ⟨key, some cluster, none⟩ := by
  have hlog : ∀ {t'} level message, t.Extends Turn.Elects t' →
      t.Extends Turn.Elects (⟨Request.log level message, ()⟩ :: t') :=
    fun level message ht => ht.cons (Or.inl Request.deedFree_log)
  have hdeedFree : (Request.store (.list .role key.ns (Labels.clusterSelector key.name))).DeedFree := by simp
  have hasked : ∀ a : Except OperatorError (List Role), t.Extends Turn.Elects
      (⟨Request.store (.list .role key.ns (Labels.clusterSelector key.name)), a⟩ ::
        ⟨Request.log .debug "Running step", ()⟩ :: t) :=
    fun a => (hlog _ _ Talk.extends_refl).cons (Or.inl hdeedFree)
  rw [waitForRolesPhases, Pass.keeps_reading, keepsOr_bind, Attempt.list, keepsOr_store]
  refine ⟨AdmitsDeedFree.of_deedFree _ _ hdeedFree, fun roles => ?_, fun e => hretries _ e (hasked _)⟩
  have hwaits : ∀ message, KeepsOr rule (do
        Attempt.log .debug message
        return Outcome.complete)
      (fun t outcome => Meets (on t ⟨key, some cluster, none⟩)
        (fun outcome => ends t outcome ⟨key, some cluster, none⟩) outcome)
      (fun t e => ends t (.fail e) ⟨key, some cluster, none⟩)
      (⟨Request.store (.list .role key.ns (Labels.clusterSelector key.name)), Except.ok roles⟩ ::
        ⟨Request.log .debug "Running step", ()⟩ :: t) := by
    intro message
    rw [keepsOr_log_bind]
    exact hends _ (hlog _ _ (hasked _))
  rw [keepsOr_ite]
  refine ⟨fun _ => hwaits _, fun hsome => ?_⟩
  rw [keepsOr_ite]
  refine ⟨fun hall => hon roles _ (logs_log t _ _) hsome fun role hrole => ?_, fun _ => hwaits _⟩
  exact of_decide_eq_true (List.all_eq_true.1 hall role hrole)

/-- The step goes on with storages that were bootstrapped before, or by the step itself. -/
theorem bootstrap_keeps_once (hrecord : ∀ t' about event, rule t' (.record about event))
    (hboot : ∀ t', t.Extends Turn.Logs t' → cluster.isBootstrapped = false →
      rule t' (.admin (.bootstrapVshard leader)))
    (hfails : ∀ t' e, t.Extends (Turn.Skips .cluster) t' →
      ends t' (.fail e) ⟨key, some cluster, some leader⟩)
    (hunable : ∀ t', t.Extends (Turn.Skips .cluster) t' →
      ends t' .complete ⟨key, some (cluster.setPhase .unableToBootstrap), some leader⟩)
    (halready : cluster.isBootstrapped = true → ∀ t', t.Extends Turn.Logs t' →
      on t' ⟨key, some cluster, some leader⟩)
    (hnow : ∀ t', t.Extends (Turn.Skips .cluster) t' → t'.HasBootstrapped →
      on t' ⟨key, some cluster.markBootstrapped, some leader⟩) :
    bootstrap.Keeps rule on ends t ⟨key, some cluster, some leader⟩ := by
  have hstart := logs_log t .debug "Running step"
  have hasked : ∀ a : Except AdminError Unit, t.Extends (Turn.Skips .cluster)
      (⟨Request.admin (.bootstrapVshard leader), a⟩ :: ⟨Request.log .debug "Running step", ()⟩ :: t) :=
    fun a => (hstart.imp fun _ h => h.skips rfl).cons nofun
  have htold : ∀ {t'} level message about event, t.Extends (Turn.Skips .cluster) t' →
      t.Extends (Turn.Skips .cluster)
        (⟨Request.record about event, ()⟩ :: ⟨Request.log level message, ()⟩ :: t') :=
    fun level message about event ht =>
      (ht.cons (Turn.Logs.skips ⟨level, message, rfl⟩ rfl)).cons fun _ _ h => Request.noConfusion h
  rw [bootstrap, Pass.keeps_ofAttempt, keepsOr_bind, loaded, keepsOr_pure, keepsOr_ite]
  refine ⟨fun hdone => halready hdone _ hstart, fun hnot => ?_⟩
  rw [keepsOr_bind, known, keepsOr_pure, keepsOr_bind, keepsOr_lift, Program.keeps_run, keepsOr_ask]
  refine ⟨hboot _ hstart (Bool.eq_false_iff.2 hnot), fun u => ?_, fun e => ?_⟩
  · dsimp only
    rw [keepsOr_log_bind, keepsOr_bind, keepsOr_record, keeps_record]
    exact ⟨hrecord _ _ _, hnow _ (htold _ _ _ _ (hasked _)) ⟨leader, by simp⟩⟩
  · dsimp only
    rw [keepsOr_ite]
    refine ⟨fun _ => ?_, fun _ => hfails _ _ (hasked _)⟩
    rw [keepsOr_log_bind, keepsOr_bind, keepsOr_record, keeps_record]
    exact ⟨hrecord _ _ _, hunable _ (htold _ _ _ _ (hasked _))⟩

theorem configureFailover_keeps
    (hset : ∀ t' wanted, t.Extends Turn.Harmless t' → rule t' (.admin (.setFailoverParams leader wanted)))
    (hends : ∀ t' outcome, t.Extends Turn.Harmless t' → outcome.Retries →
      ends t' outcome ⟨key, some cluster, some leader⟩)
    (hon : ∀ t', t.Extends Turn.Harmless t' → on t' ⟨key, some cluster, some leader⟩) :
    configureFailover.Keeps rule on ends t ⟨key, some cluster, some leader⟩ := by
  have hasked : ∀ {t'} {q : AdminRequest} (a : Except AdminError q.Result), (∀ e, ¬q.Parks e) →
      t.Extends Turn.Harmless t' → t.Extends Turn.Harmless (⟨Request.admin q, a⟩ :: t') :=
    fun a hq ht => ht.cons (Turn.harmless_admin fun e _ => hq e)
  have hwanted : (Failover.wanted cluster).run.Only Request.DeedFree :=
    (Failover.wanted_asksSecret cluster).imp fun _ => Request.AsksSecret.deedFree
  rw [configureFailover, Pass.keeps_reading, keepsOr_bind, loaded, keepsOr_pure, keepsOr_bind, known,
    keepsOr_pure, keepsOr_bind]
  refine (keepsOr_of_deedFree hwanted (extends_log t _ _)).mono (fun t₁ wanted ht₁ => ?_)
    fun t₁ e ht₁ => hends t₁ (.fail e) ht₁ trivial
  rw [keepsOr_bind, keepsOr_admin]
  refine ⟨AdmitsDeedFree.of_deedFree _ _ trivial, fun actual => ?_,
    fun e => hends _ (.fail _) (hasked (q := .failoverParams leader) _ (fun _ => id) ht₁) trivial⟩
  have ht₂ := hasked (q := .failoverParams leader) (.ok actual) (fun _ => id) ht₁
  rw [keepsOr_ite]
  refine ⟨fun _ => hon _ ht₂, fun _ => ?_⟩
  have ht₃ := ht₂.trans (extends_log _ .info "Applying failover parameters")
  rw [keepsOr_log_bind, keepsOr_bind, keepsOr_admin]
  refine ⟨hset _ _ ht₃, fun _ => hon _ ?_, fun e => hends _ (.fail _) ?_ trivial⟩
  · exact hasked (q := .setFailoverParams leader wanted) _ (fun _ => id) ht₃
  · exact hasked (q := .setFailoverParams leader wanted) _ (fun _ => id) ht₃

theorem setPhase_keeps {leader? : Option Pod} (phase : ClusterPhase)
    (hon : ∀ t', t.Extends Turn.Logs t' → on t' ⟨key, some (cluster.setPhase phase), leader?⟩) :
    (Pass.setPhase (C := ClusterPass) phase).Keeps rule on ends t ⟨key, some cluster, leader?⟩ :=
  Pass.setPhase_keeps (C := ClusterPass) (o := cluster) phase rfl hon

end ClusterPass

end ClusterKeeper
