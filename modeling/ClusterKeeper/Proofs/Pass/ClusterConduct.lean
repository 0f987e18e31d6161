import ClusterKeeper.Proofs.Failover
import ClusterKeeper.Proofs.Pass.Walk

/-!
The rule of passes for the pass over a cluster. Its object is the cluster, which it changes as it goes:
up to the election only in its phase, so that the election may record a leader over it; after that the
storages may be marked as bootstrapped, so that the status may still be written at the end.
-/

namespace ClusterKeeper

open Program

namespace Failover

theorem wanted_joinFree (cluster : Cluster) : (wanted cluster).run.Only Request.JoinFree :=
  (wanted_asksSecret cluster).imp fun _ h => h.deedFree.joinFree

end Failover

namespace ClusterPass

variable {t : Talk Surroundings} {c : ClusterPass} {R : Cluster → Cluster → Prop}

/-- The cluster of the pass is in a relation to the copy that the store gave last. -/
def Follows (R : Cluster → Cluster → Prop) (t : Talk Surroundings) (c : ClusterPass) : Prop :=
  ∀ k, c.cluster = some k → ∃ base, t.copy = some base ∧ R base k

theorem follows_of_copy {t' : Talk Surroundings} (h : Follows R t c) (hcopy : t'.copy = t.copy) :
    Follows R t' c := fun k hk => by rw [hcopy]; exact h k hk

theorem persists_follows (c : ClusterPass) : Persists fun t => Follows R t c :=
  fun _ _ a hq h => follows_of_copy h (Talk.copy_cons hq a)

theorem Follows.outgrows (h : Follows Cluster.Alike t c) : Follows Cluster.Outgrows t c := by
  intro k hk
  obtain ⟨base, hcopy, hbase⟩ := h k hk
  exact ⟨base, hcopy, hbase.outgrows⟩

theorem follows_some {base k : Cluster} {key : ObjectKey} {leader : Option Pod}
    (hcopy : t.copy = some base) (hR : R base k) : Follows R t ⟨key, some k, leader⟩ :=
  fun _ hk => ⟨base, hcopy, Option.some.inj hk ▸ hR⟩

theorem preserves_setPhase (hR : ∀ base k p, R base k → R base (k.setPhase p)) (phase : ClusterPhase) :
    (Pass.setPhase (C := ClusterPass) phase).Preserves Proper (Follows R) := by
  refine Pass.preserves_setPhase Proper persists_follows phase fun t c k hk h => ?_
  obtain ⟨base, hcopy, hbase⟩ := h k hk
  exact follows_some hcopy (hR base k phase hbase)

theorem preserves_resetStatus (hR : ∀ base k, R base k → R base k.resetStatus) :
    (Pass.resetStatus (C := ClusterPass)).Preserves Proper (Follows R) := by
  refine Pass.preserves_resetStatus Proper fun t c k hk h => ?_
  obtain ⟨base, hcopy, hbase⟩ := h k hk
  exact follows_some hcopy (hR base k hbase)

/-! ### Up to the election -/

theorem preserves_getRequestedObject :
    (Pass.getRequestedObject (C := ClusterPass)).Preserves Proper (Follows Cluster.Alike) := by
  refine Pass.preserves_getRequestedObject Proper persists_follows fun t c hc => ?_
  show KeepsOr _ (Attempt.get .cluster _ _) _ _ _
  rw [Attempt.get, keepsOr_store]
  refine ⟨trivial, Option.forall.2 ⟨?_, fun k => ?_⟩, fun e => ?_⟩
  · exact follows_of_copy hc (Talk.copy_cons_of_none rfl)
  · exact follows_some (Talk.copy_cons_of_some rfl) (Cluster.Alike.refl k)
  · exact follows_of_copy hc (Talk.copy_cons_error _ e)

theorem preserves_getLeader :
    (Pass.getLeader (C := ClusterPass)).Preserves Proper (Follows Cluster.Alike) := by
  refine Pass.preserves_getLeader fun t c k hc hk => ?_
  obtain ⟨base, hcopy, hbase⟩ := hc k hk
  refine ⟨base, hcopy, hbase, fun t' _ => ⟨fun hcopy' => ?_, fun r hr => ?_⟩⟩
  · exact follows_of_copy hc (hcopy'.trans hcopy.symm)
  · rcases hr.1 with ⟨hsame, hstays⟩ | hwritten
    · exact follows_some hstays (hsame ▸ hbase)
    · exact follows_some hwritten (Cluster.Alike.refl _)

theorem loaded_joinFree (c : ClusterPass) : (loaded c).run.Only Request.JoinFree := by
  intro t
  rw [loaded]
  split <;> trivial

theorem known_joinFree (c : ClusterPass) : (known c).run.Only Request.JoinFree := by
  intro t
  rw [known]
  split <;> trivial

/-- How the bootstrap ends: the storages were bootstrapped before, are now, cannot be yet, or something
failed. -/
inductive BootstrapEnds (c : ClusterPass) : Outcome × ClusterPass → Prop
  | already {k} : c.cluster = some k → k.isBootstrapped = true → BootstrapEnds c (.next, c)
  | now {k} : c.cluster = some k →
      BootstrapEnds c (.next, { c with cluster := some k.markBootstrapped })
  | unable {k} : c.cluster = some k → k.isBootstrapped = false →
      BootstrapEnds c (.complete, { c with cluster := some (k.setPhase .unableToBootstrap) })
  | failed {e} : BootstrapEnds c (.fail e, c)

section

variable (rule : Talk Surroundings → Request → Prop) [AdmitsJoinFree rule]
  {inv : Talk Surroundings → ClusterPass → Prop} (hinv : ∀ c, Persists fun t => inv t c)
include hinv

theorem checkDeletion_preserves : checkDeletion.Preserves rule inv :=
  Pass.preserves_reading rule hinv fun _ _ => trivial

theorem syncClusterWideService_preserves : syncClusterWideService.Preserves rule inv := by
  refine Pass.preserves_reading rule hinv fun c t => ?_
  rw [keeps_run, keepsOr_bind]
  refine ((keeps_run _).1 (loaded_joinFree c t)).mono (fun t cluster _ => ?_) fun _ _ h => h
  rw [keepsOr_bind, Attempt.get, keepsOr_store]
  refine ⟨by simp, fun existing => ?_, fun _ => trivial⟩
  cases existing with
  | none => simp
  | some existing =>
    dsimp only
    split <;> simp

theorem waitForRolesPhases_preserves (phases : List RolePhase) :
    (waitForRolesPhases phases).Preserves rule inv :=
  Pass.preserves_reading rule hinv fun c t => by simp

theorem configureFailover_preserves : configureFailover.Preserves rule inv := by
  refine Pass.preserves_reading rule hinv fun c t => ?_
  rw [keeps_run, keepsOr_bind]
  refine ((keeps_run _).1 (loaded_joinFree c t)).mono (fun t cluster _ => ?_) fun _ _ h => h
  rw [keepsOr_bind]
  refine ((keeps_run _).1 (known_joinFree c t)).mono (fun t leader _ => ?_) fun _ _ h => h
  rw [keepsOr_bind]
  refine ((keeps_run _).1 (Failover.wanted_joinFree cluster t)).mono (fun t wanted _ => ?_) fun _ _ h => h
  simp

omit hinv in
/-- What comes of the bootstrap. -/
theorem bootstrap_keeps {inv : Talk Surroundings → Prop} (hinv : Persists inv) (ht : inv t) :
    Keeps rule (bootstrap.run c) (fun t r => inv t ∧ BootstrapEnds c r) t := by
  rw [bootstrap, Step.ofAttempt, keeps_bind, keeps_run, keepsOr_bind, loaded]
  split
  next cluster hcluster =>
    rw [keepsOr_pure, keepsOr_ite]
    refine ⟨fun hboot => ⟨ht, .already hcluster hboot⟩, fun hboot => ?_⟩
    rw [keepsOr_bind]
    refine (keepsOr_of_joinFree (known_joinFree c) hinv ht).mono (fun t leader ht => ?_)
      fun t e ht => ⟨ht, .failed⟩
    simp only [keepsOr_bind, keepsOr_lift, keeps_run, keepsOr_ask]
    have hasked : ∀ a : Except AdminError Unit,
        inv (⟨Request.admin (.bootstrapVshard leader), a⟩ :: t) :=
      fun a => hinv t _ _ Request.elsewhere_admin ht
    refine ⟨AdmitsJoinFree.of_joinFree _ _ (by simp), fun _ => ?_, fun e => ?_⟩
    · exact hinv.keepsOr_log (hasked _) fun t ht => hinv.keepsOr_record ht fun t ht =>
        ⟨ht, .now hcluster⟩
    · rw [keepsOr_ite]
      refine ⟨fun _ => ?_, fun _ => ⟨hasked _, .failed⟩⟩
      exact hinv.keepsOr_log (hasked _) fun t ht => hinv.keepsOr_record ht fun t ht =>
        ⟨ht, .unable hcluster (Bool.eq_false_iff.2 hboot)⟩
  next => exact ⟨ht, .failed⟩

end

theorem preserves_before : ∀ step ∈ steps.take 11, step.Preserves Proper (Follows Cluster.Alike) := by
  simp only [steps, List.take_succ_cons, List.take_zero, List.forall_mem_cons]
  exact ⟨Pass.preserves_info Proper persists_follows, preserves_getRequestedObject,
    preserves_setPhase (fun _ _ p h => h.setPhase p) _, checkDeletion_preserves Proper persists_follows,
    preserves_resetStatus (fun _ _ h => h.resetStatus),
    preserves_setPhase (fun _ _ p h => h.setPhase p) _, syncClusterWideService_preserves Proper persists_follows,
    preserves_setPhase (fun _ _ p h => h.setPhase p) _, waitForRolesPhases_preserves Proper persists_follows _,
    preserves_setPhase (fun _ _ p h => h.setPhase p) _, preserves_getLeader, List.forall_mem_nil _⟩

/-! ### After the election -/

theorem bootstrap_preserves : bootstrap.Preserves Proper (Follows Cluster.Outgrows) := by
  intro t c hc
  refine (bootstrap_keeps Proper (persists_follows c) hc).mono fun t r ⟨hc, hends⟩ => ?_
  cases hends with
  | already _ _ => exact hc
  | now hcluster =>
    obtain ⟨base, hcopy, hbase⟩ := hc _ hcluster
    exact follows_some hcopy hbase.markBootstrapped
  | unable hcluster _ =>
    obtain ⟨base, hcopy, hbase⟩ := hc _ hcluster
    exact follows_some hcopy (hbase.setPhase _)
  | failed => exact hc

theorem preserves_after : ∀ step ∈ steps.drop 11, step.Preserves Proper (Follows Cluster.Outgrows) := by
  simp only [steps, List.drop_succ_cons, List.drop_zero, List.forall_mem_cons]
  exact ⟨bootstrap_preserves, preserves_setPhase (fun _ _ p h => h.setPhase p) _,
    configureFailover_preserves Proper persists_follows, preserves_setPhase (fun _ _ p h => h.setPhase p) _,
    List.forall_mem_nil _⟩

/-! ### The pass -/

theorem persist_keeps (h : Follows Cluster.Outgrows t c) :
    KeepsOr Proper (Pass.persist c) (fun _ _ => True) (fun _ _ => True) t := by
  refine Pass.persist_keeps fun k hk => ?_
  obtain ⟨base, hcopy, hbase⟩ := h k hk
  show KeepsOr _ (Attempt.replaceStatus .cluster k) _ _ _
  rw [Attempt.replaceStatus, keepsOr_store]
  exact ⟨⟨base, hcopy, hbase.metadata, hbase.advances, fun _ hled => hbase.leader ▸ hled⟩,
    fun _ => trivial, fun _ => trivial⟩

/-- However the steps of a pass end, they leave the cluster as it was stored last, but that its storages may have
been bootstrapped and its phase is another one. -/
theorem walk_follows (key : ObjectKey) :
    Keeps Proper (Pass.walk steps "" (start key)) (fun t r => Follows Cluster.Outgrows t r.2.2) [] := by
  rw [← List.take_append_drop 11 steps]
  refine Pass.keeps_walk_append persists_follows preserves_before (fun t last c h => ?_)
    (fun t last outcome c h => h.outgrows) ?_
  · exact Pass.keeps_walk persists_follows preserves_after (fun t last outcome c h => h) h.outgrows
  · exact fun k hk => absurd hk.symm (Option.some_ne_none k)

theorem run_keeps (key : ObjectKey) : Keeps Proper (Pass.run steps (start key)) (fun _ _ => True) [] :=
  Pass.keeps_run ((walk_follows key).mono fun _ _ h => persist_keeps h)

/-- A pass over a cluster keeps to the rule. -/
theorem reconcile_keeps (cluster : Cluster) :
    Keeps Proper (Controller.reconcile steps start cluster) (fun _ _ => True) [] :=
  Pass.keeps_reconcile ((walk_follows _).mono fun _ _ h => persist_keeps h)

end ClusterPass

end ClusterKeeper
