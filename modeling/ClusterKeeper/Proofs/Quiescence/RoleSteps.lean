import ClusterKeeper.Proofs.Quiescence.Replicasets
import ClusterKeeper.Proofs.Quiescence.Steps
import ClusterKeeper.Proofs.Quiescence.Workload

/-!
The steps of a pass over a role, on a stage. Each goes on with what it brought about (`*_settles`), and
where that is so already it goes on without a change (`*_of_*`).
-/

namespace ClusterKeeper.Simulation

open Program RolePass

variable {τ : Type} {answer : Answering τ} {s : Stage τ} {rule : Stage τ → Request → Prop}
  {on : Stage τ → RolePass → Prop} {ends : Stage τ → Outcome → RolePass → Prop}
  {key : ObjectKey} {role : Role} {cluster : Cluster} {ns : String}

theorem goes_withCluster {leader : Option Pod} (name : String) (f : String → Role → Cluster → Attempt Outcome) :
    Goes answer rule (withCluster name f) on ends s ⟨key, some role, some cluster, leader⟩ ↔
      PlaysOr (Stage.respond answer) rule (f key.ns role cluster)
        (fun s outcome => Meets (on s ⟨key, some role, some cluster, leader⟩)
          (fun outcome => ends s outcome ⟨key, some role, some cluster, leader⟩) outcome)
        (fun s e => ends s (.fail e) ⟨key, some role, some cluster, leader⟩) s :=
  goes_reading name _

/-- Enough instances of a role are ready. -/
def Staffed (os : Objects) (ns : String) (cluster : Cluster) (role : Role) : Prop :=
  role.expectedInstances ≤ (os.matching .pod ns (Labels.roleSelector cluster.name role.name)).countP
    fun pod => !pod.isDeleting && pod.isReady

section

variable {leader : Option Pod}

/-! ### The StatefulSets and the pods -/

section

variable (hends : ∀ s outcome, outcome.Retries →
  ends s outcome ⟨key, some role, some cluster, leader⟩)
include hends

theorem createStatefulSets_settles
    (hon : ∀ s', OnlyIn .statefulSet s s' → (role.metadata.isDeleting = false →
      ∃ ns, role.metadata.ns = some ns ∧ Stocked s'.objects ns cluster role) →
      on s' ⟨key, some role, some cluster, leader⟩) :
    Goes answer Free createStatefulSets on ends s ⟨key, some role, some cluster, leader⟩ := by
  rw [createStatefulSets, goes_withCluster, playsOr_ite]
  refine ⟨fun hdeleting => hon s .rfl fun hstays => ?_, fun _ => ?_⟩
  · rw [hdeleting] at hstays
    cases hstays
  · rw [playsOr_bind]
    exact createAll_settles.mono (fun s' _ hs' => hon s' hs'.1 fun _ => hs'.2)
      fun s' e _ => hends s' (.fail e) trivial

theorem updateStatefulSets_settles
    (hon : ∀ s', OnlyIn .statefulSet s s' → (∃ ns, role.metadata.ns = some ns ∧
      Aligned s'.objects ns cluster role ∧
      (Stocked s.objects ns cluster role → Stocked s'.objects ns cluster role)) →
      on s' ⟨key, some role, some cluster, leader⟩) :
    Goes answer Free updateStatefulSets on ends s ⟨key, some role, some cluster, leader⟩ := by
  rw [updateStatefulSets, goes_withCluster, playsOr_bind]
  exact updateAll_settles.mono (fun s' _ hs' => hon s' hs'.1 hs'.2)
    fun s' e _ => hends s' (.fail e) trivial

theorem ensureCartridgeReady_settles
    (hon : Staffed s.objects key.ns cluster role → on s ⟨key, some role, some cluster, leader⟩) :
    Goes answer Free ensureCartridgeReady on ends s ⟨key, some role, some cluster, leader⟩ := by
  rw [ensureCartridgeReady, goes_withCluster, playsOr_bind, playsOr_list]
  dsimp only
  rw [playsOr_ite]
  refine ⟨fun _ => ?_, fun henough => hon (Int.not_lt.1 henough)⟩
  rw [playsOr_bind, playsOr_log]
  exact hends s _ rfl

end

section

variable [AdmitsReads rule] (hon : on s ⟨key, some role, some cluster, leader⟩)
include hon

theorem createStatefulSets_of_stocked (hstocked : role.metadata.isDeleting = false →
      role.metadata.ns = some ns ∧ Stocked s.objects ns cluster role) :
    Goes answer rule createStatefulSets on ends s ⟨key, some role, some cluster, leader⟩ := by
  rw [createStatefulSets, goes_withCluster, playsOr_ite]
  refine ⟨fun _ => hon, fun hstays => ?_⟩
  obtain ⟨hns, hstocked⟩ := hstocked (Bool.not_eq_true _ ▸ hstays)
  rw [playsOr_bind]
  exact (createAll_of_stocked hns hstocked).mono (fun s' _ hs' => hs' ▸ hon) fun _ _ hfalse => hfalse.elim

theorem updateStatefulSets_of_aligned (hns : role.metadata.ns = some ns)
    (haligned : Aligned s.objects ns cluster role) :
    Goes answer rule updateStatefulSets on ends s ⟨key, some role, some cluster, leader⟩ := by
  rw [updateStatefulSets, goes_withCluster, playsOr_bind]
  exact (updateAll_of_aligned hns haligned).mono (fun s' _ hs' => hs' ▸ hon) fun _ _ hfalse => hfalse.elim

theorem ensureCartridgeReady_of_staffed (hstaffed : Staffed s.objects key.ns cluster role) :
    Goes answer rule ensureCartridgeReady on ends s ⟨key, some role, some cluster, leader⟩ := by
  rw [ensureCartridgeReady, goes_withCluster, playsOr_bind, playsOr_list]
  dsimp only
  rw [playsOr_ite]
  exact ⟨fun hfew => absurd hstaffed (Int.not_le.2 hfew), fun _ => hon⟩

end

end

/-! ### The topology -/

section

variable {leader : Pod}

section

variable (h : Remembers answer) (hends : ∀ s outcome, outcome.Retries →
  ends s outcome ⟨key, some role, some cluster, some leader⟩)
include h hends

theorem joinInstances_settles (hns : cluster.nsOf = key.ns)
    (hparks : ∀ s, ends s .complete ⟨key, some (role.setPhase .configError), some cluster, some leader⟩)
    (hon : ∀ s', Onward answer s s' →
      (∀ i < role.replicasets.toNat, Seated answer s' ⟨key.ns, role, cluster, leader⟩ [] i) →
      on s' ⟨key, some role, some cluster, some leader⟩) :
    Goes answer Free joinInstances on ends s ⟨key, some role, some cluster, some leader⟩ := by
  rw [joinInstances, goes_ofAttempt, playsOr_bind, resolved, playsOr_pure]
  simp only [playsOr_bind, playsOr_lift, plays_run]
  have hwait : ∀ s' : Stage τ, PlaysOr (Stage.respond answer) Free
      (do
        Attempt.log .info "Not all pods joined the cluster"
        return (Outcome.wait, (⟨key, some role, some cluster, some leader⟩ : RolePass)))
      (fun s r => Meets (on s r.2) (fun outcome => ends s outcome r.2) r.1)
      (fun s e => ends s (.fail e) ⟨key, some role, some cluster, some leader⟩) s' := by
    intro s'
    rw [playsOr_bind, playsOr_log]
    exact hends s' _ rfl
  refine (joinAll_settles h hns).mono (fun s' all hs' => ?_) fun s' obstacle _ => ?_
  · cases all with
    | true => exact hon s' (hs' rfl).1 (hs' rfl).2
    | false => exact hwait s'
  · split
    next heq => cases heq
    next heq => cases heq
    next => exact hwait s'
    next =>
      rw [playsOr_bind, playsOr_log, playsOr_lift]
      exact ⟨trivial, hparks _⟩
    next =>
      rw [playsOr_bind, playsOr_log]
      exact hends s' _ trivial
    next => exact hends s' _ trivial

theorem configureVShardRoles_settles
    (hon : ∀ s', Onward answer s s' →
      AllAgreed answer s' ⟨key.ns, role, cluster, leader⟩ role.replicasets.toNat →
      on s' ⟨key, some role, some cluster, some leader⟩) :
    Goes answer Free configureVShardRoles on ends s ⟨key, some role, some cluster, some leader⟩ := by
  rw [configureVShardRoles, goes_reading, playsOr_bind, resolved, playsOr_pure, playsOr_bind]
  refine (configureAll_settles h).mono (fun s' all hs' => ?_) fun s' e _ => hends s' _ trivial
  rw [playsOr_ite]
  refine ⟨fun htrue => hon s' (hs' htrue).1 (hs' htrue).2, fun _ => ?_⟩
  rw [playsOr_bind, playsOr_log]
  exact hends s' _ rfl

theorem setVShardWeights_settles
    (hparks : ∀ s, ends s .complete ⟨key, some (role.setPhase .configError), some cluster, some leader⟩)
    (hon : ∀ s', Reweighed answer ⟨key.ns, role, cluster, leader⟩ s s' →
      AllWeighed answer s' ⟨key.ns, role, cluster, leader⟩ role.replicasets.toNat →
      on s' ⟨key, some role, some cluster, some leader⟩) :
    Goes answer Free setVShardWeights on ends s ⟨key, some role, some cluster, some leader⟩ := by
  rw [setVShardWeights, goes_ofAttempt, playsOr_bind, resolved, playsOr_pure]
  simp only [playsOr_bind, playsOr_lift, plays_run]
  refine (setAllWeights_settles h).mono (fun s' _ hs' => hon s' hs'.1 hs'.2) fun s' obstacle _ => ?_
  split
  next heq => cases heq
  next =>
    rw [playsOr_bind, playsOr_log, playsOr_lift]
    exact ⟨trivial, hparks _⟩
  next => exact hends s' _ trivial
  next => exact hends s' _ trivial
  next => exact hends s' _ rfl

end

section

variable [AdmitsReads rule] (h : Remembers answer)
include h

theorem joinInstances_of_seated (hon : on s ⟨key, some role, some cluster, some leader⟩)
    (hseated : ∀ i < role.replicasets.toNat, Seated answer s ⟨key.ns, role, cluster, leader⟩ [] i) :
    Goes answer rule joinInstances on ends s ⟨key, some role, some cluster, some leader⟩ := by
  rw [joinInstances, goes_ofAttempt, playsOr_bind, resolved, playsOr_pure]
  simp only [playsOr_bind, playsOr_lift, plays_run]
  refine (joinAll_of_seated h hseated).mono (fun s' all hs' => ?_) fun _ _ hfalse => hfalse.elim
  obtain ⟨rfl, rfl⟩ := hs'
  exact hon

theorem configureVShardRoles_of_agreed (hon : on s ⟨key, some role, some cluster, some leader⟩)
    (hagreed : AllAgreed answer s ⟨key.ns, role, cluster, leader⟩ role.replicasets.toNat) :
    Goes answer rule configureVShardRoles on ends s ⟨key, some role, some cluster, some leader⟩ := by
  rw [configureVShardRoles, goes_reading, playsOr_bind, resolved, playsOr_pure, playsOr_bind]
  refine (configureAll_of_agreed h hagreed).mono (fun s' all hs' => ?_) fun _ _ hfalse => hfalse.elim
  obtain ⟨rfl, rfl⟩ := hs'
  exact hon

theorem setVShardWeights_of_weighed
    (hrule : ∀ s leader uuid weight, rule s (.admin (.setWeight leader uuid weight)))
    (hon : ∀ s', Onward answer s s' → on s' ⟨key, some role, some cluster, some leader⟩)
    (hweighed : AllWeighed answer s ⟨key.ns, role, cluster, leader⟩ role.replicasets.toNat) :
    Goes answer rule setVShardWeights on ends s ⟨key, some role, some cluster, some leader⟩ := by
  rw [setVShardWeights, goes_ofAttempt, playsOr_bind, resolved, playsOr_pure]
  simp only [playsOr_bind, playsOr_lift, plays_run]
  exact (setAllWeights_of_weighed h hrule hweighed).mono (fun s' _ hs' => hon s' hs')
    fun _ _ hfalse => hfalse.elim

end

end

end ClusterKeeper.Simulation
