import ClusterKeeper.Proofs.Quiescence.Leader
import ClusterKeeper.Proofs.Quiescence.Walk

/-!
The steps that all passes share, on a stage: where each goes on to, and where it ends the pass.
-/

namespace ClusterKeeper.Simulation

open Program

variable {τ C : Type} {answer : Answering τ} {rule : Stage τ → Request → Prop} {s : Stage τ} {c : C}
  {on : Stage τ → C → Prop} {ends : Stage τ → Outcome → C → Prop} {k : Kind}

section

variable [AdmitsReads rule]

theorem goes_info : Goes answer rule Pass.info on ends s c ↔ on s c := by
  rw [Goes, Pass.info, plays_bind, plays_log]
  exact Iff.rfl

variable [PassState C k.Object] [CustomResource k.Object]

theorem goes_setPhase (phase : CustomResource.Phase k.Object) {o : k.Object}
    (ho : PassState.object c = some o) :
    Goes answer rule (Pass.setPhase phase) on ends s c ↔
      on s (PassState.withObject (CustomResource.setPhase phase o) c) := by
  rw [Goes, Pass.setPhase]
  dsimp only
  rw [ho]
  dsimp only
  rw [plays_bind, plays_log]
  exact Iff.rfl

omit [AdmitsReads rule] in
theorem goes_resetStatus {o : k.Object} (ho : PassState.object c = some o) :
    Goes answer rule (Pass.resetStatus (C := C)) on ends s c ↔
      on s (PassState.withObject (CustomResource.resetStatus o) c) := by
  have hchanged : PassState.changeObject (CustomResource.resetStatus (α := k.Object)) c =
      PassState.withObject (CustomResource.resetStatus o) c := by
    unfold PassState.changeObject
    rw [ho]
  rw [Goes, Pass.resetStatus]
  dsimp only
  rw [hchanged]
  exact Iff.rfl

variable [Tended k C]

/-- The object is found, or the pass ends without one. -/
theorem getRequestedObject_settles (hends : ends s .complete c)
    (hon : ∀ o, s.objects.find? k (PassState.key c).ns (PassState.key c).name = some o →
      on s (PassState.withObject o c)) :
    Goes answer rule (Pass.getRequestedObject (C := C)) on ends s c := by
  rw [Pass.getRequestedObject, goes_ofAttempt]
  dsimp only
  rw [Tended.fetch_eq (C := C), playsOr_bind, playsOr_get]
  split
  next o ho => exact hon o ho
  next =>
    rw [playsOr_bind, playsOr_log]
    exact hends

theorem goes_getRequestedObject_of_found {o : k.Object}
    (ho : s.objects.find? k (PassState.key c).ns (PassState.key c).name = some o) :
    Goes answer rule (Pass.getRequestedObject (C := C)) on ends s c ↔ on s (PassState.withObject o c) := by
  rw [Pass.getRequestedObject, goes_ofAttempt]
  dsimp only
  rw [Tended.fetch_eq (C := C), playsOr_bind, playsOr_get, ho]
  exact Iff.rfl

/-- The cluster that the labels name is found, unless the pass is to be made again. -/
theorem getClusterByLabels_settles {o : k.Object} (hnone : PassState.cluster c = none)
    (ho : PassState.object c = some o)
    (hends : ∀ outcome, outcome.Retries → ends s outcome c)
    (hon : ∀ name cluster, (KubeObject.metadata o).labelSet.get? Labels.clusterName = some name →
      s.objects.find? .cluster (PassState.key c).ns name = some cluster →
      on s (PassState.withCluster cluster c)) :
    Goes answer rule (Pass.getClusterByLabels (C := C)) on ends s c := by
  have hlabels : @KubeObject.labels _ CustomResource.toKubeObject o = (KubeObject.metadata o).labelSet :=
    congrArg ObjectMeta.labelSet (Tended.metadata_eq (C := C) o)
  rw [Pass.getClusterByLabels, goes_ofAttempt]
  simp only [hnone, ho, Option.isSome_none, Bool.false_eq_true, if_false, hlabels]
  split
  next => exact hends _ trivial
  next name hname =>
    rw [playsOr_bind, playsOr_get]
    split
    next cluster hcluster => exact hon name cluster hname hcluster
    next =>
      rw [playsOr_bind, playsOr_log]
      exact hends _ rfl

theorem goes_getClusterByLabels_of_found {o : k.Object} {name : String} {cluster : Cluster}
    (hnone : PassState.cluster c = none) (ho : PassState.object c = some o)
    (hname : (KubeObject.metadata o).labelSet.get? Labels.clusterName = some name)
    (hcluster : s.objects.find? .cluster (PassState.key c).ns name = some cluster) :
    Goes answer rule (Pass.getClusterByLabels (C := C)) on ends s c ↔
      on s (PassState.withCluster cluster c) := by
  have hlabels : @KubeObject.labels _ CustomResource.toKubeObject o = (KubeObject.metadata o).labelSet :=
    congrArg ObjectMeta.labelSet (Tended.metadata_eq (C := C) o)
  rw [Pass.getClusterByLabels, goes_ofAttempt]
  simp only [hnone, ho, Option.isSome_none, Bool.false_eq_true, if_false, hlabels, hname]
  rw [playsOr_bind, playsOr_get, hcluster]
  exact Iff.rfl

end

section

variable {α : Type} [PassState C α] {cluster : Cluster} {pod : Pod}
  (hcluster : PassState.cluster c = some cluster) (hboot : cluster.isBootstrapped = true)
include hcluster hboot

theorem goes_waitForClusterBootstrapped :
    Goes answer rule (Pass.waitForClusterBootstrapped (C := C)) on ends s c ↔ on s c := by
  rw [Pass.waitForClusterBootstrapped, goes_reading, hcluster, Option.any_some, hboot]
  exact Iff.rfl

/-- A leader is found, unless the pass is to be made again. -/
theorem getLeader_settles (h : Remembers answer)
    (hcore : ∀ old, s.objects.find? .cluster cluster.nsOf cluster.name = some old →
      Kind.core (k := .cluster) old = Kind.core (k := .cluster) cluster)
    (hends : ∀ s outcome, outcome.Retries → ends s outcome c)
    (hon : ∀ s' pod cluster', Elected answer s s' cluster cluster' pod →
      on s' (PassState.withLeader pod (PassState.withCluster cluster' c))) :
    Goes answer Free (Pass.getLeader (C := C)) on ends s c := by
  rw [Pass.getLeader, goes_ofAttempt, hcluster]
  simp only [playsOr_bind, playsOr_lift, plays_run]
  refine (leaderFor_settles h hboot hcore).mono (fun s' r hr => hon s' r.1 r.2 hr) fun s' e _ => ?_
  split
  next heq => cases heq
  next => exact hends s' _ rfl
  next =>
    rw [playsOr_ite]
    refine ⟨fun _ => hends s' _ trivial, fun _ => ?_⟩
    rw [playsOr_bind, playsOr_log]
    exact hends s' _ rfl
  next => exact hends s' _ trivial

theorem getLeader_of_led [AdmitsReads rule] (h : Remembers answer) (hled : Led answer s cluster pod)
    (hon : on s (PassState.withLeader pod (PassState.withCluster cluster c))) :
    Goes answer rule (Pass.getLeader (C := C)) on ends s c := by
  rw [Pass.getLeader, goes_ofAttempt, hcluster]
  simp only [playsOr_bind, playsOr_lift, plays_run]
  refine (leaderFor_of_led h hboot hled).mono (fun s' r hr => ?_) fun _ _ hfalse => hfalse.elim
  obtain ⟨rfl, rfl⟩ := hr
  exact hon

end

end ClusterKeeper.Simulation
