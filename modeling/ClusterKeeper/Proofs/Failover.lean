import ClusterKeeper.Failover
import ClusterKeeper.Proofs.Pass.Requests

/-!
The failover parameters that a cluster asks for depend on nothing but the cluster and the secrets that the
store holds.
-/

namespace ClusterKeeper

open Program

/-- The request asks for a secret. -/
@[simp] def Request.AsksSecret : Request → Prop
  | store (.get .secret ..) => True
  | _ => False

theorem Request.AsksSecret.deedFree {q : Request} (h : q.AsksSecret) : q.DeedFree := by
  unfold Request.AsksSecret at h
  split at h
  · rfl
  · exact h.elim

namespace Failover

theorem readPassword_asksSecret (ns key : String) (r : SecretReference) :
    (readPassword ns key r).run.Only Request.AsksSecret := by
  intro t
  rw [keeps_run, readPassword]
  dsimp only
  rw [keepsOr_bind, Attempt.get, keepsOr_store]
  refine ⟨by simp, fun secret => ?_, fun _ => trivial⟩
  cases secret with
  | none => trivial
  | some secret =>
    dsimp only
    split
    · trivial
    · split <;> trivial

theorem password_asksSecret (ns : String) (provider : StateProvider) (r : Option SecretReference) :
    (password ns provider r).run.Only Request.AsksSecret := by
  cases r with
  | none => exact fun _ => trivial
  | some r => exact readPassword_asksSecret ns _ r

theorem wanted_asksSecret (cluster : Cluster) : (wanted cluster).run.Only Request.AsksSecret := by
  intro t
  rw [keeps_run, wanted]
  dsimp only
  rw [keepsOr_ite]
  refine ⟨fun _ => trivial, fun _ => ?_⟩
  split
  · trivial
  · split
    · trivial
    · rw [bind_pure_comp, keepsOr_map]
      exact (keeps_run _).1 (password_asksSecret _ _ _ t)
  · split
    · trivial
    · rw [bind_pure_comp, keepsOr_map]
      exact (keeps_run _).1 (password_asksSecret _ _ _ t)

end Failover

end ClusterKeeper
