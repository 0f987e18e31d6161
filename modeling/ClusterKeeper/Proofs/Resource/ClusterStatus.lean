import ClusterKeeper.Resource.Cluster
import Mathlib.Logic.Relation

/-!
How the status of a cluster may go on. In one change the storages stay bootstrapped, and while they are
not the elected leader stays (`Cluster.Advances`). Over any number of changes this means that a leader
stays as long as the storages are not bootstrapped (`Cluster.electedLeader_of_advances`): the one change
in which they are bootstrapped may be followed by changes of the leader.

A pass works on a copy of its own. The copy stays `Alike` to what was read while only phases are
recorded, and `Outgrows` it once the storages are marked as bootstrapped.
-/

namespace ClusterKeeper.Cluster

variable {c d k : Cluster} {x : String}

/-! ### The members of a status -/

theorem isBootstrapped_eq (c : Cluster) : c.isBootstrapped = c.currentStatus.bootstrapped := by
  cases h : c.status <;> simp [isBootstrapped, currentStatus, h, ClusterStatus.initial]

theorem electedLeader_eq (c : Cluster) :
    c.electedLeader = c.currentStatus.leader.filter (· ≠ "") := by
  cases h : c.status <;> simp [electedLeader, currentStatus, h, ClusterStatus.initial]

theorem isBootstrapped_congr (h : c.status = d.status) : c.isBootstrapped = d.isBootstrapped := by
  rw [isBootstrapped, isBootstrapped, h]

theorem electedLeader_congr (h : c.status = d.status) : c.electedLeader = d.electedLeader := by
  rw [electedLeader, electedLeader, h]

@[simp] theorem isBootstrapped_setPhase (p : ClusterPhase) :
    (c.setPhase p).isBootstrapped = c.isBootstrapped := (isBootstrapped_eq c).symm

@[simp] theorem electedLeader_setPhase (p : ClusterPhase) :
    (c.setPhase p).electedLeader = c.electedLeader := (electedLeader_eq c).symm

@[simp] theorem isBootstrapped_resetStatus : c.resetStatus.isBootstrapped = c.isBootstrapped :=
  (isBootstrapped_eq c).symm

@[simp] theorem electedLeader_resetStatus : c.resetStatus.electedLeader = c.electedLeader :=
  (electedLeader_eq c).symm

@[simp] theorem isBootstrapped_setLeader : (c.setLeader x).isBootstrapped = c.isBootstrapped :=
  (isBootstrapped_eq c).symm

theorem electedLeader_setLeader (hx : x ≠ "") : (c.setLeader x).electedLeader = some x := by
  simp [electedLeader, setLeader, hx]

@[simp] theorem isBootstrapped_markBootstrapped : c.markBootstrapped.isBootstrapped = true := rfl

@[simp] theorem electedLeader_markBootstrapped : c.markBootstrapped.electedLeader = c.electedLeader :=
  (electedLeader_eq c).symm

/-- A cluster without a leader has no elected one. -/
theorem electedLeader_of_leader_eq_none (h : c.leader = none) : c.electedLeader = none := by
  cases hf : c.foreignLeader with
  | none => simpa [leader, hf] using h
  | some f => simp [leader, hf] at h

/-- The elected leader leads when the specification names none. -/
theorem electedLeader_of_leader_eq_some (h : c.leader = some x) (hf : c.foreignLeader = none) :
    c.electedLeader = some x := by
  simpa [leader, hf] using h

/-! ### Changes -/

/-- One change of a cluster: the storages stay bootstrapped, and before that an elected leader stays. -/
structure Advances (c d : Cluster) : Prop where
  bootstrapped : c.isBootstrapped → d.isBootstrapped
  leader : c.isBootstrapped = false → ∀ x, c.electedLeader = some x → d.electedLeader = some x

/-- A change of anything but the status. -/
theorem advances_of_status_eq (h : d.status = c.status) : c.Advances d where
  bootstrapped hc := isBootstrapped_congr h ▸ hc
  leader _ _ hx := electedLeader_congr h ▸ hx

theorem Advances.trans_status (h : c.Advances d) (hstatus : k.status = d.status) : c.Advances k where
  bootstrapped hc := isBootstrapped_congr hstatus ▸ h.bootstrapped hc
  leader hc x hx := electedLeader_congr hstatus ▸ h.leader hc x hx

/-- An elected leader stays until the storages are bootstrapped. -/
theorem electedLeader_of_advances (h : Relation.ReflTransGen Advances c d)
    (hd : d.isBootstrapped = false) (hx : c.electedLeader = some x) : d.electedLeader = some x := by
  induction h with
  | refl => exact hx
  | @tail b d _ hstep ih =>
    have hb : b.isBootstrapped = false := by
      cases hb : b.isBootstrapped with
      | false => rfl
      | true => exact absurd (hstep.bootstrapped hb) (by rw [hd]; exact Bool.false_ne_true)
    exact hstep.leader hb x (ih hb)

/-! ### Copies -/

/-- A copy that differs from what was read in its phase at most. -/
structure Alike (base k : Cluster) : Prop where
  metadata : k.metadata = base.metadata
  bootstrapped : k.isBootstrapped = base.isBootstrapped
  leader : k.electedLeader = base.electedLeader

/-- A copy that was marked as bootstrapped at most. -/
structure Outgrows (base k : Cluster) : Prop where
  metadata : k.metadata = base.metadata
  bootstrapped : base.isBootstrapped → k.isBootstrapped
  leader : k.electedLeader = base.electedLeader

theorem Alike.refl (k : Cluster) : Alike k k := ⟨rfl, rfl, rfl⟩

theorem Alike.setPhase (h : Alike c k) (p : ClusterPhase) : Alike c (k.setPhase p) :=
  ⟨h.metadata, by rw [isBootstrapped_setPhase, h.bootstrapped],
    by rw [electedLeader_setPhase, h.leader]⟩

theorem Alike.resetStatus (h : Alike c k) : Alike c k.resetStatus :=
  ⟨h.metadata, by rw [isBootstrapped_resetStatus, h.bootstrapped],
    by rw [electedLeader_resetStatus, h.leader]⟩

theorem Alike.outgrows (h : Alike c k) : Outgrows c k :=
  ⟨h.metadata, fun hc => h.bootstrapped ▸ hc, h.leader⟩

theorem Outgrows.setPhase (h : Outgrows c k) (p : ClusterPhase) : Outgrows c (k.setPhase p) :=
  ⟨h.metadata, fun hc => by rw [isBootstrapped_setPhase]; exact h.bootstrapped hc,
    by rw [electedLeader_setPhase, h.leader]⟩

theorem Outgrows.markBootstrapped (h : Outgrows c k) : Outgrows c k.markBootstrapped :=
  ⟨h.metadata, fun _ => isBootstrapped_markBootstrapped,
    by rw [electedLeader_markBootstrapped, h.leader]⟩

/-- A copy that outgrows what was read may be written. -/
theorem Outgrows.advances (h : Outgrows c k) : c.Advances k :=
  ⟨h.bootstrapped, fun _ _ hx => h.leader.trans hx⟩

/-- A leader may be recorded when there is none, or when the storages are bootstrapped. -/
theorem Alike.advances_setLeader (h : Alike c k) (hmay : k.leader = none ∨ k.isBootstrapped) (x : String) :
    c.Advances (k.setLeader x) where
  bootstrapped hc := by rw [isBootstrapped_setLeader, h.bootstrapped, hc]
  leader hc y hy := by
    rcases hmay with hnone | hboot
    · rw [← h.leader, electedLeader_of_leader_eq_none hnone] at hy
      exact absurd hy (Option.some_ne_none y).symm
    · rw [h.bootstrapped, hc] at hboot
      exact absurd hboot Bool.false_ne_true

end ClusterKeeper.Cluster
