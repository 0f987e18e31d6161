import ClusterKeeper.Proofs.Pass.Steps
import ClusterKeeper.Proofs.Program.Course

/-!
The gates of a pass: what must have been told before a request is made that changes a topology or makes a
StatefulSet. Storages are weighed and configs applied while the copy of the cluster is bootstrapped, and
failover is set after that or after the pass has bootstrapped the storages itself, once and when the roles
were settled. Instances are joined when enough of them were counted, and replicasets get their roles when
each was joined (`Gated`).
-/

namespace ClusterKeeper

open Program

/-- The request lists roles. -/
def Request.ListsRoles (q : Request) : Prop := ∃ ns selector, q = .store (.list .role ns selector)

/-- The request bootstraps the storages. -/
def Request.Bootstraps (q : Request) : Prop := ∃ leader, q = .admin (.bootstrapVshard leader)

theorem Request.DeedFree.not_bootstraps {q : Request} (hq : q.DeedFree) : ¬q.Bootstraps := by
  rintro ⟨leader, rfl⟩
  exact hq

namespace Talk

/-- As many ready pods of a role were counted, none of them being deleted, as the role is to have. -/
def Counts (t : Talk Surroundings) (ns : String) (cluster : Cluster) (role : Role) : Prop :=
  ∃ pods : List Pod,
    (⟨Request.store (.list .pod ns (Labels.roleSelector cluster.name role.name)), Except.ok pods⟩ :
      Turn Surroundings) ∈ t ∧
    max 0 (role.replicasets * role.replicas) ≤ pods.countP fun pod => !pod.isDeleting && pod.isReady

/-- When roles were listed first, there were some, and each was joined. -/
def Gathers (t : Talk Surroundings) (key : ObjectKey) : Prop :=
  ∃ (later earlier : Talk Surroundings) (roles : List Role),
    t = later ++ ⟨Request.store (.list .role key.ns (Labels.clusterSelector key.name)), Except.ok roles⟩ ::
      earlier ∧
    (∀ e ∈ earlier, ¬e.ask.ListsRoles) ∧ roles ≠ [] ∧
    ∀ role ∈ roles, role.phase = .waitingForBootstrap ∨ role.phase = .ready

/-- The copy of the cluster is bootstrapped. -/
def Bootstrapped (t : Talk Surroundings) : Prop := ∃ k, t.copy = some k ∧ k.isBootstrapped = true

/-- The storages were to be bootstrapped some time. -/
def Bootstraps (t : Talk Surroundings) : Prop := ∃ e ∈ t, e.ask.Bootstraps

/-- The storages were bootstrapped in the pass. -/
def HasBootstrapped (t : Talk Surroundings) : Prop :=
  ∃ leader, (⟨Request.admin (.bootstrapVshard leader), Except.ok ()⟩ : Turn Surroundings) ∈ t

/-- A replicaset was joined to the end. -/
def Joins (t : Talk Surroundings) (r : RolePass.Resolved) (ordinal : Nat) : Prop :=
  ∃ before after, (RolePass.joinReplicaset r ordinal).run.Goes before after (.ok ()) ∧ after <:+ t

end Talk

/-- What must have been told before a request. -/
def Gated (key : ObjectKey) (t : Talk Surroundings) : Request → Prop
  | .admin (.setWeight ..) => t.Bootstrapped
  | .admin (.applyCartridgeConfig ..) => t.Bootstrapped
  | .admin (.setFailoverParams ..) => t.Bootstrapped ∨ t.HasBootstrapped
  | .admin (.bootstrapVshard _) =>
    ¬t.Bootstraps ∧ (∃ k, t.copy = some k ∧ k.isBootstrapped = false) ∧ t.Gathers key
  | .admin (.join ..) =>
    ∃ role cluster, t.Loads .role key role ∧ t.copy = some cluster ∧ t.Counts key.ns cluster role
  | .admin (.setReplicasetRoles leader ..) =>
    ∃ role cluster, t.Loads .role key role ∧ t.copy = some cluster ∧ t.Counts key.ns cluster role ∧
      ∀ ordinal < role.replicasets.toNat, t.Joins ⟨key.ns, role, cluster, leader⟩ ordinal
  | .store (.create .statefulSet _) => ∃ role : Role, t.Loads .role key role ∧ role.metadata.isDeleting = false
  | _ => True

variable {key : ObjectKey} {t t' : Talk Surroundings}

instance : AdmitsDeedFree (Gated key) where
  of_deedFree t q hq := by
    unfold Gated
    split <;> first | exact hq.elim | trivial | exact absurd rfl hq.2

/-- A rule that holds if the store keeps the statuses that it takes. -/
def IfTakesStatus (rule : Talk Surroundings → Request → Prop) (t : Talk Surroundings) (q : Request) : Prop :=
  t.TakesStatus → rule t q

instance {rule : Talk Surroundings → Request → Prop} [AdmitsDeedFree rule] : AdmitsDeedFree (IfTakesStatus rule) :=
  ⟨fun t q hq _ => AdmitsDeedFree.of_deedFree t q hq⟩

theorem Talk.Obeys.of_ifTakesStatus {rule : Talk Surroundings → Request → Prop}
    (h : t.Obeys (IfTakesStatus rule)) (ht : t.TakesStatus) : t.Obeys rule := by
  induction t with
  | nil => trivial
  | cons e t ih =>
    obtain ⟨_, ht⟩ := Talk.takesStatus_cons.1 ht
    exact ⟨h.1 ht, ih h.2 ht⟩

namespace Talk

variable {ns : String} {cluster : Cluster} {role : Role} {r : RolePass.Resolved} {ordinal : Nat}

theorem Counts.mono (h : t.Counts ns cluster role) (hsuffix : t <:+ t') : t'.Counts ns cluster role := by
  obtain ⟨pods, hpods, hcount⟩ := h
  exact ⟨pods, hsuffix.mem hpods, hcount⟩

theorem Joins.mono (h : t.Joins r ordinal) (hsuffix : t <:+ t') : t'.Joins r ordinal := by
  obtain ⟨before, after, hgoes, hafter⟩ := h
  exact ⟨before, after, hgoes, hafter.trans hsuffix⟩

theorem HasBootstrapped.mono (h : t.HasBootstrapped) (hsuffix : t <:+ t') : t'.HasBootstrapped := by
  obtain ⟨leader, hdone⟩ := h
  exact ⟨leader, hsuffix.mem hdone⟩

theorem Gathers.mono (h : t.Gathers key) (hsuffix : t <:+ t') : t'.Gathers key := by
  obtain ⟨later, earlier, roles, rfl, hroles⟩ := h
  obtain ⟨more, rfl⟩ := hsuffix
  exact ⟨more ++ later, earlier, roles, by simp, hroles⟩

end Talk

end ClusterKeeper
