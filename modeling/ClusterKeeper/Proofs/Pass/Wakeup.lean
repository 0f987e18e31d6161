import ClusterKeeper.Pass.ClusterPass
import ClusterKeeper.Pass.RolePass
import Mathlib.Data.List.Basic

/-!
What wakes a cluster that waits for its roles. A pass over a cluster stops at the gate until there are
roles and all of them are settled, and nothing but a change of a role makes it go on. A change is told to
watchers with one object: the role as it is after the change, or as it was last when it is deleted.

Main statement: of all changes that open the gate, exactly those that leave the role with its cluster
wake the cluster (`wakes_iff_of_opens`). A busy role that goes away opens the gate as well, and nobody
notices (`deletion_opens_unnoticed`).
-/

namespace ClusterKeeper

/-- The role says that it belongs to the cluster of a name. -/
def Role.BelongsTo (r : Role) (cluster : String) : Prop :=
  r.metadata.labelSet.get? Labels.clusterName = some cluster

/-- A change of one role. -/
inductive RoleChange where
  | created (new : Role)
  | updated (old new : Role)
  | deleted (last : Role)

namespace RoleChange

/-- The object that watchers are given. -/
def object : RoleChange → Role
  | created new => new
  | updated _ new => new
  | deleted last => last

/-- The role as it is after the change, if there still is one. -/
def left : RoleChange → Option Role
  | created new => some new
  | updated _ new => some new
  | deleted _ => none

/-- The change makes some roles others. -/
inductive Makes : RoleChange → (before after : List Role) → Prop
  | created {new front back} : Makes (.created new) (front ++ back) (front ++ new :: back)
  | updated {old new front back} : new.name = old.name →
      Makes (.updated old new) (front ++ old :: back) (front ++ new :: back)
  | deleted {last front back} : Makes (.deleted last) (front ++ last :: back) (front ++ back)

end RoleChange

namespace ClusterPass

/-- The roles among some that a store lists. -/
def listed (roles : List Role) (ns : String) (selector : Labels) : List Role :=
  roles.filter fun r => r.metadata.nsText = ns ∧ Labels.Matches r.metadata.labels selector

/-- The answers of a store with some roles and nothing else. -/
def answerWith (roles : List Role) : (q : Request) → q.Answer
  | .store (.list .role ns selector) => .ok (listed roles ns selector)
  | .store _ => .error .serialization
  | .admin _ => .error .decode
  | .record .. => ()
  | .log .. => ()

/-- How a pass over a cluster comes through the gate when there are some roles. -/
def gate (roles : List Role) (c : ClusterPass) : Outcome :=
  (((waitForRolesPhases [.waitingForBootstrap, .ready]).run c).run (m := Id) (answerWith roles)).1

section

variable {roles : List Role} {c : ClusterPass} {r : Role} {ns name : String}

theorem matches_clusterSelector (labels : Option Labels) (cluster : String) :
    Labels.Matches labels (Labels.clusterSelector cluster) ↔
      (labels.getD .empty).get? Labels.clusterName = some cluster := by
  have hentries : (Labels.clusterSelector cluster).entries = [(Labels.clusterName, cluster)] := rfl
  rw [Labels.Matches, hentries, List.forall_mem_singleton]
  cases labels with
  | none =>
    exact ⟨fun h => absurd h.symm (Option.some_ne_none _), fun h => absurd h.symm (Option.some_ne_none _)⟩
  | some labels => rfl

theorem mem_listed :
    r ∈ listed roles ns (Labels.clusterSelector name) ↔
      r ∈ roles ∧ r.metadata.nsText = ns ∧ r.BelongsTo name := by
  rw [listed, List.mem_filter, decide_eq_true_iff, matches_clusterSelector]
  rfl

theorem mem_settledPhases (p : RolePhase) :
    p ∈ [RolePhase.waitingForBootstrap, RolePhase.ready] ↔ p.isSettled = true := by
  cases p <;> decide

/-- What the step makes of the roles that are listed. -/
def verdictOn (roles : List Role) : Outcome :=
  if roles = [] then .complete
  else if roles.all fun r => r.phase ∈ [RolePhase.waitingForBootstrap, RolePhase.ready] then .next
  else .complete

theorem gate_eq (roles : List Role) (c : ClusterPass) :
    gate roles c = verdictOn (listed roles c.key.ns (Labels.clusterSelector c.key.name)) := by
  have hrun : gate roles c =
      let found := listed roles c.key.ns (Labels.clusterSelector c.key.name)
      (((Step.reading (C := ClusterPass) "" fun _ => do
          if found = [] then
            Attempt.log .debug "Cluster has no roles yet"
            return .complete
          if found.all fun role => role.phase ∈ [RolePhase.waitingForBootstrap, .ready] then
            return .next
          Attempt.log .debug "Waiting for roles"
          return .complete).run c).run (m := Id) (answerWith roles)).1 := rfl
  rw [hrun, verdictOn]
  dsimp only
  split
  next => rfl
  next =>
    split
    next => rfl
    next => rfl

/-- The gate is open when the cluster has roles and all of them are settled. -/
theorem gate_eq_next_iff (hplaced : ∀ r ∈ roles, r.metadata.ns = some c.key.ns) :
    gate roles c = .next ↔
      (∃ r ∈ roles, r.BelongsTo c.key.name) ∧
        ∀ r ∈ roles, r.BelongsTo c.key.name → r.phase.isSettled = true := by
  have hlisted : ∀ r, r ∈ listed roles c.key.ns (Labels.clusterSelector c.key.name) ↔
      r ∈ roles ∧ r.BelongsTo c.key.name := by
    intro r
    rw [mem_listed]
    refine and_congr_right fun hr => and_iff_right ?_
    rw [ObjectMeta.nsText, hplaced r hr]
    rfl
  rw [gate_eq, verdictOn]
  constructor
  · intro h
    split at h
    next => cases h
    next hne =>
      split at h
      next hall =>
        obtain ⟨r, hr⟩ := List.exists_mem_of_ne_nil _ hne
        refine ⟨⟨r, (hlisted r).1 hr⟩, fun r hr hbelongs => ?_⟩
        have hphase := List.all_eq_true.1 hall r ((hlisted r).2 ⟨hr, hbelongs⟩)
        exact (mem_settledPhases r.phase).1 (of_decide_eq_true hphase)
      next => cases h
  · rintro ⟨⟨r, hr, hbelongs⟩, hsettled⟩
    rw [if_neg (List.ne_nil_of_mem ((hlisted r).2 ⟨hr, hbelongs⟩)), if_pos]
    refine List.all_eq_true.2 fun r hr => decide_eq_true ?_
    exact (mem_settledPhases r.phase).2 (hsettled r ((hlisted r).1 hr).1 ((hlisted r).1 hr).2)

end

end ClusterPass

/-- A role wakes its own cluster once it is settled. -/
theorem Role.wakes_eq_some_iff {r : Role} {ns name : String} (hns : r.metadata.ns = some ns) :
    r.wakes = some (ns, name) ↔ r.phase.isSettled = true ∧ r.BelongsTo name := by
  rw [Role.wakes, Role.BelongsTo, hns]
  split
  next h =>
    cases r.metadata.labelSet.get? Labels.clusterName <;> simp [h]
  next h => simp [h]

namespace RoleChange

variable {change : RoleChange} {before after : List Role} {c : ClusterPass}

/-- When a change opens the gate of a cluster, the object that watchers are given wakes the cluster if
and only if the role is still there and belongs to the cluster. -/
theorem wakes_iff_of_opens (hmakes : change.Makes before after)
    (hplaced : ∀ r ∈ before ++ after, r.metadata.ns = some c.key.ns)
    (hclosed : ClusterPass.gate before c ≠ .next) (hopen : ClusterPass.gate after c = .next) :
    change.object.wakes = some (c.key.ns, c.key.name) ↔
      ∃ r, change.left = some r ∧ r.BelongsTo c.key.name := by
  have hbefore : ∀ r ∈ before, r.metadata.ns = some c.key.ns :=
    fun r hr => hplaced r (List.mem_append_left _ hr)
  have hafter : ∀ r ∈ after, r.metadata.ns = some c.key.ns :=
    fun r hr => hplaced r (List.mem_append_right _ hr)
  rw [Ne, ClusterPass.gate_eq_next_iff hbefore] at hclosed
  rw [ClusterPass.gate_eq_next_iff hafter] at hopen
  obtain ⟨⟨r, hr, hbelongs⟩, hsettled⟩ := hopen
  cases hmakes with
  | @created new front back =>
    have hnew : new ∈ front ++ new :: back := List.mem_append_right _ List.mem_cons_self
    rw [object, Role.wakes_eq_some_iff (hafter _ hnew)]
    simp only [left, Option.some.injEq, exists_eq_left']
    exact ⟨fun h => h.2, fun h => ⟨hsettled _ hnew h, h⟩⟩
  | @updated old new front back =>
    have hnew : new ∈ front ++ new :: back := List.mem_append_right _ List.mem_cons_self
    rw [object, Role.wakes_eq_some_iff (hafter _ hnew)]
    simp only [left, Option.some.injEq, exists_eq_left']
    exact ⟨fun h => h.2, fun h => ⟨hsettled _ hnew h, h⟩⟩
  | @deleted last front back =>
    have hlast : last ∈ front ++ last :: back := List.mem_append_right _ List.mem_cons_self
    rw [object, Role.wakes_eq_some_iff (hbefore _ hlast)]
    -- a settled role that goes away leaves the gate as it was
    refine ⟨fun h => absurd ⟨⟨last, hlast, h.2⟩, fun r hr hbelongs => ?_⟩ hclosed,
      fun ⟨_, h, _⟩ => absurd h.symm (Option.some_ne_none _)⟩
    rcases List.mem_append.1 hr with hr | hr
    · exact hsettled r (List.mem_append_left _ hr) hbelongs
    · rcases List.mem_cons.1 hr with rfl | hr
      · exact h.1
      · exact hsettled r (List.mem_append_right _ hr) hbelongs

/-- A role of the cluster `shop` that got as far as some phase. -/
def shopRole (name : String) (phase : RolePhase) : Role where
  metadata := { ObjectMeta.blank with
    name := some name, ns := some "db", labels := some (Labels.clusterSelector "shop") }
  spec := .default
  status := some ⟨phase⟩

/-- The last role that the cluster waits for wakes it. -/
theorem shopRole_wakes :
    (RoleChange.updated (shopRole "storage" .joining)
      (shopRole "storage" .waitingForBootstrap)).object.wakes = some ("db", "shop") := by
  have hmakes : (RoleChange.updated (shopRole "storage" .joining)
      (shopRole "storage" .waitingForBootstrap)).Makes
      [shopRole "router" .ready, shopRole "storage" .joining]
      [shopRole "router" .ready, shopRole "storage" .waitingForBootstrap] :=
    @Makes.updated _ _ [shopRole "router" .ready] [] rfl
  exact (wakes_iff_of_opens (c := .start ⟨"db", "shop"⟩) hmakes (by decide +kernel) (by decide +kernel)
    (by decide +kernel)).2 ⟨_, rfl, rfl⟩

/-- The gate of a cluster opens when a busy role is deleted, and nothing wakes the cluster. -/
theorem deletion_opens_unnoticed :
    (RoleChange.deleted (shopRole "storage" .joining)).Makes
        [shopRole "router" .ready, shopRole "storage" .joining] [shopRole "router" .ready] ∧
      ClusterPass.gate [shopRole "router" .ready, shopRole "storage" .joining]
        (.start ⟨"db", "shop"⟩) ≠ .next ∧
      ClusterPass.gate [shopRole "router" .ready] (.start ⟨"db", "shop"⟩) = .next ∧
      (RoleChange.deleted (shopRole "storage" .joining)).object.wakes = none := by
  refine ⟨?_, by decide +kernel, by decide +kernel, by decide +kernel⟩
  exact @Makes.deleted _ [shopRole "router" .ready] []

end RoleChange

end ClusterKeeper
