import ClusterKeeper.Pass.RolePass
import ClusterKeeper.Proofs.Cartridge.RoleAgreement
import ClusterKeeper.Proofs.Json.Wire
import ClusterKeeper.Proofs.Pass.RoleConduct
import ClusterKeeper.Proofs.Program.Course

/-!
What comes of setting the roles of a replicaset. An instance that overwrites the members that an edit sends of
a replicaset and keeps the others holds the wanted roles afterwards, unless none are wanted: the edit leaves out
an empty list of roles, so that the roles stay, and since they are not empty either, they agree with the wanted
ones under no hierarchy.

Main statement: the roles are taken over, and not set again, exactly if some are wanted
(`EditReplicaset.update_takes_iff`).
-/

namespace ClusterKeeper

open Program

namespace EditReplicaset

variable {uuid : String} {wanted actual : List String} {held : SortedMap Json}

/-- The members of a replicaset as an edit writes them. -/
def members (r : EditReplicaset) : List Member := [
  .unlessDefault "" "uuid" r.uuid,
  .unlessDefault "" "alias" r.name,
  .unlessDefault [] "roles" r.roles,
  .unlessDefault false "all_rw" r.allRw,
  .unlessDefault 0 "weight" r.weight,
  .unlessDefault [] "failover_priority" r.failoverPriority,
  .unlessDefault "" "vshard_group" r.vshardGroup,
  .unlessDefault [] "join_servers" r.joinServers]

/-- A replicaset as an edit sends it. -/
def sent (r : EditReplicaset) : SortedMap Json := ⟨Member.written r.members, Entries.ordered_sort _⟩

/-- What an instance tells of the roles of a replicaset that it holds. -/
def rolesTold (leader : Pod) (uuid : String) (held : SortedMap Json) : Except AdminError (List String) :=
  (AdminRequest.replicasetRoles leader uuid).outcome (.ok ((held.get? "roles").getD .null))

/-- An edit that sets roles sends one replicaset. -/
theorem args_setRoles (leader : Pod) (uuid : String) (wanted : List String) :
    (AdminRequest.setReplicasetRoles leader uuid wanted).args =
      [.obj [("replicasets", .arr [Json.ofMap (sent { blank with uuid, roles := wanted })])]] := rfl

/-- It says something of the roles exactly if some are wanted. -/
theorem get?_sent_roles (r : EditReplicaset) :
    r.sent.get? "roles" = if r.roles = [] then none else some (Wire.write r.roles) := by
  have hkeys : (r.members.map Member.key).Nodup := by simp [members, Member.unlessDefault]
  exact Member.get?_written r.members hkeys "roles"

/-- Roles are kept when none are wanted. -/
theorem rolesTold_union_nil (leader : Pod) (uuid : String) (held : SortedMap Json) :
    rolesTold leader uuid (held.union (sent { blank with uuid, roles := [] })) = rolesTold leader uuid held := by
  rw [rolesTold, SortedMap.get?_union, get?_sent_roles, if_pos rfl, Option.none_or, rolesTold]

/-- Otherwise the wanted ones are told from then on. -/
theorem rolesTold_union (leader : Pod) (uuid : String) (held : SortedMap Json) (hwanted : wanted ≠ []) :
    rolesTold leader uuid (held.union (sent { blank with uuid, roles := wanted })) = .ok wanted := by
  rw [rolesTold, SortedMap.get?_union, get?_sent_roles, if_neg hwanted, Option.some_or, Option.getD_some]
  have hread : Admin.orMissing (Wire.read (α := List String)) (Wire.write wanted) = some (some wanted) := by
    show (Wire.read (Wire.write wanted)).map some = some (some wanted)
    rw [LawfulWire.read_write]
    rfl
  simp only [AdminRequest.outcome, Except.bind, Admin.typed, hread]
  rfl

end EditReplicaset

namespace RolePass

/-- The request sets the roles of one replicaset. -/
def SetsRolesOf (uuid : String) (q : Request) : Prop :=
  ∃ leader roles, q = .admin (.setReplicasetRoles leader uuid roles)

/-- The turn tells the roles of one replicaset. -/
def TellsRoles (uuid : String) (roles : List String) (e : Turn Surroundings) : Prop :=
  ∃ leader, e = ⟨Request.admin (.replicasetRoles leader uuid), Except.ok roles⟩

/-- If nothing but some roles is told of a replicaset, its roles are set exactly if these were told and are
`unwanted`. -/
def SetsIfTold (uuid : String) (roles : List String) (unwanted : Prop) (t : Talk Surroundings) : Prop :=
  (∀ e ∈ t, ∀ told, TellsRoles uuid told e → told = roles) →
    ((∃ e ∈ t, SetsRolesOf uuid e.ask) ↔ unwanted ∧ ∃ e ∈ t, TellsRoles uuid roles e)

variable {uuid : String} {roles wanted : List String} {unwanted : Prop} {t : Talk Surroundings} {r : Resolved}
  {e : Turn Surroundings}

@[simp] theorem setsRolesOf_iff {leader : Pod} {uuid' : String} :
    SetsRolesOf uuid (.admin (.setReplicasetRoles leader uuid' wanted)) ↔ uuid' = uuid := by
  simp [SetsRolesOf]

theorem tellsRoles_iff {leader : Pod} {uuid' : String} {told : List String} :
    TellsRoles uuid roles ⟨Request.admin (.replicasetRoles leader uuid'), Except.ok told⟩ ↔
      uuid' = uuid ∧ told = roles := by
  constructor
  · rintro ⟨leader', heq⟩
    cases heq
    exact ⟨rfl, rfl⟩
  · rintro ⟨rfl, rfl⟩
    exact ⟨leader, rfl⟩

theorem setsIfTold_nil : SetsIfTold uuid roles unwanted [] := by simp [SetsIfTold]

/-- Turns about something else do not matter. -/
theorem SetsIfTold.cons (h : SetsIfTold uuid roles unwanted t) (hsets : ¬SetsRolesOf uuid e.ask)
    (htells : ∀ told, ¬TellsRoles uuid told e) : SetsIfTold uuid roles unwanted (e :: t) := by
  intro hsame
  have ht := h fun e he => hsame e (List.mem_cons_of_mem _ he)
  simp [hsets, htells, ht]

/-- Nor do roles that are told and left alone, unless they are unwanted. -/
theorem SetsIfTold.left (h : SetsIfTold uuid roles unwanted t) {leader : Pod} {uuid' : String} {told : List String}
    (hleft : told = roles → ¬unwanted) :
    SetsIfTold uuid roles unwanted (⟨Request.admin (.replicasetRoles leader uuid'), Except.ok told⟩ :: t) := by
  intro hsame
  have ht := h fun e he => hsame e (List.mem_cons_of_mem _ he)
  have hsets : ¬SetsRolesOf uuid (.admin (.replicasetRoles leader uuid')) := by simp [SetsRolesOf]
  simp only [List.mem_cons, exists_eq_or_imp, hsets, false_or, ht, and_congr_right_iff]
  intro hunwanted
  constructor
  · exact Or.inr
  · rintro (htells | hbefore)
    · exact absurd hunwanted (hleft (tellsRoles_iff.1 htells).2)
    · exact hbefore

/-- Roles that are told and set have to be unwanted. -/
theorem SetsIfTold.set (h : SetsIfTold uuid roles unwanted t) {leader : Pod} {uuid' message : String}
    {told : List String} {accepted : Except AdminError Unit} (hset : told = roles → unwanted) :
    SetsIfTold uuid roles unwanted (⟨Request.admin (.setReplicasetRoles leader uuid' wanted), accepted⟩ ::
      ⟨Request.log .info message, ()⟩ ::
      ⟨Request.admin (.replicasetRoles leader uuid'), Except.ok told⟩ :: t) := by
  intro hsame
  by_cases hat : uuid' = uuid
  · have htold : TellsRoles uuid told ⟨Request.admin (.replicasetRoles leader uuid'), Except.ok told⟩ :=
      tellsRoles_iff.2 ⟨hat, rfl⟩
    obtain rfl : told = roles := hsame _ (by simp) told htold
    constructor
    · intro _
      exact ⟨hset rfl, _, by simp, htold⟩
    · intro _
      exact ⟨_, List.mem_cons_self, setsRolesOf_iff.2 hat⟩
  · -- the roles of another replicaset were told and set
    have hother : ∀ told', ¬TellsRoles uuid told' ⟨Request.admin (.replicasetRoles leader uuid'), Except.ok told⟩ :=
      fun told' htells => hat (tellsRoles_iff.1 htells).1
    have htold := h.cons (by simp [SetsRolesOf]) hother
    have hlogged : SetsIfTold uuid roles unwanted (⟨Request.log .info message, ()⟩ :: _) :=
      htold.cons (by simp [SetsRolesOf]) (by simp [TellsRoles])
    exact hlogged.cons (by simpa using hat) (by simp [TellsRoles]) hsame

theorem configureReplicaset_setsIfTold (ordinal : Nat)
    (hagree : ∀ hierarchy : RoleHierarchy, hierarchy.Agree roles r.role.spec.vshard.clusterRoles ↔ ¬unwanted)
    (ht : SetsIfTold uuid roles unwanted t) :
    Keeps (fun _ _ => True) (configureReplicaset r ordinal).run
      (fun t _ => SetsIfTold uuid roles unwanted t) t := by
  simp only [configureReplicaset, keeps_run, keepsOr_bind, keepsOr_ask, keepsOr_ite, keepsOr_pure, keepsOr_lift,
    keeps_log, true_and]
  have hasked : ∀ a, SetsIfTold uuid roles unwanted (⟨Request.admin (.rolesHierarchy r.leader), a⟩ :: t) :=
    fun a => ht.cons (by simp [SetsRolesOf]) (by simp [TellsRoles])
  refine ⟨fun hierarchy => ⟨fun told => ⟨fun hagrees => ?_, fun hnot => ?_⟩, fun e => ?_⟩, fun e => hasked _⟩
  · refine (hasked _).left ?_
    rintro rfl
    exact (hagree hierarchy).1 hagrees
  · have hunwanted : told = roles → unwanted := by
      rintro rfl
      exact not_not.1 fun h => hnot ((hagree hierarchy).2 h)
    exact ⟨fun _ => (hasked _).set hunwanted, fun e => (hasked _).set hunwanted⟩
  · exact (hasked _).cons (by simp [SetsRolesOf]) (by simp [TellsRoles])

/-- Requests to the store and lines of the log do not matter. -/
theorem SetsIfTold.elsewhere (h : SetsIfTold uuid roles unwanted t) (q : Request) (a : q.Answer)
    (hq : ∀ q', q ≠ .admin q') : SetsIfTold uuid roles unwanted (⟨q, a⟩ :: t) := by
  refine h.cons ?_ ?_
  · rintro ⟨_, _, heq⟩
    exact hq _ heq
  · rintro told ⟨_, heq⟩
    exact hq _ (congrArg Turn.ask heq)

theorem liveStatefulSets_setsIfTold (ordinal : Nat) (ht : SetsIfTold uuid roles unwanted t) :
    KeepsOr (fun _ _ => True) (liveStatefulSets r ordinal) (fun t _ => SetsIfTold uuid roles unwanted t)
      (fun t _ => SetsIfTold uuid roles unwanted t) t := by
  rw [liveStatefulSets, keepsOr_bind, Attempt.list, keepsOr_store]
  refine ⟨trivial, fun stateful => ?_, fun e => ?_⟩
  · rw [keepsOr_pure]
    exact ht.elsewhere _ _ (by simp)
  · exact ht.elsewhere _ _ (by simp)

/-- The course of a replicaset whose roles disagree with the wanted ones, when all is answered. -/
theorem configureReplicaset_goes {hierarchy : RoleHierarchy} {told : List String} (ordinal : Nat)
    (hnot : ¬hierarchy.Agree told r.role.spec.vshard.clusterRoles) :
    (configureReplicaset r ordinal).run.Goes t
      (⟨Request.admin (.setReplicasetRoles r.leader (Replicaset.uuid r.role.name ordinal)
          r.role.spec.vshard.clusterRoles), Except.ok ()⟩ ::
        ⟨Request.log .info "Setting replicaset roles", ()⟩ ::
        ⟨Request.admin (.replicasetRoles r.leader (Replicaset.uuid r.role.name ordinal)), Except.ok told⟩ ::
        ⟨Request.admin (.rolesHierarchy r.leader), Except.ok hierarchy⟩ :: t) (.ok ()) := by
  simp only [configureReplicaset, goes_run_bind]
  refine ⟨_, .ok hierarchy, goes_question.2 rfl, _, .ok told, goes_question.2 rfl, ?_⟩
  simp only [if_neg hnot]
  rw [goes_run_bind]
  exact ⟨_, .ok (), ⟨(), rfl, rfl⟩, goes_question.2 rfl⟩

theorem configureAll_setsIfTold
    (hagree : ∀ hierarchy : RoleHierarchy, hierarchy.Agree roles r.role.spec.vshard.clusterRoles ↔ ¬unwanted)
    (ht : SetsIfTold uuid roles unwanted t) :
    KeepsOr (fun _ _ => True) (configureAll r) (fun t _ => SetsIfTold uuid roles unwanted t)
      (fun t _ => SetsIfTold uuid roles unwanted t) t := by
  refine keepsOr_throughUpTo (fun ordinal allConfigured t ht => ?_) _ _ _ ht
  simp only [keepsOr_bind, keepsOr_lift, keeps_run]
  refine (liveStatefulSets_setsIfTold ordinal ht).mono (fun t stateful ht => ?_) fun t e ht => ?_
  · cases stateful with
    | nil => exact ht
    | cons s stateful =>
      simp only [keepsOr_bind, keepsOr_lift, keeps_run]
      refine ((keeps_run _).1 (configureReplicaset_setsIfTold ordinal hagree ht)).mono
        (fun t _ ht => ht) fun t e ht => ?_
      simp only [keepsOr_log, keeps_log, true_and]
      exact ht.elsewhere _ _ (by simp)
  · simp only [keepsOr_log, keeps_log, true_and]
    exact ht.elsewhere _ _ (by simp)

/-- While an instance tells the same roles of a replicaset, which disagree with the wanted ones under every
hierarchy or under none, the step sets them exactly if they were told and disagree. -/
theorem configureVShardRoles_sets_iff {c : RolePass} {role : Role} {t said : Talk Surroundings}
    {o : Outcome × RolePass} (hrole : c.object = some role)
    (hagree : ∀ hierarchy : RoleHierarchy, hierarchy.Agree roles role.spec.vshard.clusterRoles ↔ ¬unwanted)
    (hgoes : (configureVShardRoles.run c).Goes t (said ++ t) o)
    (hsame : ∀ e ∈ said, ∀ told, TellsRoles uuid told e → told = roles) :
    (∃ e ∈ said, SetsRolesOf uuid e.ask) ↔ unwanted ∧ ∃ e ∈ said, TellsRoles uuid roles e := by
  have hkeeps : Keeps (fun _ _ => True) (configureVShardRoles.run c)
      (fun t _ => SetsIfTold uuid roles unwanted t) [] := by
    rw [configureVShardRoles, Step.reading, Step.ofAttempt]
    simp only [keeps_bind, keeps_run, keepsOr_bind]
    rw [resolved]
    split
    next role' cluster leader hobject _ _ =>
      obtain rfl : role = role' := Option.some.inj (hrole.symm.trans hobject)
      rw [keepsOr_pure]
      refine (configureAll_setsIfTold hagree setsIfTold_nil).mono (fun t configured ht => ?_) fun t e ht => ht
      rw [keepsOr_ite]
      refine ⟨fun _ => ht, fun _ => ?_⟩
      simp only [keepsOr_log, keeps_log, keepsOr_bind, true_and]
      exact ht.elsewhere _ _ (by simp)
    all_goals exact setsIfTold_nil
  obtain ⟨said', hsaid, hcourse⟩ := (goes_append []).1 hgoes
  obtain rfl := List.append_cancel_right hsaid
  exact (hkeeps.of_goes hcourse).1 hsame

end RolePass

namespace EditReplicaset

/-- Whatever roles are wanted of a replicaset and whatever roles that do not agree with them it has: an edit that
sets them sends one replicaset. An instance that overwrites the members that it is sent of what it holds, and
keeps the others, tells the wanted roles afterwards exactly if some are wanted. While it does so, the step that
keeps the roles of replicasets sets them again exactly if none are wanted and it was told the roles. -/
theorem update_takes_iff {hierarchy : RoleHierarchy} {actual wanted : List String} (leader : Pod) (uuid : String)
    (hnot : ¬hierarchy.Agree actual wanted) :
    ∃ sent, (AdminRequest.setReplicasetRoles leader uuid wanted).args =
        [.obj [("replicasets", .arr [Json.ofMap sent])]] ∧
      ∀ held, rolesTold leader uuid held = .ok actual →
        ∃ updated, rolesTold leader uuid (held.union sent) = .ok updated ∧ (updated = wanted ↔ wanted ≠ []) ∧
          ∀ c role t said o, MemberPass.object (α := Role) c = some role → role.spec.vshard.clusterRoles = wanted →
            (RolePass.configureVShardRoles.run c).Goes t (said ++ t) o →
            (∀ e ∈ said, ∀ told, RolePass.TellsRoles uuid told e → told = updated) →
            ((∃ e ∈ said, RolePass.SetsRolesOf uuid e.ask) ↔
              wanted = [] ∧ ∃ e ∈ said, RolePass.TellsRoles uuid updated e) := by
  refine ⟨_, args_setRoles leader uuid wanted, fun held hheld => ?_⟩
  by_cases hwanted : wanted = []
  · subst hwanted
    have hactual : actual ≠ [] := fun hnone => hnot (RoleHierarchy.agree_nil_iff.2 hnone)
    refine ⟨actual, (rolesTold_union_nil leader uuid held).trans hheld, by simp [hactual], ?_⟩
    intro c role t said o hrole hroles hgoes hsame
    refine RolePass.configureVShardRoles_sets_iff hrole (fun hierarchy => ?_) hgoes hsame
    simp [hroles, RoleHierarchy.agree_nil_iff, hactual]
  · refine ⟨wanted, rolesTold_union leader uuid held hwanted, by simp [hwanted], ?_⟩
    intro c role t said o hrole hroles hgoes hsame
    refine RolePass.configureVShardRoles_sets_iff hrole (fun hierarchy => ?_) hgoes hsame
    simp [hroles, RoleHierarchy.Agree, hwanted]

/-! ### An example: the roles of a router -/

/-- A pod of the shop. -/
def router : Pod := ⟨{ ObjectMeta.blank with name := some "router-0-0", ns := some "db" }, none, none⟩

/-- The shop. -/
def shop : Cluster :=
  ⟨{ ObjectMeta.blank with name := some "shop", ns := some "db" }, .default, some ⟨.ready, true, some "router-0-0"⟩⟩

/-- A role of one replicaset. -/
def routers (wanted : List String) : Role where
  metadata := { ObjectMeta.blank with name := some "router", ns := some "db" }
  spec := { RoleSpec.default with vshard := { VshardSpec.default with clusterRoles := wanted } }
  status := none

/-- A pass over the role that knows its cluster and the leader. -/
def led (wanted : List String) : RolePass := ⟨⟨"db", "router"⟩, some (routers wanted), some shop, some router⟩

/-- The identifier of its replicaset. -/
def routerUuid : String := Replicaset.uuid "router" 0

/-- The replicaset as an instance holds it. -/
def routerHeld (roles : List String) : SortedMap Json :=
  SortedMap.empty.insert "roles" (.arr (roles.map .str))

/-- Roles can be enabled: they are told then, and not set again. -/
theorem router_enabled_once :
    ∃ sent, (AdminRequest.setReplicasetRoles router routerUuid ["vshard-router"]).args =
        [.obj [("replicasets", .arr [Json.ofMap sent])]] ∧
      rolesTold router routerUuid ((routerHeld []).union sent) = .ok ["vshard-router"] ∧
      ∀ said o, (RolePass.configureVShardRoles.run (led ["vshard-router"])).Goes [] (said ++ []) o →
        (∀ e ∈ said, ∀ told, RolePass.TellsRoles routerUuid told e → told = ["vshard-router"]) →
        ¬∃ e ∈ said, RolePass.SetsRolesOf routerUuid e.ask := by
  have hnot : ¬RoleHierarchy.Agree .empty [] ["vshard-router"] := by
    intro hagree
    exact absurd (RoleHierarchy.agree_nil_iff.1 hagree.symm) (by simp)
  obtain ⟨sent, hargs, hheld⟩ := update_takes_iff router routerUuid hnot
  obtain ⟨updated, htold, htakes, hsets⟩ := hheld (routerHeld []) rfl
  obtain rfl : updated = ["vshard-router"] := htakes.2 (by simp)
  refine ⟨sent, hargs, htold, fun said o hgoes hsame => ?_⟩
  rw [hsets (led ["vshard-router"]) (routers ["vshard-router"]) [] said o rfl rfl hgoes hsame]
  simp

/-- What the pass reads of the store. -/
def listed : Talk Surroundings :=
  [⟨Request.store (.list .statefulSet "db" (Labels.ordinalSelector "shop" "router" 0)), Except.ok [⟨.blank, none⟩]⟩]

/-- A pass that wants no roles and is told one. -/
def saidToRouter : Talk Surroundings :=
  ⟨Request.admin (.setReplicasetRoles router routerUuid []), Except.ok ()⟩ ::
    ⟨Request.log .info "Setting replicaset roles", ()⟩ ::
    ⟨Request.admin (.replicasetRoles router routerUuid), Except.ok ["vshard-router"]⟩ ::
    ⟨Request.admin (.rolesHierarchy router), Except.ok .empty⟩ :: listed

/-- The last role cannot be disabled: the edit says nothing of roles, so that they stay and are set again. -/
theorem router_never_disabled :
    ¬RoleHierarchy.Agree .empty ["vshard-router"] [] ∧
      ∃ sent, (AdminRequest.setReplicasetRoles router routerUuid []).args =
          [.obj [("replicasets", .arr [Json.ofMap sent])]] ∧
        rolesTold router routerUuid ((routerHeld ["vshard-router"]).union sent) = .ok ["vshard-router"] ∧
        (RolePass.configureVShardRoles.run (led [])).Goes [] saidToRouter (.next, led []) ∧
        ∃ e ∈ saidToRouter, RolePass.SetsRolesOf routerUuid e.ask := by
  have hnot : ¬RoleHierarchy.Agree .empty ["vshard-router"] [] := by simp [RoleHierarchy.agree_nil_iff]
  refine ⟨hnot, _, args_setRoles router routerUuid [], (rolesTold_union_nil router routerUuid _).trans rfl, ?_,
    _, List.mem_cons_self, RolePass.setsRolesOf_iff.2 rfl⟩
  have hlive : (RolePass.liveStatefulSets ⟨"db", routers [], shop, router⟩ 0).run.Goes [] listed
      (.ok [⟨.blank, none⟩]) := ⟨Except.ok [⟨.blank, none⟩], rfl, rfl⟩
  have hvisit : (RolePass.configureReplicaset ⟨"db", routers [], shop, router⟩ 0).run.Goes listed saidToRouter
      (.ok ()) := RolePass.configureReplicaset_goes 0 hnot
  have hall : (RolePass.configureAll ⟨"db", routers [], shop, router⟩).run.Goes [] saidToRouter (.ok true) := by
    show (throughUpTo _ 1 0 true).run.Goes [] _ _
    exact .run_bind (.run_bind (.run_lift hlive) (.run_bind (.run_lift hvisit) ⟨rfl, rfl⟩)) ⟨rfl, rfl⟩
  refine goes_bind.2 ⟨saidToRouter, .ok (.next, led []), ?_, rfl, rfl⟩
  exact .run_bind (.run_bind ⟨rfl, rfl⟩ (.run_bind hall ⟨rfl, rfl⟩)) ⟨rfl, rfl⟩

end EditReplicaset

end ClusterKeeper
