import ClusterKeeper.Proofs.Cartridge.RoleUpdate

/-!
Roles that a replicaset reports beyond those that were set. Cartridge enables by itself what a role depends on, and
reports it; a role that depends only on what is enabled may be reported too. None of this makes a difference: a
report agrees with the wanted roles when it has them and is in their closure, and then they are not set again
(`RoleHierarchy.agreement`).

The step that keeps the roles of replicasets sets them only after it was told a hierarchy, and roles that disagree
with the wanted ones under it (`RolePass.SetsOnDisagreement`).
-/

namespace ClusterKeeper

open Program

namespace RolePass

variable {c : RolePass} {r : Resolved} {role : Role} {wanted : List String} {t : Talk Surroundings}

/-- The turn tells a hierarchy of roles. -/
def TellsHierarchy (hierarchy : RoleHierarchy) (e : Turn Surroundings) : Prop :=
  ∃ leader, e = ⟨Request.admin (.rolesHierarchy leader), Except.ok hierarchy⟩

/-- The roles of a replicaset are set only after a hierarchy was told, and roles of that replicaset that disagree
with the wanted ones under it. -/
def SetsOnDisagreement (wanted : List String) (t : Talk Surroundings) (q : Request) : Prop :=
  ∀ uuid, SetsRolesOf uuid q → ∃ hierarchy told, (∃ e ∈ t, TellsHierarchy hierarchy e) ∧
    (∃ e ∈ t, TellsRoles uuid told e) ∧ ¬hierarchy.Agree told wanted

instance : AdmitsDeedFree (SetsOnDisagreement wanted) where
  of_deedFree t q hq := by
    rintro uuid ⟨leader, roles, rfl⟩
    exact hq.elim

theorem configureReplicaset_setsOnDisagreement (ordinal : Nat) :
    KeepsOr (SetsOnDisagreement r.role.spec.vshard.clusterRoles) (configureReplicaset r ordinal) (fun _ _ => True)
      (fun _ _ => True) t := by
  have hadmits : ∀ {t : Talk Surroundings} {q : Request}, q.DeedFree →
      SetsOnDisagreement r.role.spec.vshard.clusterRoles t q := fun hq => AdmitsDeedFree.of_deedFree _ _ hq
  simp only [configureReplicaset, keepsOr_bind, keepsOr_ask, keepsOr_ite, keepsOr_pure, keepsOr_lift, keeps_log,
    implies_true, and_true]
  refine ⟨hadmits trivial, fun hierarchy => ⟨hadmits trivial, fun told => ⟨trivial, fun hnot => ⟨hadmits trivial, ?_⟩⟩⟩⟩
  intro uuid hsets
  obtain rfl : Replicaset.uuid r.role.name ordinal = uuid := setsRolesOf_iff.1 hsets
  refine ⟨hierarchy, told, ⟨_, ?_, r.leader, rfl⟩, ⟨_, ?_, r.leader, rfl⟩, hnot⟩
  · exact List.mem_cons_of_mem _ (List.mem_cons_of_mem _ List.mem_cons_self)
  · exact List.mem_cons_of_mem _ List.mem_cons_self

theorem configureAll_setsOnDisagreement (r : Resolved) :
    KeepsOr (SetsOnDisagreement r.role.spec.vshard.clusterRoles) (configureAll r) (fun _ _ => True)
      (fun _ _ => True) t := by
  refine keepsOr_throughUpTo (fun ordinal allConfigured t _ => ?_) _ _ _ trivial
  simp only [keepsOr_bind, keepsOr_lift, keeps_run]
  have hlisted : KeepsOr (SetsOnDisagreement r.role.spec.vshard.clusterRoles) (liveStatefulSets r ordinal)
      (fun _ _ => True) (fun _ _ => True) t :=
    ((keeps_run _).1 (liveStatefulSets_deedFree ordinal t)).relax fun t q hq => AdmitsDeedFree.of_deedFree t q hq
  refine hlisted.mono (fun t stateful _ => ?_) fun t e _ => ?_
  · cases stateful with
    | nil => trivial
    | cons s stateful =>
      simp only [keepsOr_bind, keepsOr_lift, keeps_run]
      refine (configureReplicaset_setsOnDisagreement ordinal).mono (fun _ _ _ => trivial) fun t e _ => ?_
      rw [keepsOr_log, keeps_log_iff]
      trivial
  · rw [keepsOr_log, keeps_log_iff]
    trivial

theorem configureVShardRoles_setsOnDisagreement (hrole : c.object = some role) :
    Keeps (SetsOnDisagreement role.spec.vshard.clusterRoles) (configureVShardRoles.run c) (fun _ _ => True) t := by
  rw [configureVShardRoles, Step.reading, Step.ofAttempt]
  simp only [keeps_bind, keeps_run, keepsOr_bind]
  rw [resolved]
  split
  next role' cluster leader hobject _ _ =>
    obtain rfl : role = role' := Option.some.inj (hrole.symm.trans hobject)
    rw [keepsOr_pure]
    refine (configureAll_setsOnDisagreement ⟨c.key.ns, role, cluster, leader⟩).mono (fun t configured _ => ?_)
      fun _ _ _ => trivial
    rw [keepsOr_ite]
    refine ⟨fun _ => trivial, fun _ => ?_⟩
    rw [keepsOr_log_bind]
    trivial
  all_goals trivial

/-- The course of a replicaset whose roles agree with the wanted ones, when all is answered. -/
theorem configureReplicaset_goes_of_agree {hierarchy : RoleHierarchy} {told : List String} (ordinal : Nat)
    (hagree : hierarchy.Agree told r.role.spec.vshard.clusterRoles) :
    (configureReplicaset r ordinal).run.Goes t
      (⟨Request.admin (.replicasetRoles r.leader (Replicaset.uuid r.role.name ordinal)), Except.ok told⟩ ::
        ⟨Request.admin (.rolesHierarchy r.leader), Except.ok hierarchy⟩ :: t) (.ok ()) := by
  simp only [configureReplicaset, goes_run_bind]
  refine ⟨_, .ok hierarchy, goes_question.2 rfl, _, .ok told, goes_question.2 rfl, ?_⟩
  simp only [if_pos hagree]
  exact ⟨rfl, rfl⟩

/-- Roles that are only ever told to agree with the wanted ones are not set. -/
theorem not_setsRolesOf {uuid : String} {hierarchy : RoleHierarchy} {said : Talk Surroundings}
    {o : Outcome × RolePass} (hrole : c.object = some role)
    (hgoes : (configureVShardRoles.run c).Goes t (said ++ t) o)
    (hhierarchy : ∀ e ∈ said, ∀ told, TellsHierarchy told e → told = hierarchy)
    (hagree : ∀ e ∈ said, ∀ told, TellsRoles uuid told e → hierarchy.Agree told role.spec.vshard.clusterRoles) :
    ¬∃ e ∈ said, SetsRolesOf uuid e.ask := by
  rintro ⟨e, he, hsets⟩
  obtain ⟨said', hsaid, hcourse⟩ := (goes_append []).1 hgoes
  obtain rfl : said = said' := List.append_cancel_right hsaid
  have hobeys := ((configureVShardRoles_setsOnDisagreement hrole).of_goes hcourse).2 trivial
  obtain ⟨later, earlier, rfl⟩ := List.append_of_mem he
  have hearlier : ∀ e' ∈ earlier, e' ∈ later ++ e :: earlier :=
    fun e' he' => List.mem_append_right _ (List.mem_cons_of_mem _ he')
  obtain ⟨hierarchy', told, ⟨e₁, he₁, htells₁⟩, ⟨e₂, he₂, htells₂⟩, hnot⟩ :=
    Talk.obeys_of_append hobeys uuid hsets
  obtain rfl := hhierarchy e₁ (hearlier e₁ he₁) hierarchy' htells₁
  exact hnot (hagree e₂ (hearlier e₂ he₂) told htells₂)

end RolePass

namespace RoleHierarchy

variable {h : RoleHierarchy} {a b : List String}

/-- A list that goes beyond another one, but not beyond its closure, agrees with it. -/
theorem agree_of_subset (hsub : a ⊆ b) (henables : h.Enables a b) : h.Agree a b :=
  agree_iff.2 ⟨enables_of_subset hsub, henables⟩

theorem equivalence_agree (h : RoleHierarchy) : Equivalence h.Agree := ⟨fun _ => rfl, Eq.symm, Eq.trans⟩

/-- For every hierarchy: two lists of roles agree exactly if every role of each is in the closure of the other.
Agreement is an equivalence relation that knows neither order nor repetition, and a list agrees with every list that
has its roles and is in its closure. So the step that keeps the roles of a replicaset does not set them while all
that it is told of them has the wanted ones and is in their closure. -/
theorem agreement (h : RoleHierarchy) :
    (∀ a b, h.Agree a b ↔ (∀ role ∈ a, (h.normalized b).contains role = true) ∧
      ∀ role ∈ b, (h.normalized a).contains role = true) ∧
    Equivalence h.Agree ∧
    (∀ a a', (∀ role, role ∈ a ↔ role ∈ a') → h.Agree a a') ∧
    (∀ a b, a ⊆ b → (∀ role ∈ b, (h.normalized a).contains role = true) → h.Agree a b) ∧
    ∀ c role t said o uuid, MemberPass.object (α := Role) c = some role →
      (RolePass.configureVShardRoles.run c).Goes t (said ++ t) o →
      (∀ e ∈ said, ∀ told, RolePass.TellsHierarchy told e → told = h) →
      (∀ e ∈ said, ∀ told, RolePass.TellsRoles uuid told e → role.spec.vshard.clusterRoles ⊆ told ∧
        ∀ r ∈ told, (h.normalized role.spec.vshard.clusterRoles).contains r = true) →
      ¬∃ e ∈ said, RolePass.SetsRolesOf uuid e.ask := by
  refine ⟨fun a b => agree_iff, equivalence_agree h, fun a a' hsame => ?_, fun a b => agree_of_subset, ?_⟩
  · exact agree_of_subset (fun role hrole => (hsame role).1 hrole)
      (enables_of_subset fun role hrole => (hsame role).2 hrole)
  · intro c role t said o uuid hrole hgoes hhierarchy hreported
    refine RolePass.not_setsRolesOf hrole hgoes hhierarchy fun e he told htold => ?_
    obtain ⟨hsub, henables⟩ := hreported e he told htold
    exact (agree_of_subset hsub henables).symm

/-! ### An example: the router of an application -/

/-- An application has a role of its own for routers. -/
def application : RoleHierarchy := .ofList [("app.roles.router", ["vshard-router"]), ("vshard-router", [])]

/-- The router is wanted, and the application's role is reported with it. -/
def toldOfRouter : Talk Surroundings :=
  ⟨Request.admin (.replicasetRoles EditReplicaset.router EditReplicaset.routerUuid),
      Except.ok ["vshard-router", "app.roles.router"]⟩ ::
    ⟨Request.admin (.rolesHierarchy EditReplicaset.router), Except.ok application⟩ :: EditReplicaset.listed

/-- The application's role depends on the router alone, so that it is in the closure. -/
theorem application_enables : application.Enables ["vshard-router"] ["vshard-router", "app.roles.router"] := by
  have hclosed : Closed application ["vshard-router"] (names (application.normalized ["vshard-router"])) :=
    (isLeast_normalized application ["vshard-router"]).1
  have hrouter : "vshard-router" ∈ names (application.normalized ["vshard-router"]) := hclosed.has _ (by simp)
  have hdependencies : application.dependencies "app.roles.router" = ["vshard-router"] := by decide
  have happlication : "app.roles.router" ∈ names (application.normalized ["vshard-router"]) := by
    refine hclosed.implies _ (by simp [hdependencies]) ?_
    simpa [hdependencies] using hrouter
  simp only [Enables, List.forall_mem_cons, List.not_mem_nil, false_imp_iff, implies_true, and_true]
  exact ⟨hrouter, happlication⟩

/-- What the pass works on. -/
def resolvedRouter : RolePass.Resolved :=
  ⟨"db", EditReplicaset.routers ["vshard-router"], EditReplicaset.shop, EditReplicaset.router⟩

/-- The pass goes on when it was told of the application's role. -/
theorem goes_toldOfRouter (hagree : application.Agree ["vshard-router", "app.roles.router"] ["vshard-router"]) :
    (RolePass.configureVShardRoles.run (EditReplicaset.led ["vshard-router"])).Goes [] toldOfRouter
      (.next, EditReplicaset.led ["vshard-router"]) := by
  have hlive : (RolePass.liveStatefulSets resolvedRouter 0).run.Goes [] EditReplicaset.listed
      (.ok [⟨.blank, none⟩]) := ⟨Except.ok [⟨.blank, none⟩], rfl, rfl⟩
  have hvisit : (RolePass.configureReplicaset resolvedRouter 0).run.Goes EditReplicaset.listed toldOfRouter
      (.ok ()) := RolePass.configureReplicaset_goes_of_agree 0 hagree
  have hall : (RolePass.configureAll resolvedRouter).run.Goes [] toldOfRouter (.ok true) := by
    show (throughUpTo _ 1 0 true).run.Goes [] _ _
    exact .run_bind (.run_bind (.run_lift hlive) (.run_bind (.run_lift hvisit) ⟨rfl, rfl⟩)) ⟨rfl, rfl⟩
  refine goes_bind.2 ⟨toldOfRouter, .ok (.next, EditReplicaset.led ["vshard-router"]), ?_, rfl, rfl⟩
  exact .run_bind (.run_bind ⟨rfl, rfl⟩ (.run_bind hall ⟨rfl, rfl⟩)) ⟨rfl, rfl⟩

/-- A role that is reported because its only dependency is enabled does not make the pass set the roles again. -/
theorem implied_role_left :
    application.Agree ["vshard-router"] ["vshard-router", "app.roles.router"] ∧
      (RolePass.configureVShardRoles.run (EditReplicaset.led ["vshard-router"])).Goes [] toldOfRouter
        (.next, EditReplicaset.led ["vshard-router"]) ∧
      ¬∃ e ∈ toldOfRouter, RolePass.SetsRolesOf EditReplicaset.routerUuid e.ask := by
  obtain ⟨_, _, _, hbeyond, hpass⟩ := agreement application
  have hsub : ["vshard-router"] ⊆ ["vshard-router", "app.roles.router"] := by simp
  have hagree : application.Agree ["vshard-router"] ["vshard-router", "app.roles.router"] :=
    hbeyond _ _ hsub application_enables
  have hcourse := goes_toldOfRouter hagree.symm
  refine ⟨hagree, hcourse, hpass _ _ [] _ _ _ rfl hcourse ?_ ?_⟩
  · rintro e he told ⟨leader, rfl⟩
    simp only [toldOfRouter, EditReplicaset.listed, List.mem_cons, List.not_mem_nil, or_false] at he
    rcases he with he | he | he
    · cases he
    · cases he
      rfl
    · cases he
  · rintro e he told ⟨leader, rfl⟩
    simp only [toldOfRouter, EditReplicaset.listed, List.mem_cons, List.not_mem_nil, or_false] at he
    rcases he with he | he | he
    · cases he
      exact ⟨hsub, application_enables⟩
    · cases he
    · cases he

end RoleHierarchy

end ClusterKeeper
