import ClusterKeeper.Proofs.Cartridge.RoleUpdate
import ClusterKeeper.Proofs.Pass.Probing
import ClusterKeeper.Proofs.Program.Rounds

/-!
How the roles of replicasets are set, one replicaset after another. A replicaset may have nothing to be set on,
may fail to be listed, to be read or to be set, or may have its roles set: whatever becomes of it, the next one
gets the same attempt (`RolePass.Attempted`). A failure is remembered until the last one is done, so that the step
is made again then.

The talk of the step falls into rounds. What is said in a round is listed case by case (`RolePass.Configures`), and
what an attempt is follows from the list.

Main statement: `RolePass.attempted_of_goes`.
-/

namespace ClusterKeeper

open Program

/-- The turn was answered with an error. -/
inductive Turn.Fails : Turn Surroundings → Prop
  | store {q : StoreRequest} {e : OperatorError} : Fails ⟨Request.store q, Except.error e⟩
  | admin {q : AdminRequest} {e : AdminError} : Fails ⟨Request.admin q, Except.error e⟩

namespace Turn

@[simp] theorem fails_store {q : StoreRequest} {a : Except OperatorError q.Result} :
    Fails ⟨Request.store q, a⟩ ↔ ∃ e, a = .error e := by
  constructor
  · rintro ⟨⟩
    exact ⟨_, rfl⟩
  · rintro ⟨e, rfl⟩
    exact .store

@[simp] theorem fails_admin {q : AdminRequest} {a : Except AdminError q.Result} :
    Fails ⟨Request.admin q, a⟩ ↔ ∃ e, a = .error e := by
  constructor
  · rintro ⟨⟩
    exact ⟨_, rfl⟩
  · rintro ⟨e, rfl⟩
    exact .admin

@[simp] theorem not_fails_log {level : LogLevel} {message : String} :
    ¬Fails ⟨Request.log level message, ()⟩ := nofun

theorem Logs.not_fails {e : Turn Surroundings} (h : e.Logs) : ¬e.Fails := by
  obtain ⟨level, message, hask⟩ := h
  rintro ⟨⟩ <;> cases hask

end Turn

/-- The roles that a request sets, with the instance that it goes to and the replicaset. -/
def Request.rolesSet? : Request → Option (Pod × String × List String)
  | .admin (.setReplicasetRoles leader uuid roles) => some (leader, uuid, roles)
  | _ => none

/-- The roles that were set, the latest first. -/
def Talk.rolesSet (t : Talk Surroundings) : List (Pod × String × List String) := t.filterMap (·.ask.rolesSet?)

namespace RolePass

variable {r : Resolved} {ordinal : Nat} {t t' said : Talk Surroundings}

/-! ### What is said for one replicaset -/

/-- The identifier of a replicaset. -/
def Resolved.uuid (r : Resolved) (ordinal : Nat) : String := Replicaset.uuid r.role.name ordinal

/-- The roles that its replicasets are to have. -/
def Resolved.wanted (r : Resolved) : List String := r.role.spec.vshard.clusterRoles

/-- The leader is asked on which roles others depend. -/
abbrev hierarchyTold (r : Resolved) (answer : Except AdminError RoleHierarchy) : Turn Surroundings :=
  ⟨Request.admin (.rolesHierarchy r.leader), answer⟩

/-- The leader is asked for the roles of a replicaset. -/
abbrev rolesTold (r : Resolved) (ordinal : Nat) (answer : Except AdminError (List String)) : Turn Surroundings :=
  ⟨Request.admin (.replicasetRoles r.leader (r.uuid ordinal)), answer⟩

/-- The leader is told the wanted roles of a replicaset. -/
abbrev rolesGiven (r : Resolved) (ordinal : Nat) (answer : Except AdminError Unit) : Turn Surroundings :=
  ⟨Request.admin (.setReplicasetRoles r.leader (r.uuid ordinal) r.wanted), answer⟩

/-- What is said when the roles of a replicaset are compared with the wanted ones. -/
inductive Compares (r : Resolved) (ordinal : Nat) : Talk Surroundings → Except AdminError Unit → Prop
  | unranked (e : AdminError) : Compares r ordinal [hierarchyTold r (.error e)] (.error e)
  | unread (hierarchy : RoleHierarchy) (e : AdminError) :
      Compares r ordinal [rolesTold r ordinal (.error e), hierarchyTold r (.ok hierarchy)] (.error e)
  | agreed (hierarchy : RoleHierarchy) (actual : List String) : hierarchy.Agree actual r.wanted →
      Compares r ordinal [rolesTold r ordinal (.ok actual), hierarchyTold r (.ok hierarchy)] (.ok ())
  | given (hierarchy : RoleHierarchy) (actual : List String) (answer : Except AdminError Unit) :
      ¬hierarchy.Agree actual r.wanted →
      Compares r ordinal [rolesGiven r ordinal answer, ⟨Request.log .info "Setting replicaset roles", ()⟩,
        rolesTold r ordinal (.ok actual), hierarchyTold r (.ok hierarchy)] answer

/-- What is said for one replicaset, and whether it did well. -/
inductive Configures (r : Resolved) (ordinal : Nat) : Talk Surroundings → Bool → Prop
  | unlisted (e : OperatorError) : Configures r ordinal
      [⟨Request.log .warn "Unable to list replicaset StatefulSets", ()⟩, listed r ordinal (.error e)] false
  | vacant (all : List StatefulSet) : (∀ s ∈ all, s.metadata.isDeleting = true) →
      Configures r ordinal [listed r ordinal (.ok all)] true
  | kept (all : List StatefulSet) (said : Talk Surroundings) : (∃ s ∈ all, s.metadata.isDeleting = false) →
      Compares r ordinal said (.ok ()) → Configures r ordinal (said ++ [listed r ordinal (.ok all)]) true
  | broken (all : List StatefulSet) (said : Talk Surroundings) (e : AdminError) :
      (∃ s ∈ all, s.metadata.isDeleting = false) → Compares r ordinal said (.error e) →
      Configures r ordinal (⟨Request.log .warn "Unable to configure replicaset roles", ()⟩ ::
        said ++ [listed r ordinal (.ok all)]) false

theorem configureReplicaset_compares (r : Resolved) (ordinal : Nat) (t : Talk Surroundings) :
    Keeps (fun _ _ => True) (configureReplicaset r ordinal).run
      (fun t' res => ∃ said, t' = said ++ t ∧ Compares r ordinal said res) t := by
  simp only [configureReplicaset, keeps_run, keepsOr_bind, keepsOr_ask, keepsOr_ite, keepsOr_pure, keepsOr_lift,
    keeps_log, true_and]
  refine ⟨fun hierarchy => ⟨fun actual => ⟨fun hagree => ?_, fun hnot => ?_⟩, fun e => ?_⟩, fun e => ?_⟩
  · exact ⟨[_, _], rfl, .agreed hierarchy actual hagree⟩
  · exact ⟨fun _ => ⟨[_, _, _, _], rfl, .given hierarchy actual (.ok ()) hnot⟩,
      fun e => ⟨[_, _, _, _], rfl, .given hierarchy actual (.error e) hnot⟩⟩
  · exact ⟨[_, _], rfl, .unread hierarchy e⟩
  · exact ⟨[_], rfl, .unranked e⟩

/-- None is at work when all are being deleted. -/
theorem filter_eq_nil_iff_deleting {all : List StatefulSet} :
    (all.filter fun s => !s.metadata.isDeleting) = [] ↔ ∀ s ∈ all, s.metadata.isDeleting = true := by
  simp [List.filter_eq_nil_iff]

/-- The talk of the loop over all replicasets falls into rounds, each of which says what is said for one. -/
theorem configureAll_rounds (r : Resolved) (t : Talk Surroundings) :
    Keeps (fun _ _ => True) (configureAll r).run (fun t' res => ∃ rounds, t' = Round.heard rounds ++ t ∧
      Rounds (Configures r) (Rounds.flag Except.ok) r.role.replicasets.toNat 0 true rounds res) t := by
  refine throughUpTo_rounds (fun ordinal up => ?_) _ _ _ t
  simp only [keeps_run, keepsOr_bind, keepsOr_lift, liveStatefulSets, Attempt.list, keepsOr_store, keepsOr_pure,
    true_and]
  refine ⟨fun all => ?_, fun e => ?_⟩
  · split
    next h => cases h
    next h =>
      have hnone : (all.filter fun s => !s.metadata.isDeleting) = [] := Except.ok.inj h
      exact ⟨true, .vacant all (filter_eq_nil_iff_deleting.1 hnone), (Rounds.flag_of_well rfl).symm⟩
    next live hne h =>
      have hlive : ∃ s ∈ all, s.metadata.isDeleting = false := by
        obtain rfl := Except.ok.inj h
        simpa [filter_eq_nil_iff_deleting] using hne
      rw [keepsOr_bind, keepsOr_lift]
      refine (configureReplicaset_compares r ordinal _).mono fun t' compared ht' => ?_
      obtain ⟨said, rfl, hsaid⟩ := ht'
      cases compared with
      | ok _ => exact ⟨true, .kept all said hlive hsaid, (Rounds.flag_of_well rfl).symm⟩
      | error e =>
        simp only [keepsOr_bind, keepsOr_log, keeps_log, keepsOr_pure, true_and]
        exact ⟨false, .broken all said e hlive hsaid, (Rounds.flag_of_not_well rfl).symm⟩
  · simp only [keepsOr_log, keeps_log, true_and]
    exact ⟨false, .unlisted e, (Rounds.flag_of_not_well rfl).symm⟩

/-- In the loop over all replicasets each of them gets its round, and the flag tells of all of them. -/
theorem configureAll_keeps (r : Resolved) (t : Talk Surroundings) :
    KeepsOr (fun _ _ => True) (configureAll r)
      (fun t' up => ∃ rounds : List (Round Surroundings Bool), t' = Round.heard rounds ++ t ∧
        rounds.length = r.role.replicasets.toNat ∧
        (∀ ordinal v, rounds[ordinal]? = some v → Configures r ordinal v.said v.came) ∧
        (up = true ↔ ∀ v ∈ rounds, v.came = true))
      (fun _ _ => False) t := by
  refine ((keeps_run _).1 (configureAll_rounds r t)).mono (fun t' up h => ?_) fun t' e h => ?_
  · obtain ⟨rounds, rfl, hrounds⟩ := h
    refine ⟨rounds, rfl, hrounds.length_eq_of_ok rfl, fun ordinal v hv => ?_, ?_⟩
    · simpa using hrounds.tells_of_getElem? hv
    · simpa using (hrounds.flag_iff rfl).2
  · obtain ⟨rounds, _, hrounds⟩ := h
    obtain ⟨_, _, _, _, hlast, _⟩ := hrounds.exists_last rfl
    cases hlast

/-! ### What an attempt is -/

/-- The roles of a replicaset were read and do not agree with the wanted ones. -/
def Differs (r : Resolved) (ordinal : Nat) (said : Talk Surroundings) : Prop :=
  ∃ hierarchy actual, hierarchyTold r (.ok hierarchy) ∈ said ∧ rolesTold r ordinal (.ok actual) ∈ said ∧
    ¬hierarchy.Agree actual r.wanted

/-- A replicaset was listed and has a StatefulSet that is not being deleted. -/
def Inhabited (r : Resolved) (ordinal : Nat) (said : Talk Surroundings) : Prop :=
  ∃ all, listed r ordinal (.ok all) ∈ said ∧ ∃ s ∈ all, s.metadata.isDeleting = false

/-- The roles of a replicaset were attempted: its StatefulSets were listed, before anything else and once; if there
is one at work the hierarchy was asked for, and then the roles; the wanted ones were set, once and nowhere else, just
when what was read differs from them; and the attempt did well just when nothing was answered with an error. -/
structure Attempted (r : Resolved) (ordinal : Nat) (said : Talk Surroundings) (well : Bool) : Prop where
  lists : ∃ answer later, said = later ++ [listed r ordinal answer] ∧ ∀ e ∈ later, ∀ q, e.ask ≠ .store q
  reads : Inhabited r ordinal said → ∃ answer, hierarchyTold r answer ∈ said ∧
    ∀ hierarchy, answer = .ok hierarchy → ∃ answer', rolesTold r ordinal answer' ∈ said
  sets : Inhabited r ordinal said ∧ Differs r ordinal said → said.rolesSet = [(r.leader, r.uuid ordinal, r.wanted)]
  spares : ¬(Inhabited r ordinal said ∧ Differs r ordinal said) → said.rolesSet = []
  well_iff : well = true ↔ ∀ e ∈ said, ¬e.Fails

/-- What comparing the roles contributes to an attempt. -/
structure Compared (r : Resolved) (ordinal : Nat) (said : Talk Surroundings) (res : Except AdminError Unit) :
    Prop where
  asks : ∀ e ∈ said, ∀ q, e.ask ≠ .store q
  reads : ∃ answer, hierarchyTold r answer ∈ said ∧
    ∀ hierarchy, answer = .ok hierarchy → ∃ answer', rolesTold r ordinal answer' ∈ said
  sets : Differs r ordinal said → said.rolesSet = [(r.leader, r.uuid ordinal, r.wanted)]
  spares : ¬Differs r ordinal said → said.rolesSet = []
  ok_iff : res = .ok () ↔ ∀ e ∈ said, ¬e.Fails

theorem Compares.compared {res : Except AdminError Unit} (h : Compares r ordinal said res) :
    Compared r ordinal said res := by
  cases h with
  | unranked e => exact {
      asks := by simp
      reads := ⟨.error e, by simp⟩
      sets := by simp [Differs]
      spares := fun _ => rfl
      ok_iff := by simp }
  | unread hierarchy e => exact {
      asks := by simp
      reads := ⟨.ok hierarchy, by simp⟩
      sets := by simp [Differs]
      spares := fun _ => rfl
      ok_iff := by simp }
  | agreed hierarchy actual hagree => exact {
      asks := by simp
      reads := ⟨.ok hierarchy, by simp⟩
      sets := by simp [Differs, hagree]
      spares := fun _ => rfl
      ok_iff := by simp }
  | given hierarchy actual _ hnot => exact {
      asks := by simp
      reads := ⟨.ok hierarchy, by simp⟩
      sets := fun _ => rfl
      spares := fun h => absurd ⟨hierarchy, actual, by simp, by simp, hnot⟩ h
      ok_iff := by cases res <;> simp }

section

variable {logs : Talk Surroundings} (hlogs : ∀ e ∈ logs, e.Logs) {all : List StatefulSet}
include hlogs

/-- Between the listing and lines of the log, requests to instances are those that were made. -/
theorem admin_mem_framed {q : AdminRequest} {a : Except AdminError q.Result} :
    (⟨Request.admin q, a⟩ : Turn Surroundings) ∈ logs ++ said ++ [listed r ordinal (.ok all)] ↔
      (⟨Request.admin q, a⟩ : Turn Surroundings) ∈ said := by
  have hlog : (⟨Request.admin q, a⟩ : Turn Surroundings) ∉ logs := by
    intro hmem
    obtain ⟨_, _, hask⟩ := hlogs _ hmem
    cases hask
  simp [hlog]

theorem rolesSet_framed : Talk.rolesSet (logs ++ said ++ [listed r ordinal (.ok all)]) = said.rolesSet := by
  have hnone : logs.filterMap (·.ask.rolesSet?) = [] := by
    refine List.filterMap_eq_nil_iff.2 fun e he => ?_
    obtain ⟨level, message, hask⟩ := hlogs e he
    rw [hask]
    rfl
  rw [Talk.rolesSet, List.filterMap_append, List.filterMap_append, hnone]
  simp [Talk.rolesSet, Request.rolesSet?]

/-- The roles of a replicaset with a StatefulSet at work are compared, and lines of the log do not matter. -/
theorem Compared.attempted {res : Except AdminError Unit} {well : Bool} (h : Compared r ordinal said res)
    (hlive : ∃ s ∈ all, s.metadata.isDeleting = false) (hwell : well = true ↔ res = .ok ()) :
    Attempted r ordinal (logs ++ said ++ [listed r ordinal (.ok all)]) well := by
  have hdiffers : Differs r ordinal (logs ++ said ++ [listed r ordinal (.ok all)]) ↔ Differs r ordinal said := by
    simp only [Differs, admin_mem_framed hlogs]
  have hinhabited : Inhabited r ordinal (logs ++ said ++ [listed r ordinal (.ok all)]) :=
    ⟨all, by simp, hlive⟩
  refine { lists := ⟨_, logs ++ said, rfl, ?_⟩, reads := fun _ => ?_, sets := ?_, spares := ?_, well_iff := ?_ }
  · refine List.forall_mem_append.2 ⟨fun e he q => ?_, h.asks⟩
    obtain ⟨_, _, hask⟩ := hlogs e he
    rw [hask]
    exact nofun
  · simpa only [admin_mem_framed hlogs] using h.reads
  · rintro ⟨_, hdiff⟩
    exact (rolesSet_framed hlogs).trans (h.sets (hdiffers.1 hdiff))
  · intro hnone
    exact (rolesSet_framed hlogs).trans (h.spares fun hdiff => hnone ⟨hinhabited, hdiffers.2 hdiff⟩)
  · rw [hwell, h.ok_iff]
    simp only [List.forall_mem_append, List.forall_mem_singleton, Turn.fails_store, reduceCtorEq, exists_false,
      not_false_eq_true, and_true]
    exact ⟨fun hall => ⟨fun e he => (hlogs e he).not_fails, hall⟩, fun hall => hall.2⟩

end

/-- Whatever is said for a replicaset, its roles were attempted. -/
theorem Configures.attempted {well : Bool} (h : Configures r ordinal said well) :
    Attempted r ordinal said well := by
  cases h with
  | unlisted e => exact {
      lists := ⟨.error e, [_], rfl, by simp⟩
      reads := by simp [Inhabited]
      sets := by simp [Inhabited]
      spares := fun _ => rfl
      well_iff := by simp }
  | vacant all hall => exact {
      lists := ⟨.ok all, [], rfl, by simp⟩
      reads := by simpa [Inhabited] using hall
      sets := by simp [Differs]
      spares := fun _ => rfl
      well_iff := by simp }
  | kept all said hlive hcompares =>
    exact Compared.attempted (List.forall_mem_nil _) hcompares.compared hlive (by simp)
  | broken all said e hlive hcompares =>
    have hlog : ∀ e ∈ [(⟨Request.log .warn "Unable to configure replicaset roles", ()⟩ : Turn Surroundings)], e.Logs :=
      List.forall_mem_singleton.2 ⟨_, _, rfl⟩
    exact Compared.attempted hlog hcompares.compared hlive (by simp)

/-! ### The step -/

section

variable {key : ObjectKey} {role : Role} {cluster : Cluster} {leader : Pod} {o : Outcome × RolePass}

/-- How the step goes: each replicaset has its turn, and it ends by whether all of them did well. -/
def Attends (key : ObjectKey) (role : Role) (cluster : Cluster) (leader : Pod) (t t' : Talk Surroundings)
    (o : Outcome × RolePass) : Prop :=
  ∃ (rounds : List (Round Surroundings Bool)) (ending : Talk Surroundings),
    t' = ending ++ Round.heard rounds ++ t ∧ (∀ e ∈ ending, e.Logs) ∧
    rounds.length = role.replicasets.toNat ∧
    (∀ ordinal v, rounds[ordinal]? = some v → Configures ⟨key.ns, role, cluster, leader⟩ ordinal v.said v.came) ∧
    (o.1 = .next ↔ ∀ v ∈ rounds, v.came = true) ∧
    (o.1 = .next ∨ o.1 = .wait) ∧ o.2 = ⟨key, some role, some cluster, some leader⟩

theorem configureVShardRoles_attends (key : ObjectKey) (role : Role) (cluster : Cluster) (leader : Pod)
    (t : Talk Surroundings) :
    Keeps (fun _ _ => True) (configureVShardRoles.run ⟨key, some role, some cluster, some leader⟩)
      (Attends key role cluster leader t) t := by
  rw [configureVShardRoles, Step.reading, Step.ofAttempt]
  simp only [keeps_bind, keeps_run, keepsOr_bind, resolved, keepsOr_pure]
  refine (configureAll_keeps _ t).mono (fun t₁ up h => ?_) fun _ _ h => h.elim
  obtain ⟨rounds, rfl, hlength, hall, hup⟩ := h
  rw [keepsOr_ite]
  refine ⟨fun h => ?_, fun h => ?_⟩
  · exact ⟨rounds, [], rfl, by simp, hlength, hall, iff_of_true rfl (hup.1 h), Or.inl rfl, rfl⟩
  · rw [keepsOr_bind, keepsOr_log, keeps_log]
    refine ⟨trivial, rounds, [_], rfl, List.forall_mem_singleton.2 ⟨_, _, rfl⟩, hlength, hall, ?_, Or.inr rfl, rfl⟩
    exact iff_of_false nofun fun hwell => h (hup.2 hwell)

/-- Whatever comes of one replicaset, the step that keeps the roles attempts those of the next one, each replicaset
once and in their order. It goes on if nothing was answered with an error in any of the attempts, is made again
after a while otherwise, and never ends with an error. -/
theorem attempted_of_goes
    (hgoes : (configureVShardRoles.run ⟨key, some role, some cluster, some leader⟩).Goes t t' o) :
    ∃ (rounds : List (Round Surroundings Bool)) (ending : Talk Surroundings),
      t' = ending ++ Round.heard rounds ++ t ∧ (∀ e ∈ ending, e.Logs) ∧
      rounds.length = role.replicasets.toNat ∧
      (∀ ordinal v, rounds[ordinal]? = some v →
        Attempted ⟨key.ns, role, cluster, leader⟩ ordinal v.said v.came) ∧
      (o.1 = .next ↔ ∀ v ∈ rounds, ∀ e ∈ v.said, ¬e.Fails) ∧
      (o.1 = .next ∨ o.1 = .wait) ∧ o.2 = ⟨key, some role, some cluster, some leader⟩ := by
  obtain ⟨rounds, ending, ht', hlogs, hlength, hall, hnext, hends⟩ :=
    ((configureVShardRoles_attends key role cluster leader t).of_goes hgoes).1
  refine ⟨rounds, ending, ht', hlogs, hlength, fun ordinal v hv => (hall ordinal v hv).attempted, ?_, hends⟩
  refine hnext.trans (forall₂_congr fun v hv => ?_)
  obtain ⟨ordinal, hordinal⟩ := List.getElem?_of_mem hv
  exact (hall ordinal v hordinal).attempted.well_iff

end

/-! ### An example: two replicasets of routers -/

/-- The routers of the shop, in two replicasets. -/
def paired : Resolved where
  ns := "db"
  role := { EditReplicaset.routers ["vshard-router"] with
    spec := { (EditReplicaset.routers ["vshard-router"]).spec with replicasets := 2 } }
  cluster := EditReplicaset.shop
  leader := EditReplicaset.router

/-- The first replicaset cannot be listed, and the second one has no role yet. -/
def saidOfPair : Talk Surroundings :=
  [rolesGiven paired 1 (.ok ()), ⟨Request.log .info "Setting replicaset roles", ()⟩, rolesTold paired 1 (.ok []),
    hierarchyTold paired (.ok .empty), listed paired 1 (.ok [⟨.blank, none⟩]),
    ⟨Request.log .warn "Unable to list replicaset StatefulSets", ()⟩, listed paired 0 (.error .serialization)]

/-- The failure of the first replicaset is remembered, and the roles of the second one are set all the same. -/
theorem pair_isolated :
    let c : RolePass := ⟨⟨"db", "router"⟩, some paired.role, some paired.cluster, some paired.leader⟩
    (configureVShardRoles.run c).Goes [] (⟨Request.log .info "Not all vshard roles configured", ()⟩ :: saidOfPair)
        (.wait, c) ∧
      rolesGiven paired 1 (.ok ()) ∈ saidOfPair ∧
      ∃ rounds : List (Round Surroundings Bool), rounds.length = 2 ∧
        ∃ v ∈ rounds, ∃ e ∈ v.said, e.Fails := by
  intro c
  have hnot : ¬RoleHierarchy.Agree .empty [] paired.wanted := by
    intro hagree
    exact absurd (RoleHierarchy.agree_nil_iff.1 hagree.symm) (by decide)
  have hfirst : (liveStatefulSets paired 0).run.Goes [] [listed paired 0 (.error .serialization)]
      (.error .serialization) := ⟨Except.error .serialization, rfl, rfl⟩
  have hsecond : (liveStatefulSets paired 1).run.Goes (saidOfPair.drop 5) (saidOfPair.drop 4)
      (.ok [⟨.blank, none⟩]) := ⟨Except.ok [⟨.blank, none⟩], rfl, rfl⟩
  have hset : (configureReplicaset paired 1).run.Goes (saidOfPair.drop 4) saidOfPair (.ok ()) :=
    configureReplicaset_goes 1 hnot
  have hall : (configureAll paired).run.Goes [] saidOfPair (.ok false) := by
    show (throughUpTo _ 2 0 true).run.Goes [] _ _
    refine goes_run_bind.2 ⟨saidOfPair.drop 5, .ok false, ?_, ?_⟩
    · exact .run_bind (.run_lift hfirst) ⟨(), rfl, rfl⟩
    · exact .run_bind (.run_bind (.run_lift hsecond) (.run_bind (.run_lift hset) ⟨rfl, rfl⟩)) ⟨rfl, rfl⟩
  have hgoes : (configureVShardRoles.run c).Goes []
      (⟨Request.log .info "Not all vshard roles configured", ()⟩ :: saidOfPair) (.wait, c) := by
    refine goes_bind.2 ⟨_, .ok (.wait, c), ?_, rfl, rfl⟩
    exact .run_bind (.run_bind ⟨rfl, rfl⟩ (.run_bind hall ⟨(), rfl, rfl⟩)) ⟨rfl, rfl⟩
  obtain ⟨rounds, _, _, _, hlength, _, hnext, _⟩ := attempted_of_goes hgoes
  refine ⟨hgoes, List.mem_cons_self, rounds, hlength, ?_⟩
  by_contra hnone
  refine absurd (hnext.2 fun v hv e he hfails => hnone ⟨v, hv, e, he, hfails⟩) ?_
  simp [Outcome.wait]

end RolePass

end ClusterKeeper
