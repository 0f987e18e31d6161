import ClusterKeeper.Proofs.Pass.Conclusion
import ClusterKeeper.Proofs.Pass.Probing
import ClusterKeeper.Proofs.Program.Rounds

/-!
How the replicasets of a role are joined, one after another. For each of them the instances are looked through
first; only when all are up is the leader asked to join those that are not part of a topology, in one request, and
only when the leader is part of one itself or joins with them (`RolePass.Treats`). A replicaset that has to wait is
passed over, and one that fails ends the step (`RolePass.Ensues`).

Main statement: `RolePass.treated_of_goes`.
-/

namespace ClusterKeeper

open Program

/-- A join that a request asks for, with the instance that is asked. -/
def Request.join? : Request → Option (Pod × JoinRequest × List String)
  | .admin (.join leader request uris) => some (leader, request, uris)
  | _ => none

/-- The joins that were asked for, the latest first. -/
def Talk.joins (t : Talk Surroundings) : List (Pod × JoinRequest × List String) := t.filterMap (·.ask.join?)

namespace RolePass

variable {r : Resolved} {ordinal : Nat} {t t' said : Talk Surroundings} {probes : List Probe}
  {came : Except JoinObstacle Unit}

/-! ### What is said for one replicaset -/

/-- The address of the leader. -/
def Resolved.leaderUri (r : Resolved) : String := r.cluster.advertiseUri r.leader.name

/-- The leader is asked for its identifier. -/
abbrev leaderTold (r : Resolved) (answer : Except AdminError String) : Turn Surroundings :=
  ⟨Request.admin (.instanceUuid r.leader), answer⟩

/-- The leader is asked to join instances into a replicaset. -/
abbrev joinAsked (r : Resolved) (request : JoinRequest) (uris : List String)
    (answer : Except AdminError JoinOutcome) : Turn Surroundings :=
  ⟨Request.admin (.join r.leader request uris), answer⟩

/-- A request carries the name and the identifier of a replicaset of a role, and the settings of the role. -/
structure Describes (role : Role) (ordinal : Nat) (request : JoinRequest) : Prop where
  name : request.name = Replicaset.name role.name ordinal
  uuid : request.uuid = Replicaset.uuid role.name ordinal
  roles : request.roles = role.spec.vshard.clusterRoles
  weight : request.weight = role.spec.vshard.weight
  vshardGroup : request.vshardGroup = role.spec.vshard.groupName
  allRw : request.allRw = role.spec.allRw

theorem joinRequest_describes (role : Role) (ordinal : Nat) : Describes role ordinal (joinRequest role ordinal) :=
  ⟨rfl, rfl, rfl, rfl, rfl, rfl⟩

/-- The leader joins with the others, or is part of a topology. -/
inductive Leads (r : Resolved) (uris : List String) : Talk Surroundings → Prop
  | among : r.leaderUri ∈ uris → Leads r uris []
  | placed (uuid : String) : r.leaderUri ∉ uris → uuid ≠ "" → Leads r uris [leaderTold r (.ok uuid)]

/-- What is said for a replicaset once all of its instances are up, and what that comes to. -/
inductive Enrolls (r : Resolved) (ordinal : Nat) (uris : List String) :
    Talk Surroundings → Except JoinObstacle Unit → Prop
  | settled : uris = [] → Enrolls r ordinal uris [] (.ok ())
  | leaderUntold (e : AdminError) : uris ≠ [] → r.leaderUri ∉ uris →
      Enrolls r ordinal uris [leaderTold r (.error e)] (.error (.admin e))
  | leaderless : uris ≠ [] → r.leaderUri ∉ uris →
      Enrolls r ordinal uris [⟨Request.log .info "Leader is not part of a topology yet", ()⟩, leaderTold r (.ok "")]
        (.error .pending)
  | joined (led : Talk Surroundings) (request : JoinRequest) (outcome : JoinOutcome) : uris ≠ [] →
      Leads r uris led → Describes r.role ordinal request →
      Enrolls r ordinal uris
        (joinAsked r request uris (.ok outcome) :: ⟨Request.log .info "Joining instances", ()⟩ :: led) (.ok ())
  | refused (led : Talk Surroundings) (request : JoinRequest) (e : AdminError) : uris ≠ [] →
      Leads r uris led → Describes r.role ordinal request →
      Enrolls r ordinal uris
        (joinAsked r request uris (.error e) :: ⟨Request.log .info "Joining instances", ()⟩ :: led)
        (.error (.admin e))

/-- What is said for a replicaset, and what that comes to. -/
inductive Treats (r : Resolved) (ordinal : Nat) : Talk Surroundings → Except JoinObstacle Unit → Prop
  | uncollected (said : Talk Surroundings) (obstacle : JoinObstacle) : Uncollected r ordinal said obstacle →
      Treats r ordinal said (.error obstacle)
  | manned (all : List StatefulSet) (probes : List Probe) (said : Talk Surroundings)
      (came : Except JoinObstacle Unit) : Probed (liveNames r all) probes →
      Enrolls r ordinal (Probe.addresses r.cluster probes) said came →
      Treats r ordinal (said ++ Probe.talk r.ns probes ++ [listed r ordinal (.ok all)]) came

/-- What comes after all instances of a replicaset were found to be up. -/
def enroll (r : Resolved) (ordinal : Nat) (uris : List String) : Joining Unit := do
  if uris = [] then return ()
  if r.cluster.advertiseUri r.leader.name ∉ uris then
    if (← Joining.asking (.instanceUuid r.leader)) = "" then
      ExceptT.lift (Act.log .info "Leader is not part of a topology yet")
      throw .pending
  ExceptT.lift (Act.log .info "Joining instances")
  let _ ← Joining.asking (.join r.leader (joinRequest r.role ordinal) uris)

theorem joinReplicaset_eq (r : Resolved) (ordinal : Nat) :
    joinReplicaset r ordinal = collect r ordinal >>= enroll r ordinal := rfl

/-- Something was said that ends in this way. -/
def Said (how : Talk Surroundings → Except JoinObstacle Unit → Prop) (t t' : Talk Surroundings)
    (came : Except JoinObstacle Unit) : Prop := ∃ said, t' = said ++ t ∧ how said came

theorem enroll_keeps (r : Resolved) (ordinal : Nat) (uris : List String) (t : Talk Surroundings) :
    KeepsOr (fun _ _ => True) (enroll r ordinal uris) (fun t' a => Said (Enrolls r ordinal uris) t t' (.ok a))
      (fun t' obstacle => Said (Enrolls r ordinal uris) t t' (.error obstacle)) t := by
  have hjoins : ∀ led, uris ≠ [] → Leads r uris led → KeepsOr (fun _ _ => True) (do
      ExceptT.lift (Act.log .info "Joining instances")
      let _ ← Joining.asking (.join r.leader (joinRequest r.role ordinal) uris))
      (fun t' a => Said (Enrolls r ordinal uris) t t' (.ok a))
      (fun t' obstacle => Said (Enrolls r ordinal uris) t t' (.error obstacle)) (led ++ t) := by
    intro led hsome hled
    rw [keepsOr_bind, keepsOr_lift, keeps_log, keepsOr_bind, keepsOr_asking, keepsOr_ask]
    have hdescribes := joinRequest_describes r.role ordinal
    exact ⟨trivial, trivial, fun outcome => ⟨_ :: _ :: led, rfl, .joined led _ outcome hsome hled hdescribes⟩,
      fun e => ⟨_ :: _ :: led, rfl, .refused led _ e hsome hled hdescribes⟩⟩
  rw [enroll, keepsOr_ite]
  refine ⟨fun hnil => ⟨[], rfl, .settled hnil⟩, fun hsome => ?_⟩
  rw [keepsOr_ite]
  refine ⟨fun hnot => ?_, fun hin => hjoins [] hsome (.among (not_not.1 hin))⟩
  rw [keepsOr_bind, keepsOr_asking, keepsOr_ask]
  refine ⟨trivial, fun uuid => ?_, fun e => ⟨[_], rfl, .leaderUntold e hsome hnot⟩⟩
  rw [keepsOr_ite]
  refine ⟨fun hnone => ?_, fun hplaced => hjoins [_] hsome (.placed uuid hnot hplaced)⟩
  obtain rfl : uuid = "" := hnone
  rw [keepsOr_bind, keepsOr_lift, keeps_log]
  exact ⟨trivial, [_, _], rfl, .leaderless hsome hnot⟩

theorem joinReplicaset_treats (r : Resolved) (ordinal : Nat) (t : Talk Surroundings) :
    Keeps (fun _ _ => True) (joinReplicaset r ordinal).run (Said (Treats r ordinal) t) t := by
  rw [keeps_run, joinReplicaset_eq, keepsOr_bind]
  refine (collect_probes r ordinal t).mono (fun t₁ uris h => ?_) fun t' obstacle h => ?_
  · obtain ⟨all, probes, hprobed, rfl, rfl⟩ := h
    have hended : ∀ t' came, Said (Enrolls r ordinal (Probe.addresses r.cluster probes))
        (Probe.talk r.ns probes ++ listed r ordinal (.ok all) :: t) t' came → Said (Treats r ordinal) t t' came := by
      rintro t' came ⟨said, rfl, henrolls⟩
      exact ⟨_, by simp, .manned all probes said came hprobed henrolls⟩
    exact (enroll_keeps r ordinal _ _).mono (fun t' a => hended t' _) fun t' obstacle => hended t' _
  · obtain ⟨said, rfl, huncollected⟩ := h
    exact ⟨said, rfl, .uncollected said obstacle huncollected⟩

/-! ### Joins that are asked for -/

/-- A join was asked for, once: through the leader, with the name, the identifier and the settings of the
replicaset, and all instances of its StatefulSets that are not being deleted were found before and are up. The
addresses are those of the instances that told no identifier, in their order. -/
def Requests (r : Resolved) (ordinal : Nat) (said : Talk Surroundings) : Prop :=
  ∃ all probes request, said.joins = [(r.leader, request, Probe.addresses r.cluster probes)] ∧
    Describes r.role ordinal request ∧
    Probe.addresses r.cluster probes ≠ [] ∧ Probed (liveNames r all) probes ∧
    (∀ p ∈ probes, p.turns r.ns ⊆ said) ∧ listed r ordinal (.ok all) ∈ said ∧
    ((all.map StatefulSet.name).Nodup → (liveNames r all).Nodup ∧
      ((∀ p ∈ probes, p.pod.name = p.name) → (Probe.addresses r.cluster probes).Nodup))

theorem joins_append (said said' : Talk Surroundings) : (said ++ said').joins = said.joins ++ said'.joins :=
  List.filterMap_append

theorem joins_talk (ns : String) (probes : List Probe) : (Probe.talk ns probes).joins = [] := by
  refine List.filterMap_eq_nil_iff.2 fun e he => ?_
  obtain ⟨p, _, he⟩ := List.mem_flatMap.1 he
  simp only [Probe.turns, List.mem_cons, List.not_mem_nil, or_false] at he
  rcases he with rfl | rfl <;> rfl

theorem Leads.joins {uris : List String} {led : Talk Surroundings} (h : Leads r uris led) : led.joins = [] := by
  cases h <;> rfl

theorem Stops.joins {ns name : String} {obstacle : JoinObstacle} (h : Stops ns name said obstacle) :
    said.joins = [] := by
  cases h <;> rfl

theorem Uncollected.joins {obstacle : JoinObstacle} (h : Uncollected r ordinal said obstacle) :
    said.joins = [] := by
  cases h with
  | unlisted e => rfl
  | broken all said obstacle hbreaks =>
    obtain ⟨before, name, probes, said, _, _, _, hstops⟩ := hbreaks
    rw [joins_append, joins_append, hstops.joins, joins_talk]
    rfl

theorem Treats.requests (h : Treats r ordinal said came) : said.joins = [] ∨ Requests r ordinal said := by
  cases h with
  | uncollected _ obstacle huncollected => exact .inl huncollected.joins
  | manned all probes said _ hprobed henrolls =>
    have hjoins : Talk.joins (said ++ Probe.talk r.ns probes ++ [listed r ordinal (.ok all)]) = said.joins := by
      rw [joins_append, joins_append, joins_talk, List.append_nil]
      exact List.append_nil _
    have hrequests : ∀ request, Probe.addresses r.cluster probes ≠ [] → Describes r.role ordinal request →
        said.joins = [(r.leader, request, Probe.addresses r.cluster probes)] →
        Requests r ordinal (said ++ Probe.talk r.ns probes ++ [listed r ordinal (.ok all)]) := by
      intro request hsome hdescribes hasked
      refine ⟨all, probes, request, hjoins.trans hasked, hdescribes, hsome, hprobed, fun p hp e he => ?_, by simp,
        fun hnames => ?_⟩
      · exact List.mem_append_left _ (List.mem_append_right _ (Probe.turns_subset_talk hp he))
      · exact ⟨liveNames_nodup hnames, hprobed.addresses_nodup (liveNames_nodup hnames)⟩
    cases henrolls with
    | settled _ => exact .inl hjoins
    | leaderUntold e _ _ => exact .inl hjoins
    | leaderless _ _ => exact .inl hjoins
    | joined led request outcome hsome hled hdescribes =>
      exact .inr (hrequests request hsome hdescribes (congrArg (_ :: ·) hled.joins))
    | refused led request e hsome hled hdescribes =>
      exact .inr (hrequests request hsome hdescribes (congrArg (_ :: ·) hled.joins))

/-! ### One replicaset after another -/

/-- What a replicaset came to lets the next one have its turn. -/
def Passed (came : Except JoinObstacle Unit) : Prop := came = .ok () ∨ came = .error .pending

/-- What a replicaset comes to for the role: it is joined, it has to wait, or the step ends. -/
def joinVerdict : Except JoinObstacle Unit → Except JoinObstacle Bool
  | .ok () => .ok true
  | .error .pending => .ok false
  | .error obstacle => .error obstacle

theorem joinVerdict_eq_true : joinVerdict came = .ok true ↔ came = .ok () := by
  rcases came with obstacle | ⟨⟩
  · cases obstacle <;> simp [joinVerdict]
  · simp [joinVerdict]

theorem passed_of_joinVerdict {well : Bool} (h : joinVerdict came = .ok well) : Passed came := by
  rcases came with obstacle | ⟨⟩
  · cases obstacle with
    | pending => exact Or.inr rfl
    | admin e => cases h
    | other e => cases h
  · exact Or.inl rfl

theorem joinVerdict_eq_error {obstacle : JoinObstacle} :
    joinVerdict came = .error obstacle ↔ came = .error obstacle ∧ obstacle ≠ .pending := by
  rcases came with obstacle' | ⟨⟩
  · cases obstacle' <;> simp [joinVerdict]
    all_goals rintro rfl; simp
  · simp [joinVerdict]

/-- The talk of the loop over all replicasets falls into rounds, each of which says what is said for one. -/
theorem joinAll_rounds (r : Resolved) (t : Talk Surroundings) :
    Keeps (fun _ _ => True) (joinAll r).run (fun t' res => ∃ rounds, t' = Round.heard rounds ++ t ∧
      Rounds (Treats r) (Rounds.flag joinVerdict) r.role.replicasets.toNat 0 true rounds res) t := by
  refine throughUpTo_rounds (fun ordinal up => ?_) _ _ _ t
  rw [keeps_run, keepsOr_bind, keepsOr_lift]
  refine (joinReplicaset_treats r ordinal []).mono fun said came hsaid => ?_
  obtain ⟨said, rfl, htreats⟩ := hsaid
  rw [List.append_nil]
  cases came with
  | ok _ => exact ⟨.ok (), htreats, (Rounds.flag_of_well rfl).symm⟩
  | error obstacle =>
    cases obstacle with
    | pending => exact ⟨_, htreats, (Rounds.flag_of_not_well rfl).symm⟩
    | admin e => exact ⟨_, htreats, (Rounds.flag_eq_error.2 rfl).symm⟩
    | other e => exact ⟨_, htreats, (Rounds.flag_eq_error.2 rfl).symm⟩

/-- The replicasets that had their turn: all of them, none of which ended the loop, or some and then one that did. -/
inductive Turns (count : Nat) : List (Except JoinObstacle Unit) → Except JoinObstacle Bool → Prop
  | through {results : List (Except JoinObstacle Unit)} {up : Bool} : results.length = count →
      (∀ came ∈ results, Passed came) → (up = true ↔ ∀ came ∈ results, came = .ok ()) →
      Turns count results (.ok up)
  | ended {earlier : List (Except JoinObstacle Unit)} {obstacle : JoinObstacle} : earlier.length < count →
      (∀ came ∈ earlier, Passed came) → obstacle ≠ .pending →
      Turns count (earlier ++ [.error obstacle]) (.error obstacle)

/-- Rounds in order, and what became of the loop. -/
def Joined (r : Resolved) (t t' : Talk Surroundings) (res : Except JoinObstacle Bool) : Prop :=
  ∃ rounds : List (Round Surroundings (Except JoinObstacle Unit)), t' = Round.heard rounds ++ t ∧
    (∀ ordinal v, rounds[ordinal]? = some v → Treats r ordinal v.said v.came) ∧
    Turns r.role.replicasets.toNat (rounds.map Round.came) res

theorem joinAll_turns (r : Resolved) (t : Talk Surroundings) :
    KeepsOr (fun _ _ => True) (joinAll r) (fun t' up => Joined r t t' (.ok up))
      (fun t' obstacle => Joined r t t' (.error obstacle)) t := by
  suffices hall : Keeps (fun _ _ => True) (joinAll r).run (Joined r t) t from (keeps_run _).1 hall
  refine (joinAll_rounds r t).mono fun t' res h => ?_
  obtain ⟨rounds, rfl, hrounds⟩ := h
  refine ⟨rounds, rfl, fun ordinal v hv => by simpa using hrounds.tells_of_getElem? hv, ?_⟩
  cases res with
  | ok up =>
    obtain ⟨hwell, hup⟩ := hrounds.flag_iff rfl
    refine .through (by rw [List.length_map, hrounds.length_eq_of_ok rfl]) ?_ ?_
    · refine List.forall_mem_map.2 fun v hv => ?_
      obtain ⟨well, hwell⟩ := hwell v hv
      exact passed_of_joinVerdict hwell
    · rw [hup, List.forall_mem_map]
      simp [joinVerdict_eq_true]
  | error obstacle =>
    obtain ⟨earlier, last, rfl, hlt, hlast, hwell⟩ := hrounds.exists_last rfl
    obtain ⟨hlast, hends⟩ := joinVerdict_eq_error.1 hlast
    rw [List.map_append, List.map_singleton, hlast]
    refine .ended (by rwa [List.length_map]) (List.forall_mem_map.2 fun v hv => ?_) hends
    obtain ⟨well, hwell⟩ := hwell v hv
    exact passed_of_joinVerdict hwell

/-! ### The step -/

/-- How the step ends by what the replicasets came to that had their turn. -/
inductive Ensues (c : RolePass) (role : Role) (count : Nat) :
    List (Except JoinObstacle Unit) → Outcome × RolePass → Prop
  | joined {results : List (Except JoinObstacle Unit)} : results.length = count →
      (∀ came ∈ results, came = .ok ()) → Ensues c role count results (.next, c)
  | waits {results : List (Except JoinObstacle Unit)} : results.length = count →
      (∀ came ∈ results, Passed came) → .error .pending ∈ results → Ensues c role count results (.wait, c)
  | parked {earlier : List (Except JoinObstacle Unit)} {fault : LuaFault} : earlier.length < count →
      (∀ came ∈ earlier, Passed came) →
      Ensues c role count (earlier ++ [.error (.admin (.unknownRole fault))])
        (.complete, { c with object := some (role.setPhase .configError) })
  | refused {earlier : List (Except JoinObstacle Unit)} {e : AdminError} : earlier.length < count →
      (∀ came ∈ earlier, Passed came) → (∀ fault, e ≠ .unknownRole fault) →
      Ensues c role count (earlier ++ [.error (.admin e)]) (.fail (.admin e), c)
  | failed {earlier : List (Except JoinObstacle Unit)} {e : OperatorError} : earlier.length < count →
      (∀ came ∈ earlier, Passed came) → Ensues c role count (earlier ++ [.error (.other e)]) (.fail e, c)

section

variable {c : RolePass} {role : Role} {count : Nat} {results : List (Except JoinObstacle Unit)}

/-- The next step follows just when nothing that had its turn had to wait or failed. -/
theorem Ensues.next_iff {o : Outcome × RolePass} (h : Ensues c role count results o) :
    o.1 = .next ↔ ∀ came ∈ results, came = .ok () := by
  cases h with
  | joined _ hall => exact iff_of_true rfl hall
  | waits _ _ hwaits => exact iff_of_false nofun fun hall => nomatch hall _ hwaits
  | parked _ _ => exact iff_of_false nofun fun hall => nomatch hall _ List.mem_concat_self
  | refused _ _ _ => exact iff_of_false nofun fun hall => nomatch hall _ List.mem_concat_self
  | failed _ _ => exact iff_of_false nofun fun hall => nomatch hall _ List.mem_concat_self

/-- When the step is made again after a while, all replicasets had their turn and one of them has to wait. -/
theorem Ensues.pending_mem {c' : RolePass} (h : Ensues c role count results (.wait, c')) :
    results.length = count ∧ .error .pending ∈ results := by
  cases h with
  | waits hlength _ hwaits => exact ⟨hlength, hwaits⟩

theorem Turns.joined (h : Turns count results (.ok true)) : Ensues c role count results (.next, c) := by
  cases h with
  | through hlength _ hup => exact .joined hlength (hup.1 rfl)

theorem Turns.waits (h : Turns count results (.ok false)) : Ensues c role count results (.wait, c) := by
  cases h with
  | through hlength hpassed hup =>
    refine .waits hlength hpassed ?_
    by_contra hnone
    refine absurd (hup.2 fun came hcame => (hpassed came hcame).resolve_right ?_) Bool.false_ne_true
    rintro rfl
    exact hnone hcame

theorem Turns.exists_last {obstacle : JoinObstacle} (h : Turns count results (.error obstacle)) :
    ∃ earlier, results = earlier ++ [.error obstacle] ∧ earlier.length < count ∧
      (∀ came ∈ earlier, Passed came) ∧ obstacle ≠ .pending := by
  cases h with
  | ended hlt hpassed hends => exact ⟨_, rfl, hlt, hpassed, hends⟩

end

section

variable {key : ObjectKey} {role : Role} {cluster : Cluster} {leader : Pod} {o : Outcome × RolePass}

/-- How the step goes: the replicasets have their turns, and it ends by what they came to. -/
def Proceeds (key : ObjectKey) (role : Role) (cluster : Cluster) (leader : Pod) (t t' : Talk Surroundings)
    (o : Outcome × RolePass) : Prop :=
  ∃ (rounds : List (Round Surroundings (Except JoinObstacle Unit))) (ending : Talk Surroundings),
    t' = ending ++ Round.heard rounds ++ t ∧ ending.joins = [] ∧
    (∀ ordinal v, rounds[ordinal]? = some v → Treats ⟨key.ns, role, cluster, leader⟩ ordinal v.said v.came) ∧
    Ensues ⟨key, some role, some cluster, some leader⟩ role role.replicasets.toNat (rounds.map Round.came) o

theorem joinInstances_proceeds (key : ObjectKey) (role : Role) (cluster : Cluster) (leader : Pod)
    (t : Talk Surroundings) :
    Keeps (fun _ _ => True) (joinInstances.run ⟨key, some role, some cluster, some leader⟩)
      (Proceeds key role cluster leader t) t := by
  rw [joinInstances, Step.ofAttempt]
  simp only [keeps_bind, keeps_run, keepsOr_bind, resolved, keepsOr_pure, keepsOr_lift]
  refine (joinAll_turns _ t).mono (fun t₁ up h => ?_) fun t₁ obstacle h => ?_
  · obtain ⟨rounds, rfl, hall, hturns⟩ := h
    cases up with
    | true => exact ⟨rounds, [], rfl, rfl, hall, hturns.joined⟩
    | false =>
      rw [keepsOr_bind, keepsOr_log, keeps_log]
      exact ⟨trivial, rounds, [_], rfl, rfl, hall, hturns.waits⟩
  · obtain ⟨rounds, rfl, hall, hturns⟩ := h
    obtain ⟨earlier, hresults, hlt, hpassed, hends⟩ := hturns.exists_last
    split
    next h => cases h
    next h => cases h
    next h => exact absurd (Except.error.inj h) hends
    next fault h =>
      obtain rfl := Except.error.inj h
      rw [keepsOr_bind, keepsOr_log, keeps_log, keepsOr_lift, stopOnConfigError, keeps_bind, keeps_record]
      exact ⟨trivial, trivial, rounds, [_, _], rfl, rfl, hall, hresults ▸ .parked hlt hpassed⟩
    next e hnot h =>
      obtain rfl := Except.error.inj h
      rw [keepsOr_bind, keepsOr_log, keeps_log]
      exact ⟨trivial, rounds, [_], rfl, rfl, hall, hresults ▸ .refused hlt hpassed hnot⟩
    next e h =>
      obtain rfl := Except.error.inj h
      exact ⟨rounds, [], rfl, rfl, hall, hresults ▸ .failed hlt hpassed⟩

/-- The replicasets of a role are joined in their order. One that has to wait is passed over, and one that fails ends
the step. For each that has its turn at most one join is asked for, and only when all instances of its StatefulSets
that are not being deleted are up: through the leader, with the settings of the role, and with the addresses of those
that told no identifier and no others. The next step follows just when all replicasets were joined. -/
theorem treated_of_goes (hgoes : (joinInstances.run ⟨key, some role, some cluster, some leader⟩).Goes t t' o) :
    ∃ (rounds : List (Round Surroundings (Except JoinObstacle Unit))) (ending : Talk Surroundings),
      t' = ending ++ Round.heard rounds ++ t ∧ ending.joins = [] ∧
      (∀ ordinal v, rounds[ordinal]? = some v → Treats ⟨key.ns, role, cluster, leader⟩ ordinal v.said v.came ∧
        (v.said.joins = [] ∨ Requests ⟨key.ns, role, cluster, leader⟩ ordinal v.said)) ∧
      Ensues ⟨key, some role, some cluster, some leader⟩ role role.replicasets.toNat (rounds.map Round.came) o ∧
      (o.1 = .next ↔ ∀ v ∈ rounds, v.came = .ok ()) := by
  obtain ⟨rounds, ending, ht', hending, hall, hensues⟩ :=
    ((joinInstances_proceeds key role cluster leader t).of_goes hgoes).1
  refine ⟨rounds, ending, ht', hending, fun ordinal v hv => ⟨hall ordinal v hv, (hall ordinal v hv).requests⟩,
    hensues, ?_⟩
  rw [hensues.next_iff, List.forall_mem_map]

end

/-! ### An example: two replicasets of storages -/

/-- The storages of the shop, in two replicasets of one instance each, all of which are writable. -/
def storages : Role :=
  { Shop.storage with
    spec := { Shop.storage.spec with
      replicasets := 2, allRw := true, vshard := ⟨"default", ["vshard-storage"], 50⟩ } }

/-- A pass over the storages that knows the cluster and the leader. -/
def overStorages : RolePass := ⟨⟨"db", "storage"⟩, some storages, some Shop.shop, some (Shop.podOf "router-0-0")⟩

/-- The instance of the first replicaset is not there yet, and that of the second one is part of no topology. -/
def answerStorages : (q : Request) → q.Answer
  | .store (.list .statefulSet _ selector) =>
    .ok [⟨Shop.metadataOf ("storage-" ++ (selector.get? Labels.replicasetOrdinal).getD ""), none⟩]
  | .store (.get .pod _ name) => .ok (if name = "storage-0-0" then none else some (Shop.podOf name))
  | .store _ => .error .serialization
  | .admin (.instanceUuid pod) => .ok (if pod.name = "router-0-0" then "a22a12b7-eee9-4d46-bf7e-5eea8ff38b5b" else "")
  | .admin (.join ..) => .ok .joined
  | .admin _ => .error .decode
  | .record .. => ()
  | .log .. => ()

/-- The first replicaset has to wait, and the second one is joined all the same. -/
theorem second_storage_joined :
    ∃ said, (joinInstances.run overStorages).Goes [] said (.wait, overStorages) ∧
      said.joins = [(Shop.podOf "router-0-0",
        ⟨"storage-1", Replicaset.uuid "storage" 1, ["vshard-storage"], 50, "default", true⟩,
        ["storage-1-0.shop.db.svc.cluster.local:3301"])] ∧
      ∃ rounds : List (Round Surroundings (Except JoinObstacle Unit)), rounds.length = 2 ∧
        ∃ v ∈ rounds, v.came = .error .pending := by
  have hgoes := goes_hear answerStorages (joinInstances.run overStorages) []
  have hends : Program.run (m := Id) answerStorages (joinInstances.run overStorages) = (.wait, overStorages) := by
    with_unfolding_all rfl
  rw [hends] at hgoes
  refine ⟨_, hgoes, by with_unfolding_all rfl, ?_⟩
  obtain ⟨rounds, _, _, _, _, hensues, _⟩ := treated_of_goes hgoes
  obtain ⟨hlength, hpending⟩ := hensues.pending_mem
  rw [List.length_map] at hlength
  exact ⟨rounds, hlength, List.mem_map.1 hpending⟩

end RolePass

end ClusterKeeper
