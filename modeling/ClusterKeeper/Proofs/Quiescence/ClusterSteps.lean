import ClusterKeeper.Proofs.Cartridge.Settings
import ClusterKeeper.Proofs.Drift
import ClusterKeeper.Proofs.Failover
import ClusterKeeper.Proofs.Quiescence.Steps

/-!
The steps of a pass over a cluster, on a stage. Each goes on with what it brought about (`*_settles`), and
where that is so already it goes on without a change (`*_of_*`).
-/

namespace ClusterKeeper.Simulation

open Program ClusterPass

variable {τ : Type} {answer : Answering τ} {s s' : Stage τ} {rule : Stage τ → Request → Prop}
  {on : Stage τ → ClusterPass → Prop} {ends : Stage τ → Outcome → ClusterPass → Prop}
  {key : ObjectKey} {cluster : Cluster} {leader : Pod}

/-- The service of a cluster is there and needs no change. -/
def Serviced (os : Objects) (ns : String) (cluster : Cluster) : Prop :=
  ∃ service, os.find? .service ns cluster.name = some service ∧
    (Service.synced cluster.service service).2 = false

/-- There are roles of a cluster, and each is in one of some phases. -/
def Awaited (os : Objects) (key : ObjectKey) (phases : List RolePhase) : Prop :=
  os.matching .role key.ns (Labels.clusterSelector key.name) ≠ [] ∧
    ∀ role ∈ os.matching .role key.ns (Labels.clusterSelector key.name), Role.phase role ∈ phases

/-- The failover parameters that a cluster asks for are those that are told. -/
def FailsOver (answer : Answering τ) (s : Stage τ) (cluster : Cluster) (leader : Pod) : Prop :=
  ∃ wanted actual, s.recollect answer (Failover.wanted cluster).run = .ok wanted ∧
    (answer s.topology (.failoverParams leader)).1 = .ok actual ∧ wanted.SatisfiedBy actual

/-- What a cluster asks for stays the same for as long as the secrets do. -/
theorem recollect_wanted (hsecret : s'.objects.shelf .secret = s.objects.shelf .secret) :
    s'.recollect answer (Failover.wanted cluster).run = s.recollect answer (Failover.wanted cluster).run := by
  refine Stage.recollect_congr (Failover.wanted_asksSecret cluster) fun q hq => ?_
  unfold Request.AsksSecret at hq
  split at hq
  next ns name => exact congrArg Except.ok (Objects.find?_congr hsecret ns name)
  next => exact hq.elim

theorem FailsOver.congr (h : FailsOver answer s cluster leader)
    (hsecret : s'.objects.shelf .secret = s.objects.shelf .secret) (htopology : s'.topology = s.topology) :
    FailsOver answer s' cluster leader := by
  obtain ⟨wanted, actual, hwanted, hactual, hsatisfied⟩ := h
  exact ⟨wanted, actual, (recollect_wanted hsecret).trans hwanted, htopology ▸ hactual, hsatisfied⟩

theorem reads_wanted : (Failover.wanted cluster).run.Only Request.Reads := by
  refine (Failover.wanted_asksSecret cluster).imp fun q hq => ?_
  unfold Request.AsksSecret at hq
  split at hq
  next => trivial
  next => exact hq.elim

/-! ### Before the leader -/

theorem goes_checkDeletion {leader : Option Pod} :
    Goes answer rule checkDeletion on ends s ⟨key, some cluster, leader⟩ ↔
      (cluster.metadata.isDeleting = true → ends s .complete ⟨key, some cluster, leader⟩) ∧
      (cluster.metadata.isDeleting = false → on s ⟨key, some cluster, leader⟩) := by
  rw [checkDeletion, goes_reading]
  dsimp only
  rw [playsOr_pure, Option.any_some]
  cases cluster.metadata.isDeleting with
  | true => exact ⟨fun h => ⟨fun _ => h, nofun⟩, fun h => h.1 rfl⟩
  | false => exact ⟨fun h => ⟨nofun, fun _ => h⟩, fun h => h.2 rfl⟩

/-- A service that fits is stored as one that fits. -/
theorem serviced_of_stored {given stored : Service} (hns : given.metadata.nsText = key.ns)
    (hname : given.metadata.nameText = cluster.name) (hfits : Service.Fits cluster.service given)
    (hstored : Stored s s' (k := .service) given stored) : Serviced s'.objects key.ns cluster := by
  have hfound : s'.objects.find? .service given.metadata.nsText given.metadata.nameText = some stored :=
    hstored.found
  rw [hns, hname] at hfound
  refine ⟨stored, hfound, ?_⟩
  have hfits' : Service.Fits cluster.service stored := by
    obtain ⟨version, hstamped⟩ := hstored.stamped
    subst hstamped
    exact ⟨hfits.address, hfits.readiness, hfits.selector, hfits.ports,
      ObjectMeta.withOwner?_eq_none_of_eq (m := given.metadata) rfl hfits.owner⟩
  rw [hfits'.synced]

theorem syncClusterWideService_settles {leader : Option Pod} (hns : cluster.nsOf = key.ns)
    (hends : ∀ s outcome, outcome.Retries →
      ends s outcome ⟨key, some cluster, leader⟩)
    (hon : ∀ s', OnlyIn .service s s' → Serviced s'.objects key.ns cluster →
      on s' ⟨key, some cluster, leader⟩) :
    Goes answer Free syncClusterWideService on ends s ⟨key, some cluster, leader⟩ := by
  have hname : cluster.service.name = cluster.name := rfl
  rw [syncClusterWideService, goes_reading]
  dsimp only
  rw [playsOr_bind, loaded, playsOr_pure, playsOr_bind, playsOr_get, hname]
  split
  next =>
    rw [playsOr_bind, playsOr_log, playsOr_bind]
    refine playsOr_create (fun s' e => hends s' (.fail e) trivial) fun s' stored _ hstored => ?_
    have hplace : cluster.service.metadata.nsText = key.ns := hns
    exact hon s' hstored.toOnlyIn (serviced_of_stored hplace hname (Service.fits_self _) hstored)
  next existing hexisting =>
    split
    next heq => exact hon s .rfl ⟨existing, hexisting, congrArg Prod.snd heq⟩
    next synced heq =>
      obtain rfl : (Service.synced cluster.service existing).1 = synced := congrArg Prod.fst heq
      have hplace : (Service.synced cluster.service existing).1.metadata.place = existing.metadata.place :=
        Service.place_synced cluster.service existing
      rw [playsOr_bind, playsOr_log, playsOr_bind]
      refine playsOr_replace (fun s' e => hends s' (.fail e) trivial) fun s' stored hstored => ?_
      refine hon s' hstored.toOnlyIn (serviced_of_stored ?_ ?_ (Service.fits_synced _ _) hstored)
      · exact (ObjectMeta.nsText_of_place hplace).trans (s.kept.ns hexisting)
      · exact (ObjectMeta.nameText_of_place hplace).trans (s.kept.name hexisting)

theorem syncClusterWideService_of_serviced [AdmitsReads rule] {leader : Option Pod}
    (hon : on s ⟨key, some cluster, leader⟩) (hserviced : Serviced s.objects key.ns cluster) :
    Goes answer rule syncClusterWideService on ends s ⟨key, some cluster, leader⟩ := by
  have hname : cluster.service.name = cluster.name := rfl
  obtain ⟨service, hservice, hsynced⟩ := hserviced
  rw [syncClusterWideService, goes_reading]
  dsimp only
  rw [playsOr_bind, loaded, playsOr_pure, playsOr_bind, playsOr_get, hname, hservice]
  dsimp only
  split
  next => exact hon
  next heq =>
    rw [heq] at hsynced
    cases hsynced

theorem waitForRolesPhases_settles [AdmitsReads rule] {leader : Option Pod} {phases : List RolePhase}
    (hends : ends s .complete ⟨key, some cluster, leader⟩)
    (hon : Awaited s.objects key phases → on s ⟨key, some cluster, leader⟩) :
    Goes answer rule (waitForRolesPhases phases) on ends s ⟨key, some cluster, leader⟩ := by
  rw [waitForRolesPhases, goes_reading]
  dsimp only
  rw [playsOr_bind, playsOr_list, playsOr_ite]
  refine ⟨fun _ => ?_, fun hsome => ?_⟩
  · rw [playsOr_bind, playsOr_log]
    exact hends
  · rw [playsOr_ite]
    refine ⟨fun hall => ?_, fun _ => ?_⟩
    · exact hon ⟨hsome, fun role hrole => of_decide_eq_true (List.all_eq_true.1 hall role hrole)⟩
    · rw [playsOr_bind, playsOr_log]
      exact hends

theorem waitForRolesPhases_of_awaited [AdmitsReads rule] {leader : Option Pod} {phases : List RolePhase}
    (hon : on s ⟨key, some cluster, leader⟩) (hawaited : Awaited s.objects key phases) :
    Goes answer rule (waitForRolesPhases phases) on ends s ⟨key, some cluster, leader⟩ := by
  rw [waitForRolesPhases, goes_reading]
  dsimp only
  rw [playsOr_bind, playsOr_list, playsOr_ite]
  refine ⟨fun hnil => absurd hnil hawaited.1, fun _ => ?_⟩
  rw [playsOr_ite]
  refine ⟨fun _ => hon, fun hsome => absurd ?_ hsome⟩
  exact List.all_eq_true.2 fun role hrole => decide_eq_true (hawaited.2 role hrole)

/-! ### Behind the leader -/

theorem bootstrap_of_bootstrapped (hboot : cluster.isBootstrapped = true)
    (hon : on s ⟨key, some cluster, some leader⟩) :
    Goes answer rule bootstrap on ends s ⟨key, some cluster, some leader⟩ := by
  rw [bootstrap, goes_ofAttempt, playsOr_bind, loaded, playsOr_pure, playsOr_ite]
  exact ⟨fun _ => hon, fun hnot => absurd hboot hnot⟩

theorem configureFailover_settles (h : Remembers answer)
    (hends : ∀ s outcome, outcome.Retries →
      ends s outcome ⟨key, some cluster, some leader⟩)
    (hon : ∀ s', Onward answer s s' → FailsOver answer s' cluster leader →
      on s' ⟨key, some cluster, some leader⟩) :
    Goes answer Free configureFailover on ends s ⟨key, some cluster, some leader⟩ := by
  rw [configureFailover, goes_reading, playsOr_bind, loaded, playsOr_pure, playsOr_bind, known, playsOr_pure,
    playsOr_bind, PlaysOr, plays_of_reads h reads_wanted]
  cases hwanted : s.recollect answer (Failover.wanted cluster).run with
  | error e => exact hends s (.fail e) trivial
  | ok wanted =>
    dsimp only
    rw [playsOr_bind, playsOr_admin, playsOr_query h (.failoverParams leader) trivial]
    refine ⟨fun actual hactual => ?_, fun e _ => hends s (.fail (.admin e)) trivial⟩
    rw [playsOr_ite]
    refine ⟨fun hsatisfied => hon s .rfl ⟨wanted, actual, hwanted, hactual, hsatisfied⟩, fun _ => ?_⟩
    rw [playsOr_bind, playsOr_log, playsOr_bind, playsOr_admin, playsOr_ask]
    refine ⟨trivial, fun _ hset => ?_, fun e _ => hends _ (.fail (.admin e)) trivial⟩
    have honward := onward_admin (s := s) h (.setFailoverParams leader wanted)
    have hsame := (recollect_wanted (congrArg (Objects.shelf · .secret) honward.objects)).trans hwanted
    exact hon _ honward ⟨wanted, wanted, hsame, h.params hset, wanted.satisfiedBy_self⟩

theorem configureFailover_of_failsOver [AdmitsReads rule] (h : Remembers answer)
    (hon : on s ⟨key, some cluster, some leader⟩) (hfails : FailsOver answer s cluster leader) :
    Goes answer rule configureFailover on ends s ⟨key, some cluster, some leader⟩ := by
  obtain ⟨wanted, actual, hwanted, hactual, hsatisfied⟩ := hfails
  rw [configureFailover, goes_reading, playsOr_bind, loaded, playsOr_pure, playsOr_bind, known, playsOr_pure,
    playsOr_bind, PlaysOr, plays_of_reads h reads_wanted, hwanted]
  dsimp only
  rw [playsOr_bind, playsOr_admin, playsOr_query_of_ok h (.failoverParams leader) trivial hactual, playsOr_ite]
  exact ⟨fun _ => hon, fun hnot => absurd hsatisfied hnot⟩

end ClusterKeeper.Simulation
