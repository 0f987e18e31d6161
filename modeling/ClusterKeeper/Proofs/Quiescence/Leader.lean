import ClusterKeeper.Proofs.Pass.Leadership
import ClusterKeeper.Proofs.Simulation.Stage

/-!
The leader of a topology whose storages are bootstrapped. Once a leader was found, recorded or elected, it
is found again for as long as its pod and the record stay (`leaderFor_settles`, `leaderFor_of_led`): the
name that was recorded is that of the pod, and an instance that has applied its roles has applied them.
-/

namespace ClusterKeeper.Simulation

open Program

variable {τ : Type} {answer : Answering τ} {s : Stage τ} {rule : Stage τ → Request → Prop}
  {cluster : Cluster} {pod : Pod}

/-- An instance that can lead once the storages are bootstrapped. -/
structure Able (answer : Answering τ) (s : Stage τ) (pod : Pod) : Prop where
  stays : pod.isDeleting = false
  running : pod.isRunning = true
  configured : Configured answer s.topology pod

/-- The leader of a cluster is found. -/
structure Led (answer : Answering τ) (s : Stage τ) (cluster : Cluster) (pod : Pod) : Prop where
  named : cluster.leader = some pod.name
  found : s.objects.find? .pod cluster.nsOf pod.name = some pod
  able : Able answer s pod

/-- A leader is found for as long as its pod stays. -/
theorem Led.later {s' : Stage τ} (h : Led answer s cluster pod)
    (hpod : s'.objects.shelf .pod = s.objects.shelf .pod) (hlater : Later answer s.topology s'.topology) :
    Led answer s' cluster pod :=
  ⟨h.named, (Objects.find?_congr hpod _ _).trans h.found, h.able.stays, h.able.running,
    hlater.configured h.able.configured⟩

/-! ### The probe -/

section

variable [AdmitsReads rule] (h : Remembers answer) (hboot : cluster.isBootstrapped = true)
include h hboot

theorem canLead_settles : PlaysOr (Stage.respond answer) rule (Election.canLead cluster pod)
    (fun s' ready => s' = s ∧ (ready = true → Able answer s pod)) (fun s' _ => s' = s) s := by
  rw [Election.canLead, playsOr_ite]
  refine ⟨fun _ => ⟨rfl, fun htrue => Bool.noConfusion htrue⟩, fun hup => ?_⟩
  rw [Bool.or_eq_true, not_or, Bool.not_eq_true, Bool.not_eq_true', Bool.not_eq_false] at hup
  rw [playsOr_bind, playsOr_lift, Election.probe, if_pos hboot, plays_run,
    playsOr_query h (.isCartridgeConfigured pod) trivial]
  refine ⟨fun ready hready => ⟨rfl, fun htrue => ⟨hup.1, hup.2, hready.trans (congrArg _ htrue)⟩⟩,
    fun e _ => ?_⟩
  rw [playsOr_ite]
  refine ⟨fun _ => rfl, fun _ => ?_⟩
  rw [playsOr_bind, playsOr_log]
  exact ⟨rfl, fun htrue => Bool.noConfusion htrue⟩

theorem canLead_of_able (hable : Able answer s pod) :
    PlaysOr (Stage.respond answer) rule (Election.canLead cluster pod)
      (fun s' ready => s' = s ∧ ready = true) (fun _ _ => False) s := by
  rw [Election.canLead, playsOr_ite]
  refine ⟨fun hdown => ?_, fun _ => ?_⟩
  · rw [hable.stays, hable.running] at hdown
    cases hdown
  · rw [playsOr_bind, playsOr_lift, Election.probe, if_pos hboot, plays_run,
      playsOr_query_of_ok h (.isCartridgeConfigured pod) trivial hable.configured]
    exact ⟨rfl, rfl⟩

end

/-! ### The search -/

/-- A pod that is found under its name, which is not empty, and can lead. -/
structure Suits (answer : Answering τ) (s : Stage τ) (cluster : Cluster) (pod : Pod) : Prop where
  named : pod.name ≠ ""
  found : s.objects.find? .pod cluster.nsOf pod.name = some pod
  able : Able answer s pod

section

variable (h : Remembers answer) (hboot : cluster.isBootstrapped = true)
include h hboot

theorem candidate_settles (previous : Option String) (replica replicaset : Nat) (role : Role) :
    PlaysOr (Stage.respond answer) Free
      (Election.candidate cluster previous replica replicaset role)
      (fun s' r => s' = s ∧ ∀ pod, r = some pod → Suits answer s cluster pod) (fun s' _ => s' = s) s := by
  have hnone : s = s ∧ ∀ pod, (none : Option Pod) = some pod → Suits answer s cluster pod :=
    ⟨rfl, fun pod hpod => absurd hpod.symm (Option.some_ne_none pod)⟩
  rw [Election.candidate, playsOr_ite]
  refine ⟨fun _ => (playsOr_pure _).2 hnone, fun _ => ?_⟩
  dsimp only
  rw [playsOr_ite]
  refine ⟨fun _ => (playsOr_pure _).2 hnone, fun _ => ?_⟩
  rw [playsOr_bind, playsOr_get]
  split
  next => exact (playsOr_pure _).2 hnone
  next pod hpod =>
    have hname : pod.name = Election.instanceName role replicaset replica := s.kept.name hpod
    simp only [playsOr_bind, playsOr_lift, plays_run]
    refine (canLead_settles h hboot).mono (fun s' ready hready => ?_) fun s' _ hs => ?_
    · obtain ⟨rfl, hable⟩ := hready
      cases ready with
      | false => exact (playsOr_pure _).2 hnone
      | true =>
        refine (playsOr_pure _).2 ⟨rfl, fun _ hsome => Option.some.inj hsome ▸ ?_⟩
        exact ⟨hname ▸ Election.instanceName_ne_empty _ _ _, hname ▸ hpod, hable rfl⟩
    · rw [playsOr_log]
      exact (playsOr_pure _).2 (hs ▸ hnone)

theorem search_settles (roles : List Role) (previous : Option String) :
    PlaysOr (Stage.respond answer) Free (Election.search cluster roles previous)
      (fun s' r => s' = s ∧ ∀ pod, r = some pod → Suits answer s cluster pod) (fun s' _ => s' = s) s := by
  have hnone : ∀ s', s' = s → s' = s ∧ ∀ pod, (none : Option Pod) = some pod → Suits answer s cluster pod :=
    fun _ hs => ⟨hs, fun pod hpod => absurd hpod.symm (Option.some_ne_none pod)⟩
  have helim : ∀ {x : Attempt (Option Pod)} {s' : Stage τ},
      PlaysOr (Stage.respond answer) Free x
        (fun s' r => s' = s ∧ ∀ pod, r = some pod → Suits answer s cluster pod) (fun s' _ => s' = s) s' →
      PlaysOr (Stage.respond answer) Free x (fun s' r => r.elim (s' = s)
        fun pod => s' = s ∧ ∀ pod', some pod = some pod' → Suits answer s cluster pod')
        (fun s' _ => s' = s) s' := by
    refine fun hx => hx.mono (fun s' r hr => ?_) fun _ _ hs => hs
    cases r with
    | none => exact hr.1
    | some pod => exact hr
  refine playsOr_firstUpTo (· = s) hnone (fun replica s' hs => helim ?_) _ _ rfl
  refine playsOr_firstUpTo (· = s) hnone (fun replicaset s' hs => helim ?_) _ _ hs
  refine playsOr_firstOf (· = s) hnone (fun role s' hs => helim ?_) _ hs
  exact hs ▸ candidate_settles h hboot previous replica replicaset role

end

/-! ### The election -/

/-- What becomes of the stage and of the cluster when a leader is found: the cluster is as it was, or it was
stored with a leader. -/
structure Elected (answer : Answering τ) (s s' : Stage τ) (cluster cluster' : Cluster) (pod : Pod) :
    Prop extends OnlyIn .cluster s s' where
  led : Led answer s' cluster' pod
  bootstrapped : cluster'.isBootstrapped = true
  core : Kind.core (k := .cluster) cluster' = Kind.core (k := .cluster) cluster
  phase : cluster'.phase = cluster.phase
  stored : s' = s ∧ cluster' = cluster ∨
    s'.objects.find? .cluster cluster.nsOf cluster.name = some cluster'

theorem elected_of_led (hboot : cluster.isBootstrapped = true) (hled : Led answer s cluster pod) :
    Elected answer s s cluster cluster pod :=
  ⟨.rfl, hled, hboot, rfl, rfl, Or.inl ⟨rfl, rfl⟩⟩

section

variable (h : Remembers answer) (hboot : cluster.isBootstrapped = true)
include h hboot

theorem elect_settles (hforeign : cluster.foreignLeader = none)
    (hcore : ∀ old, s.objects.find? .cluster cluster.nsOf cluster.name = some old →
      Kind.core (k := .cluster) old = Kind.core (k := .cluster) cluster) (previous : Option String) :
    PlaysOr (Stage.respond answer) Free (Election.elect cluster previous)
      (fun s' r => Elected answer s s' cluster r.2 r.1) (fun _ _ => True) s := by
  rw [Election.elect, playsOr_bind, playsOr_list, playsOr_bind]
  refine (search_settles h hboot _ previous).mono (fun s' found hfound => ?_) fun _ _ _ => trivial
  obtain ⟨rfl, hfound⟩ := hfound
  cases found with
  | none => trivial
  | some pod =>
    obtain ⟨hname, hpod, hable⟩ := hfound pod rfl
    simp only [playsOr_bind, playsOr_lift, plays_run]
    refine playsOr_replaceStatus (fun _ _ => trivial) fun s₁ stored hstored => ?_
    obtain ⟨old, hold, hcore'⟩ := hstored.core
    have hsame : Kind.core (k := .cluster) stored = Kind.core (k := .cluster) cluster :=
      hcore'.trans (hcore old hold)
    have hns : Cluster.nsOf stored = cluster.nsOf := Kind.nsText_of_core hsame
    have hstatus : stored.status = (cluster.setLeader pod.name).status :=
      (congrArg Cluster.status hstored.status).symm
    have hled : Cluster.leader stored = some pod.name := by
      rw [Cluster.leader, Cluster.foreignLeader, Cluster.spec_of_core hsame, ← Cluster.foreignLeader, hforeign,
        Cluster.electedLeader_congr hstatus, Cluster.electedLeader_setLeader hname]
      rfl
    have helected : Elected answer s' s₁ cluster stored pod := by
      refine ⟨hstored.toOnlyIn, ⟨hled, ?_, hable.stays, hable.running, hstored.topology ▸ hable.configured⟩,
        ?_, hsame, ?_, Or.inr hstored.found⟩
      · have hother : Kind.pod ≠ .cluster := by decide
        rw [hns, hstored.toOnlyIn.find? hother]
        exact hpod
      · rw [Cluster.isBootstrapped_congr hstatus, Cluster.isBootstrapped_setLeader, hboot]
      · exact congrArg (fun status => (status.getD ClusterStatus.initial).phase) hstatus
    rw [playsOr_log]
    exact ⟨trivial, helected⟩

end

/-! ### The leader -/

section

variable (h : Remembers answer) (hboot : cluster.isBootstrapped = true)
include h hboot

theorem recorded_settles {leader : String} (hleader : cluster.leader = some leader) :
    PlaysOr (Stage.respond answer) Free (Election.recorded cluster leader)
      (fun s' pod => s' = s ∧ Led answer s cluster pod) (fun s' _ => s' = s) s := by
  rw [Election.recorded, playsOr_bind, playsOr_get]
  split
  next => rfl
  next pod hpod =>
    rw [playsOr_bind]
    refine (canLead_settles h hboot).imp fun s' ready hready => ?_
    rw [playsOr_ite]
    obtain ⟨rfl, hable⟩ := hready
    have hname : pod.name = leader := s'.kept.name hpod
    exact ⟨fun htrue => ⟨rfl, hname ▸ hleader, hname ▸ hpod, hable htrue⟩, fun _ => rfl⟩

/-- A leader that was found, recorded or elected, is recorded and can lead. -/
theorem leaderFor_settles
    (hcore : ∀ old, s.objects.find? .cluster cluster.nsOf cluster.name = some old →
      Kind.core (k := .cluster) old = Kind.core (k := .cluster) cluster) :
    PlaysOr (Stage.respond answer) Free (Election.leaderFor cluster)
      (fun s' r => Elected answer s s' cluster r.2 r.1) (fun _ _ => True) s := by
  rw [Election.leaderFor]
  split
  next hnone =>
    have hforeign : cluster.foreignLeader = none := by
      rw [Cluster.leader, Option.orElse_eq_orElse, Option.orElse_eq_or, Option.or_eq_none_iff] at hnone
      exact hnone.1
    exact elect_settles h hboot hforeign hcore none
  next leader hleader =>
    simp only [playsOr_bind, playsOr_lift, plays_run]
    refine (recorded_settles h hboot hleader).mono (fun s' pod hpod => ?_) fun s' e hs => ?_
    · obtain ⟨rfl, hled⟩ := hpod
      exact elected_of_led hboot hled
    · split
      next heq => cases heq
      next lost _ =>
        rw [playsOr_ite]
        refine ⟨fun hlost => ?_, fun _ => trivial⟩
        rw [playsOr_bind, playsOr_log]
        have hforeign : cluster.foreignLeader = none :=
          Option.isNone_iff_eq_none.1 (Bool.and_eq_true_iff.1 hlost).2
        exact hs ▸ elect_settles h hboot hforeign hcore (some lost)
      next => trivial

/-- A leader that is recorded and can lead is found without a change. -/
theorem leaderFor_of_led [AdmitsReads rule] (hled : Led answer s cluster pod) :
    PlaysOr (Stage.respond answer) rule (Election.leaderFor cluster)
      (fun s' r => s' = s ∧ r = (pod, cluster)) (fun _ _ => False) s := by
  rw [Election.leaderFor, hled.named]
  simp only [playsOr_bind, playsOr_lift, plays_run]
  rw [Election.recorded, playsOr_bind, playsOr_get, hled.found]
  simp only [playsOr_bind]
  refine (canLead_of_able h hboot hled.able).mono (fun s' ready hready => ?_) fun _ _ hfalse => hfalse.elim
  obtain ⟨rfl, rfl⟩ := hready
  exact ⟨rfl, rfl⟩

end

end ClusterKeeper.Simulation
