import ClusterKeeper.Proofs.Election.Findings
import ClusterKeeper.Proofs.Pass.RoleConduct

/-!
How the instances of a replicaset are looked through before they are joined. They are looked up in the order of
the StatefulSets and of the replicas of each; one that is up tells its identifier (`Probe`), and the first that is
not up, or that cannot be read or asked, ends the search (`RolePass.Stops`).

Main statement: what is said while the addresses of a replicaset are collected is what is said of probes, of all
its instances or of those before the one where the search ended (`RolePass.collect_probes`).
-/

namespace ClusterKeeper

open Program

/-- An instance that was found under a name, with the identifier that it told. -/
structure Probe where
  name : String
  pod : Pod
  uuid : String

namespace Probe

variable {ns : String} {cluster : Cluster}

/-- What is said of a probe. -/
def turns (ns : String) (p : Probe) : Talk Surroundings :=
  [⟨Request.admin (.instanceUuid p.pod), Except.ok p.uuid⟩,
    ⟨Request.store (.get .pod ns p.name), Except.ok (some p.pod)⟩]

/-- What is said of probes that are made one after another, the latest one first. -/
def talk (ns : String) (probes : List Probe) : Talk Surroundings := probes.reverse.flatMap (turns ns)

/-- The addresses of those that are not part of a topology, in their order. -/
def addresses (cluster : Cluster) (probes : List Probe) : List String :=
  (probes.filter (·.uuid = "")).map fun p => cluster.advertiseUri p.pod.name

theorem talk_concat (ns : String) (probes : List Probe) (p : Probe) :
    talk ns (probes ++ [p]) = turns ns p ++ talk ns probes := by
  simp [talk]

theorem addresses_concat (cluster : Cluster) (probes : List Probe) (p : Probe) :
    addresses cluster (probes ++ [p]) =
      if p.uuid = "" then addresses cluster probes ++ [cluster.advertiseUri p.pod.name]
      else addresses cluster probes := by
  rw [addresses, List.filter_append, List.map_append]
  split
  next hnew => simp [addresses, hnew]
  next hplaced => simp [addresses, hplaced]

theorem turns_subset_talk {probes : List Probe} {p : Probe} (hp : p ∈ probes) : turns ns p ⊆ talk ns probes :=
  fun _ he => List.mem_flatMap.2 ⟨p, List.mem_reverse.2 hp, he⟩

end Probe

namespace RolePass

variable {r : Resolved} {t t₁ t' : Talk Surroundings} {s : StatefulSet} {names : List String}
  {probes : List Probe} {uris : List String}

/-! ### Instances -/

/-- The names of the instances of StatefulSets, in their order. -/
def instanceNames (r : Resolved) (live : List StatefulSet) : List String :=
  live.flatMap fun s => (List.range r.role.replicas.toNat).map fun replica : Nat => podName s.name replica

/-- The name of an instance tells its StatefulSet and its replica. -/
theorem podName_inj {name name' : String} {replica replica' : Nat}
    (h : podName name replica = podName name' replica') : name = name' ∧ replica = replica' :=
  append_integerText_inj h

/-- StatefulSets of distinct names have instances of distinct names. -/
theorem instanceNames_nodup {live : List StatefulSet} (h : (live.map StatefulSet.name).Nodup) :
    (instanceNames r live).Nodup := by
  refine List.nodup_flatMap.2 ⟨fun s _ => ?_, ?_⟩
  · have hreplica : Function.Injective fun replica : Nat => podName s.name replica :=
      fun _ _ hsame => (podName_inj hsame).2
    exact List.nodup_range.map hreplica
  · refine (List.pairwise_map.1 h).imp fun hne name hname hname' => ?_
    obtain ⟨replica, _, rfl⟩ := List.mem_map.1 hname
    obtain ⟨replica', _, hsame⟩ := List.mem_map.1 hname'
    exact hne (podName_inj hsame).1.symm

/-- Pods of distinct names have distinct addresses. -/
theorem advertiseUri_inj {cluster : Cluster} {pod pod' : String}
    (h : cluster.advertiseUri pod = cluster.advertiseUri pod') : pod = pod' := by
  have hlists := congrArg String.toList h
  simp only [Cluster.advertiseUri, String.toList_append, List.append_assoc] at hlists
  exact String.toList_inj.1 (List.append_cancel_right hlists)

/-- A pod is up: it runs, and it is not being deleted. -/
structure Up (pod : Pod) : Prop where
  running : pod.status.bind (·.phase) = some "Running"
  undeleted : pod.metadata.deletionTimestamp = none

theorem isUp_iff (pod : Pod) : isUp pod = true ↔ Up pod := by
  rw [isUp, Bool.and_eq_true, Bool.not_eq_true', Pod.isRunning, beq_iff_eq, Pod.isDeleting,
    ObjectMeta.isDeleting, Option.isSome_eq_false_iff, Option.isNone_iff_eq_none]
  exact ⟨fun h => ⟨h.1, h.2⟩, fun h => ⟨h.running, h.undeleted⟩⟩

/-- All instances of some names were found in their order, and are up. -/
structure Probed (names : List String) (probes : List Probe) : Prop where
  names : probes.map Probe.name = names
  up : ∀ p ∈ probes, Up p.pod

theorem Probed.concat {p : Probe} (h : Probed names probes) (hup : Up p.pod) :
    Probed (names ++ [p.name]) (probes ++ [p]) where
  names := by rw [List.map_append, h.names, List.map_singleton]
  up := List.forall_mem_append.2 ⟨h.up, List.forall_mem_singleton.2 hup⟩

/-- No address is there twice, when a name gives the pod that has it and no name is there twice. -/
theorem Probed.addresses_nodup {cluster : Cluster} (h : Probed names probes) (hnames : names.Nodup)
    (hfound : ∀ p ∈ probes, p.pod.name = p.name) : (Probe.addresses cluster probes).Nodup := by
  have hprobes : (probes.map Probe.name).Nodup := h.names ▸ hnames
  refine List.Nodup.map_on (fun p hp p' hp' hsame => ?_) (hprobes.of_map _ |>.filter _)
  have hp := List.mem_of_mem_filter hp
  have hp' := List.mem_of_mem_filter hp'
  refine List.inj_on_of_nodup_map hprobes hp hp' ?_
  rw [← hfound p hp, ← hfound p' hp', advertiseUri_inj hsame]

/-- What is said of the instance where the search ends. -/
inductive Stops (ns name : String) : Talk Surroundings → JoinObstacle → Prop
  | unread (e : OperatorError) : Stops ns name [⟨Request.store (.get .pod ns name), Except.error e⟩] (.other e)
  | down (found : Option Pod) : (∀ pod, found = some pod → ¬Up pod) →
      Stops ns name [⟨Request.log .debug "Instance is not running yet", ()⟩,
        ⟨Request.store (.get .pod ns name), Except.ok found⟩] .pending
  | untold (pod : Pod) (e : AdminError) : Up pod →
      Stops ns name [⟨Request.admin (.instanceUuid pod), Except.error e⟩,
        ⟨Request.store (.get .pod ns name), Except.ok (some pod)⟩] (.admin e)

theorem collectReplica_probes (r : Resolved) (s : StatefulSet) (replica : Nat) (uris : List String)
    (t : Talk Surroundings) :
    KeepsOr (fun _ _ => True) (collectReplica r s replica uris)
      (fun t' uris' => ∃ p : Probe, p.name = podName s.name replica ∧ Up p.pod ∧
        t' = p.turns r.ns ++ t ∧
        uris' = if p.uuid = "" then uris ++ [r.cluster.advertiseUri p.pod.name] else uris)
      (fun t' obstacle => ∃ said, t' = said ++ t ∧ Stops r.ns (podName s.name replica) said obstacle) t := by
  rw [collectReplica, keepsOr_bind, keepsOr_ofAttempt, Attempt.get, keepsOr_store]
  refine ⟨trivial, fun found => ?_, fun e => ⟨[_], rfl, .unread e⟩⟩
  split
  next hnone =>
    simp only [keepsOr_bind, keepsOr_lift, keeps_log, keepsOr_throw, true_and]
    refine ⟨[_, _], rfl, .down found fun pod hpod hup => ?_⟩
    exact Option.filter_eq_none_iff.1 hnone pod hpod ((isUp_iff pod).2 hup)
  next pod hpod =>
    obtain ⟨rfl, hisUp⟩ := Option.filter_eq_some_iff.1 hpod
    have hup : Up pod := (isUp_iff pod).1 hisUp
    rw [keepsOr_bind, keepsOr_asking, keepsOr_ask]
    exact ⟨trivial, fun uuid => ⟨⟨podName s.name replica, pod, uuid⟩, rfl, hup, rfl, rfl⟩,
      fun e => ⟨[_, _], rfl, .untold pod e hup⟩⟩

/-! ### Replicasets -/

/-- The listing of the StatefulSets of a replicaset, however it is answered. -/
abbrev listed (r : Resolved) (ordinal : Nat) (answer : Except OperatorError (List StatefulSet)) :
    Turn Surroundings :=
  ⟨Request.store (.list .statefulSet r.ns (Labels.ordinalSelector r.cluster.name r.role.name ordinal)), answer⟩

/-- What is said of instances of some names when the search ends at one of them, those before it being up. -/
inductive Breaks (r : Resolved) (names : List String) : Talk Surroundings → JoinObstacle → Prop
  | stopped (before : List String) (name : String) (probes : List Probe) (said : Talk Surroundings)
      (obstacle : JoinObstacle) : before ++ [name] <+: names → Probed before probes →
      Stops r.ns name said obstacle → Breaks r names (said ++ Probe.talk r.ns probes) obstacle

/-- The search has come so far. -/
def Reached (r : Resolved) (t : Talk Surroundings) (names : List String) (t' : Talk Surroundings)
    (uris : List String) : Prop :=
  ∃ probes, Probed names probes ∧ t' = Probe.talk r.ns probes ++ t ∧ uris = Probe.addresses r.cluster probes

/-- The search has ended before it was through. -/
def Broken (r : Resolved) (t : Talk Surroundings) (names : List String) (t' : Talk Surroundings)
    (obstacle : JoinObstacle) : Prop :=
  ∃ said, t' = said ++ t ∧ Breaks r names said obstacle

theorem Reached.collectReplica {before : List String} {replica : Nat} (h : Reached r t before t₁ uris)
    (hfirst : before ++ [podName s.name replica] <+: names) :
    KeepsOr (fun _ _ => True) (collectReplica r s replica uris)
      (Reached r t (before ++ [podName s.name replica])) (Broken r t names) t₁ := by
  obtain ⟨probes, hprobed, rfl, rfl⟩ := h
  refine (collectReplica_probes r s replica _ _).mono (fun t' uris' h => ?_) fun t' obstacle h => ?_
  · obtain ⟨p, hname, hup, rfl, rfl⟩ := h
    refine ⟨probes ++ [p], hname ▸ hprobed.concat hup, ?_, (Probe.addresses_concat _ _ _).symm⟩
    rw [Probe.talk_concat, List.append_assoc]
  · obtain ⟨said, rfl, hstops⟩ := h
    refine ⟨said ++ Probe.talk r.ns probes, by rw [List.append_assoc], ?_⟩
    exact .stopped before _ probes said obstacle hfirst hprobed hstops

/-- The names of the first few replicas come first. -/
theorem prefix_range_map {α : Type} (f : Nat → α) {n count : Nat} (h : n < count) :
    (List.range n).map f ++ [f n] <+: (List.range count).map f := by
  have hfirst : List.range (n + 1) <+: List.range count := by
    have htake := List.take_prefix (n + 1) (List.range count)
    rwa [List.take_range, Nat.min_eq_left h] at htake
  simpa [List.range_succ] using hfirst.map f

theorem Reached.replicas {before after : List String} (h : Reached r t before t₁ uris) (s : StatefulSet)
    (hnames : names = before ++ instanceNames r [s] ++ after) :
    KeepsOr (fun _ _ => True) (throughUpTo (RolePass.collectReplica r s) r.role.replicas.toNat 0 uris)
      (Reached r t (before ++ instanceNames r [s])) (Broken r t names) t₁ := by
  have hone : instanceNames r [s] =
      (List.range r.role.replicas.toNat).map fun replica : Nat => podName s.name replica :=
    List.flatMap_singleton _ _
  rw [hone] at hnames ⊢
  refine keepsOr_throughFirst
    (fun n => Reached r t (before ++ (List.range n).map fun replica : Nat => podName s.name replica)) _
    (fun n uris t₂ hlt h => ?_) uris (by simpa using h)
  rw [List.range_succ, List.map_append, ← List.append_assoc]
  refine h.collectReplica ?_
  rw [hnames, List.append_assoc, List.append_assoc, List.prefix_append_right_inj]
  exact (prefix_range_map _ hlt).trans (List.prefix_append _ _)

theorem through_probes (r : Resolved) (live : List StatefulSet) (t : Talk Surroundings) :
    KeepsOr (fun _ _ => True)
      (through (fun s => throughUpTo (collectReplica r s) r.role.replicas.toNat 0) live [])
      (Reached r t (instanceNames r live)) (Broken r t (instanceNames r live)) t := by
  refine (keepsOr_throughItems (fun left t' uris => ∃ done, live = done ++ left ∧
    Reached r t (instanceNames r done) t' uris) (fun s left uris t₁ h => ?_) live []
    ⟨[], rfl, [], ⟨rfl, fun _ hp => nomatch hp⟩, rfl, rfl⟩).mono (fun t' uris h => ?_) fun _ _ h => h
  · obtain ⟨done, rfl, hdone⟩ := h
    have hnames : instanceNames r (done ++ s :: left) =
        instanceNames r done ++ instanceNames r [s] ++ instanceNames r left := by
      simp [instanceNames]
    refine (hdone.replicas s hnames).mono (fun t' uris' h => ⟨done ++ [s], by simp, ?_⟩) fun _ _ h => h
    simpa [instanceNames] using h
  · obtain ⟨done, hall, h⟩ := h
    rw [List.append_nil] at hall
    exact hall ▸ h

/-- The names of the instances of the StatefulSets that are not being deleted, in their order. -/
def liveNames (r : Resolved) (all : List StatefulSet) : List String :=
  instanceNames r (all.filter fun s => s.metadata.deletionTimestamp.isNone)

theorem liveNames_nodup {all : List StatefulSet} (h : (all.map StatefulSet.name).Nodup) :
    (liveNames r all).Nodup :=
  instanceNames_nodup (h.sublist (List.filter_sublist.map _))

/-- How collecting the addresses of a replicaset fails: it cannot be listed, or the search breaks off. -/
inductive Uncollected (r : Resolved) (ordinal : Nat) : Talk Surroundings → JoinObstacle → Prop
  | unlisted (e : OperatorError) : Uncollected r ordinal [listed r ordinal (.error e)] (.other e)
  | broken (all : List StatefulSet) (said : Talk Surroundings) (obstacle : JoinObstacle) :
      Breaks r (liveNames r all) said obstacle →
      Uncollected r ordinal (said ++ [listed r ordinal (.ok all)]) obstacle

/-- What is said while the addresses of a replicaset are collected. -/
theorem collect_probes (r : Resolved) (ordinal : Nat) (t : Talk Surroundings) :
    KeepsOr (fun _ _ => True) (collect r ordinal)
      (fun t' uris => ∃ all probes, Probed (liveNames r all) probes ∧
        t' = Probe.talk r.ns probes ++ listed r ordinal (.ok all) :: t ∧
        uris = Probe.addresses r.cluster probes)
      (fun t' obstacle => ∃ said, t' = said ++ t ∧ Uncollected r ordinal said obstacle) t := by
  rw [collect, keepsOr_bind, keepsOr_ofAttempt, liveStatefulSets, keepsOr_bind, Attempt.list, keepsOr_store]
  refine ⟨trivial, fun all => ?_, fun e => ⟨[_], rfl, .unlisted e⟩⟩
  have hlive : (all.filter fun s => !s.metadata.isDeleting) =
      all.filter fun s => s.metadata.deletionTimestamp.isNone := by
    simp [ObjectMeta.isDeleting]
  rw [keepsOr_pure, hlive]
  refine (through_probes r _ _).mono (fun t' uris h => ?_) fun t' obstacle h => ?_
  · obtain ⟨probes, hprobed, rfl, rfl⟩ := h
    exact ⟨all, probes, hprobed, rfl, rfl⟩
  · obtain ⟨said, rfl, hbreaks⟩ := h
    exact ⟨said ++ [listed r ordinal (.ok all)], by simp, .broken all said obstacle hbreaks⟩

end RolePass

end ClusterKeeper
