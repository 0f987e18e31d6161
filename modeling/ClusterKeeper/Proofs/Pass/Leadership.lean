import ClusterKeeper.Election
import ClusterKeeper.Proofs.Pass.Conduct

/-!
The election keeps to the rule of passes. Everything before the status is written is free of joins and
leaves clusters alone, so the copy is still the one that the store gave last; it is written only when it has no
leader or its storages are bootstrapped, and the name that is written is that of the pod that was found.
-/

namespace ClusterKeeper.Election

open Program

variable {t : Talk Surroundings} {base cluster : Cluster}

/-! ### What is asked -/

/-- The request is one of a search for a leader: it looks up a pod, or asks an instance whether it can lead, or is
a line of the log. -/
def Searches : Request → Prop
  | .store (.get .pod ..) | .admin (.isCartridgeStarted _) | .admin (.isCartridgeConfigured _) | .log .. => True
  | _ => False

theorem Searches.deedFree {q : Request} (h : Searches q) : q.DeedFree := by
  unfold Searches at h
  split at h <;> first | exact h.elim | trivial

theorem canLead_searches (cluster : Cluster) (pod : Pod) : (canLead cluster pod).run.Only Searches := by
  intro t
  simp [canLead, probe, Searches]

theorem canLead_deedFree (cluster : Cluster) (pod : Pod) : (canLead cluster pod).run.Only Request.DeedFree :=
  (canLead_searches cluster pod).imp fun _ => Searches.deedFree

theorem candidate_searches (cluster : Cluster) (previous : Option String) (replica replicaset : Nat)
    (role : Role) : (candidate cluster previous replica replicaset role).run.Only Searches := by
  intro t
  rw [keeps_run, candidate, keepsOr_ite]
  refine ⟨fun _ => trivial, fun _ => ?_⟩
  dsimp only
  rw [keepsOr_ite]
  refine ⟨fun _ => trivial, fun _ => ?_⟩
  rw [keepsOr_bind, Attempt.get, keepsOr_store]
  refine ⟨trivial, Option.forall.2 ⟨trivial, fun pod => ?_⟩, fun _ => trivial⟩
  simp only [keepsOr_bind, keepsOr_lift, keeps_run]
  refine ((keeps_run _).1 (canLead_searches cluster pod _)).mono (fun t ready _ => ?_) fun t e _ => ?_
  · cases ready <;> trivial
  · simp [Searches]

theorem search_searches (cluster : Cluster) (roles : List Role) (previous : Option String) :
    (search cluster roles previous).run.Only Searches := by
  have helim : ∀ {x : Attempt (Option Pod)} {t : Talk Surroundings},
      KeepsOr (fun _ q => Searches q) x (fun _ _ => True) (fun _ _ => True) t →
      KeepsOr (fun _ q => Searches q) x (fun _ r => r.elim True fun _ => True) (fun _ _ => True) t :=
    fun h => h.mono (fun t r _ => by cases r <;> trivial) fun _ _ h => h
  intro t
  rw [keeps_run]
  refine keepsOr_firstUpTo (fun _ _ => trivial) (fun replica t _ => helim ?_) _ _ trivial
  refine keepsOr_firstUpTo (fun _ _ => trivial) (fun replicaset t _ => helim ?_) _ _ trivial
  refine keepsOr_firstOf (fun _ _ => trivial) (fun role t _ => helim ?_) _ trivial
  exact (keeps_run _).1 (candidate_searches cluster previous replica replicaset role t)

theorem search_deedFree (cluster : Cluster) (roles : List Role) (previous : Option String) :
    (search cluster roles previous).run.Only Request.DeedFree :=
  (search_searches cluster roles previous).imp fun _ => Searches.deedFree

theorem recorded_searches (cluster : Cluster) (leader : String) : (recorded cluster leader).run.Only Searches := by
  intro t
  rw [keeps_run, recorded, keepsOr_bind, Attempt.get, keepsOr_store]
  refine ⟨trivial, Option.forall.2 ⟨trivial, fun pod => ?_⟩, fun _ => trivial⟩
  rw [keepsOr_bind]
  refine ((keeps_run _).1 (canLead_searches cluster pod _)).mono (fun t ready _ => ?_) fun _ _ h => h
  simp

theorem recorded_deedFree (cluster : Cluster) (leader : String) :
    (recorded cluster leader).run.Only Request.DeedFree :=
  (recorded_searches cluster leader).imp fun _ => Searches.deedFree

/-- The request writes the status of a cluster. -/
def WritesCluster (q : Request) : Prop := ∃ given, q = .store (.replaceStatus .cluster given)

/-- The request is one of an election: it searches for a leader, lists roles, writes the status of a cluster, or
records that there is a leader. -/
def Asks (q : Request) : Prop :=
  Searches q ∨ (∃ ns selector, q = .store (.list .role ns selector)) ∨ WritesCluster q ∨
    ∃ about leader, q = .record about (elected leader)

theorem Asks.deedFreeOr {q : Request} (h : Asks q) : q.DeedFreeOr WritesCluster := by
  rcases h with hsearches | ⟨ns, selector, rfl⟩ | hwrites | ⟨about, leader, rfl⟩
  · exact Or.inl hsearches.deedFree
  · exact Or.inl (by simp)
  · exact Or.inr hwrites
  · exact Or.inl (by simp [elected])

theorem elect_asks (cluster : Cluster) (previous : Option String) : (elect cluster previous).run.Only Asks := by
  intro t
  rw [keeps_run, elect, keepsOr_bind, Attempt.list, keepsOr_store]
  refine ⟨.inr (.inl ⟨_, _, rfl⟩), fun roles => ?_, fun _ => trivial⟩
  have hsearch : (search cluster roles previous).run.Only Asks :=
    (search_searches cluster roles previous).imp fun _ => Or.inl
  rw [keepsOr_bind]
  refine ((keeps_run _).1 (hsearch _)).mono (fun t found _ => ?_) fun _ _ h => h
  cases found with
  | none => trivial
  | some pod => simp [Asks, Searches, WritesCluster]

theorem leaderFor_asks (cluster : Cluster) : (leaderFor cluster).run.Only Asks := by
  intro t
  rw [keeps_run, leaderFor]
  split
  next => exact (keeps_run _).1 (elect_asks cluster none t)
  next leader _ =>
    have hrecorded : (recorded cluster leader).run.Only Asks :=
      (recorded_searches cluster leader).imp fun _ => Or.inl
    simp only [keepsOr_bind, keepsOr_lift, keeps_run]
    refine ((keeps_run _).1 (hrecorded t)).mono (fun t pod _ => trivial) fun t e _ => ?_
    split
    next h => cases h
    next lost _ =>
      rw [keepsOr_ite]
      refine ⟨fun _ => ?_, fun _ => trivial⟩
      rw [keepsOr_bind, keepsOr_log, keeps_log]
      exact ⟨Or.inl trivial, (keeps_run _).1 (elect_asks cluster _ _)⟩
    next => trivial

/-- The election writes nothing but the status of the cluster. -/
theorem leaderFor_writes (cluster : Cluster) :
    (leaderFor cluster).run.Only (Request.DeedFreeOr WritesCluster) :=
  (leaderFor_asks cluster).imp fun _ => Asks.deedFreeOr

/-! ### The search -/

theorem instanceName_ne_empty (role : Role) (replicaset replica : Nat) :
    instanceName role replicaset replica ≠ "" := by
  simp [instanceName, podName]

/-- The pod that was found, if there is one, has a name. -/
def Nominated (base : Cluster) (t : Talk Surroundings) : Option Pod → Prop
  | none => t.copy = some base
  | some pod => t.copy = some base ∧ (t.FindsNamed → pod.name ≠ "")

theorem candidate_keeps {previous : Option String} {replica replicaset : Nat} {role : Role}
    (ht : t.copy = some base) :
    KeepsOr Proper (candidate cluster previous replica replicaset role) (Nominated base)
      (fun t _ => t.copy = some base) t := by
  rw [candidate, keepsOr_ite]
  refine ⟨fun _ => ht, fun _ => ?_⟩
  dsimp only
  rw [keepsOr_ite]
  refine ⟨fun _ => ht, fun _ => ?_⟩
  rw [keepsOr_bind, Attempt.get, keepsOr_store]
  refine ⟨trivial, Option.forall.2 ⟨?_, fun pod => ?_⟩, by simp [ht]⟩
  · simp [Nominated, ht]
  · have hnamed : ∀ t' : Talk Surroundings, t' = ⟨Request.store (.get .pod cluster.nsOf
        (instanceName role replicaset replica)), Except.ok (some pod)⟩ :: t →
        t'.copy = some base ∧ (t'.FindsNamed → pod.name ≠ "") := by
      rintro t' rfl
      exact ⟨by simp [ht], Talk.name_ne_empty_of_findsNamed (instanceName_ne_empty _ _ _)⟩
    simp only [keepsOr_bind, keepsOr_lift, keeps_run]
    refine (keepsOr_of_joinFree (canLead_deedFree cluster pod).joinFree
      ((persists_copy _).and (persists_of_all Turn.FindsNamed _)) (hnamed _ rfl)).mono (fun t ready hpod => ?_)
      fun t e hpod => ?_
    · cases ready with
      | true => exact hpod
      | false => exact hpod.1
    · simp [Nominated, hpod.1]

theorem search_keeps {roles : List Role} {previous : Option String} (ht : t.copy = some base) :
    KeepsOr Proper (search cluster roles previous) (Nominated base) (fun t _ => t.copy = some base) t := by
  have helim : ∀ {x : Attempt (Option Pod)} {t : Talk Surroundings},
      KeepsOr Proper x (Nominated base) (fun t _ => t.copy = some base) t →
      KeepsOr Proper x
        (fun t r => r.elim (t.copy = some base) fun pod => Nominated base t (some pod))
        (fun t _ => t.copy = some base) t := by
    refine fun h => h.mono (fun t r hr => ?_) fun _ _ h => h
    cases r <;> exact hr
  refine keepsOr_firstUpTo (fun _ h => h) (fun replica t ht => helim ?_) _ _ ht
  refine keepsOr_firstUpTo (fun _ h => h) (fun replicaset t ht => helim ?_) _ _ ht
  exact keepsOr_firstOf (fun _ h => h) (fun role t ht => helim (candidate_keeps ht)) _ ht

/-! ### The election -/

/-- A leader with the cluster as it is then: the copy that there was, or the one that was written. -/
def Led (base cluster : Cluster) (t : Talk Surroundings) (r : Pod × Cluster) : Prop :=
  (r.2 = cluster ∧ t.copy = some base ∨ t.copy = some r.2) ∧ Leads t r.2 r.1

theorem persists_led (base cluster : Cluster) (r : Pod × Cluster) :
    Persists fun t => Led base cluster t r :=
  (((persists_const _).and (persists_copy _)).or (persists_copy _)).and (persists_leads _ _)

theorem elect_keeps {previous : Option String} (ht : t.copy = some base) (hbase : base.Alike cluster)
    (hmay : cluster.leader = none ∨ cluster.isBootstrapped) :
    KeepsOr Proper (elect cluster previous) (Led base cluster) (fun t _ => t.copy = some base) t := by
  rw [elect, keepsOr_bind, Attempt.list, keepsOr_store]
  refine ⟨by simp, fun roles => ?_, by simp [ht]⟩
  rw [keepsOr_bind]
  refine (search_keeps (by simp [ht])).mono (fun t found hfound => ?_) fun _ _ h => h
  cases found with
  | none => exact hfound
  | some pod =>
    obtain ⟨hcopy, hname⟩ := hfound
    simp only [keepsOr_bind, keepsOr_lift, keeps_run, Attempt.replaceStatus, keepsOr_store]
    refine ⟨⟨base, hcopy, hbase.metadata, hbase.advances_setLeader hmay _, fun hn _ => ?_⟩,
      fun stored => ?_, fun e => ?_⟩
    · rw [Cluster.electedLeader_setLeader (hname hn)]
      exact Option.some_ne_none _
    · have hled : Led base cluster (⟨Request.store (.replaceStatus .cluster
          (cluster.setLeader pod.name)), Except.ok stored⟩ :: t) (pod, stored) := by
        refine ⟨Or.inr (Talk.copy_cons_of_some rfl), fun hn hs _ => ?_⟩
        rw [Cluster.electedLeader_congr (Talk.takesStatus_cons.1 hs).1]
        exact Cluster.electedLeader_setLeader (hname (Talk.namesPods_cons.1 hn).2.findsNamed)
      have hstays := persists_led base cluster (pod, stored)
      simpa using hstays _ _ _ Request.elsewhere_record (hstays _ _ _ Request.elsewhere_log hled)
    · simp [hcopy]

theorem recorded_keeps {leader : String} (ht : t.copy = some base) :
    KeepsOr Proper (recorded cluster leader)
      (fun t pod => t.copy = some base ∧ (t.NamesPods → pod.name = leader))
      (fun t _ => t.copy = some base) t := by
  rw [recorded, keepsOr_bind, Attempt.get, keepsOr_store]
  refine ⟨trivial, Option.forall.2 ⟨by simp [ht], fun pod => ?_⟩, by simp [ht]⟩
  rw [keepsOr_bind]
  refine (keepsOr_of_joinFree (canLead_deedFree cluster pod).joinFree
    ((persists_copy _).and (persists_of_all Turn.NamesPod _))
    ⟨by simp [ht], Talk.name_of_namesPods⟩).mono (fun t ready hpod => ?_) fun _ _ h => h.1
  rw [keepsOr_ite]
  exact ⟨fun _ => hpod, fun _ => hpod.1⟩

theorem leaderFor_keeps (ht : t.copy = some base) (hbase : base.Alike cluster) :
    KeepsOr Proper (leaderFor cluster) (Led base cluster) (fun t _ => t.copy = some base) t := by
  rw [leaderFor]
  split
  next hnone => exact elect_keeps ht hbase (Or.inl hnone)
  next leader hleader =>
    simp only [keepsOr_bind, keepsOr_lift, keeps_run]
    refine (recorded_keeps ht).mono (fun t pod hpod => ?_) fun t e he => ?_
    · refine ⟨Or.inl ⟨rfl, hpod.1⟩, fun hn _ hforeign => ?_⟩
      rw [Cluster.electedLeader_of_leader_eq_some hleader hforeign, hpod.2 hn]
    · split
      next h => cases h
      next lost _ =>
        rw [keepsOr_ite]
        refine ⟨fun hlost => ?_, fun _ => he⟩
        have hboot : cluster.isBootstrapped := (Bool.and_eq_true_iff.1 hlost).1
        simpa using elect_keeps (by simp [he]) hbase (Or.inr hboot)
      next => exact he

/-! ### The record of the bootstrap -/

/-- If the store keeps the statuses that it takes, the election leaves the record of the bootstrap alone. -/
def KeepsBootstrap (cluster : Cluster) (t : Talk Surroundings) (r : Pod × Cluster) : Prop :=
  t.TakesStatus → r.2.isBootstrapped = cluster.isBootstrapped

theorem elect_keepsBootstrap (cluster : Cluster) (previous : Option String) :
    KeepsOr (fun _ _ => True) (elect cluster previous) (KeepsBootstrap cluster) (fun _ _ => True) t := by
  rw [elect, keepsOr_bind, Attempt.list, keepsOr_store]
  refine ⟨trivial, fun roles => ?_, fun _ => trivial⟩
  rw [keepsOr_bind]
  have hsearch : ∀ roles t, KeepsOr (fun _ _ => True) (search cluster roles previous) (fun _ _ => True)
      (fun _ _ => True) t := fun _ _ => keepsOr_of_forall _ (fun _ _ => trivial) fun _ _ => trivial
  refine (hsearch roles _).mono (fun t found _ => ?_) fun _ _ h => h
  cases found with
  | none => trivial
  | some pod =>
    simp only [keepsOr_bind, keepsOr_lift, keeps_run, Attempt.replaceStatus, keepsOr_store, keepsOr_log,
      keeps_log, keepsOr_record, keeps_record, keepsOr_pure]
    refine ⟨trivial, fun stored => ⟨trivial, trivial, fun ht => ?_⟩, fun e => trivial⟩
    have hstatus : stored.status = (cluster.setLeader pod.name).status :=
      (Talk.takesStatus_cons.1 (Talk.takesStatus_cons.1 (Talk.takesStatus_cons.1 ht).2).2).1
    rw [Cluster.isBootstrapped_congr hstatus, Cluster.isBootstrapped_setLeader]

theorem leaderFor_keepsBootstrap (cluster : Cluster) :
    KeepsOr (fun _ _ => True) (leaderFor cluster) (KeepsBootstrap cluster) (fun _ _ => True) t := by
  rw [leaderFor]
  split
  next => exact elect_keepsBootstrap cluster none
  next leader _ =>
    simp only [keepsOr_bind, keepsOr_lift, keeps_run]
    have hrecorded : KeepsOr (fun _ _ => True) (recorded cluster leader)
        (fun t pod => KeepsBootstrap cluster t (pod, cluster)) (fun _ _ => True) t :=
      keepsOr_of_forall _ (fun _ _ _ => rfl) fun _ _ => trivial
    refine hrecorded.mono (fun _ _ h => h) fun t e _ => ?_
    split
    next h => cases h
    next lost _ =>
      rw [keepsOr_ite]
      refine ⟨fun _ => ?_, fun _ => trivial⟩
      rw [keepsOr_bind, keepsOr_log, keeps_log]
      exact ⟨trivial, elect_keepsBootstrap cluster _⟩
    next => trivial

end ClusterKeeper.Election
