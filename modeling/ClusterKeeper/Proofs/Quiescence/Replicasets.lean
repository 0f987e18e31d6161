import ClusterKeeper.Pass.RolePass
import ClusterKeeper.Proofs.Simulation.Stage

/-!
The replicasets of a role in the topology. Once all instances were joined, the roles set and the weights
taken (`joinAll_settles`, `configureAll_settles`, `setAllWeights_settles`), the same requests find every
instance in its seat and the roles as they are wanted (`joinAll_of_seated`, `configureAll_of_agreed`); the
weights are set again, to the same effect (`setAllWeights_of_weighed`).
-/

namespace ClusterKeeper.Simulation

open Program RolePass

variable {τ : Type} {answer : Answering τ} {s s' s'' : Stage τ} {rule : Stage τ → Request → Prop}
  {r : Resolved} {uris : List String} {ordinal : Nat}

/-- The StatefulSets of a replicaset that are not being deleted. -/
def live (os : Objects) (r : Resolved) (ordinal : Nat) : List StatefulSet :=
  (os.matching .statefulSet r.ns
    (Labels.ordinalSelector r.cluster.name r.role.name ordinal)).filter fun st => !st.metadata.isDeleting

theorem playsOr_liveStatefulSets [AdmitsReads rule] {ok : Stage τ → List StatefulSet → Prop}
    {fails : Stage τ → OperatorError → Prop} :
    PlaysOr (Stage.respond answer) rule (liveStatefulSets r ordinal) ok fails s ↔
      ok s (live s.objects r ordinal) := by
  rw [liveStatefulSets, playsOr_bind, playsOr_list]
  exact Iff.rfl

theorem playsOr_ofAttempt {β : Type} (a : Attempt β) {ok : Stage τ → β → Prop}
    {fails : Stage τ → JoinObstacle → Prop} :
    PlaysOr (Stage.respond answer) rule (Joining.ofAttempt a) ok fails s ↔
      PlaysOr (Stage.respond answer) rule a ok (fun s e => fails s (.other e)) s :=
  playsOr_mapError _ _

theorem playsOr_asking (q : AdminRequest) {ok : Stage τ → q.Result → Prop}
    {fails : Stage τ → JoinObstacle → Prop} :
    @PlaysOr Surroundings _ (no_index q.Result) JoinObstacle (Stage.respond answer) rule
        (Joining.asking q) ok fails s ↔
      @PlaysOr Surroundings _ q.Result AdminError (Stage.respond answer) rule (Act.admin q) ok
        (fun s e => fails s (.admin e)) s :=
  playsOr_mapError _ _

/-! ### Joining -/

/-- An instance is up, and it is part of the topology or its address is listed. -/
def Expected (answer : Answering τ) (s : Stage τ) (r : Resolved) (uris : List String) (st : StatefulSet)
    (replica : Nat) : Prop :=
  ∃ pod, s.objects.find? .pod r.ns (podName st.name replica) = some pod ∧ isUp pod = true ∧
    (Joined answer s.topology pod ∨ r.cluster.advertiseUri pod.name ∈ uris)

/-- All instances of a replicaset are up and part of the topology, but for some with listed addresses. -/
def Seated (answer : Answering τ) (s : Stage τ) (r : Resolved) (uris : List String) (ordinal : Nat) : Prop :=
  ∀ st ∈ live s.objects r ordinal, ∀ replica < r.role.replicas.toNat, Expected answer s r uris st replica

theorem Expected.mono {uris' : List String} {st : StatefulSet} {replica : Nat} (hsub : uris ⊆ uris')
    (h : Expected answer s r uris st replica) : Expected answer s r uris' st replica := by
  obtain ⟨pod, hpod, hup, hjoined⟩ := h
  exact ⟨pod, hpod, hup, hjoined.imp_right fun hmem => hsub hmem⟩

theorem Seated.onward (h : Seated answer s r uris ordinal) (hs : Onward answer s s') :
    Seated answer s' r uris ordinal := by
  intro st hst replica hreplica
  rw [hs.objects] at hst
  obtain ⟨pod, hpod, hup, hjoined⟩ := h st hst replica hreplica
  exact ⟨pod, hs.objects ▸ hpod, hup, hjoined.imp_left hs.later.joined⟩

section

variable (h : Remembers answer)
include h

theorem collectReplica_settles (st : StatefulSet) (replica : Nat) (uris : List String) :
    PlaysOr (Stage.respond answer) Free (collectReplica r st replica uris)
      (fun s' uris' => s' = s ∧ uris ⊆ uris' ∧ Expected answer s r uris' st replica) (fun _ _ => True) s := by
  rw [collectReplica, playsOr_bind, playsOr_ofAttempt, playsOr_get]
  split
  next =>
    rw [playsOr_bind, playsOr_lift, plays_log]
    trivial
  next pod hpod =>
    obtain ⟨hfound, hup⟩ := Option.filter_eq_some_iff.1 hpod
    rw [playsOr_bind, playsOr_asking, playsOr_query h (.instanceUuid pod) trivial]
    refine ⟨fun uuid huuid => ?_, fun _ _ => trivial⟩
    refine ⟨rfl, ?_, pod, hfound, hup, ?_⟩ <;> split
    next => exact List.subset_append_left _ _
    next => exact List.Subset.refl _
    next => exact Or.inr (List.mem_append_right _ List.mem_cons_self)
    next hne => exact Or.inl ⟨uuid, hne, huuid⟩

theorem collectReplica_of_expected [AdmitsReads rule] {st : StatefulSet} {replica : Nat}
    (hexpected : Expected answer s r [] st replica) (uris : List String) :
    PlaysOr (Stage.respond answer) rule (collectReplica r st replica uris)
      (fun s' uris' => s' = s ∧ uris' = uris) (fun _ _ => False) s := by
  obtain ⟨pod, hfound, hup, hjoined⟩ := hexpected
  obtain ⟨uuid, hne, huuid⟩ := hjoined.resolve_right List.not_mem_nil
  rw [collectReplica, playsOr_bind, playsOr_ofAttempt, playsOr_get, hfound, Option.filter_some_pos hup]
  dsimp only
  rw [playsOr_bind, playsOr_asking, playsOr_query_of_ok h (.instanceUuid pod) trivial huuid, if_neg hne]
  exact ⟨rfl, rfl⟩

theorem collectReplicas_settles (st : StatefulSet) (count : Nat) (uris : List String) :
    PlaysOr (Stage.respond answer) Free (throughUpTo (collectReplica r st) count 0 uris)
      (fun s' uris' => s' = s ∧ uris ⊆ uris' ∧ ∀ replica < count, Expected answer s r uris' st replica)
      (fun _ _ => True) s := by
  refine playsOr_throughFirst
    (fun n s' uris' => s' = s ∧ uris ⊆ uris' ∧ ∀ replica < n, Expected answer s r uris' st replica)
    (fun n uris' s' _ hs' => ?_) uris ⟨rfl, List.Subset.refl _, nofun⟩
  obtain ⟨rfl, hsub, hdone⟩ := hs'
  refine (collectReplica_settles h st n uris').imp fun s'' uris'' hs'' => ?_
  obtain ⟨rfl, hsub', hlast⟩ := hs''
  refine ⟨rfl, List.Subset.trans hsub hsub', fun replica hreplica => ?_⟩
  rcases Nat.lt_succ_iff_lt_or_eq.1 hreplica with hlt | rfl
  · exact (hdone replica hlt).mono hsub'
  · exact hlast

theorem collect_settles :
    PlaysOr (Stage.respond answer) Free (collect r ordinal)
      (fun s' uris => s' = s ∧ Seated answer s r uris ordinal) (fun _ _ => True) s := by
  rw [collect, playsOr_bind, playsOr_ofAttempt, playsOr_liveStatefulSets]
  refine (playsOr_through (fun rest s' uris => s' = s ∧ ∀ st ∈ live s.objects r ordinal, st ∈ rest ∨
    ∀ replica < r.role.replicas.toNat, Expected answer s r uris st replica)
    (fun st rest uris s₁ hs₁ => ?_) _ [] ⟨rfl, fun _ hst => Or.inl hst⟩).imp fun s' uris hs' =>
      ⟨hs'.1, fun st hst => (hs'.2 st hst).resolve_left List.not_mem_nil⟩
  obtain ⟨hs₁, hdone⟩ := hs₁
  subst hs₁
  refine (collectReplicas_settles h st _ uris).imp fun s' uris' hs' => ?_
  obtain ⟨rfl, hsub, hfirst⟩ := hs'
  refine ⟨rfl, fun st' hst' => ?_⟩
  rcases hdone st' hst' with hmem | hearlier
  · rcases List.mem_cons.1 hmem with rfl | hrest
    · exact Or.inr hfirst
    · exact Or.inl hrest
  · exact Or.inr fun replica hreplica => (hearlier replica hreplica).mono hsub

theorem collect_of_seated [AdmitsReads rule] (hseated : Seated answer s r [] ordinal) :
    PlaysOr (Stage.respond answer) rule (collect r ordinal)
      (fun s' uris => s' = s ∧ uris = []) (fun _ _ => False) s := by
  rw [collect, playsOr_bind, playsOr_ofAttempt, playsOr_liveStatefulSets]
  refine (playsOr_through (fun rest s' uris => (s' = s ∧ uris = []) ∧ ∀ st ∈ rest,
    ∀ replica < r.role.replicas.toNat, Expected answer s r [] st replica)
    (fun st rest uris s₁ hs₁ => ?_) _ [] ⟨⟨rfl, rfl⟩, hseated⟩).imp fun _ _ hs => hs.1
  obtain ⟨⟨rfl, rfl⟩, hexpected⟩ := hs₁
  obtain ⟨hfirst, hrest⟩ := List.forall_mem_cons.1 hexpected
  refine (playsOr_throughFirst (fun _ s' uris => s' = s₁ ∧ uris = [])
    (fun n uris' s' hn hs' => ?_) [] ⟨rfl, rfl⟩).imp fun _ _ hs => ⟨hs, hrest⟩
  obtain ⟨rfl, rfl⟩ := hs'
  exact collectReplica_of_expected h (hfirst n hn) []

/-- A replicaset that was joined is seated. -/
theorem joinReplicaset_settles (hns : r.cluster.nsOf = r.ns) :
    PlaysOr (Stage.respond answer) Free (joinReplicaset r ordinal)
      (fun s' _ => Onward answer s s' ∧ Seated answer s' r [] ordinal) (fun _ _ => True) s := by
  rw [joinReplicaset, playsOr_bind]
  refine (collect_settles h).imp fun s₁ uris hs₁ => ?_
  obtain ⟨rfl, hseated⟩ := hs₁
  rw [playsOr_ite]
  refine ⟨fun hnil => ⟨.rfl, hnil ▸ hseated⟩, fun _ => ?_⟩
  have hjoin : PlaysOr (Stage.respond answer) Free
      (do
        ExceptT.lift (Act.log .info "Joining instances")
        let _ ← Joining.asking (.join r.leader (joinRequest r.role ordinal) uris))
      (fun s' _ => Onward answer s₁ s' ∧ Seated answer s' r [] ordinal) (fun _ _ => True) s₁ := by
    rw [playsOr_bind, playsOr_lift, plays_log, playsOr_bind, playsOr_asking, playsOr_ask]
    refine ⟨trivial, fun outcome houtcome => ?_, fun _ _ => trivial⟩
    refine ⟨onward_admin h _, fun st hst replica hreplica => ?_⟩
    obtain ⟨pod, hpod, hup, hjoined⟩ := hseated st hst replica hreplica
    refine ⟨pod, hpod, hup, Or.inl ?_⟩
    rcases hjoined with hjoined | hmem
    · exact (h.later _ _).joined hjoined
    · exact h.join houtcome r.cluster pod ((s₁.kept.ns hpod).trans hns.symm) hmem
  rw [playsOr_ite]
  refine ⟨fun _ => ?_, fun _ => hjoin⟩
  rw [playsOr_bind, playsOr_asking, playsOr_query h (.instanceUuid r.leader) trivial]
  refine ⟨fun uuid _ => ?_, fun _ _ => trivial⟩
  rw [playsOr_ite]
  refine ⟨fun _ => ?_, fun _ => hjoin⟩
  rw [playsOr_bind, playsOr_lift, plays_log]
  trivial

theorem joinReplicaset_of_seated [AdmitsReads rule] (hseated : Seated answer s r [] ordinal) :
    PlaysOr (Stage.respond answer) rule (joinReplicaset r ordinal) (fun s' _ => s' = s)
      (fun _ _ => False) s := by
  rw [joinReplicaset, playsOr_bind]
  refine (collect_of_seated h hseated).imp fun s' uris hs' => ?_
  rw [playsOr_ite]
  exact ⟨fun _ => hs'.1, fun hne => absurd hs'.2 hne⟩

/-- When none was pending, all replicasets are seated. -/
theorem joinAll_settles (hns : r.cluster.nsOf = r.ns) :
    PlaysOr (Stage.respond answer) Free (joinAll r)
      (fun s' all => all = true →
        Onward answer s s' ∧ ∀ i < r.role.replicasets.toNat, Seated answer s' r [] i) (fun _ _ => True) s := by
  refine playsOr_throughFirst (fun n s' all => all = true →
    Onward answer s s' ∧ ∀ i < n, Seated answer s' r [] i) (fun n all s₁ _ hs₁ => ?_) true
      fun _ => ⟨.rfl, fun i hi => absurd hi (Nat.not_lt_zero i)⟩
  simp only [playsOr_bind, playsOr_lift, plays_run]
  refine (joinReplicaset_settles h hns).mono (fun s₂ _ hs₂ htrue => ?_) fun s₂ obstacle _ => ?_
  · obtain ⟨honward, hbefore⟩ := hs₁ htrue
    refine ⟨honward.trans hs₂.1, fun i hi => ?_⟩
    rcases Nat.lt_succ_iff_lt_or_eq.1 hi with hlt | rfl
    · exact (hbefore i hlt).onward hs₂.1
    · exact hs₂.2
  · cases obstacle with
    | pending => exact fun htrue => Bool.noConfusion htrue
    | admin e => trivial
    | other e => trivial

theorem joinAll_of_seated [AdmitsReads rule]
    (hseated : ∀ i < r.role.replicasets.toNat, Seated answer s r [] i) :
    PlaysOr (Stage.respond answer) rule (joinAll r) (fun s' all => s' = s ∧ all = true)
      (fun _ _ => False) s := by
  refine playsOr_throughFirst (fun _ s' all => s' = s ∧ all = true) (fun n all s₁ hn hs₁ => ?_) true
    ⟨rfl, rfl⟩
  obtain ⟨rfl, rfl⟩ := hs₁
  simp only [playsOr_bind, playsOr_lift, plays_run]
  exact (joinReplicaset_of_seated h (hseated n hn)).mono (fun s' _ hs' => ⟨hs', rfl⟩)
    fun _ _ hfalse => hfalse.elim

end

/-! ### Roles -/

/-- The roles of a replicaset agree with those that are wanted. -/
def Agreed (answer : Answering τ) (t : τ) (r : Resolved) (ordinal : Nat) : Prop :=
  ∃ hierarchy actual, (answer t (.rolesHierarchy r.leader)).1 = .ok hierarchy ∧
    (answer t (.replicasetRoles r.leader (Replicaset.uuid r.role.name ordinal))).1 = .ok actual ∧
    RoleHierarchy.Agree hierarchy actual r.role.spec.vshard.clusterRoles

/-- Every replicaset that has a StatefulSet has its roles. -/
def AllAgreed (answer : Answering τ) (s : Stage τ) (r : Resolved) (count : Nat) : Prop :=
  ∀ i < count, live s.objects r i ≠ [] → Agreed answer s.topology r i

/-- The roles of the replicasets are what they were. -/
def SameRoles (answer : Answering τ) (t t' : τ) (leader : Pod) : Prop :=
  ∀ uuid, (answer t' (.replicasetRoles leader uuid)).1 = (answer t (.replicasetRoles leader uuid)).1

theorem Agreed.of_sameRoles {t t' : τ} (hagreed : Agreed answer t r ordinal) (hlater : Later answer t t')
    (hroles : SameRoles answer t t' r.leader) : Agreed answer t' r ordinal := by
  obtain ⟨hierarchy, actual, hhierarchy, hactual, hagree⟩ := hagreed
  exact ⟨hierarchy, actual, (hlater.hierarchy _).trans hhierarchy, (hroles _).trans hactual, hagree⟩

section

variable (h : Remembers answer)
include h

theorem configureReplicaset_settles :
    PlaysOr (Stage.respond answer) Free (configureReplicaset r ordinal)
      (fun s' _ => Onward answer s s' ∧ Agreed answer s'.topology r ordinal ∧
        ∀ i, Agreed answer s.topology r i → Agreed answer s'.topology r i) (fun _ _ => True) s := by
  rw [configureReplicaset, playsOr_bind, playsOr_query h (.rolesHierarchy r.leader) trivial]
  refine ⟨fun hierarchy hhierarchy => ?_, fun _ _ => trivial⟩
  rw [playsOr_bind, playsOr_query h (.replicasetRoles r.leader _) trivial]
  refine ⟨fun actual hactual => ?_, fun _ _ => trivial⟩
  rw [playsOr_ite]
  refine ⟨fun hagree => ⟨.rfl, ⟨hierarchy, actual, hhierarchy, hactual, hagree⟩, fun _ => id⟩, fun _ => ?_⟩
  rw [playsOr_bind, playsOr_lift, plays_log, playsOr_ask]
  refine ⟨trivial, fun _ hset => ?_, fun _ _ => trivial⟩
  have honward := onward_admin (s := s) h
    (.setReplicasetRoles r.leader (Replicaset.uuid r.role.name ordinal) r.role.spec.vshard.clusterRoles)
  have hstays := (honward.later.hierarchy r.leader).trans hhierarchy
  refine ⟨honward, ⟨hierarchy, _, hstays, h.roles hset, rfl⟩, fun i hi => ?_⟩
  obtain ⟨hierarchy', actual', hhierarchy', hactual', hagree⟩ := hi
  by_cases heq : Replicaset.uuid r.role.name i = Replicaset.uuid r.role.name ordinal
  · refine ⟨hierarchy, _, hstays, ?_, rfl⟩
    rw [heq]
    exact h.roles hset
  · exact ⟨hierarchy', actual', (honward.later.hierarchy r.leader).trans hhierarchy',
      (h.otherRoles heq).trans hactual', hagree⟩

theorem configureReplicaset_of_agreed [AdmitsReads rule] (hagreed : Agreed answer s.topology r ordinal) :
    PlaysOr (Stage.respond answer) rule (configureReplicaset r ordinal) (fun s' _ => s' = s)
      (fun _ _ => False) s := by
  obtain ⟨hierarchy, actual, hhierarchy, hactual, hagree⟩ := hagreed
  rw [configureReplicaset, playsOr_bind, playsOr_query_of_ok h (.rolesHierarchy r.leader) trivial hhierarchy,
    playsOr_bind, playsOr_query_of_ok h (.replicasetRoles r.leader _) trivial hactual, playsOr_ite]
  exact ⟨fun _ => rfl, fun hne => absurd hagree hne⟩

/-- When none failed, all replicasets have their roles. -/
theorem configureAll_settles :
    PlaysOr (Stage.respond answer) Free (configureAll r)
      (fun s' all => all = true →
        Onward answer s s' ∧ AllAgreed answer s' r r.role.replicasets.toNat) (fun _ _ => True) s := by
  refine playsOr_throughFirst (fun n s' all => all = true → Onward answer s s' ∧ AllAgreed answer s' r n)
    (fun n all s₁ _ hs₁ => ?_) true fun _ => ⟨.rfl, fun i hi => absurd hi (Nat.not_lt_zero i)⟩
  simp only [playsOr_bind, playsOr_lift, plays_run]
  rw [playsOr_liveStatefulSets]
  split
  next heq => cases heq
  next heq =>
    have hnil := Except.ok.inj heq
    intro htrue
    obtain ⟨honward, hbefore⟩ := hs₁ htrue
    refine ⟨honward, fun i hi hne => ?_⟩
    rcases Nat.lt_succ_iff_lt_or_eq.1 hi with hlt | rfl
    · exact hbefore i hlt hne
    · exact absurd hnil hne
  next =>
    rw [playsOr_bind, playsOr_lift, plays_run]
    refine (configureReplicaset_settles h).mono (fun s₂ _ hs₂ htrue => ?_) fun s₂ e _ => ?_
    · obtain ⟨honward, hbefore⟩ := hs₁ htrue
      obtain ⟨hafter, hagreed, hothers⟩ := hs₂
      refine ⟨honward.trans hafter, fun i hi hne => ?_⟩
      rw [hafter.objects] at hne
      rcases Nat.lt_succ_iff_lt_or_eq.1 hi with hlt | rfl
      · exact hothers i (hbefore i hlt hne)
      · exact hagreed
    · rw [playsOr_bind, playsOr_log]
      exact fun htrue => Bool.noConfusion htrue

theorem configureAll_of_agreed [AdmitsReads rule] (hagreed : AllAgreed answer s r r.role.replicasets.toNat) :
    PlaysOr (Stage.respond answer) rule (configureAll r) (fun s' all => s' = s ∧ all = true)
      (fun _ _ => False) s := by
  refine playsOr_throughFirst (fun _ s' all => s' = s ∧ all = true) (fun n all s₁ hn hs₁ => ?_) true
    ⟨rfl, rfl⟩
  obtain ⟨rfl, rfl⟩ := hs₁
  simp only [playsOr_bind, playsOr_lift, plays_run]
  rw [playsOr_liveStatefulSets]
  split
  next heq => cases heq
  next => exact ⟨rfl, rfl⟩
  next stateful hnonempty heq =>
    have hne : live s₁.objects r n ≠ [] := fun hnil => hnonempty ((Except.ok.inj heq).symm.trans hnil)
    rw [playsOr_bind, playsOr_lift, plays_run]
    exact (configureReplicaset_of_agreed h (hagreed n hn hne)).mono (fun s' _ hs' => ⟨hs', rfl⟩)
      fun _ _ hfalse => hfalse.elim

end

/-! ### Weights -/

/-- The weight of the replicaset of a StatefulSet can be set, if its labels tell the replicaset. -/
def Weighed (answer : Answering τ) (t : τ) (r : Resolved) (st : StatefulSet) : Prop :=
  ∀ uuid, st.metadata.labelSet.get? Labels.replicasetUuid = some uuid →
    TakesWeight answer t r.leader uuid r.role.spec.vshard.weight

/-- The weights of all replicasets can be set. -/
def AllWeighed (answer : Answering τ) (s : Stage τ) (r : Resolved) (count : Nat) : Prop :=
  ∀ i < count, ∀ st ∈ live s.objects r i, Weighed answer s.topology r st

theorem Weighed.later {t t' : τ} {st : StatefulSet} (hw : Weighed answer t r st)
    (hlater : Later answer t t') : Weighed answer t' r st :=
  fun uuid huuid => hlater.takesWeight (hw uuid huuid)

theorem AllWeighed.onward {count : Nat} (hw : AllWeighed answer s r count) (hs : Onward answer s s') :
    AllWeighed answer s' r count := by
  intro i hi st hst
  rw [hs.objects] at hst
  exact (hw i hi st hst).later hs.later

/-- What setting weights leaves as it is. -/
structure Reweighed (answer : Answering τ) (r : Resolved) (s s' : Stage τ) : Prop extends
    Onward answer s s' where
  roles : SameRoles answer s.topology s'.topology r.leader

theorem Reweighed.rfl : Reweighed answer r s s := ⟨.rfl, fun _ => Eq.refl _⟩

theorem Reweighed.trans (h₁ : Reweighed answer r s s') (h₂ : Reweighed answer r s' s'') :
    Reweighed answer r s s'' :=
  ⟨h₁.toOnward.trans h₂.toOnward, fun uuid => (h₂.roles uuid).trans (h₁.roles uuid)⟩

section

variable (h : Remembers answer)
include h

theorem setWeight_settles (st : StatefulSet) :
    PlaysOr (Stage.respond answer) Free (setWeight r st)
      (fun s' _ => Reweighed answer r s s' ∧ Weighed answer s'.topology r st) (fun _ _ => True) s := by
  rw [setWeight]
  split
  next hnone =>
    rw [playsOr_lift, plays_log]
    exact ⟨.rfl, fun uuid huuid => absurd (huuid.symm.trans hnone) (Option.some_ne_none uuid)⟩
  next uuid huuid =>
    rw [playsOr_asking, playsOr_ask]
    refine ⟨trivial, fun _ hset => ⟨⟨onward_admin h _, fun _ => h.rolesOfWeight⟩, fun uuid' huuid' => ?_⟩,
      fun _ _ => trivial⟩
    obtain rfl : uuid = uuid' := Option.some.inj (huuid.symm.trans huuid')
    exact (h.later _ _).takesWeight hset

theorem setAllWeights_settles :
    PlaysOr (Stage.respond answer) Free (setAllWeights r)
      (fun s' _ => Reweighed answer r s s' ∧ AllWeighed answer s' r r.role.replicasets.toNat)
      (fun _ _ => True) s := by
  refine playsOr_throughFirst (fun n s' _ => Reweighed answer r s s' ∧ AllWeighed answer s' r n)
    (fun n _ s₁ _ hs₁ => ?_) () ⟨.rfl, nofun⟩
  rw [playsOr_bind, playsOr_ofAttempt, playsOr_liveStatefulSets]
  refine (playsOr_through (fun rest s' _ => Reweighed answer r s₁ s' ∧
    ∀ st ∈ live s₁.objects r n, st ∈ rest ∨ Weighed answer s'.topology r st)
    (fun st rest _ s₂ hs₂ => ?_) _ () ⟨.rfl, fun _ hst => Or.inl hst⟩).imp fun s₂ _ hs₂ => ?_
  · refine (setWeight_settles h st).imp fun s₃ _ hs₃ => ⟨hs₂.1.trans hs₃.1, fun st' hst' => ?_⟩
    rcases hs₂.2 st' hst' with hmem | hw
    · exact (List.mem_cons.1 hmem).elim (fun heq => Or.inr (heq ▸ hs₃.2)) Or.inl
    · exact Or.inr (hw.later hs₃.1.later)
  · refine ⟨hs₁.1.trans hs₂.1, fun i hi st hst => ?_⟩
    rw [hs₂.1.objects] at hst
    rcases Nat.lt_succ_iff_lt_or_eq.1 hi with hlt | rfl
    · exact (hs₁.2 i hlt st hst).later hs₂.1.later
    · exact (hs₂.2 st hst).resolve_left List.not_mem_nil

theorem setAllWeights_of_weighed [AdmitsReads rule]
    (hrule : ∀ s leader uuid weight, rule s (.admin (.setWeight leader uuid weight)))
    (hw : AllWeighed answer s r r.role.replicasets.toNat) :
    PlaysOr (Stage.respond answer) rule (setAllWeights r) (fun s' _ => Onward answer s s')
      (fun _ _ => False) s := by
  refine playsOr_throughFirst (fun _ s' _ => Onward answer s s') (fun n _ s₁ hn hs₁ => ?_) () .rfl
  rw [playsOr_bind, playsOr_ofAttempt, playsOr_liveStatefulSets]
  refine (playsOr_through (fun rest s' _ => Onward answer s s' ∧ ∀ st ∈ rest, Weighed answer s'.topology r st)
    (fun st rest _ s₂ hs₂ => ?_) _ () ⟨hs₁, (hw.onward hs₁) n hn⟩).imp fun _ _ hs => hs.1
  obtain ⟨honward, hall⟩ := hs₂
  obtain ⟨hst, hrest⟩ := List.forall_mem_cons.1 hall
  rw [setWeight]
  split
  next =>
    rw [playsOr_lift, plays_log]
    exact ⟨honward, hrest⟩
  next uuid huuid =>
    rw [playsOr_asking, playsOr_ask]
    have hset := hst uuid huuid
    have hafter := onward_admin (s := s₂) h (.setWeight r.leader uuid r.role.spec.vshard.weight)
    refine ⟨hrule _ _ _ _, fun _ _ => ⟨honward.trans hafter, fun st' hst' => ?_⟩, fun e he => ?_⟩
    · exact (hrest st' hst').later hafter.later
    · cases hset.symm.trans he

end

end ClusterKeeper.Simulation
