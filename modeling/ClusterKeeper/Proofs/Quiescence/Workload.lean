import ClusterKeeper.Proofs.Drift
import ClusterKeeper.Proofs.Simulation.Stage
import ClusterKeeper.Replicaset.Manage

/-!
The StatefulSets of a role. After a pass made those that were missing (`createAll_settles`) and replaced
those that had drifted (`updateAll_settles`), every replicaset has one and all are in line with the role,
so that another pass makes and replaces none (`createAll_of_stocked`, `updateAll_of_aligned`).

A replacement takes a StatefulSet from no replicaset: the ordinal in the new labels is the one that was
read from the old ones.
-/

namespace ClusterKeeper.Simulation

open Program

variable {τ : Type} {answer : Answering τ} {s s' : Stage τ} {rule : Stage τ → Request → Prop}
  {cluster : Cluster} {role : Role} {ns : String}

/-- Every replicaset of a role has a StatefulSet. -/
def Stocked (os : Objects) (ns : String) (cluster : Cluster) (role : Role) : Prop :=
  ∀ i < role.replicasets.toNat,
    os.matching .statefulSet ns (Labels.ordinalSelector cluster.name role.name i) ≠ []

/-- A StatefulSet needs no change to be in line with a role, unless its labels tell no ordinal. -/
def InLine (cluster : Cluster) (role : Role) (st : StatefulSet) : Prop :=
  ∀ i, st.ordinal? = some i → (StatefulSet.synced cluster role i st).2 = false

/-- All StatefulSets of a role are in line with it. -/
def Aligned (os : Objects) (ns : String) (cluster : Cluster) (role : Role) : Prop :=
  ∀ st ∈ os.matching .statefulSet ns (Labels.roleSelector cluster.name role.name),
    InLine cluster role st

theorem inRange_of_lt_replicasets {i : Nat} (h : i < role.replicasets.toNat) :
    -0x80000000 ≤ (i : Int) ∧ (i : Int) < 0x80000000 := by
  have hlt := role.spec.replicasets.toInt_lt
  rw [Role.replicasets] at h
  omega

theorem inRange_of_ordinal? {st : StatefulSet} {i : Int} (h : st.ordinal? = some i) :
    -0x80000000 ≤ i ∧ i < 0x80000000 := by
  rw [StatefulSet.ordinal?, Option.bind_eq_some_iff] at h
  obtain ⟨text, _, htext⟩ := h
  exact inRange_of_readInt32? htext

theorem plays_namespaceOf {m : ObjectMeta} {ok : Stage τ → String → Prop}
    {fails : Stage τ → OperatorError → Prop} (hns : m.ns = some ns) :
    PlaysOr (Stage.respond answer) rule (Replicaset.namespaceOf m) ok fails s ↔ ok s ns := by
  rw [Replicaset.namespaceOf, hns]
  exact playsOr_pure ns

/-- What is stored when a StatefulSet is brought in line fits its role. -/
theorem fits_of_stored {st stored : StatefulSet} {s'' : Stage τ} {i : Int}
    (hstored : Stored s' s'' (k := .statefulSet) (StatefulSet.synced cluster role i st).1 stored) :
    StatefulSet.Fits cluster role i stored := by
  obtain ⟨version, hstamped⟩ := hstored.stamped
  have hsynced := StatefulSet.fits_synced cluster role i st
  subst hstamped
  exact ⟨ObjectMeta.withOwner?_eq_none_of_eq (m := (StatefulSet.synced cluster role i st).1.metadata) rfl
      hsynced.owner, hsynced.replicas, hsynced.minReady, hsynced.strategy, hsynced.labels,
    hsynced.podLabels, hsynced.annotations⟩

/-! ### Making those that are missing -/

/-- Only StatefulSets are changed, and none that there is. -/
structure Grows (s s' : Stage τ) : Prop extends OnlyIn .statefulSet s s' where
  stays : ∀ {ns name} {st : StatefulSet}, s.objects.find? .statefulSet ns name = some st →
    s'.objects.find? .statefulSet ns name = some st

theorem Grows.matching_ne_nil (h : Grows s s') {selector : Labels}
    (hne : s.objects.matching .statefulSet ns selector ≠ []) :
    s'.objects.matching .statefulSet ns selector ≠ [] := by
  obtain ⟨st, hst⟩ := List.exists_mem_of_ne_nil _ hne
  obtain ⟨⟨name, hfound⟩, hmatches⟩ := Objects.mem_matching.1 hst
  exact List.ne_nil_of_mem (Objects.mem_matching.2 ⟨⟨name, h.stays hfound⟩, hmatches⟩)

/-- What is stored in a free place displaces nothing. -/
theorem grows_of_stored {given stored : StatefulSet}
    (hfree : s.objects.find? .statefulSet given.metadata.nsText given.metadata.nameText = none)
    (hstored : Stored s s' (k := .statefulSet) given stored) : Grows s s' where
  toOnlyIn := hstored.toOnlyIn
  stays {ns name st} hst := by
    rw [hstored.find?]
    split
    next heq =>
      rw [heq.1, heq.2] at hst
      exact absurd (hfree.symm.trans hst) nofun
    next => exact hst

/-- What is stored when a StatefulSet is made fits its role. -/
theorem fits_of_made {stored : StatefulSet} {i : Nat}
    (hstored : Stored s s' (k := .statefulSet) (StatefulSet.ofRole cluster role i) stored) :
    StatefulSet.Fits cluster role i stored := by
  rw [StatefulSet.ofRole] at hstored
  exact fits_of_stored hstored

/-- A StatefulSet that is made is one of its replicaset. -/
theorem matching_ne_nil_of_made {stored : StatefulSet} {i : Nat} (hns : role.metadata.ns = some ns)
    (hstored : Stored s s' (k := .statefulSet) (StatefulSet.ofRole cluster role i) stored) :
    s'.objects.matching .statefulSet ns (Labels.ordinalSelector cluster.name role.name i) ≠ [] := by
  have hplace : (StatefulSet.ofRole cluster role i).metadata.place =
      (StatefulSet.skeleton cluster role i).metadata.place := StatefulSet.place_synced cluster role i _
  have htext : (StatefulSet.ofRole cluster role i).metadata.nsText = ns :=
    (ObjectMeta.nsText_of_place hplace).trans (congrArg (Option.getD · "") hns)
  have hfound := hstored.found
  refine List.ne_nil_of_mem (Objects.mem_matching.2
    ⟨⟨(StatefulSet.ofRole cluster role i).metadata.nameText, ?_⟩, (fits_of_made hstored).matches⟩)
  exact htext ▸ hfound

theorem createMissing_settles (hns : role.metadata.ns = some ns) (i : Nat) :
    PlaysOr (Stage.respond answer) Free (Replicaset.createMissing cluster role ns i)
      (fun s' _ => Grows s s' ∧
        s'.objects.matching .statefulSet ns (Labels.ordinalSelector cluster.name role.name i) ≠ [])
      (fun _ _ => True) s := by
  rw [Replicaset.createMissing, playsOr_bind, playsOr_list, playsOr_ite]
  refine ⟨fun _ => ?_, fun hsome => ?_⟩
  · rw [playsOr_bind, playsOr_log, playsOr_bind]
    refine playsOr_create (fun _ _ => trivial) fun s' stored hfree hstored => ?_
    exact ⟨grows_of_stored hfree hstored, matching_ne_nil_of_made hns hstored⟩
  · rw [List.isEmpty_iff] at hsome
    exact ⟨⟨.rfl, id⟩, hsome⟩

theorem createAll_settles :
    PlaysOr (Stage.respond answer) Free (Replicaset.createAll cluster role)
      (fun s' _ => OnlyIn .statefulSet s s' ∧
        ∃ ns, role.metadata.ns = some ns ∧ Stocked s'.objects ns cluster role) (fun _ _ => True) s := by
  rw [Replicaset.createAll, playsOr_bind, Replicaset.namespaceOf]
  split
  next ns hns =>
    rw [playsOr_pure]
    refine (playsOr_throughFirst (fun n s' _ => Grows s s' ∧ ∀ i < n, s'.objects.matching .statefulSet ns
      (Labels.ordinalSelector cluster.name role.name i) ≠ []) (fun n _ s₁ _ hs₁ => ?_) ()
      ⟨⟨.rfl, id⟩, nofun⟩).imp fun s' _ hs' => ⟨hs'.1.toOnlyIn, ns, hns, hs'.2⟩
    refine (createMissing_settles hns n).imp fun s₂ _ hs₂ => ?_
    refine ⟨⟨hs₁.1.toOnlyIn.trans hs₂.1.toOnlyIn, fun hst => hs₂.1.stays (hs₁.1.stays hst)⟩, ?_⟩
    intro i hi
    rcases Nat.lt_succ_iff_lt_or_eq.1 hi with hlt | rfl
    · exact hs₂.1.matching_ne_nil (hs₁.2 i hlt)
    · exact hs₂.2
  next => trivial

theorem createAll_of_stocked [AdmitsReads rule] (hns : role.metadata.ns = some ns)
    (hstocked : Stocked s.objects ns cluster role) :
    PlaysOr (Stage.respond answer) rule (Replicaset.createAll cluster role)
      (fun s' _ => s' = s) (fun _ _ => False) s := by
  rw [Replicaset.createAll, playsOr_bind, plays_namespaceOf hns]
  refine playsOr_throughFirst (fun _ s' _ => s' = s) (fun n _ s' hn hs' => ?_) () rfl
  rw [Replicaset.createMissing, playsOr_bind, playsOr_list, hs', playsOr_ite, List.isEmpty_iff]
  exact ⟨fun hnil => absurd hnil (hstocked n hn), fun _ => rfl⟩

/-! ### Replacing those that have drifted -/

/-- What holds while StatefulSets are brought in line, with some of them still to come: these are in their
places, every other one is in line, and no replicaset has lost its StatefulSet. -/
structure Aligning (s : Stage τ) (ns : String) (cluster : Cluster) (role : Role)
    (rest : List StatefulSet) (s' : Stage τ) : Prop extends OnlyIn .statefulSet s s' where
  distinct : rest.Pairwise fun st st' => st.metadata.nameText ≠ st'.metadata.nameText
  found : ∀ st ∈ rest, s'.objects.find? .statefulSet ns st.metadata.nameText = some st
  aligned : ∀ st ∈ s'.objects.matching .statefulSet ns (Labels.roleSelector cluster.name role.name),
    st ∈ rest ∨ InLine cluster role st
  stocked : Stocked s.objects ns cluster role → Stocked s'.objects ns cluster role

theorem aligning_start : Aligning s ns cluster role
    (s.objects.matching .statefulSet ns (Labels.roleSelector cluster.name role.name)) s where
  toOnlyIn := .rfl
  distinct := s.kept.pairwise_matching (k := .statefulSet) ns _
  found st hst := by
    obtain ⟨⟨name, hfound⟩, _⟩ := Objects.mem_matching.1 hst
    have hname : st.metadata.nameText = name := s.kept.name hfound
    exact hname ▸ hfound
  aligned _ hst := Or.inl hst
  stocked := id

/-- A StatefulSet that is in line is passed over. -/
theorem Aligning.skip {st : StatefulSet} {rest : List StatefulSet}
    (h : Aligning s ns cluster role (st :: rest) s') (hst : InLine cluster role st) :
    Aligning s ns cluster role rest s' where
  toOnlyIn := h.toOnlyIn
  distinct := (List.pairwise_cons.1 h.distinct).2
  found st' hst' := h.found st' (List.mem_cons_of_mem _ hst')
  aligned st' hst' := by
    rcases h.aligned st' hst' with hmem | hline
    · exact (List.mem_cons.1 hmem).elim (fun heq => Or.inr (heq ▸ hst)) Or.inl
    · exact Or.inr hline
  stocked := h.stocked

/-- A StatefulSet that is brought in line is stored in its own place. -/
theorem find?_of_stored {st stored : StatefulSet} {s'' : Stage τ} {i : Int}
    (hfound : s'.objects.find? .statefulSet ns st.metadata.nameText = some st)
    (hstored : Stored s' s'' (k := .statefulSet) (StatefulSet.synced cluster role i st).1 stored)
    (name : String) : s''.objects.find? .statefulSet ns name =
      if name = st.metadata.nameText then some stored else s'.objects.find? .statefulSet ns name := by
  have hplace : (StatefulSet.synced cluster role i st).1.metadata.place = st.metadata.place :=
    StatefulSet.place_synced cluster role i st
  have hns : (StatefulSet.synced cluster role i st).1.metadata.nsText = ns :=
    (ObjectMeta.nsText_of_place hplace).trans (s'.kept.ns hfound)
  have hname : (StatefulSet.synced cluster role i st).1.metadata.nameText = st.metadata.nameText :=
    ObjectMeta.nameText_of_place hplace
  rw [hstored.find?]
  show (if ns = (StatefulSet.synced cluster role i st).1.metadata.nsText ∧
    name = (StatefulSet.synced cluster role i st).1.metadata.nameText then _ else _) = _
  simp only [hns, hname, true_and]

/-- A StatefulSet that has drifted is replaced by one that is in line. -/
theorem Aligning.replace {st stored : StatefulSet} {rest : List StatefulSet} {s'' : Stage τ} {i : Int}
    (h : Aligning s ns cluster role (st :: rest) s') (hi : st.ordinal? = some i)
    (hstored : Stored s' s'' (k := .statefulSet) (StatefulSet.synced cluster role i st).1 stored) :
    Aligning s ns cluster role rest s'' := by
  obtain ⟨hdistinct, hpairs⟩ := List.pairwise_cons.1 h.distinct
  have hfound : s'.objects.find? .statefulSet ns st.metadata.nameText = some st :=
    h.found st List.mem_cons_self
  have hfind := find?_of_stored hfound hstored
  have hfits : StatefulSet.Fits cluster role i stored := fits_of_stored hstored
  refine ⟨h.toOnlyIn.trans hstored.toOnlyIn, hpairs, fun st' hst' => ?_, fun st' hst' => ?_,
    fun hbefore j hj => ?_⟩
  · rw [hfind, if_neg (hdistinct st' hst').symm]
    exact h.found st' (List.mem_cons_of_mem _ hst')
  · obtain ⟨⟨name, hst'⟩, hmatches⟩ := Objects.mem_matching.1 hst'
    rw [hfind] at hst'
    split at hst'
    next =>
      refine Or.inr fun j hj => ?_
      obtain rfl : stored = st' := Option.some.inj hst'
      obtain rfl : i = j := Option.some.inj ((hfits.ordinal? (inRange_of_ordinal? hi)).symm.trans hj)
      rw [hfits.synced]
    next hne =>
      rcases h.aligned st' (Objects.mem_matching.2 ⟨⟨name, hst'⟩, hmatches⟩) with hmem | hline
      · refine (List.mem_cons.1 hmem).elim (fun heq => ?_) Or.inl
        have hkept : st'.metadata.nameText = name := s'.kept.name hst'
        exact absurd (heq ▸ hkept.symm) hne
      · exact Or.inr hline
  · obtain ⟨old, hold⟩ := List.exists_mem_of_ne_nil _ (h.stocked hbefore j hj)
    obtain ⟨⟨name, hold⟩, hmatches⟩ := Objects.mem_matching.1 hold
    by_cases heq : name = st.metadata.nameText
    · -- the one that was replaced: it had this ordinal, and so has what is stored
      obtain rfl : st = old := Option.some.inj (hfound.symm.trans (heq ▸ hold))
      obtain rfl : i = j := Option.some.inj
        (hi.symm.trans (StatefulSet.ordinal?_of_matches hmatches (inRange_of_lt_replicasets hj)))
      refine List.ne_nil_of_mem (Objects.mem_matching.2 ⟨⟨name, ?_⟩, hfits.matches⟩)
      rw [hfind, if_pos heq]
    · refine List.ne_nil_of_mem (Objects.mem_matching.2 ⟨⟨name, ?_⟩, hmatches⟩)
      rw [hfind, if_neg heq, hold]

theorem updateAll_settles :
    PlaysOr (Stage.respond answer) Free (Replicaset.updateAll cluster role)
      (fun s' _ => OnlyIn .statefulSet s s' ∧ ∃ ns, role.metadata.ns = some ns ∧
        Aligned s'.objects ns cluster role ∧
        (Stocked s.objects ns cluster role → Stocked s'.objects ns cluster role)) (fun _ _ => True) s := by
  rw [Replicaset.updateAll, playsOr_bind, Replicaset.namespaceOf]
  split
  next ns hns =>
    rw [playsOr_pure, playsOr_bind, playsOr_list]
    refine (playsOr_through (fun rest s' _ => Aligning s ns cluster role rest s')
      (fun st rest _ s₁ hs₁ => ?_) _ () aligning_start).imp fun s' _ hs' => ?_
    · rw [Replicaset.updateDrifted]
      split
      next hnone =>
        rw [playsOr_log]
        exact hs₁.skip fun i hi => nomatch hnone.symm.trans hi
      next i hi =>
        split
        next hline =>
          refine hs₁.skip fun j hj => ?_
          obtain rfl : i = j := Option.some.inj (hi.symm.trans hj)
          rw [hline]
        next synced hsynced =>
          rw [playsOr_bind, playsOr_log, playsOr_bind]
          refine playsOr_replace (fun _ _ => trivial) fun s₂ stored hstored => ?_
          obtain rfl : (StatefulSet.synced cluster role i st).1 = synced := congrArg Prod.fst hsynced
          exact hs₁.replace hi hstored
    · refine ⟨hs'.toOnlyIn, ns, hns, fun st hst => ?_, hs'.stocked⟩
      exact (hs'.aligned st hst).resolve_left List.not_mem_nil
  next => trivial

theorem updateAll_of_aligned [AdmitsReads rule] (hns : role.metadata.ns = some ns)
    (haligned : Aligned s.objects ns cluster role) :
    PlaysOr (Stage.respond answer) rule (Replicaset.updateAll cluster role)
      (fun s' _ => s' = s) (fun _ _ => False) s := by
  rw [Replicaset.updateAll, playsOr_bind, plays_namespaceOf hns, playsOr_bind, playsOr_list]
  refine (playsOr_through (fun rest s' _ => s' = s ∧ ∀ st ∈ rest, InLine cluster role st)
    (fun st rest _ s' hs' => ?_) _ () ⟨rfl, haligned⟩).imp fun _ _ hs => hs.1
  obtain ⟨rfl, hlines⟩ := hs'
  obtain ⟨hline, hrest⟩ := List.forall_mem_cons.1 hlines
  rw [Replicaset.updateDrifted]
  split
  next =>
    rw [playsOr_log]
    exact ⟨rfl, hrest⟩
  next i hi =>
    split
    next => exact ⟨rfl, hrest⟩
    next hsynced =>
      have hfalse := hline i hi
      rw [hsynced] at hfalse
      cases hfalse

end ClusterKeeper.Simulation
