import ClusterKeeper.Proofs.Pass.Requests
import ClusterKeeper.Proofs.Quiescence.Workload
import ClusterKeeper.Proofs.Simulation.Serving

/-!
The StatefulSets of a role over a store that may fail at any request. However a run of `createAll` ends, what
there was is unchanged, a replicaset that had a StatefulSet gets no other, and one is asked for only where there
is none (`Filled`). A run that succeeds leaves one for every replicaset; one that fails stopped at some replicaset,
with all before it served. Runs of `createAll` and `updateAll` that both succeed leave nothing to be written
(`Simulation.materialised`).

The invariants are of the form: whatever the store has become, given what it answered.
-/

namespace ClusterKeeper.Simulation

open Program

variable {τ : Type} {s s' s'' : Stage τ} {t : Talk Surroundings} {cluster : Cluster} {role : Role} {ns : String}
  {i : Nat}

/-- The StatefulSets of a replicaset. -/
def held (s : Stage τ) (ns : String) (cluster : Cluster) (role : Role) (i : Nat) : List StatefulSet :=
  s.objects.matching .statefulSet ns (Labels.ordinalSelector cluster.name role.name i)

/-- What holds while StatefulSets are made: those there were stay, the others are each that of a replicaset that
had none, and no request but such a creation writes. -/
structure Filled (ns : String) (cluster : Cluster) (role : Role) (s : Stage τ) (t : Talk Surroundings)
    (s' : Stage τ) : Prop where
  stays : ∀ {ns' name} {st : StatefulSet}, s.objects.find? .statefulSet ns' name = some st →
    s'.objects.find? .statefulSet ns' name = some st
  made : ∀ {name} {st : StatefulSet}, s'.objects.find? .statefulSet ns name = some st →
    s.objects.find? .statefulSet ns name = some st ∨ ∃ i < role.replicasets.toNat,
      held s ns cluster role i = [] ∧ name = (StatefulSet.ofRole cluster role i).metadata.nameText ∧
        StatefulSet.Fits cluster role i st
  asked : ∀ e ∈ t, e.ask.isWrite = true → ∃ i < role.replicasets.toNat,
    e.ask = .store (.create .statefulSet (StatefulSet.ofRole cluster role i)) ∧ held s ns cluster role i = []

/-- A run that failed stopped at a replicaset: its list or its creation failed. -/
def StopsAt (ns : String) (cluster : Cluster) (role : Role) (i : Nat) (e : OperatorError)
    (t : Talk Surroundings) : Prop :=
  ∃ q said, t = ⟨Request.store q, Except.error e⟩ :: said ∧
    (q = .list .statefulSet ns (Labels.ordinalSelector cluster.name role.name i) ∨
      q = .create .statefulSet (StatefulSet.ofRole cluster role i))

namespace Filled

theorem start : Filled ns cluster role s [] s :=
  ⟨id, Or.inl, fun _ he => absurd he List.not_mem_nil⟩

/-- A request that writes nothing changes nothing. -/
theorem read (h : Filled ns cluster role s t s') {e : Turn Surroundings} (he : e.ask.isWrite = false) :
    Filled ns cluster role s (e :: t) s' where
  stays := h.stays
  made := h.made
  asked := List.forall_mem_cons.2 ⟨fun hwrite => absurd (he.symm.trans hwrite) Bool.false_ne_true, h.asked⟩

theorem mem_held (h : Filled ns cluster role s t s') {st : StatefulSet} (hst : st ∈ held s ns cluster role i) :
    st ∈ held s' ns cluster role i := by
  obtain ⟨⟨name, hfound⟩, hmatches⟩ := Objects.mem_matching.1 hst
  exact Objects.mem_matching.2 ⟨⟨name, h.stays hfound⟩, hmatches⟩

theorem held_eq_nil (h : Filled ns cluster role s t s') (hnil : held s' ns cluster role i = []) :
    held s ns cluster role i = [] :=
  List.eq_nil_iff_forall_not_mem.2 fun _ hst => List.not_mem_nil (hnil ▸ h.mem_held hst)

/-- A request to create the StatefulSet of a replicaset that has none, whatever comes of it. -/
theorem ask (h : Filled ns cluster role s t s') (hi : i < role.replicasets.toNat)
    (hnil : held s' ns cluster role i = [])
    (a : Request.Answer (.store (.create .statefulSet (StatefulSet.ofRole cluster role i)))) :
    Filled ns cluster role s
      (⟨Request.store (.create .statefulSet (StatefulSet.ofRole cluster role i)), a⟩ :: t) s' where
  stays := h.stays
  made := h.made
  asked := List.forall_mem_cons.2 ⟨fun _ => ⟨i, hi, rfl, h.held_eq_nil hnil⟩, h.asked⟩

/-- The StatefulSet of a replicaset that has none is created. -/
theorem create (h : Filled ns cluster role s t s') (hi : i < role.replicasets.toNat)
    (hnil : held s' ns cluster role i = []) {stored : StatefulSet}
    (hfree : s'.objects.find? .statefulSet (StatefulSet.ofRole cluster role i).metadata.nsText
      (StatefulSet.ofRole cluster role i).metadata.nameText = none)
    (hstored : Stored s' s'' (k := .statefulSet) (StatefulSet.ofRole cluster role i) stored)
    (a : Request.Answer (.store (.create .statefulSet (StatefulSet.ofRole cluster role i)))) :
    Filled ns cluster role s
      (⟨Request.store (.create .statefulSet (StatefulSet.ofRole cluster role i)), a⟩ :: t) s'' where
  stays hst := (grows_of_stored hfree hstored).stays (h.stays hst)
  made {name st} hst := by
    rw [hstored.find?] at hst
    split at hst
    next hplace =>
      obtain rfl : stored = st := Option.some.inj hst
      exact Or.inr ⟨i, hi, h.held_eq_nil hnil, hplace.2, fits_of_made hstored⟩
    next => exact h.made hst
  asked := (h.ask hi hnil a).asked

/-- One of the StatefulSets of a replicaset was there, or the replicaset had none and this is the one that was
made for it. -/
theorem of_mem_held (h : Filled ns cluster role s t s') (hi : i < role.replicasets.toNat) {st : StatefulSet}
    (hst : st ∈ held s' ns cluster role i) :
    st ∈ held s ns cluster role i ∨ held s ns cluster role i = [] ∧
      s'.objects.find? .statefulSet ns (StatefulSet.ofRole cluster role i).metadata.nameText = some st := by
  obtain ⟨⟨name, hfound⟩, hmatches⟩ := Objects.mem_matching.1 hst
  rcases h.made hfound with hold | ⟨j, hj, hnil, rfl, hfits⟩
  · exact Or.inl (Objects.mem_matching.2 ⟨⟨name, hold⟩, hmatches⟩)
  · -- what is selected by an ordinal was made for it
    have hi' := StatefulSet.ordinal?_of_matches hmatches (inRange_of_lt_replicasets hi)
    have hj' := hfits.ordinal? (inRange_of_lt_replicasets hj)
    obtain rfl : j = i := by exact_mod_cast Option.some.inj (hj'.symm.trans hi')
    exact Or.inr ⟨hnil, hfound⟩

/-- A replicaset that had StatefulSets has no other ones. -/
theorem mem_held_iff (h : Filled ns cluster role s t s') (hi : i < role.replicasets.toNat)
    (hne : held s ns cluster role i ≠ []) (st : StatefulSet) :
    st ∈ held s' ns cluster role i ↔ st ∈ held s ns cluster role i :=
  ⟨fun hst => (h.of_mem_held hi hst).resolve_right fun hnone => hne hnone.1, h.mem_held⟩

/-- A replicaset that had no StatefulSet has one at most. -/
theorem exists_held_eq (h : Filled ns cluster role s t s') (hi : i < role.replicasets.toNat)
    (hnil : held s ns cluster role i = []) (hne : held s' ns cluster role i ≠ []) :
    ∃ st, held s' ns cluster role i = [st] := by
  have hfound : ∀ st ∈ held s' ns cluster role i, s'.objects.find? .statefulSet ns
      (StatefulSet.ofRole cluster role i).metadata.nameText = some st := fun st hst =>
    ((h.of_mem_held hi hst).resolve_left fun hold => List.not_mem_nil (hnil ▸ hold)).2
  have hdistinct : (held s' ns cluster role i).Pairwise _ := s'.kept.pairwise_matching (k := .statefulSet) ns _
  match hheld : held s' ns cluster role i with
  | [] => exact absurd hheld hne
  | [st] => exact ⟨st, rfl⟩
  | st :: st' :: rest =>
    rw [hheld] at hfound hdistinct
    have hsame : st = st' := Option.some.inj
      ((hfound st List.mem_cons_self).symm.trans (hfound st' (List.mem_cons_of_mem _ List.mem_cons_self)))
    exact absurd (congrArg (fun st : StatefulSet => st.metadata.nameText) hsame)
      ((List.pairwise_cons.1 hdistinct).1 st' List.mem_cons_self)

end Filled

/-! ### Making those that are missing -/

/-- Whatever the store has become, the first replicasets are served. -/
def ServedBelow (ns : String) (cluster : Cluster) (role : Role) (s : Stage τ) (n : Nat) (t : Talk Surroundings) :
    Prop :=
  ∀ s', Serves s t s' → Filled ns cluster role s t s' ∧ ∀ i < n, held s' ns cluster role i ≠ []

theorem servedBelow_succ (hbelow : ∀ j < i, held s ns cluster role j ≠ []) (hi : held s ns cluster role i ≠ []) :
    ∀ j < i + 1, held s ns cluster role j ≠ [] := fun j hj =>
  (Nat.lt_succ_iff_lt_or_eq.1 hj).elim (hbelow j) fun heq => heq ▸ hi

/-- The StatefulSet of a replicaset that has none is created, or the run stops here, and nobody knows what became
of it. -/
theorem create_serves (hns : role.metadata.ns = some ns) (hi : i < role.replicasets.toNat)
    (ht : ∀ s', Serves s t s' → Filled ns cluster role s t s' ∧ (∀ j < i, held s' ns cluster role j ≠ []) ∧
      held s' ns cluster role i = []) :
    KeepsOr (fun _ _ => True) (Attempt.create .statefulSet (StatefulSet.ofRole cluster role i))
      (fun t _ => ServedBelow ns cluster role s (i + 1) t)
      (fun t e => StopsAt ns cluster role i e t ∧ ServedBelow ns cluster role s i t) t := by
  rw [Attempt.create, keepsOr_store]
  refine ⟨trivial, fun stored s'' hs'' => ?_, fun e => ⟨⟨_, _, rfl, Or.inr rfl⟩, fun s'' hs'' => ?_⟩⟩
  · obtain ⟨s', hs', hfree, hstored⟩ := serves_create hs''
    obtain ⟨hfilled, hbelow, hnil⟩ := ht s' hs'
    refine ⟨hfilled.create hi hnil hfree hstored _,
      servedBelow_succ (fun j hj => ?_) (matching_ne_nil_of_made hns hstored)⟩
    exact (grows_of_stored hfree hstored).matching_ne_nil (hbelow j hj)
  · rcases serves_create_error hs'' with hs' | ⟨s', stored, hs', hfree, hstored⟩
    · obtain ⟨hfilled, hbelow, hnil⟩ := ht s'' hs'
      exact ⟨hfilled.ask hi hnil _, hbelow⟩
    · obtain ⟨hfilled, hbelow, hnil⟩ := ht s' hs'
      refine ⟨hfilled.create hi hnil hfree hstored _, fun j hj => ?_⟩
      exact (grows_of_stored hfree hstored).matching_ne_nil (hbelow j hj)

theorem createMissing_serves (hns : role.metadata.ns = some ns) (hi : i < role.replicasets.toNat)
    (ht : ServedBelow ns cluster role s i t) :
    KeepsOr (fun _ _ => True) (Replicaset.createMissing cluster role ns i)
      (fun t _ => ServedBelow ns cluster role s (i + 1) t)
      (fun t e => StopsAt ns cluster role i e t ∧ ServedBelow ns cluster role s i t) t := by
  rw [Replicaset.createMissing, keepsOr_bind, Attempt.list, keepsOr_store]
  refine ⟨trivial, fun found => ?_, fun e => ⟨⟨_, _, rfl, Or.inl rfl⟩, fun s' hs' => ?_⟩⟩
  · rw [keepsOr_ite]
    refine ⟨fun hempty => ?_, fun hsome s' hs' => ?_⟩
    · rw [keepsOr_bind, keepsOr_log, keeps_log, keepsOr_bind]
      refine ⟨trivial, create_serves hns hi fun s' hs' => ?_⟩
      obtain ⟨hs', hfound⟩ := serves_list (serves_log hs')
      obtain ⟨hfilled, hbelow⟩ := ht s' hs'
      rw [List.isEmpty_iff.1 hempty] at hfound
      exact ⟨(hfilled.read rfl).read rfl, hbelow, hfound.symm.eq_nil⟩
    · obtain ⟨hs', hfound⟩ := serves_list hs'
      obtain ⟨hfilled, hbelow⟩ := ht s' hs'
      refine ⟨hfilled.read rfl, servedBelow_succ hbelow fun hnil => hsome (List.isEmpty_iff.2 ?_)⟩
      exact List.Perm.eq_nil (hnil ▸ hfound)
  · obtain ⟨hfilled, hbelow⟩ := ht s' (serves_list_error hs')
    exact ⟨hfilled.read rfl, hbelow⟩

theorem keepsOr_namespaceOf {m : ObjectMeta} {rule : Talk Surroundings → Request → Prop}
    {ok : Talk Surroundings → String → Prop} {fails : Talk Surroundings → OperatorError → Prop}
    (hns : m.ns = some ns) : KeepsOr rule (Replicaset.namespaceOf m) ok fails t ↔ ok t ns := by
  rw [Replicaset.namespaceOf, hns]
  exact keepsOr_pure ns

/-- A run serves all replicasets, or stops at one with those before it served. -/
theorem createAll_serves (hns : role.metadata.ns = some ns) (s : Stage τ) :
    KeepsOr (fun _ _ => True) (Replicaset.createAll cluster role)
      (fun t _ => ServedBelow ns cluster role s role.replicasets.toNat t)
      (fun t e => ∃ i < role.replicasets.toNat,
        StopsAt ns cluster role i e t ∧ ServedBelow ns cluster role s i t) [] := by
  rw [Replicaset.createAll, keepsOr_bind, keepsOr_namespaceOf hns]
  refine keepsOr_throughFirst (fun n t _ => ServedBelow ns cluster role s n t) _ (fun i _ t hi ht => ?_) () ?_
  · exact (createMissing_serves hns hi ht).mono (fun _ _ h => h) fun _ _ h => ⟨i, hi, h⟩
  · rintro _ rfl
    exact ⟨.start, fun _ hi => absurd hi (Nat.not_lt_zero _)⟩

/-! ### Replacing those that have drifted -/

/-- Whatever the store has become, StatefulSets are being brought in line, with some still to come. -/
def AligningAfter (ns : String) (cluster : Cluster) (role : Role) (s : Stage τ) (rest : List StatefulSet)
    (t : Talk Surroundings) : Prop :=
  ∀ s', Serves s t s' → Aligning s ns cluster role rest s'

/-- The order of a list does not matter. -/
theorem Aligning.of_perm {rest rest' : List StatefulSet} (h : Aligning s ns cluster role rest s')
    (hperm : rest'.Perm rest) : Aligning s ns cluster role rest' s' where
  toOnlyIn := h.toOnlyIn
  distinct := (hperm.pairwise_iff fun hne => hne.symm).2 h.distinct
  found st hst := h.found st (hperm.mem_iff.1 hst)
  aligned st hst := (h.aligned st hst).imp_left hperm.mem_iff.2
  stocked := h.stocked

theorem updateDrifted_serves {st : StatefulSet} {rest : List StatefulSet}
    (ht : AligningAfter ns cluster role s (st :: rest) t) :
    KeepsOr (fun _ _ => True) (Replicaset.updateDrifted cluster role st)
      (fun t _ => AligningAfter ns cluster role s rest t) (fun _ _ => True) t := by
  rw [Replicaset.updateDrifted]
  split
  next hnone =>
    rw [keepsOr_log, keeps_log]
    exact ⟨trivial, fun s' hs' => (ht s' (serves_log hs')).skip fun i hi =>
      absurd (hnone.symm.trans hi) (Option.some_ne_none i).symm⟩
  next i hi =>
    split
    next hline =>
      refine fun s' hs' => (ht s' hs').skip fun j hj => ?_
      obtain rfl : i = j := Option.some.inj (hi.symm.trans hj)
      rw [hline]
    next synced hsynced =>
      obtain rfl : (StatefulSet.synced cluster role i st).1 = synced := congrArg Prod.fst hsynced
      rw [keepsOr_bind, keepsOr_log, keeps_log, keepsOr_bind, Attempt.replace, keepsOr_store]
      refine ⟨trivial, trivial, fun stored s'' hs'' => ?_, fun _ => trivial⟩
      obtain ⟨s', hs', hstored⟩ := serves_replace hs''
      exact (ht s' (serves_log hs')).replace hi hstored

/-- A run that succeeds leaves all StatefulSets in line, and no replicaset without one that had one. -/
theorem updateAll_serves (hns : role.metadata.ns = some ns) (s : Stage τ) :
    KeepsOr (fun _ _ => True) (Replicaset.updateAll cluster role)
      (fun t _ => ∀ s', Serves s t s' → Aligned s'.objects ns cluster role ∧
        (Stocked s.objects ns cluster role → Stocked s'.objects ns cluster role)) (fun _ _ => True) [] := by
  rw [Replicaset.updateAll, keepsOr_bind, keepsOr_namespaceOf hns, keepsOr_bind, Attempt.list, keepsOr_store]
  refine ⟨trivial, fun found => ?_, fun _ => trivial⟩
  refine KeepsOr.mono (keepsOr_throughItems (fun rest t _ => AligningAfter ns cluster role s rest t)
    (fun st rest _ t ht => updateDrifted_serves ht) found () fun s' hs' => ?_) (fun t _ ht s' hs' => ?_)
    fun _ _ h => h
  · obtain ⟨rfl, hfound⟩ := serves_list hs'
    exact aligning_start.of_perm hfound
  · have hdone := ht s' hs'
    exact ⟨fun st hst => (hdone.aligned st hst).resolve_left List.not_mem_nil, hdone.stocked⟩

/-! ### Runs that write nothing -/

/-- Whatever the store has become, nothing was written, and what is still to come is in line. -/
def InLineAfter (cluster : Cluster) (role : Role) (s : Stage τ) (rest : List StatefulSet)
    (t : Talk Surroundings) : Prop :=
  ∀ s', Serves s t s' → (∀ e ∈ t, e.ask.isWrite = false) ∧ ∀ st ∈ rest, InLine cluster role st

theorem InLineAfter.read {rest : List StatefulSet} (h : InLineAfter cluster role s rest t) {e : Turn Surroundings}
    (he : e.ask.isWrite = false) : InLineAfter cluster role s rest (e :: t) := by
  rintro s'' ⟨s', hs', _⟩
  obtain ⟨hreads, hrest⟩ := h s' hs'
  exact ⟨List.forall_mem_cons.2 ⟨he, hreads⟩, hrest⟩

theorem InLineAfter.tail {st : StatefulSet} {rest : List StatefulSet}
    (h : InLineAfter cluster role s (st :: rest) t) : InLineAfter cluster role s rest t :=
  fun s' hs' => (h s' hs').imp_right fun hrest => (List.forall_mem_cons.1 hrest).2

theorem updateDrifted_reads {st : StatefulSet} {rest : List StatefulSet}
    (ht : InLineAfter cluster role s (st :: rest) t) :
    KeepsOr (fun _ _ => True) (Replicaset.updateDrifted cluster role st)
      (fun t _ => InLineAfter cluster role s rest t) (fun t _ => InLineAfter cluster role s [] t) t := by
  rw [Replicaset.updateDrifted]
  split
  next =>
    rw [keepsOr_log, keeps_log]
    exact ⟨trivial, ht.tail.read rfl⟩
  next i hi =>
    split
    next => exact ht.tail
    next hsynced =>
      -- a StatefulSet that has drifted is not to come, so the store does not answer so
      have hnever : ∀ s' : Stage τ, ¬Serves s t s' := fun s' hs' => by
        have hline := (List.forall_mem_cons.1 (ht s' hs').2).1 i hi
        rw [hsynced] at hline
        cases hline
      have hvoid : ∀ {rest : List StatefulSet} {e₁ e₂ : Turn Surroundings},
          InLineAfter cluster role s rest (e₁ :: e₂ :: t) := by
        rintro rest e₁ e₂ s'' ⟨_, ⟨s', hs', _⟩, _⟩
        exact absurd hs' (hnever s')
      rw [keepsOr_bind, keepsOr_log, keeps_log, keepsOr_bind, Attempt.replace, keepsOr_store]
      exact ⟨trivial, trivial, fun _ => hvoid, fun _ => hvoid⟩

/-- A run over StatefulSets that are in line writes nothing. -/
theorem updateAll_reads (hns : role.metadata.ns = some ns) (haligned : Aligned s.objects ns cluster role) :
    KeepsOr (fun _ _ => True) (Replicaset.updateAll cluster role)
      (fun t _ => InLineAfter cluster role s [] t) (fun t _ => InLineAfter cluster role s [] t) [] := by
  rw [Replicaset.updateAll, keepsOr_bind, keepsOr_namespaceOf hns, keepsOr_bind, Attempt.list, keepsOr_store]
  have hstart : InLineAfter cluster role s [] [] := fun _ _ => ⟨fun _ he => absurd he List.not_mem_nil,
    fun _ hst => absurd hst List.not_mem_nil⟩
  refine ⟨trivial, fun found => ?_, fun e => hstart.read rfl⟩
  refine keepsOr_throughItems (fun rest t _ => InLineAfter cluster role s rest t)
    (fun st rest _ t ht => updateDrifted_reads ht) found () fun s' hs' => ?_
  refine ⟨(hstart.read rfl s' hs').1, fun st hst => ?_⟩
  obtain ⟨rfl, hfound⟩ := serves_list hs'
  exact haligned st (hfound.mem_iff.1 hst)

/-! ### The runs of a role -/

/-- What a run of `createAll` leaves, however it ends. -/
structure Materialises (ns : String) (cluster : Cluster) (role : Role) (s : Stage τ) (t : Talk Surroundings)
    (r : Except OperatorError Unit) (s' : Stage τ) : Prop where
  /-- All StatefulSets there were are unchanged. -/
  unchanged : ∀ {ns' name} {st : StatefulSet}, s.objects.find? .statefulSet ns' name = some st →
    s'.objects.find? .statefulSet ns' name = some st
  /-- A replicaset that had one has no other. -/
  same : ∀ i < role.replicasets.toNat, held s ns cluster role i ≠ [] →
    ∀ st, st ∈ held s' ns cluster role i ↔ st ∈ held s ns cluster role i
  /-- All that is written is the StatefulSet of a replicaset that had none. -/
  asked : ∀ e ∈ t, e.ask.isWrite = true → ∃ i < role.replicasets.toNat,
    e.ask = .store (.create .statefulSet (StatefulSet.ofRole cluster role i)) ∧ held s ns cluster role i = []
  /-- After a success every replicaset has one, and no more than one if it had none. -/
  complete : r = .ok () → ∀ i < role.replicasets.toNat, held s' ns cluster role i ≠ [] ∧
    (held s ns cluster role i = [] → ∃ st, held s' ns cluster role i = [st])

theorem materialises {r : Except OperatorError Unit} (hns : role.metadata.ns = some ns)
    (h : (Replicaset.createAll cluster role).run.Goes [] t r) (hs : Serves s t s') :
    Materialises ns cluster role s t r s' ∧ ∀ e, r = .error e → ∃ i < role.replicasets.toNat,
      StopsAt ns cluster role i e t ∧ ∀ j < i, held s' ns cluster role j ≠ [] := by
  have hends := (Keeps.of_goes (createAll_serves hns s) h).1
  cases r with
  | ok _ =>
    obtain ⟨hfilled, hserved⟩ := hends s' hs
    refine ⟨⟨hfilled.stays, fun i hi hne => hfilled.mem_held_iff hi hne, hfilled.asked, fun _ i hi => ?_⟩, nofun⟩
    exact ⟨hserved i hi, fun hnil => hfilled.exists_held_eq hi hnil (hserved i hi)⟩
  | error e =>
    obtain ⟨i, hi, hstops, hserved⟩ := hends
    obtain ⟨hfilled, hbelow⟩ := hserved s' hs
    refine ⟨⟨hfilled.stays, fun i hi hne => hfilled.mem_held_iff hi hne, hfilled.asked, nofun⟩, ?_⟩
    rintro _ ⟨⟩
    exact ⟨i, hi, hstops, hbelow⟩

/-- The StatefulSet of a replicaset tells its ordinal. -/
theorem ofRole_inj {j : Nat} (hi : i < role.replicasets.toNat) (hj : j < role.replicasets.toNat)
    (h : StatefulSet.ofRole cluster role i = StatefulSet.ofRole cluster role j) : i = j := by
  have hordinal : ∀ {i : Nat}, i < role.replicasets.toNat → (StatefulSet.ofRole cluster role i).ordinal? = some ↑i :=
    fun hi => (StatefulSet.fits_synced cluster role _ _).ordinal? (inRange_of_lt_replicasets hi)
  exact_mod_cast Option.some.inj ((hordinal hi).symm.trans ((congrArg _ h).trans (hordinal hj)))

/-- Nothing is created for a replicaset that has a StatefulSet. -/
theorem Materialises.spares {r : Except OperatorError Unit} (h : Materialises ns cluster role s t r s')
    (hi : i < role.replicasets.toNat) (hne : held s ns cluster role i ≠ []) :
    ∀ e ∈ t, e.ask ≠ .store (.create .statefulSet (StatefulSet.ofRole cluster role i)) := by
  rintro e he hask
  obtain ⟨j, hj, hcreate, hnil⟩ := h.asked e he (by rw [hask]; rfl)
  have hsame : StatefulSet.ofRole cluster role i = StatefulSet.ofRole cluster role j := by
    simpa using hask.symm.trans hcreate
  exact hne (ofRole_inj hi hj hsame ▸ hnil)

theorem reads_of_stocked {r : Except OperatorError Unit} (hns : role.metadata.ns = some ns)
    (hstocked : Stocked s.objects ns cluster role) (h : (Replicaset.createAll cluster role).run.Goes [] t r)
    (hs : Serves s t s') : ∀ e ∈ t, e.ask.isWrite = false := by
  intro e he
  by_contra hwrite
  obtain ⟨i, hi, _, hnil⟩ := (materialises hns h hs).1.asked e he (Bool.not_eq_false _ ▸ hwrite)
  exact hstocked i hi hnil

theorem reads_of_aligned {r : Except OperatorError Unit} (hns : role.metadata.ns = some ns)
    (haligned : Aligned s.objects ns cluster role) (h : (Replicaset.updateAll cluster role).run.Goes [] t r)
    (hs : Serves s t s') : ∀ e ∈ t, e.ask.isWrite = false := by
  have hends := (Keeps.of_goes (updateAll_reads hns haligned) h).1
  cases r with
  | ok _ => exact (hends s' hs).1
  | error e => exact (hends s' hs).1

/-- Making the StatefulSets of a role is complete, makes none twice and may be tried again. A run leaves what
`Materialises` says; if it fails it stopped at some replicaset, with those before it served, and another run creates
nothing for these. When all were made and brought in line, to do both again writes nothing. -/
theorem materialised (hns : role.metadata.ns = some ns) (s : Stage τ) :
    (∀ t r s', (Replicaset.createAll cluster role).run.Goes [] t r → Serves s t s' →
      Materialises ns cluster role s t r s' ∧
      ∀ e, r = .error e → ∃ i < role.replicasets.toNat, StopsAt ns cluster role i e t ∧
        ∀ j < i, held s' ns cluster role j ≠ [] ∧
          ∀ t' r' s'', (Replicaset.createAll cluster role).run.Goes [] t' r' → Serves s' t' s'' →
            ∀ x ∈ t', x.ask ≠ .store (.create .statefulSet (StatefulSet.ofRole cluster role j))) ∧
    ∀ t₁ s₁ t₂ s₂, (Replicaset.createAll cluster role).run.Goes [] t₁ (.ok ()) → Serves s t₁ s₁ →
      (Replicaset.updateAll cluster role).run.Goes [] t₂ (.ok ()) → Serves s₁ t₂ s₂ →
      ∀ t₃ r₃ s₃ t₄ r₄ s₄, (Replicaset.createAll cluster role).run.Goes [] t₃ r₃ → Serves s₂ t₃ s₃ →
        (Replicaset.updateAll cluster role).run.Goes [] t₄ r₄ → Serves s₃ t₄ s₄ →
        (∀ e ∈ t₃ ++ t₄, e.ask.isWrite = false) ∧ s₄ = s₂ := by
  constructor
  · intro t r s' h hs
    obtain ⟨hmade, hstopped⟩ := materialises hns h hs
    refine ⟨hmade, fun e he => ?_⟩
    obtain ⟨i, hi, hstops, hserved⟩ := hstopped e he
    refine ⟨i, hi, hstops, fun j hj => ⟨hserved j hj, fun t' r' s'' h' hs' => ?_⟩⟩
    exact (materialises hns h' hs').1.spares (Nat.lt_trans hj hi) (hserved j hj)
  · intro t₁ s₁ t₂ s₂ h₁ hs₁ h₂ hs₂ t₃ r₃ s₃ t₄ r₄ s₄ h₃ hs₃ h₄ hs₄
    have hmade := (materialises hns h₁ hs₁).1
    obtain ⟨haligned, hstocked⟩ := (Keeps.of_goes (updateAll_serves hns s₁) h₂).1 s₂ hs₂
    have hfirst := reads_of_stocked hns (hstocked fun i hi => (hmade.complete rfl i hi).1) h₃ hs₃
    obtain rfl := hs₃.eq_of_reads hfirst
    have hsecond := reads_of_aligned hns haligned h₄ hs₄
    exact ⟨List.forall_mem_append.2 ⟨hfirst, hsecond⟩, hs₄.eq_of_reads hsecond⟩

/-! ### An example: a StatefulSet that somebody else made -/

theorem createAll_provides (cluster : Cluster) (role : Role) :
    (Replicaset.createAll cluster role).run.Only Request.Provides := by
  intro t
  rw [keeps_run, Replicaset.createAll, keepsOr_bind, Replicaset.namespaceOf]
  split
  next ns _ =>
    rw [keepsOr_pure]
    refine keepsOr_throughUpTo (fun i _ t _ => ?_) _ _ () trivial
    rw [Replicaset.createMissing]
    simp [Request.Provides]
  next => trivial

theorem updateAll_provides (cluster : Cluster) (role : Role) :
    (Replicaset.updateAll cluster role).run.Only Request.Provides := by
  intro t
  rw [keeps_run, Replicaset.updateAll, keepsOr_bind, Replicaset.namespaceOf]
  split
  next ns _ =>
    rw [keepsOr_pure, keepsOr_bind, Attempt.list, keepsOr_store]
    refine ⟨trivial, fun found => keepsOr_through (fun st _ t _ => ?_) found () trivial, fun _ => trivial⟩
    rw [Replicaset.updateDrifted]
    split
    next => simp [Request.Provides]
    next =>
      split
      next => trivial
      next => simp [Request.Provides]
  next => trivial

/-- The metadata of an object of the shop. -/
def shelved (name : String) (labels : Labels) : ObjectMeta :=
  { ObjectMeta.blank with name := some name, ns := some "db", labels := some labels }

/-- A shop. -/
def shopCluster : Cluster := ⟨shelved "shop" .empty, .default, none⟩

/-- A role of the shop, with two replicasets. -/
def shopRole : Role :=
  ⟨shelved "storage" (Labels.clusterSelector "shop"), { RoleSpec.default with replicasets := 2 }, none⟩

/-- A StatefulSet with the labels of the first replicaset, made by somebody else. -/
def legacy : StatefulSet := ⟨shelved "legacy" (Labels.ordinalSelector "shop" "storage" 0), none⟩

/-- A store that holds it. -/
def legacyStage : Stage Unit where
  objects := (Objects.blank.put .statefulSet legacy).2
  kept := Objects.kept_blank.put .statefulSet legacy
  topology := ()

/-- No instance is asked anything. -/
def unasked : Answering Unit := fun t _ => (.error .decode, t)

/-- A run that makes what is missing. -/
def making (s : Stage Unit) : Played Surroundings (Stage Unit) (Except OperatorError Unit) :=
  (Replicaset.createAll shopCluster shopRole).run.play (Stage.respond unasked) [] s

/-- A run that replaces what has drifted. -/
def adapting (s : Stage Unit) : Played Surroundings (Stage Unit) (Except OperatorError Unit) :=
  (Replicaset.updateAll shopCluster shopRole).run.play (Stage.respond unasked) [] s

theorem making_serves (s : Stage Unit) :
    (Replicaset.createAll shopCluster shopRole).run.Goes [] (making s).talk (making s).result ∧
      Serves s (making s).talk (making s).state := serves_play unasked (createAll_provides _ _) s

theorem adapting_serves (s : Stage Unit) :
    (Replicaset.updateAll shopCluster shopRole).run.Goes [] (adapting s).talk (adapting s).result ∧
      Serves s (adapting s).talk (adapting s).state := serves_play unasked (updateAll_provides _ _) s

/-- A list is answered, then a second one fails. -/
def interrupted : Talk Surroundings :=
  [⟨.store (.list .statefulSet "db" (Labels.ordinalSelector "shop" "storage" 1)), Except.error .serialization⟩,
    ⟨.store (.list .statefulSet "db" (Labels.ordinalSelector "shop" "storage" 0)),
      Except.ok (held legacyStage "db" shopCluster shopRole 0)⟩]

theorem interrupted_serves : Serves legacyStage interrupted legacyStage :=
  ⟨legacyStage, ⟨legacyStage, rfl, .done (.list (List.Perm.refl _))⟩, .refused⟩

theorem createMissing_goes {found : List StatefulSet} (hfound : found ≠ []) :
    (Replicaset.createMissing cluster role ns i).run.Goes t
      (⟨.store (.list .statefulSet ns (Labels.ordinalSelector cluster.name role.name i)), Except.ok found⟩ :: t)
      (.ok ()) := by
  refine Goes.run_bind (a := found) ⟨.ok found, rfl, rfl⟩ ?_
  rw [if_neg fun hempty => hfound (List.isEmpty_iff.1 hempty)]
  exact ⟨rfl, rfl⟩

theorem createMissing_goes_error {e : OperatorError} :
    (Replicaset.createMissing cluster role ns i).run.Goes t
      (⟨.store (.list .statefulSet ns (Labels.ordinalSelector cluster.name role.name i)), Except.error e⟩ :: t)
      (.error e) := ⟨.error e, rfl, rfl⟩

/-- The StatefulSet that somebody else made is left to its replicaset, and the other one gets one; a run whose
second list fails stops there, and a run after it makes nothing for the first replicaset; and when both runs have
succeeded, to do both again writes nothing. -/
theorem legacy_kept :
    ((∀ st, st ∈ held (making legacyStage).state "db" shopCluster shopRole 0 ↔
        st ∈ held legacyStage "db" shopCluster shopRole 0) ∧
      ∃ st, held (making legacyStage).state "db" shopCluster shopRole 1 = [st]) ∧
    (∃ i < 2, StopsAt "db" shopCluster shopRole i .serialization interrupted ∧
      ∀ j < i, ∀ e ∈ (making legacyStage).talk,
        e.ask ≠ .store (.create .statefulSet (StatefulSet.ofRole shopCluster shopRole j))) ∧
    ∀ e ∈ (making (adapting (making legacyStage).state).state).talk ++
      (adapting (making (adapting (making legacyStage).state).state).state).talk, e.ask.isWrite = false := by
  have hmade : (making legacyStage).result = .ok () := by decide +kernel
  have hadapted : (adapting (making legacyStage).state).result = .ok () := by decide +kernel
  have hfirst : held legacyStage "db" shopCluster shopRole 0 ≠ [] := by decide +kernel
  have hsecond : held legacyStage "db" shopCluster shopRole 1 = [] := by decide +kernel
  have hstopped : (Replicaset.createAll shopCluster shopRole).run.Goes [] interrupted (.error .serialization) := by
    refine Goes.run_bind ⟨rfl, rfl⟩ (Goes.run_bind (a := ()) (createMissing_goes hfirst) ?_)
    exact goes_run_bind.2 ⟨_, .error .serialization, createMissing_goes_error, rfl, rfl⟩
  obtain ⟨hends, hquiet⟩ := @materialised Unit shopCluster shopRole "db" rfl legacyStage
  refine ⟨?_, ?_, ?_⟩
  · obtain ⟨hmaking, -⟩ := hends _ _ _ (making_serves _).1 (making_serves _).2
    exact ⟨hmaking.same 0 (by decide) hfirst, (hmaking.complete hmade 1 (by decide)).2 hsecond⟩
  · obtain ⟨i, hi, hstops, hspared⟩ := (hends _ _ _ hstopped interrupted_serves).2 _ rfl
    exact ⟨i, hi, hstops, fun j hj => (hspared j hj).2 _ _ _ (making_serves _).1 (making_serves _).2⟩
  · exact (hquiet _ _ _ _ (hmade ▸ (making_serves _).1) (making_serves _).2 (hadapted ▸ (adapting_serves _).1)
      (adapting_serves _).2 _ _ _ _ _ _ (making_serves _).1 (making_serves _).2 (adapting_serves _).1
      (adapting_serves _).2).1

end ClusterKeeper.Simulation
