import ClusterKeeper.Proofs.Pass.Turns
import ClusterKeeper.Proofs.Pass.Walk

/-!
Passes taken apart step by step, whatever they are answered. A step leaves one thing to be shown when the
next step follows and another when the pass ends at it (`Step.Keeps`), and along a walk the first is what
the rest of the steps needs (`Pass.keeps_walk_of_step`). The steps that all passes share end a pass only so
that it is made again, but for an object that is gone (`Outcome.Retries`), and their turns are harmless but
for those that load the object, load its cluster or record a leader.
-/

namespace ClusterKeeper

open Program

variable {C α : Type} {rule : Talk Surroundings → Request → Prop} {t t₀ : Talk Surroundings} {c : C}
  {on : Talk Surroundings → C → Prop} {ends : Talk Surroundings → Outcome → C → Prop}

/-- The turn may be one of an election: it is no deed, or writes the status of the cluster. -/
def Turn.Elects (e : Turn Surroundings) : Prop := e.ask.DeedFreeOr Election.WritesCluster

theorem Turn.Elects.lookupBlameFree {e : Turn Surroundings} (h : e.Elects) {k : Kind} (hk : k.isCustom = true) :
    e.LookupBlameFree k := by
  obtain ⟨q, a⟩ := e
  rcases h with hq | ⟨given, hq⟩
  · exact (Turn.harmless_of_deedFree hq a).lookupBlameFree k hk
  · obtain rfl : q = .store (.replaceStatus .cluster given) := hq
    exact Turn.lookupBlameFree_store (q := .replaceStatus .cluster given) (fun _ _ h => nomatch h) a

/-- A step keeps to a rule; it goes on, or ends the pass, as is asked for. -/
def Step.Keeps (rule : Talk Surroundings → Request → Prop) (step : Step C)
    (on : Talk Surroundings → C → Prop) (ends : Talk Surroundings → Outcome → C → Prop)
    (t : Talk Surroundings) (c : C) : Prop :=
  Program.Keeps rule (step.run c) (fun t r => Meets (on t r.2) (fun outcome => ends t outcome r.2) r.1)
    (⟨Request.log .debug "Running step", ()⟩ :: t)

/-! ### Programs of harmless turns -/

theorem logs_log (t : Talk Surroundings) (level : LogLevel) (message : String) :
    t.Extends Turn.Logs (⟨Request.log level message, ()⟩ :: t) := Talk.extends_refl.cons ⟨level, message, rfl⟩

theorem extends_log (t : Talk Surroundings) (level : LogLevel) (message : String) :
    t.Extends Turn.Harmless (⟨Request.log level message, ()⟩ :: t) := (logs_log t level message).harmless

variable [AdmitsDeedFree rule]

/-- DeedFree requests, and others that the rule lets pass as long as all turns are harmless. -/
theorem keeps_of_deedFreeOr {deed : Request → Prop} {p : Act α} (hp : p.Only (Request.DeedFreeOr deed))
    (hharmless : ∀ q (a : q.Answer), deed q → Turn.Harmless ⟨q, a⟩)
    (hrule : ∀ t' q, t.Extends Turn.Harmless t' → deed q → rule t' q)
    (ht : t.Extends Turn.Harmless t₀) :
    Program.Keeps rule p (fun t' _ => t.Extends Turn.Harmless t') t₀ := by
  refine hp.keeps ?_ ?_ ht
  · rintro t' q ht' (hq | hq)
    · exact AdmitsDeedFree.of_deedFree t' q hq
    · exact hrule t' q ht' hq
  · rintro t' q a ht' (hq | hq)
    · exact ht'.cons (Turn.harmless_of_deedFree hq a)
    · exact ht'.cons (hharmless q a hq)

theorem keeps_of_deedFree {p : Act α} (hp : p.Only Request.DeedFree) (ht : t.Extends Turn.Harmless t₀) :
    Program.Keeps rule p (fun t' _ => t.Extends Turn.Harmless t') t₀ :=
  hp.keeps (fun t' q _ hq => AdmitsDeedFree.of_deedFree t' q hq)
    (fun _ _ a ht' hq => ht'.cons (Turn.harmless_of_deedFree hq a)) ht

theorem keepsOr_of_deedFree {ε : Type} {x : ExceptT ε Act α} (hx : x.run.Only Request.DeedFree)
    (ht : t.Extends Turn.Harmless t₀) :
    KeepsOr rule x (fun t' _ => t.Extends Turn.Harmless t') (fun t' _ => t.Extends Turn.Harmless t') t₀ :=
  (keeps_run x).1 (keeps_of_deedFree hx ht)

/-! ### Walks -/

namespace Pass

omit [AdmitsDeedFree rule] in
theorem keeps_ofAttempt {name : String} {f : C → Attempt (Outcome × C)} :
    (Step.ofAttempt name f).Keeps rule on ends t c ↔
      KeepsOr rule (f c) (fun t r => Meets (on t r.2) (fun outcome => ends t outcome r.2) r.1)
        (fun t e => ends t (.fail e) c) (⟨Request.log .debug "Running step", ()⟩ :: t) := by
  rw [Step.Keeps, Step.ofAttempt, keeps_bind, Program.keeps_run]
  rfl

omit [AdmitsDeedFree rule] in
theorem keeps_reading {name : String} {f : C → Attempt Outcome} :
    (Step.reading name f).Keeps rule on ends t c ↔
      KeepsOr rule (f c) (fun t outcome => Meets (on t c) (fun outcome => ends t outcome c) outcome)
        (fun t e => ends t (.fail e) c) (⟨Request.log .debug "Running step", ()⟩ :: t) := by
  rw [Step.reading, keeps_ofAttempt, bind_pure_comp, keepsOr_map]

theorem keeps_walk_of_step {step : Step C} {rest : List (Step C)} {last : String}
    {fits : Talk Surroundings → String × Outcome × C → Prop}
    (h : step.Keeps rule (fun t c => Program.Keeps rule (walk rest step.name c) fits t)
      (fun t outcome c => fits t (step.name, outcome, c)) t c) :
    Program.Keeps rule (walk (step :: rest) last c) fits t := by
  refine keeps_walk_cons (h.mono fun t r hr => ?_)
  obtain ⟨outcome, c⟩ := r
  cases outcome with
  | next => exact ⟨fun _ => hr, fun h => absurd rfl h⟩
  | complete => exact ⟨nofun, fun _ => hr⟩
  | requeue after => exact ⟨nofun, fun _ => hr⟩
  | fail e => exact ⟨nofun, fun _ => hr⟩

/-! ### Steps that all passes share -/

theorem info_keeps (hon : ∀ t', t.Extends Turn.Logs t' → on t' c) :
    (info (C := C)).Keeps rule on ends t c := by
  rw [Step.Keeps, info, keeps_bind, keeps_log_iff]
  exact hon _ ((logs_log t _ _).trans (logs_log _ _ _))

section

variable [PassState C α] [CustomResource α] {o : α}

theorem setPhase_keeps (phase : CustomResource.Phase α) (ho : PassState.object c = some o)
    (hon : ∀ t', t.Extends Turn.Logs t' → on t' (PassState.withObject (CustomResource.setPhase phase o) c)) :
    (setPhase (C := C) phase).Keeps rule on ends t c := by
  rw [Step.Keeps, setPhase]
  dsimp only
  rw [ho]
  dsimp only
  rw [keeps_bind, keeps_log_iff]
  exact hon _ ((logs_log t _ _).trans (logs_log _ _ _))

omit [AdmitsDeedFree rule] in
theorem resetStatus_keeps (ho : PassState.object c = some o)
    (hon : ∀ t', t.Extends Turn.Logs t' → on t' (PassState.withObject (CustomResource.resetStatus o) c)) :
    (resetStatus (C := C)).Keeps rule on ends t c := by
  have hchanged : PassState.changeObject (CustomResource.resetStatus (α := α)) c =
      PassState.withObject (CustomResource.resetStatus o) c := by
    unfold PassState.changeObject
    rw [ho]
  rw [Step.Keeps, resetStatus]
  dsimp only
  rw [hchanged]
  exact hon _ (logs_log t _ _)

omit [AdmitsDeedFree rule] [CustomResource α] in
theorem waitForClusterBootstrapped_keeps {cluster : Cluster} (hcluster : PassState.cluster c = some cluster)
    (hends : ∀ t', t.Extends Turn.Harmless t' → ends t' .wait c)
    (hon : cluster.isBootstrapped = true → ∀ t', t.Extends Turn.Harmless t' → on t' c) :
    (waitForClusterBootstrapped (C := C)).Keeps rule on ends t c := by
  rw [waitForClusterBootstrapped, keeps_reading, keepsOr_pure, hcluster, Option.any_some]
  cases hboot : cluster.isBootstrapped with
  | true => exact hon hboot _ (extends_log t _ _)
  | false => exact hends _ (extends_log t _ _)

end

section

variable {k : Kind} [PassState C k.Object] [CustomResource k.Object]

/-- The object is found, or it is gone, or it cannot be told. -/
theorem getRequestedObject_keeps (hfetch : ∀ ns name, CustomResource.fetch ns name = Attempt.get k ns name)
    (hrule : ∀ t ns name, rule t (.store (.get k ns name)))
    (hgone : ∀ t₀, t.Extends Turn.Logs t₀ →
      ends (⟨Request.log .debug "Object is gone", ()⟩ :: ⟨Request.store (.get k (PassState.key c).ns
        (PassState.key c).name), Except.ok none⟩ :: t₀) .complete c)
    (hends : ∀ t₀ e, t.Extends Turn.Logs t₀ →
      ends (⟨Request.store (.get k (PassState.key c).ns (PassState.key c).name), Except.error e⟩ :: t₀)
        (.fail e) c)
    (hon : ∀ t₀ o, t.Extends Turn.Logs t₀ →
      on (⟨Request.store (.get k (PassState.key c).ns (PassState.key c).name), Except.ok (some o)⟩ :: t₀)
        (PassState.withObject o c)) :
    (getRequestedObject (C := C)).Keeps rule on ends t c := by
  rw [getRequestedObject, keeps_ofAttempt]
  dsimp only
  rw [hfetch, keepsOr_bind, Attempt.get, keepsOr_store]
  refine ⟨hrule _ _ _, Option.forall.2 ⟨?_, fun o => hon _ o (logs_log t _ _)⟩,
    fun e => hends _ e (logs_log t _ _)⟩
  rw [keepsOr_log_bind]
  exact hgone _ (logs_log t _ _)

/-- The cluster that the labels name is found, and is the copy then, or the pass is made again. -/
theorem getClusterByLabels_keeps {o : k.Object} (hk : k.isCustom = true) (hne : k ≠ .cluster)
    (hrule : ∀ t ns name, rule t (.store (.get .cluster ns name)))
    (hnone : PassState.cluster c = none) (ho : PassState.object c = some o)
    (hends : ∀ t' outcome, t.Extends (Turn.LookupBlameFree k) t' → outcome.Retries → ends t' outcome c)
    (hon : ∀ t' cluster, t.Extends (Turn.LookupBlameFree k) t' → t'.copy = some cluster →
      on t' (PassState.withCluster cluster c)) :
    (getClusterByLabels (C := C)).Keeps rule on ends t c := by
  have hlog : ∀ {t' : Talk Surroundings} level message, t.Extends (Turn.LookupBlameFree k) t' →
      t.Extends (Turn.LookupBlameFree k) (⟨Request.log level message, ()⟩ :: t') :=
    fun level message ht => ht.trans (Talk.lookupBlameFree_of_extends hk (extends_log _ level message))
  have hstart := hlog .debug "Running step" Talk.extends_refl
  have hasked : ∀ ns name (a : Except OperatorError (Option Cluster)),
      t.Extends (Turn.LookupBlameFree k) (⟨Request.store (.get .cluster ns name), a⟩ ::
        ⟨Request.log .debug "Running step", ()⟩ :: t) :=
    fun ns name a => hstart.cons (Turn.lookupBlameFree_store (q := .get .cluster ns name)
      (fun _ _ h => hne (StoreRequest.get.inj h).1.symm) a)
  rw [getClusterByLabels, keeps_ofAttempt]
  simp only [hnone, ho, Option.isSome_none, Bool.false_eq_true, if_false]
  split
  next => exact hends _ _ hstart trivial
  next name _ =>
    rw [keepsOr_bind, Attempt.get, keepsOr_store]
    refine ⟨hrule _ _ _, Option.forall.2 ⟨?_, fun cluster => ?_⟩, fun e => hends _ _ (hasked _ _ _) trivial⟩
    · rw [keepsOr_log_bind]
      exact hends _ .wait (hlog _ _ (hasked _ _ _)) rfl
    · exact hon _ cluster (hasked _ _ _) (Talk.copy_cons_of_some rfl)

end

/-- A leader is found with its cluster, which is the copy then, or the pass is made again. -/
theorem getLeader_keeps [PassState C α] {base cluster : Cluster}
    (hwrite : ∀ t given, rule t (.store (.replaceStatus .cluster given)))
    (hcluster : PassState.cluster c = some cluster) (hcopy : t.copy = some base) (halike : base.Alike cluster)
    (hends : ∀ t' outcome, t.Extends Turn.Elects t' → outcome.Retries → ends t' outcome c)
    (hon : ∀ t' leader found, t.Extends Turn.Elects t' →
      (found = cluster ∧ t'.copy = some base ∨ t'.copy = some found) →
      (t'.TakesStatus → found.isBootstrapped = cluster.isBootstrapped) →
      on t' (PassState.withLeader leader (PassState.withCluster found c))) :
    (getLeader (C := C)).Keeps rule on ends t c := by
  have hlog : ∀ {t' : Talk Surroundings} level message, t.Extends Turn.Elects t' →
      t.Extends Turn.Elects (⟨Request.log level message, ()⟩ :: t') :=
    fun level message ht => ht.cons (Or.inl Request.deedFree_log)
  have hstart := hlog .debug "Running step" Talk.extends_refl
  have hcopy : Talk.copy (⟨Request.log .debug "Running step", ()⟩ :: t) = some base :=
    (Talk.copy_cons Request.elsewhere_log _).trans hcopy
  -- what the election keeps to, what it asks, and what it leaves of the record of the bootstrap
  have hled := Election.leaderFor_keeps hcopy halike
  have hasked : KeepsOr (fun _ q => Request.DeedFreeOr Election.WritesCluster q) (Election.leaderFor cluster)
      (fun t' _ => Talk.Extends Turn.Elects (⟨Request.log .debug "Running step", ()⟩ :: t) t')
      (fun t' _ => Talk.Extends Turn.Elects (⟨Request.log .debug "Running step", ()⟩ :: t) t')
      (⟨Request.log .debug "Running step", ()⟩ :: t) :=
    (Program.keeps_run _).1 ((Election.leaderFor_writes cluster).extends fun _ _ _ hq => hq)
  have hfound := (hled.and hasked).and (Election.leaderFor_keepsBootstrap cluster)
  rw [getLeader, keeps_ofAttempt, hcluster]
  simp only [keepsOr_bind, keepsOr_lift, Program.keeps_run]
  refine ((hfound.relax ?_).mono (fun t' r hr => ?_) fun t' e he => ?_)
  · rintro t' q ⟨⟨_, hq | ⟨given, rfl⟩⟩, _⟩
    · exact AdmitsDeedFree.of_deedFree t' q hq
    · exact hwrite t' given
  · obtain ⟨⟨⟨hcopy', _⟩, hsaid⟩, hboot⟩ := hr
    exact hon t' r.1 r.2 (hstart.trans hsaid) hcopy' hboot
  · have hsaid : t.Extends Turn.Elects t' := hstart.trans he.1.2
    split
    next h => cases h
    next => exact hends t' .wait hsaid rfl
    next =>
      rw [keepsOr_ite]
      refine ⟨fun _ => hends t' _ hsaid trivial, fun _ => ?_⟩
      rw [keepsOr_log_bind]
      exact hends _ .wait (hlog _ _ hsaid) rfl
    next => exact hends t' _ hsaid trivial

end Pass

/-! ### The first steps over an object that belongs to a cluster -/

namespace MemberPass

variable {k : Kind} [CustomResource k.Object] {key : ObjectKey} {phase : CustomResource.Phase k.Object}
  {rest : List (Step (MemberPass k.Object))}
  {fits : Talk Surroundings → String × Outcome × MemberPass k.Object → Prop}

/-- The object and its cluster are loaded, unless the object is gone, cannot be read or has to wait. -/
theorem walk_keeps_of_opening (hk : k.isCustom = true) (hne : k ≠ .cluster)
    (hfetch : ∀ ns name, CustomResource.fetch ns name = Attempt.get k ns name)
    (hrule : ∀ t k ns name, rule t (.store (.get k ns name)))
    (hgone : ∀ t last, t.Fetches k key (.ok none) → fits t (last, .complete, start key))
    (hunread : ∀ t last e, t.Fetches k key (.error e) → fits t (last, .fail e, start key))
    (hagain : ∀ t last o outcome, t.Knows k key o → outcome.Retries → fits t (last, outcome,
      ⟨key, some (CustomResource.setPhase phase (CustomResource.resetStatus o)), none, none⟩))
    (hrest : ∀ t last o cluster, t.Knows k key o → t.copy = some cluster →
      Program.Keeps rule (Pass.walk rest last
        ⟨key, some (CustomResource.setPhase phase (CustomResource.resetStatus o)), some cluster, none⟩)
        fits t) :
    Program.Keeps rule
      (Pass.walk (Pass.info :: Pass.getRequestedObject :: Pass.resetStatus :: Pass.setPhase phase ::
        Pass.getClusterByLabels :: rest) "" (start key)) fits [] := by
  refine Pass.keeps_walk_of_step (Pass.info_keeps fun t hnil => ?_)
  refine Pass.keeps_walk_of_step (Pass.getRequestedObject_keeps hfetch (fun t => hrule t k) (fun t ht => ?_)
    (fun t e ht => ?_) fun t o ht => ?_)
  · exact hgone _ _ (Talk.Fetches.cons (Talk.fetches_of_extends_nil hk (hnil.trans ht).harmless) nofun)
  · exact hunread _ _ e (Talk.fetches_of_extends_nil hk (hnil.trans ht).harmless)
  have h : Talk.Knows k _ key o := Talk.knows_of_found hk (hnil.trans ht).harmless
  refine Pass.keeps_walk_of_step (Pass.resetStatus_keeps (α := k.Object) rfl fun t ht => ?_)
  replace h := h.extends (Talk.lookupBlameFree_of_extends hk ht.harmless)
  refine Pass.keeps_walk_of_step (Pass.setPhase_keeps (α := k.Object) _ rfl fun t ht => ?_)
  replace h := h.extends (Talk.lookupBlameFree_of_extends hk ht.harmless)
  refine Pass.keeps_walk_of_step (Pass.getClusterByLabels_keeps hk hne (fun t => hrule t .cluster) rfl rfl
    (fun t' outcome ht => ?_) fun t cluster ht hcopy => ?_)
  · exact hagain _ _ o outcome (h.extends ht)
  · exact hrest _ _ o cluster (h.extends ht) hcopy

end MemberPass

end ClusterKeeper
