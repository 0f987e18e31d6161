import ClusterKeeper.Proofs.Pass.ClusterSteps

/-!
The walk over a cluster, whatever it is answered. A cluster that is being deleted is left alone. The pass
over any other ends in line, or waits for roles, or cannot bootstrap the storages, or is made again. The
roles that are listed first are those that the bootstrap waits for, and nothing up to the bootstrap tries
it (`ClusterPass.Gathered`); after it the storages are bootstrapped, by the copy or by the pass itself
(`ClusterPass.Settles`).

Main statement: `ClusterPass.walk_keeps`.
-/

namespace ClusterKeeper

open Program

/-- The request reads the cluster of a pass, or is a line of the log. -/
def Request.Looks (q : Request) : Prop :=
  (∃ level message, q = .log level message) ∨ ∃ ns name, q = .store (.get .cluster ns name)

theorem Request.Looks.not_lists_or_bootstraps {q : Request} (h : q.Looks) : ¬q.ListsRoles ∧ ¬q.Bootstraps := by
  rcases h with ⟨level, message, rfl⟩ | ⟨ns, name, rfl⟩
  · exact ⟨fun ⟨_, _, h⟩ => Request.noConfusion h, fun ⟨_, h⟩ => Request.noConfusion h⟩
  · exact ⟨fun ⟨_, _, h⟩ => StoreRequest.noConfusion (Request.store.inj h), fun ⟨_, h⟩ => Request.noConfusion h⟩

namespace ClusterPass

variable {t t' : Talk Surroundings} {key : ObjectKey} {cluster : Cluster} {leader : Pod}

/-- The cluster was found, and is not being deleted. -/
def Stays (t : Talk Surroundings) (key : ObjectKey) : Prop :=
  ∃ k : Cluster, t.Loads .cluster key k ∧ k.metadata.isDeleting = false

/-- How the steps of a pass over a cluster end: the cluster is gone or cannot be read; it is being deleted
and left alone; the pass is made again; it waits for roles or cannot bootstrap the storages; or all of it is
brought in line. -/
inductive Ends (key : ObjectKey) : Talk Surroundings → Outcome → ClusterPass → Prop
  | gone {t : Talk Surroundings} : t.Fetches .cluster key (.ok none) → Ends key t .complete (start key)
  | unread {t : Talk Surroundings} {e : OperatorError} : t.Fetches .cluster key (.error e) →
      Ends key t (.fail e) (start key)
  | deleting {t : Talk Surroundings} {k : Cluster} : t.Loads .cluster key k →
      k.metadata.isDeleting = true → (∀ e ∈ t, e.ask.Looks) →
      Ends key t .complete ⟨key, some (k.setPhase .pending), none⟩
  | again {t : Talk Surroundings} {cluster : Cluster} {leader : Option Pod} {outcome : Outcome} :
      Stays t key → outcome.Retries → Ends key t outcome ⟨key, some cluster, leader⟩
  | rests {t : Talk Surroundings} {cluster : Cluster} {leader : Option Pod} {phase : ClusterPhase} :
      Stays t key → phase = .waitingForRoles ∨ phase = .unableToBootstrap →
      Ends key t .complete ⟨key, some (cluster.setPhase phase), leader⟩
  | ready {t : Talk Surroundings} {cluster : Cluster} {leader : Pod} : Stays t key →
      Ends key t .next ⟨key, some (cluster.setPhase .ready), some leader⟩

/-- The cluster is the copy but for its phase, and neither were roles listed nor the storages bootstrapped. -/
structure Opened (t : Talk Surroundings) (key : ObjectKey) (cluster : Cluster) : Prop where
  stays : Stays t key
  copy : ∃ base, t.copy = some base ∧ base.Alike cluster
  before : ∀ e ∈ t, ¬e.ask.ListsRoles ∧ ¬e.ask.Bootstraps

/-- The cluster is the copy but for its phase, its roles were settled, and the storages were not bootstrapped. -/
structure Gathered (t : Talk Surroundings) (key : ObjectKey) (cluster : Cluster) : Prop where
  stays : Stays t key
  copy : ∃ base, t.copy = some base ∧ base.Alike cluster
  gathers : t.Gathers key
  before : ¬t.Bootstraps

/-- The storages are bootstrapped. -/
structure Settles (t : Talk Surroundings) (key : ObjectKey) : Prop where
  stays : Stays t key
  booted : t.Bootstrapped ∨ t.HasBootstrapped

section

variable {base cluster' : Cluster}

theorem Stays.extends (h : Stays t key) (ht : t.Extends (Turn.Skips .cluster) t') : Stays t' key := by
  obtain ⟨k, hloads, hstays⟩ := h
  exact ⟨k, Talk.Fetches.extends hloads ht, hstays⟩

theorem Stays.logs (h : Stays t key) (ht : t.Extends Turn.Logs t') : Stays t' key :=
  h.extends (ht.imp fun _ he => he.skips rfl)

/-- A cluster that is not being deleted was read, and nothing else happened. -/
theorem opened_of_looks (hlooks : ∀ e ∈ t, e.ask.Looks) (hloads : t.Loads .cluster key base)
    (hcopy : t.copy = some base) (hstays : base.metadata.isDeleting = false) : Opened t key base where
  stays := ⟨base, hloads, hstays⟩
  copy := ⟨base, hcopy, Cluster.Alike.refl base⟩
  before e he := (hlooks e he).not_lists_or_bootstraps

theorem Opened.extends (h : Opened t key cluster) (ht : t.Extends Serves t') : Opened t' key cluster where
  stays := h.stays.extends (ht.imp fun e he => Turn.skips_of_deedFree rfl he.deedFree e.answer)
  copy := by
    rw [Talk.copy_of_extends (ht.imp fun e he => Turn.harmless_of_deedFree he.deedFree e.answer)]
    exact h.copy
  before := ht.ind (fun t : Talk Surroundings => ∀ e ∈ t, ¬e.ask.ListsRoles ∧ ¬e.ask.Bootstraps) h.before
    fun _ _ he h => List.forall_mem_cons.2 ⟨⟨he.lists, he.deedFree.not_bootstraps⟩, h⟩

theorem Opened.logs (h : Opened t key cluster) (ht : t.Extends Turn.Logs t') : Opened t' key cluster :=
  h.extends (ht.imp fun _ => serves_of_logs)

theorem Opened.setPhase (h : Opened t key cluster) (phase : ClusterPhase) :
    Opened t key (cluster.setPhase phase) :=
  { h with copy := h.copy.imp fun _ hbase => hbase.imp_right fun halike => halike.setPhase phase }

theorem Opened.resetStatus (h : Opened t key cluster) : Opened t key cluster.resetStatus :=
  { h with copy := h.copy.imp fun _ hbase => hbase.imp_right fun halike => halike.resetStatus }

/-- The roles that are listed first are settled. -/
theorem Opened.gathered (h : Opened t key cluster) {roles : List Role} (hsome : roles ≠ [])
    (hsettled : ∀ role ∈ roles, role.phase ∈ [RolePhase.waitingForBootstrap, .ready]) :
    Gathered (⟨Request.store (.list .role key.ns (Labels.clusterSelector key.name)), Except.ok roles⟩ :: t)
      key cluster where
  stays := h.stays.extends (Talk.extends_refl.cons fun _ _ hget => nomatch Request.store.inj hget)
  copy := by
    rw [Talk.copy_cons (q := .store (.list .role _ _)) nofun]
    exact h.copy
  gathers := ⟨[], t, roles, rfl, fun e he => (h.before e he).1, hsome, fun role hrole => by
    simpa using hsettled role hrole⟩
  before := by
    rintro ⟨e, he, hboots⟩
    rcases List.mem_cons.1 he with rfl | he
    · obtain ⟨leader, hask⟩ := hboots
      exact Request.noConfusion hask
    · exact (h.before e he).2 hboots

/-- DeedFree turns and those of elections do not bootstrap the storages. -/
theorem not_bootstraps_of_elects (h : ¬t.Bootstraps) (ht : t.Extends Turn.Elects t') : ¬t'.Bootstraps := by
  refine ht.ind (fun t => ¬Talk.Bootstraps t) h fun t e he h => ?_
  rintro ⟨e', he', hboots⟩
  rcases List.mem_cons.1 he' with rfl | he'
  · rcases he with hdeedFree | ⟨given, hwrites⟩
    · exact hdeedFree.not_bootstraps hboots
    · obtain ⟨leader, hask⟩ := hboots
      exact Request.noConfusion (hwrites.symm.trans hask)
  · exact h ⟨e', he', hboots⟩

theorem Gathered.elects (h : Gathered t key cluster) (ht : t.Extends Turn.Elects t')
    (hcopy : ∃ base, t'.copy = some base ∧ base.Alike cluster') : Gathered t' key cluster' where
  stays := h.stays.extends (ht.imp fun _ he => (he.lookupBlameFree rfl).skips)
  copy := hcopy
  gathers := h.gathers.mono ht.suffix
  before := not_bootstraps_of_elects h.before ht

theorem Gathered.logs (h : Gathered t key cluster) (ht : t.Extends Turn.Logs t') : Gathered t' key cluster :=
  h.elects (ht.imp fun _ he => Or.inl he.deedFree) (by rw [Talk.copy_of_extends ht.harmless]; exact h.copy)

theorem Gathered.setPhase (h : Gathered t key cluster) (phase : ClusterPhase) :
    Gathered t key (cluster.setPhase phase) :=
  { h with copy := h.copy.imp fun _ hbase => hbase.imp_right fun halike => halike.setPhase phase }

theorem Settles.extends (h : Settles t key) (ht : t.Extends Turn.Harmless t') : Settles t' key where
  stays := h.stays.extends (ht.imp fun _ he => (he.lookupBlameFree .cluster rfl).skips)
  booted := by
    refine h.booted.imp (fun hboot => ?_) fun hdone => hdone.mono ht.suffix
    obtain ⟨k, hcopy, hk⟩ := hboot
    exact ⟨k, (Talk.copy_of_extends ht).trans hcopy, hk⟩

end

/-- The steps behind the bootstrap. -/
theorem walk_keeps_of_settled (last : String) (h : Settles t key) :
    Keeps (Gated key) (Pass.walk (steps.drop 12) last ⟨key, some cluster, some leader⟩)
      (fun t r => Ends key t r.2.1 r.2.2) t := by
  simp only [steps, List.drop_succ_cons, List.drop_zero]
  refine Pass.keeps_walk_of_step (setPhase_keeps .failoverConfiguring fun t ht => ?_)
  replace h := h.extends ht.harmless
  refine Pass.keeps_walk_of_step (configureFailover_keeps (fun t' wanted ht => (h.extends ht).booted)
    (fun t' outcome ht => .again (h.extends ht).stays) fun t ht => ?_)
  replace h := h.extends ht
  refine Pass.keeps_walk_of_step (setPhase_keeps .ready fun t ht => ?_)
  exact .ready (h.extends ht.harmless).stays

/-- The steps behind the wait for the roles. -/
theorem walk_keeps_of_gathered (last : String) (h : Gathered t key cluster) :
    Keeps (Gated key) (Pass.walk (steps.drop 9) last ⟨key, some cluster, none⟩)
      (fun t r => Ends key t r.2.1 r.2.2) t := by
  simp only [steps, List.drop_succ_cons, List.drop_zero]
  refine Pass.keeps_walk_of_step (setPhase_keeps .waitingForLeader fun t ht => ?_)
  replace h := (h.logs ht).setPhase .waitingForLeader
  obtain ⟨base, hcopy, halike⟩ := h.copy
  refine Pass.keeps_walk_of_step (Pass.getLeader_keeps (fun _ _ => trivial) rfl hcopy halike
    (fun t' outcome ht => ?_) fun t leader found ht hfound _ => ?_)
  · exact .again (h.stays.extends (ht.imp fun _ he => (he.lookupBlameFree rfl).skips))
  replace h : Gathered t key found := h.elects ht (by
    rcases hfound with ⟨rfl, hcopy⟩ | hcopy
    · exact ⟨base, hcopy, halike⟩
    · exact ⟨found, hcopy, Cluster.Alike.refl found⟩)
  refine Pass.keeps_walk_of_step (bootstrap_keeps_once (fun _ _ _ => trivial) (fun t' ht hnot => ?_)
    (fun t' e ht => .again (h.stays.extends ht) trivial) (fun t' ht => ?_) (fun hdone t ht => ?_)
    fun t ht hdone => ?_)
  · obtain ⟨base, hcopy, halike⟩ := (h.logs ht).copy
    exact ⟨(h.logs ht).before, ⟨base, hcopy, halike.bootstrapped.symm.trans hnot⟩, (h.logs ht).gathers⟩
  · exact .rests (h.stays.extends ht) (Or.inr rfl)
  · obtain ⟨base, hcopy, halike⟩ := (h.logs ht).copy
    exact walk_keeps_of_settled _
      ⟨h.stays.logs ht, Or.inl ⟨base, hcopy, halike.bootstrapped.symm.trans hdone⟩⟩
  · exact walk_keeps_of_settled _ ⟨h.stays.extends ht, Or.inr hdone⟩

/-- Lines of the log are added to what was looked at. -/
theorem looks_of_extends (h : ∀ e ∈ t, e.ask.Looks) (ht : t.Extends Turn.Logs t') : ∀ e ∈ t', e.ask.Looks :=
  ht.ind (fun t : Talk Surroundings => ∀ e ∈ t, e.ask.Looks) h
    fun _ _ he h => List.forall_mem_cons.2 ⟨Or.inl he, h⟩

theorem looks_of_extends_nil (ht : Talk.Extends Turn.Logs [] t) (ns name : String)
    (a : Except OperatorError (Option Cluster)) :
    ∀ e ∈ (⟨Request.store (.get .cluster ns name), a⟩ : Turn Surroundings) :: t, e.ask.Looks :=
  List.forall_mem_cons.2 ⟨Or.inr ⟨ns, name, rfl⟩, looks_of_extends (List.forall_mem_nil _) ht⟩

/-- However a pass over a cluster is answered, its requests pass their gates, and its steps end in one of
the ways that there are. -/
theorem walk_keeps (key : ObjectKey) :
    Keeps (Gated key) (Pass.walk steps "" (start key)) (fun t r => Ends key t r.2.1 r.2.2) [] := by
  refine Pass.keeps_walk_of_step (Pass.info_keeps fun t hnil => ?_)
  refine Pass.keeps_walk_of_step (Pass.getRequestedObject_keeps (k := .cluster) (fun _ _ => rfl)
    (fun _ _ _ => trivial) (fun t ht => ?_) (fun t e ht => ?_) fun t₀ k ht => ?_)
  · exact .gone (Talk.Fetches.cons (Talk.fetches_of_extends_nil rfl (hnil.trans ht).harmless) nofun)
  · exact .unread (Talk.fetches_of_extends_nil rfl (hnil.trans ht).harmless)
  have hread : Talk.Loads .cluster _ key k := Talk.fetches_of_extends_nil rfl (hnil.trans ht).harmless
  have hcopy := Talk.copy_cons_of_some (t := t₀) (e := ⟨Request.store (.get .cluster key.ns key.name),
    Except.ok (some k)⟩) rfl
  have hlooks := looks_of_extends_nil (hnil.trans ht) key.ns key.name (.ok (some k))
  refine Pass.keeps_walk_of_step (setPhase_keeps .pending fun t ht => ?_)
  refine Pass.keeps_walk_of_step (checkDeletion_keeps (fun hdeleting t' ht' => ?_) fun hstays t' ht' => ?_)
  · exact .deleting (hread.extends ((ht.trans ht').imp fun _ he => he.skips rfl)) hdeleting
      (looks_of_extends hlooks (ht.trans ht'))
  have h := ((opened_of_looks hlooks hread hcopy hstays).logs (ht.trans ht')).setPhase .pending
  refine Pass.keeps_walk_of_step (Pass.resetStatus_keeps (α := Cluster) rfl fun t ht => ?_)
  replace h := (h.logs ht).resetStatus
  refine Pass.keeps_walk_of_step (setPhase_keeps .syncingService fun t ht => ?_)
  replace h := (h.logs ht).setPhase .syncingService
  refine Pass.keeps_walk_of_step (syncClusterWideService_keeps (fun t' outcome ht => ?_) fun t ht => ?_)
  · exact .again (h.extends ht).stays
  replace h := h.extends ht
  refine Pass.keeps_walk_of_step (setPhase_keeps .waitingForRoles fun t ht => ?_)
  replace h := h.logs ht
  refine Pass.keeps_walk_of_step (waitForRolesPhases_keeps (fun t' e ht => ?_) (fun t' ht => ?_)
    fun roles t ht hsome hsettled => ?_)
  · exact .again (h.stays.extends (ht.imp fun _ he => (he.lookupBlameFree rfl).skips)) trivial
  · exact .rests (h.stays.extends (ht.imp fun _ he => (he.lookupBlameFree rfl).skips)) (Or.inl rfl)
  · exact walk_keeps_of_gathered _ (((h.logs ht).gathered hsome hsettled).setPhase .waitingForRoles)

end ClusterPass

end ClusterKeeper
