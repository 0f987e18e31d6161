import ClusterKeeper.Proofs.Pass.RoleSteps

/-!
The walk over a role, whatever it is answered. Along the walk every request passes its gate, by what is told
before it: the role and its cluster (`RolePass.Housed`), enough pods (`RolePass.Manned`) and the joins of all
replicasets (`RolePass.Assembled`).

Main statement: `RolePass.walk_keeps`.
-/

namespace ClusterKeeper

open Program

namespace RolePass

variable {rule : Talk Surroundings → Request → Prop} [AdmitsDeedFree rule] {t : Talk Surroundings}
  {key : ObjectKey} {role : Role} {cluster : Cluster} {leader : Pod}
  {on : Talk Surroundings → RolePass → Prop} {ends : Talk Surroundings → Outcome → RolePass → Prop}

/-- A pass over a role is not made again from a phase. -/
def Rests (phase : RolePhase) : Prop := phase = .ready ∨ phase = .configError

instance (phase : RolePhase) : Decidable (Rests phase) := inferInstanceAs (Decidable (_ ∨ _))

/-- How the steps of a pass over a role end: the role is gone or cannot be read; the pass is made again;
the role is parked; or all of it is brought in line, each replicaset having been joined to the end. -/
inductive Ends (key : ObjectKey) : Talk Surroundings → Outcome → RolePass → Prop
  | gone {t : Talk Surroundings} : t.Fetches .role key (.ok none) → Ends key t .complete (MemberPass.start key)
  | unread {t : Talk Surroundings} {e : OperatorError} : t.Fetches .role key (.error e) →
      Ends key t (.fail e) (MemberPass.start key)
  | again {t : Talk Surroundings} (role : Role) (phase : RolePhase) {cluster : Option Cluster}
      {leader : Option Pod} {outcome : Outcome} : t.Knows .role key role → ¬Rests phase → outcome.Retries →
      Ends key t outcome ⟨key, some (role.setPhase phase), cluster, leader⟩
  | parked {t₀ t : Talk Surroundings} {role : Role} {cluster : Cluster} {leader : Pod} :
      t₀.Knows .role key role → Parking t₀ role t →
      Ends key t .complete ⟨key, some (role.setPhase .configError), some cluster, some leader⟩
  | ready {t : Talk Surroundings} {role : Role} {cluster : Cluster} {leader : Pod} : t.Knows .role key role →
      (∀ ordinal < role.replicasets.toNat, t.Joins ⟨key.ns, role, cluster, leader⟩ ordinal) →
      Ends key t .next ⟨key, some (role.setPhase .ready), some cluster, some leader⟩

theorem setPhase_keeps {cluster? : Option Cluster} {leader? : Option Pod} (role : Role) (old phase : RolePhase)
    (hon : ∀ t', t.Extends Turn.Harmless t' →
      on t' ⟨key, some (role.setPhase phase), cluster?, leader?⟩) :
    (Pass.setPhase (C := RolePass) phase).Keeps rule on ends t
      ⟨key, some (role.setPhase old), cluster?, leader?⟩ :=
  Pass.setPhase_keeps (C := RolePass) (o := role.setPhase old) phase rfl fun t' ht' => hon t' ht'.harmless

/-- The role is known, and the cluster is the copy. -/
structure Housed (t : Talk Surroundings) (key : ObjectKey) (role : Role) (cluster : Cluster) : Prop where
  knows : t.Knows .role key role
  copy : t.copy = some cluster

/-- Enough pods were counted besides. -/
structure Manned (t : Talk Surroundings) (key : ObjectKey) (role : Role) (cluster : Cluster) : Prop
    extends Housed t key role cluster where
  counts : t.Counts key.ns cluster role

/-- Each replicaset was joined besides. -/
structure Assembled (t : Talk Surroundings) (key : ObjectKey) (role : Role) (cluster : Cluster)
    (leader : Pod) : Prop extends Manned t key role cluster where
  joins : ∀ ordinal < role.replicasets.toNat, t.Joins ⟨key.ns, role, cluster, leader⟩ ordinal

section

variable {t' : Talk Surroundings}

theorem Housed.extends (h : Housed t key role cluster) (ht : t.Extends Turn.Harmless t') :
    Housed t' key role cluster :=
  ⟨h.knows.extends (Talk.lookupBlameFree_of_extends rfl ht), (Talk.copy_of_extends ht).trans h.copy⟩

theorem Manned.extends (h : Manned t key role cluster) (ht : t.Extends Turn.Harmless t') :
    Manned t' key role cluster := ⟨h.toHoused.extends ht, h.counts.mono ht.suffix⟩

theorem Assembled.extends (h : Assembled t key role cluster leader) (ht : t.Extends Turn.Harmless t') :
    Assembled t' key role cluster leader :=
  ⟨h.toManned.extends ht, fun ordinal hlt => (h.joins ordinal hlt).mono ht.suffix⟩

/-- A step lets the pass be made again. -/
theorem Housed.again {phase : RolePhase} {outcome : Outcome} {leader? : Option Pod}
    (h : Housed t key role cluster) (hphase : ¬Rests phase) (ht : t.Extends Turn.Harmless t')
    (hretries : outcome.Retries) :
    Ends key t' outcome ⟨key, some (role.setPhase phase), some cluster, leader?⟩ :=
  .again role phase (h.extends ht).knows hphase hretries

/-- A step parks the role. -/
theorem Housed.parked {phase : RolePhase} (h : Housed t key role cluster)
    (hparking : Parking t (role.setPhase phase) t') :
    Ends key t' .complete ⟨key, some (role.setPhase .configError), some cluster, some leader⟩ := by
  obtain ⟨hparks, ht'⟩ := hparking
  exact .parked h.knows (.parked hparks ht')

end

/-- The steps behind the leader. -/
theorem walk_keeps_of_led (old : RolePhase) (last : String) (h : Housed t key role cluster) :
    Keeps (Gated key)
      (Pass.walk (steps.drop 10) last ⟨key, some (role.setPhase old), some cluster, some leader⟩)
      (fun t r => Ends key t r.2.1 r.2.2) t := by
  have huuid : AsksUuids (Gated key) := fun _ _ => trivial
  simp only [steps, List.drop_succ_cons, List.drop_zero]
  refine Pass.keeps_walk_of_step (setPhase_keeps role old .waitForCartridgeReady fun t ht => ?_)
  replace h := h.extends ht
  refine Pass.keeps_walk_of_step (ensureCartridgeReady_keeps (fun t' _ => h.again (by decide))
    fun t ht hcounts => ?_)
  replace h : Manned t key role cluster := ⟨h.extends ht, hcounts⟩
  refine Pass.keeps_walk_of_step (setPhase_keeps role .waitForCartridgeReady .joining fun t ht => ?_)
  replace h := h.extends ht
  refine Pass.keeps_walk_of_step (joinInstances_keeps huuid (fun _ _ => trivial) (fun t' request uris ht => ?_)
    (fun t' _ => h.toHoused.again (by decide)) (fun t' => h.toHoused.parked) fun t ht hjoins => ?_)
  · have h' := h.extends ht
    exact ⟨role, cluster, h'.knows.loads, h'.copy, h'.counts⟩
  replace h : Assembled t key role cluster leader := ⟨h.extends ht, hjoins⟩
  refine Pass.keeps_walk_of_step (setPhase_keeps role .joining .configuring fun t ht => ?_)
  replace h := h.extends ht
  refine Pass.keeps_walk_of_step (configureVShardRoles_keeps (fun t' uuid roles ht => ?_)
    (fun t' _ => h.toHoused.again (by decide)) fun t ht => ?_)
  · have h' := h.extends ht
    exact ⟨role, cluster, h'.knows.loads, h'.copy, h'.counts, h'.joins⟩
  replace h := h.extends ht
  refine Pass.keeps_walk_of_step (setPhase_keeps role .configuring .waitingForBootstrap fun t ht => ?_)
  replace h := h.extends ht
  refine Pass.keeps_walk_of_step (Pass.waitForClusterBootstrapped_keeps rfl
    (fun t' ht => h.toHoused.again (by decide) ht rfl) fun hboot t ht => ?_)
  replace h := h.extends ht
  refine Pass.keeps_walk_of_step (setPhase_keeps role .waitingForBootstrap .configuringWeights fun t ht => ?_)
  replace h := h.extends ht
  refine Pass.keeps_walk_of_step (setVShardWeights_keeps (fun _ _ => trivial) (fun t' uuid weight ht => ?_)
    (fun t' _ => h.toHoused.again (by decide)) (fun t' => h.toHoused.parked) fun t ht => ?_)
  · exact ⟨cluster, (h.extends ht).copy, hboot⟩
  replace h := h.extends ht
  refine Pass.keeps_walk_of_step (setPhase_keeps role .configuringWeights .ready fun t ht => ?_)
  replace h := h.extends ht
  exact .ready h.knows h.joins

/-- However a pass over a role is answered, its requests pass their gates, and its steps end in one of the
ways that there are. -/
theorem walk_keeps (key : ObjectKey) :
    Keeps (Gated key) (Pass.walk steps "" (MemberPass.start key)) (fun t r => Ends key t r.2.1 r.2.2) [] := by
  refine MemberPass.walk_keeps_of_opening (k := .role) rfl (by decide) (fun _ _ => rfl) (fun _ _ _ _ => trivial)
    (fun _ _ => .gone) (fun _ _ _ => .unread) (fun t last role outcome h => ?_)
    fun t last role cluster h hcopy => ?_
  · exact .again role .waitingForCluster h (by decide)
  replace h : Housed t key role cluster := ⟨h, hcopy⟩
  refine Pass.keeps_walk_of_step (setPhase_keeps role .waitingForCluster .pending fun t ht => ?_)
  replace h := h.extends ht
  refine Pass.keeps_walk_of_step (createStatefulSets_keeps (fun hstays t' s ht => ?_)
    (fun t' _ => h.again (by decide)) fun t ht => ?_)
  · exact ⟨role, (h.extends ht).knows.loads, hstays⟩
  replace h := h.extends ht
  refine Pass.keeps_walk_of_step (updateStatefulSets_keeps (fun t' _ => h.again (by decide)) fun t ht => ?_)
  replace h := h.extends ht
  refine Pass.keeps_walk_of_step (setPhase_keeps role .pending .waitingForLeader fun t ht => ?_)
  replace h := h.extends ht
  refine Pass.keeps_walk_of_step (Pass.getLeader_keeps (fun _ _ => trivial) rfl h.copy (Cluster.Alike.refl _)
    (fun t' outcome ht => ?_) fun t leader found ht hcopy _ => ?_)
  · exact .again role .waitingForLeader (h.knows.extends (ht.imp fun _ he => he.lookupBlameFree rfl)) (by decide)
  refine walk_keeps_of_led .waitingForLeader _ ⟨h.knows.extends (ht.imp fun _ he => he.lookupBlameFree rfl), ?_⟩
  rcases hcopy with ⟨rfl, hcopy⟩ | hcopy <;> exact hcopy

end RolePass

end ClusterKeeper
