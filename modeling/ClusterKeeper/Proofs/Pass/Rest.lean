import ClusterKeeper.Proofs.Pass.ClusterWalk
import ClusterKeeper.Proofs.Pass.Conclusion
import ClusterKeeper.Proofs.Pass.ConfigWalk
import ClusterKeeper.Proofs.Pass.RoleWalk

/-!
Which passes rest. A pass that ends as done and without an error is made again only when something changes;
every other pass over an object that was found, or could not be read, is made again after ten seconds. A
pass over a role rests when the role is ready or parked, and it is parked exactly if an instance or the
topology gave an answer for it; a pass over a config rests when the config is applied; and a pass over a
cluster rests when the cluster is ready, has to wait for roles, cannot bootstrap its storages or is being
deleted.

Main statement: `Pass.no_stall`.
-/

namespace ClusterKeeper

open Program

/-- The pass is done, without an error. -/
def PassResult.Rests (r : PassResult) : Prop := r.action = .done ∧ r.error = none

/-- The pass is made again after ten seconds. -/
def PassResult.Returns (r : PassResult) : Prop := r.action = .requeue (.seconds 10)

/-- One warning is recorded, about a role, after an answer that parks it, and instances are asked for nothing
after that answer. -/
def Talk.Parked (t : Talk Surroundings) (role : Role) : Prop :=
  ∃ (after between before : Talk Surroundings) (blame : Turn Surroundings) (event : Event),
    t = after ++ ⟨Request.record (KubeObject.reference role) event, ()⟩ :: (between ++ blame :: before) ∧
    blame.Blames ∧ event.severity = .warning ∧
    (∀ e ∈ after ++ between ++ before, ¬e.ask.Warns) ∧ ∀ e ∈ after ++ between, ∀ q, e.ask ≠ .admin q

/-- A pass over an object that was found or could not be read is made again, unless it rests over an object
that was found. -/
structure Attended (k : Kind) (key : ObjectKey) (t : Talk Surroundings) (found : Option k.Object)
    (r : PassResult) : Prop where
  unread : ∀ e, (⟨Request.store (.get k key.ns key.name), Except.error e⟩ : Turn Surroundings) ∈ t → r.Returns
  found : found.isSome → ¬r.Rests → r.Returns

variable {t t₁ : Talk Surroundings} {key : ObjectKey} {r : PassResult} {outcome : Outcome}

/-! ### Results -/

theorem returns_of_retries (hends : (r.action, r.error) = Pass.verdict outcome) (h : outcome.Retries) :
    r.Returns ∧ ¬r.Rests := by
  obtain ⟨haction, herror⟩ := Prod.mk.inj hends
  cases outcome with
  | next => exact h.elim
  | complete => exact h.elim
  | requeue after =>
    obtain rfl : after = retryDelay := h
    exact ⟨haction, fun hrests => Action.noConfusion (haction.symm.trans hrests.1)⟩
  | fail e => exact ⟨haction, fun hrests => Action.noConfusion (haction.symm.trans hrests.1)⟩

theorem rests_of_ends (hends : (r.action, r.error) = (.done, none)) : r.Rests := Prod.mk.inj hends

section

variable {k : Kind} {found : Option k.Object}

theorem attended_of_returns (h : r.Returns) : Attended k key t found r := ⟨fun _ _ => h, fun _ _ => h⟩

theorem attended_of_rests {o? : Option k.Object} (hread : t.Fetches k key (.ok o?)) (h : r.Rests) :
    Attended k key t found r where
  unread _ he := nomatch (hread _).1 he
  found _ hnot := absurd h hnot

end

/-! ### After the steps -/

theorem Turn.Closes.lookupBlameFree {k : Kind} {e : Turn Surroundings} (h : e.Closes k) (k' : Kind) :
    e.LookupBlameFree k' where
  skips := h.skips
  blames := by
    rintro ⟨_⟩
    rcases h with ⟨level, message, hask⟩ | ⟨o, hask⟩ <;> exact Request.noConfusion hask
  warns := by
    rcases h with ⟨level, message, hask⟩ | ⟨o, hask⟩ <;> rw [hask] <;> exact id

theorem Turn.Closes.not_admin {k : Kind} {e : Turn Surroundings} (h : e.Closes k) (q : AdminRequest) :
    e.ask ≠ .admin q := by
  rcases h with ⟨level, message, hask⟩ | ⟨o, hask⟩ <;> rw [hask] <;> exact nofun

theorem Talk.BlameFree.closes {k : Kind} (h : t₁.BlameFree) (ht : t₁.Extends (Turn.Closes k) t) : t.BlameFree :=
  h.extends (k := k) (ht.imp fun _ he => he.lookupBlameFree k)

theorem Talk.Fetches.closes {k k' : Kind} {a : Except OperatorError (Option k.Object)}
    (h : t₁.Fetches k key a) (ht : t₁.Extends (Turn.Closes k') t) : t.Fetches k key a :=
  h.extends (ht.imp fun _ he => he.skips)

/-! ### Roles -/

namespace RolePass

/-- A role that was parked by the steps is parked. -/
theorem parked_of_parking {t₀ : Talk Surroundings} {role : Role} (h : t₀.BlameFree) (hparking : Parking t₀ role t₁)
    (ht : t₁.Extends (Turn.Closes .role) t) : t.Parked role := by
  obtain ⟨closing, rfl, hclosing⟩ := ht
  cases hparking with
  | @parked t' q e message reason hparks hsaid =>
    have hblameFree : t'.BlameFree := h.extends (Talk.lookupBlameFree_of_extends (k := .role) rfl hsaid)
    refine ⟨closing, [⟨Request.log .warn message, ()⟩], t', ⟨Request.admin q, Except.error e⟩,
      ⟨.warning, reason, e.message⟩, rfl, .parked hparks, rfl, ?_, ?_⟩
    · simp only [List.forall_mem_append, List.forall_mem_singleton]
      exact ⟨⟨fun e he => ((hclosing e he).lookupBlameFree .role).warns, id⟩, fun e he => (hblameFree e he).2⟩
    · simp only [List.forall_mem_append, List.forall_mem_singleton]
      exact ⟨fun e he => (hclosing e he).not_admin, fun _ hask => Request.noConfusion hask⟩

theorem fetches_of_parking {t₀ : Talk Surroundings} {role : Role} {a : Except OperatorError (Option Role)}
    (h : t₀.Fetches .role key a) (hparking : Parking t₀ role t₁) : t₁.Fetches .role key a := by
  obtain ⟨_, hsaid⟩ := hparking
  have hasked := h.extends (hsaid.imp fun _ he => (he.lookupBlameFree .role rfl).skips)
  refine ((hasked.cons ?_).cons ?_).cons ?_ <;> exact fun _ _ hask => Request.noConfusion hask

theorem blames_of_parked {role : Role} (h : t.Parked role) : ∃ e ∈ t, e.Blames := by
  obtain ⟨after, between, before, blame, event, rfl, hblames, _⟩ := h
  exact ⟨blame, List.mem_append_right _ (List.mem_cons_of_mem _ (List.mem_append_right _ List.mem_cons_self)), hblames⟩

theorem rest_spec {c : RolePass} (h : Pass.Concludes steps (MemberPass.start key) t₁ c t r) :
    Attended .role key t c.object r ∧ ∀ role, c.object = some role →
      (r.Rests ↔ role.phase = .ready ∨ role.phase = .configError) ∧
      (role.phase = .configError ↔ ∃ e ∈ t, e.Blames) ∧ (role.phase = .configError → t.Parked role) := by
  obtain ⟨last, outcome, hwalk, hends, ht⟩ := h.verdict (k := .role) fun _ => rfl
  have hwalked : Ends key t₁ outcome c := ((walk_keeps key).of_goes hwalk).1
  have hnone : ∀ role, (MemberPass.start key : RolePass).object ≠ some role :=
    fun role => (Option.some_ne_none role).symm
  cases hwalked with
  | gone hgone =>
    exact ⟨attended_of_rests (hgone.closes ht) (rests_of_ends hends), fun role hrole => absurd hrole (hnone role)⟩
  | unread _ =>
    exact ⟨attended_of_returns (returns_of_retries hends trivial).1, fun role hrole => absurd hrole (hnone role)⟩
  | @again _ loaded phase _ _ _ hknows hphase hretries =>
    obtain ⟨hreturns, hrests⟩ := returns_of_retries hends hretries
    have hblameFree := hknows.blameFree.closes ht
    refine ⟨attended_of_returns hreturns, fun role hrole => ?_⟩
    obtain rfl := Option.some.inj hrole
    have hconfig : (loaded.setPhase phase).phase ≠ .configError := fun hp => hphase (Or.inr hp)
    refine ⟨iff_of_false hrests hphase, iff_of_false hconfig ?_, fun hp => absurd hp hconfig⟩
    rintro ⟨e, he, hblames⟩
    exact (hblameFree e he).1 hblames
  | @parked t₀ _ loaded _ _ hknows hparking =>
    have hrests := rests_of_ends hends
    have hparked : t.Parked loaded := parked_of_parking hknows.blameFree hparking ht
    refine ⟨attended_of_rests ((fetches_of_parking hknows.loads hparking).closes ht) hrests, fun role hrole => ?_⟩
    obtain rfl := Option.some.inj hrole
    exact ⟨iff_of_true hrests (Or.inr rfl), iff_of_true rfl (blames_of_parked hparked), fun _ => hparked⟩
  | @ready _ loaded _ _ hknows _ =>
    have hrests := rests_of_ends hends
    have hblameFree := hknows.blameFree.closes ht
    refine ⟨attended_of_rests (hknows.loads.closes ht) hrests, fun role hrole => ?_⟩
    obtain rfl := Option.some.inj hrole
    refine ⟨iff_of_true hrests (Or.inl rfl), iff_of_false nofun ?_, nofun⟩
    rintro ⟨e, he, hblames⟩
    exact (hblameFree e he).1 hblames

end RolePass

/-! ### Configs -/

namespace ConfigPass

theorem rest_spec {c : ConfigPass} (h : Pass.Concludes steps (MemberPass.start key) t₁ c t r) :
    Attended .cartridgeConfig key t c.object r ∧
      ∀ config, c.object = some config → (r.Rests ↔ config.phase = .ready) := by
  obtain ⟨last, outcome, hwalk, hends, ht⟩ := h.verdict (k := .cartridgeConfig) fun _ => rfl
  -- the phases are read off the state, whatever the store keeps
  have hwalked : Ends key t₁ outcome c := ((walk_keeps key).of_goes hwalk).1
  have hnone : ∀ config, (MemberPass.start key : ConfigPass).object ≠ some config :=
    fun config => (Option.some_ne_none config).symm
  cases hwalked with
  | gone hgone =>
    exact ⟨attended_of_rests (hgone.closes ht) (rests_of_ends hends), fun c hc => absurd hc (hnone c)⟩
  | unread _ =>
    exact ⟨attended_of_returns (returns_of_retries hends trivial).1, fun c hc => absurd hc (hnone c)⟩
  | again _ _ _ hphase hretries =>
    obtain ⟨hreturns, hrests⟩ := returns_of_retries hends hretries
    refine ⟨attended_of_returns hreturns, fun config hconfig => ?_⟩
    obtain rfl := Option.some.inj hconfig
    exact iff_of_false hrests hphase
  | ready hknows =>
    have hrests := rests_of_ends hends
    refine ⟨attended_of_rests (hknows.loads.closes ht) hrests, fun config hconfig => ?_⟩
    obtain rfl := Option.some.inj hconfig
    exact iff_of_true hrests rfl

end ConfigPass

/-! ### Clusters -/

namespace ClusterPass

theorem rest_spec {c : ClusterPass} (h : Pass.Concludes steps (start key) t₁ c t r) :
    Attended .cluster key t c.cluster r ∧ ∀ cluster, c.cluster = some cluster → r.Rests →
      cluster.phase = .ready ∨ cluster.phase = .unableToBootstrap ∨ cluster.phase = .waitingForRoles ∨
        cluster.metadata.isDeleting = true := by
  obtain ⟨last, outcome, hwalk, hends, ht⟩ := h.verdict (k := .cluster) fun _ => rfl
  have hwalked : Ends key t₁ outcome c := ((walk_keeps key).of_goes hwalk).1
  have hnone : ∀ cluster, (start key).cluster ≠ some cluster :=
    fun cluster => (Option.some_ne_none cluster).symm
  cases hwalked with
  | gone hgone =>
    exact ⟨attended_of_rests (hgone.closes ht) (rests_of_ends hends), fun k hk => absurd hk (hnone k)⟩
  | unread _ =>
    exact ⟨attended_of_returns (returns_of_retries hends trivial).1, fun k hk => absurd hk (hnone k)⟩
  | deleting hloads hdeleting _ =>
    have hrests := rests_of_ends hends
    refine ⟨attended_of_rests (hloads.closes ht) hrests, fun cluster hcluster _ => ?_⟩
    obtain rfl := Option.some.inj hcluster
    exact Or.inr (Or.inr (Or.inr hdeleting))
  | again _ hretries =>
    obtain ⟨hreturns, hnot⟩ := returns_of_retries hends hretries
    exact ⟨attended_of_returns hreturns, fun _ _ hrests => absurd hrests hnot⟩
  | rests hstays hphase =>
    obtain ⟨k, hloads, _⟩ := hstays
    have hrests := rests_of_ends hends
    refine ⟨attended_of_rests (hloads.closes ht) hrests, fun cluster hcluster _ => ?_⟩
    obtain rfl := Option.some.inj hcluster
    rcases hphase with rfl | rfl
    · exact Or.inr (Or.inr (Or.inl rfl))
    · exact Or.inr (Or.inl rfl)
  | ready hstays =>
    obtain ⟨k, hloads, _⟩ := hstays
    have hrests := rests_of_ends hends
    refine ⟨attended_of_rests (hloads.closes ht) hrests, fun cluster hcluster _ => ?_⟩
    obtain rfl := Option.some.inj hcluster
    exact Or.inl rfl

end ClusterPass

/-! ### All passes -/

namespace Pass

/-- However a pass is answered, if its status is written when it is due: a pass over a role that was found
rests exactly if the role is ready or parked, and the role is parked exactly if an answer parks it, with one
warning then and no request to an instance after it; a pass over a config that was found rests exactly if
the config is ready; and a pass over a cluster that was found rests only if the cluster is ready, cannot
bootstrap its storages, waits for roles or is being deleted. Every other pass over an object that was found
is made again after ten seconds, and so is every pass over one that cannot be read. -/
theorem no_stall (key : ObjectKey) (t₁ t : Talk Surroundings) (r : PassResult) :
    (∀ c, Concludes RolePass.steps (MemberPass.start key) t₁ c t r →
      Attended .role key t c.object r ∧ ∀ role, c.object = some role →
        (r.Rests ↔ role.phase = .ready ∨ role.phase = .configError) ∧
        (role.phase = .configError ↔ ∃ e ∈ t, e.Blames) ∧ (role.phase = .configError → t.Parked role)) ∧
    (∀ c, Concludes ConfigPass.steps (MemberPass.start key) t₁ c t r →
      Attended .cartridgeConfig key t c.object r ∧
        ∀ config, c.object = some config → (r.Rests ↔ config.phase = .ready)) ∧
    ∀ c, Concludes ClusterPass.steps (ClusterPass.start key) t₁ c t r →
      Attended .cluster key t c.cluster r ∧ ∀ cluster, c.cluster = some cluster → r.Rests →
        cluster.phase = .ready ∨ cluster.phase = .unableToBootstrap ∨ cluster.phase = .waitingForRoles ∨
          cluster.metadata.isDeleting = true :=
  ⟨fun _ => RolePass.rest_spec, fun _ => ConfigPass.rest_spec, fun _ => ClusterPass.rest_spec⟩

/-! ### An example: a role that is not known -/

/-- An error of an instance that does not know a role. -/
def unknownRole : AdminError := .unknownRole ⟨0, "EditTopologyError", "can not enable unknown role", "", ""⟩

/-- Answers to passes over the shop whose joins are refused. -/
def unjoinable (q : Request) : q.Answer := Shop.answer (Shop.stateful none) (.ok "") (.error unknownRole) q

/-- Answers to passes over the shop whose instances cannot tell their identifiers. -/
def untold (q : Request) : q.Answer := Shop.answer (Shop.stateful none) (.error unknownRole) (.ok .joined) q

/-- What a pass over a role of the shop leaves that is parked. -/
def parkedStorage : RolePass :=
  ⟨⟨"db", "storage"⟩, some (Shop.storage.setPhase .configError), some Shop.shop, some (Shop.podOf "router-0-0")⟩

/-- What a pass over the shop leaves that cannot read its service. -/
def unsynced : ClusterPass := ⟨⟨"db", "shop"⟩, some (Shop.shop.setPhase .syncingService), none⟩

/-- A pass over a role whose join is refused rests, and the role is parked; a pass over a config that cannot
be read is made again, and so is one over a cluster whose service cannot be read. -/
theorem storage_parked_at_join :
    (∃ t₁ t r, Concludes RolePass.steps (MemberPass.start ⟨"db", "storage"⟩) t₁ parkedStorage t r ∧
      r.Rests ∧ t.Parked (Shop.storage.setPhase .configError)) ∧
    (∃ t₁ t r, Concludes ConfigPass.steps (MemberPass.start ⟨"db", "shop"⟩) t₁
      (MemberPass.start ⟨"db", "shop"⟩) t r ∧ r.Returns) ∧
    ∃ t₁ t r, Concludes ClusterPass.steps (ClusterPass.start ⟨"db", "shop"⟩) t₁ unsynced t r ∧ r.Returns := by
  have hrole : Concludes RolePass.steps (MemberPass.start ⟨"db", "storage"⟩) _ parkedStorage _
      ⟨.done, none, "JoinInstances"⟩ := concludes_hear (k := .role) unjoinable rfl rfl rfl
  have hconfig : Concludes ConfigPass.steps (MemberPass.start ⟨"db", "shop"⟩) _
      (MemberPass.start ⟨"db", "shop"⟩) _ ⟨.requeue (.seconds 10), some .serialization, "GetRequestedObject"⟩ :=
    concludes_hear (k := .cartridgeConfig) unjoinable rfl rfl rfl
  have hcluster : Concludes ClusterPass.steps (ClusterPass.start ⟨"db", "shop"⟩) _ unsynced _
      ⟨.requeue (.seconds 10), some .serialization, "SyncClusterWideService"⟩ :=
    concludes_hear (k := .cluster) unjoinable rfl rfl rfl
  obtain ⟨hrests, _, hparked⟩ := ((no_stall _ _ _ _).1 _ hrole).2 _ rfl
  refine ⟨⟨_, _, _, hrole, hrests.2 (Or.inr rfl), hparked rfl⟩, ⟨_, _, _, hconfig, ?_⟩, _, _, _, hcluster, ?_⟩
  · exact ((no_stall _ _ _ _).2.1 _ hconfig).1.unread .serialization (List.mem_cons_of_mem _ List.mem_cons_self)
  · exact ((no_stall _ _ _ _).2.2 _ hcluster).1.found rfl fun hrests => Action.noConfusion hrests.1

/-- A role is parked when an instance cannot tell its identifier, although no join was refused for an unknown
role and no weight for the last storage. -/
theorem storage_parked_without_join :
    ∃ t₁ t r, Concludes RolePass.steps (MemberPass.start ⟨"db", "storage"⟩) t₁ parkedStorage t r ∧
      r.Rests ∧ (∃ role, parkedStorage.object = some role ∧ role.phase = .configError) ∧
      (∀ leader request uris fault, (⟨Request.admin (.join leader request uris),
        Except.error (.unknownRole fault)⟩ : Turn Surroundings) ∉ t) ∧
      ∀ leader uuid weight, (⟨Request.admin (.setWeight leader uuid weight),
        Except.error .lastStorageWeight⟩ : Turn Surroundings) ∉ t := by
  have hrole : Concludes RolePass.steps (MemberPass.start ⟨"db", "storage"⟩) _ parkedStorage _
      ⟨.done, none, "JoinInstances"⟩ := concludes_hear (k := .role) untold rfl rfl rfl
  refine ⟨_, _, _, hrole, ⟨rfl, rfl⟩, ⟨_, rfl, rfl⟩, ?_, ?_⟩
  · rintro leader request uris fault he
    cases answer_of_mem_hear (I := Surroundings) he
  · rintro leader uuid weight he
    cases answer_of_mem_hear (I := Surroundings) he

end Pass

end ClusterKeeper
