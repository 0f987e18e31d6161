import ClusterKeeper.Proofs.Cluster.History
import ClusterKeeper.Proofs.Election.Outcome
import ClusterKeeper.Proofs.Pass.ClusterConduct
import ClusterKeeper.Proofs.Pass.Conflicts
import ClusterKeeper.Proofs.Pass.Engine
import ClusterKeeper.Proofs.Quiescence.Convergence
import ClusterKeeper.Proofs.Simulation.Serving

/-!
A pass over a cluster that nobody else writes. The store takes a status in the present version only, and gives
the cluster as it is stored then, in a new version (`SoleWriter.Answers`). The pass writes twice when it elects a
leader; what the second write has to carry is what the first one was answered with.

The invariant: the copy that the store gave the pass last is what is stored (`SoleWriter.InStep`). A pass writes
over its copy, so every write is in the present version, is accepted, and is answered with the next copy
(`InStep.step`). With this no write is refused, a conflict over the cluster is never told, and none is made up.

Main statement: `SoleWriter.pass_never_conflicts`. A store in memory that only the pass writes is such a store
(`SoleWriter.serves_play`).
-/

namespace ClusterKeeper

open Program

theorem Kind.eq_cluster_of_name {k : Kind} (h : Kind.cluster.name = k.name) : k = .cluster := by
  cases k <;> first | rfl | exact absurd h (by decide)

namespace SoleWriter

variable {key : ObjectKey} {k₀ k k' : Option Cluster} {t : Talk Surroundings} {e : Turn Surroundings}

/-! ### The store -/

/-- A request that concerns clusters looks up the one of a key, or replaces its status. -/
def Within (key : ObjectKey) : Request → Prop
  | .store (.get .cluster ns name) => (⟨ns, name⟩ : ObjectKey) = key
  | .store (.replaceStatus .cluster given) => given.key = key
  | .store q => q.kind ≠ .cluster
  | _ => True

/-- A conflict that is told is about an object of the kind that was to be written. -/
def Fair (e : Turn Surroundings) : Prop :=
  ∀ (q : StoreRequest) kind name, e = ⟨Request.store q, Except.error (.conflict kind name)⟩ →
    kind = q.kind.name ∧ (Request.store q).isWrite = true

/-- How a request is answered while nobody else writes the cluster of a key, and what is stored of it then.
A status is accepted in the present version, or in none, and replaces the status and nothing else. Reads may
fail, and anything may be answered about objects of other kinds. -/
inductive Answers (key : ObjectKey) : Option Cluster → Turn Surroundings → Option Cluster → Prop
  | elsewhere {k : Option Cluster} {q : Request} {a : q.Answer} : q.Elsewhere → Fair ⟨q, a⟩ →
      Answers key k ⟨q, a⟩ k
  | read {k : Option Cluster} : Answers key k ⟨Request.store (.get .cluster key.ns key.name), Except.ok k⟩ k
  | unread {k : Option Cluster} {e : OperatorError} :
      Fair ⟨Request.store (.get .cluster key.ns key.name), Except.error e⟩ →
      Answers key k ⟨Request.store (.get .cluster key.ns key.name), Except.error e⟩ k
  | accepted {present given stored : Cluster} : given.key = key →
      given.version = none ∨ given.version = present.version → stored.status = given.status →
      Kind.core (k := .cluster) stored = Kind.core (k := .cluster) present →
      Answers key (some present) ⟨Request.store (.replaceStatus .cluster given), Except.ok stored⟩ (some stored)
  | stale {present given : Cluster} : given.key = key → given.version ≠ none →
      given.version ≠ present.version →
      Answers key (some present)
        ⟨Request.store (.replaceStatus .cluster given), Except.error (.conflict Kind.cluster.name key.name)⟩
        (some present)
  | missing {given : Cluster} : given.key = key →
      Answers key none
        ⟨Request.store (.replaceStatus .cluster given), Except.error (.notFound Kind.cluster.name key.ns key.name)⟩
        none
  /-- Whatever else is asked about clusters, anything may come of it. -/
  | beyond {k k' : Option Cluster} {q : Request} {a : q.Answer} : ¬Within key q → Answers key k ⟨q, a⟩ k'

/-- The questions of a talk were answered so, one after the other. -/
def Serves (key : ObjectKey) (k₀ : Option Cluster) : Talk Surroundings → Option Cluster → Prop
  | [], k => k = k₀
  | e :: t, k => ∃ k₁, Serves key k₀ t k₁ ∧ Answers key k₁ e k

/-! ### The pass keeps to its own cluster -/

/-- A request that looks up a cluster looks up the one of a key. -/
def LooksUp (key : ObjectKey) : Request → Prop
  | .store (.get .cluster ns name) => (⟨ns, name⟩ : ObjectKey) = key
  | _ => True

instance : AdmitsJoinFree fun _ => LooksUp key where
  of_joinFree t q h := by
    unfold LooksUp
    split
    · exact absurd rfl h.1
    · trivial

/-- The pass is over the cluster of a key. -/
def IsOver (key : ObjectKey) (_ : Talk Surroundings) (c : ClusterPass) : Prop := c.key = key

theorem persists_isOver (c : ClusterPass) : Persists fun t => IsOver key t c := fun _ _ _ _ h => h

theorem getRequestedObject_isOver :
    (Pass.getRequestedObject (C := ClusterPass)).Preserves (fun _ => LooksUp key) (IsOver key) := by
  refine Pass.preserves_getRequestedObject (fun _ => LooksUp key) persists_isOver fun t c hc => ?_
  show KeepsOr _ (Attempt.get .cluster _ _) _ _ _
  rw [Attempt.get, keepsOr_store]
  exact ⟨hc, Option.forall.2 ⟨hc, fun _ => hc⟩, fun _ => hc⟩

theorem setPhase_isOver (phase : ClusterPhase) :
    (Pass.setPhase (C := ClusterPass) phase).Preserves (fun _ => LooksUp key) (IsOver key) :=
  Pass.preserves_setPhase (fun _ => LooksUp key) persists_isOver phase fun _ _ _ _ hc => hc

theorem getLeader_isOver :
    (Pass.getLeader (C := ClusterPass)).Preserves (fun _ => LooksUp key) (IsOver key) := by
  refine Pass.preserves_ofAttempt fun t c hc => ?_
  split
  next => exact hc
  next cluster _ =>
    have hadmits : AdmitsJoinFree fun _ => LooksUp key := inferInstance
    have hasked : Keeps (fun _ => LooksUp key) (Election.leaderFor cluster).run (fun _ _ => True) t := by
      refine (Election.leaderFor_writes cluster).keeps (fun t q _ hq => ?_) (fun _ _ _ _ _ => trivial) trivial
      rcases hq with hdeedFree | ⟨given, rfl⟩
      · exact hadmits.of_joinFree t q hdeedFree.joinFree
      · trivial
    rw [keepsOr_bind, keepsOr_lift]
    refine hasked.mono fun t answer _ => ?_
    split
    next => exact hc
    next => exact hc
    next =>
      rw [keepsOr_ite]
      refine ⟨fun _ => hc, fun _ => ?_⟩
      rw [keepsOr_log_bind]
      exact hc
    next => exact hc

theorem bootstrap_isOver : ClusterPass.bootstrap.Preserves (fun _ => LooksUp key) (IsOver key) := by
  intro t c hc
  refine (ClusterPass.bootstrap_keeps _ (persists_isOver c) hc).mono fun t r hr => ?_
  obtain ⟨hc, hends⟩ := hr
  cases hends <;> exact hc

theorem steps_isOver : ∀ step ∈ ClusterPass.steps, step.Preserves (fun _ => LooksUp key) (IsOver key) := by
  simp only [ClusterPass.steps, List.forall_mem_cons]
  exact ⟨Pass.preserves_info _ persists_isOver, getRequestedObject_isOver, setPhase_isOver _,
    ClusterPass.checkDeletion_preserves _ persists_isOver, Pass.preserves_resetStatus _ fun _ _ _ _ hc => hc,
    setPhase_isOver _, ClusterPass.syncClusterWideService_preserves _ persists_isOver, setPhase_isOver _,
    ClusterPass.waitForRolesPhases_preserves _ persists_isOver _, setPhase_isOver _, getLeader_isOver,
    bootstrap_isOver, setPhase_isOver _, ClusterPass.configureFailover_preserves _ persists_isOver,
    setPhase_isOver _, List.forall_mem_nil _⟩

/-- A pass looks up no cluster but its own. -/
theorem run_looksUp (key : ObjectKey) :
    Keeps (fun _ => LooksUp key) (Pass.run ClusterPass.steps (ClusterPass.start key)) (fun _ _ => True) [] := by
  refine Pass.keeps_run (Pass.keeps_walk persists_isOver steps_isOver (fun t last outcome c _ => ?_)
    (show IsOver key [] (ClusterPass.start key) from rfl))
  refine Pass.persist_keeps fun k _ => ?_
  show KeepsOr _ (Attempt.replaceStatus .cluster k) _ _ _
  rw [Attempt.replaceStatus, keepsOr_store]
  exact ⟨trivial, fun _ => trivial, fun _ => trivial⟩

/-! ### The copy is what is stored -/

/-- The copy of a pass is what is stored, no status of a cluster was refused, and no conflict over a cluster was
told. -/
structure InStep (key : ObjectKey) (t : Talk Surroundings) (k : Option Cluster) : Prop where
  keyed : ∀ stored, k = some stored → stored.key = key
  copy : ∀ base, t.copy = some base → k = some base
  unrefused : ∀ (given : Cluster) (err : OperatorError),
    (⟨Request.store (.replaceStatus .cluster given), Except.error err⟩ : Turn Surroundings) ∉ t
  agreed : ∀ (q : StoreRequest) name,
    (⟨Request.store q, Except.error (.conflict Kind.cluster.name name)⟩ : Turn Surroundings) ∉ t

/-- What a pass writes is a status over what is stored, in its version. -/
theorem InStep.written {given : Cluster} (h : InStep key t k)
    (hproper : Proper t (.store (.replaceStatus .cluster given))) :
    ∃ base, k = some base ∧ given.key = key ∧ given.version = base.version := by
  obtain ⟨base, hcopy, hmeta, _⟩ := hproper
  have hstored := h.copy base hcopy
  refine ⟨base, hstored, ?_, by rw [Cluster.version, Cluster.version, hmeta]⟩
  rw [← h.keyed base hstored, Cluster.key, Cluster.key, hmeta]

/-- A pass asks about no other cluster. -/
theorem InStep.within {q : Request} (h : InStep key t k) (hproper : Proper t q) (hlooks : LooksUp key q) :
    Within key q := by
  cases q with
  | store q =>
    cases q with
    | get kind ns name =>
      cases kind with
      | cluster => exact hlooks
      | _ => exact fun hkind => Kind.noConfusion hkind
    | replaceStatus kind given =>
      cases kind with
      | cluster =>
        obtain ⟨_, _, hkey, _⟩ := h.written hproper
        exact hkey
      | _ => exact fun hkind => Kind.noConfusion hkind
    | list kind ns selector => exact hproper
    | create kind o => exact hproper
    | replace kind o => exact hproper
  | admin q => trivial
  | record about event => trivial
  | log level message => trivial

theorem InStep.cons (h : InStep key t k) (hkeyed : ∀ stored, k' = some stored → stored.key = key)
    (hcopy : ∀ base, Talk.copy (e :: t) = some base → k' = some base)
    (hunrefused : ∀ (given : Cluster) err,
      e ≠ ⟨Request.store (.replaceStatus .cluster given), Except.error err⟩)
    (hagreed : ∀ (q : StoreRequest) name,
      e ≠ ⟨Request.store q, Except.error (.conflict Kind.cluster.name name)⟩) : InStep key (e :: t) k' where
  keyed := hkeyed
  copy := hcopy
  unrefused given err he := (List.mem_cons.1 he).elim (fun he => hunrefused given err he.symm) (h.unrefused given err)
  agreed q name he := (List.mem_cons.1 he).elim (fun he => hagreed q name he.symm) (h.agreed q name)

/-- A turn keeps a pass in step when the request kept to the rules. -/
theorem InStep.step (h : InStep key t k) (hanswers : Answers key k e k') (hproper : Proper t e.ask)
    (hlooks : LooksUp key e.ask) : InStep key (e :: t) k' := by
  cases hanswers with
  | @elsewhere _ q a hq hfair =>
    refine h.cons h.keyed (fun base hbase => h.copy base (Talk.copy_cons hq a ▸ hbase)) ?_ ?_
    · rintro given err ⟨⟩
      exact hq rfl
    · intro q' name he
      obtain ⟨hkind, _⟩ := hfair q' _ name he
      cases he
      exact hq (Kind.eq_cluster_of_name hkind)
  | read =>
    refine h.cons h.keyed (fun base hbase => ?_) (fun _ _ he => by cases he) fun _ _ he => by cases he
    cases k with
    | none =>
      rw [Talk.copy_cons_of_none rfl] at hbase
      exact h.copy base hbase
    | some stored =>
      rw [Talk.copy_cons_of_some rfl] at hbase
      exact hbase
  | @unread _ err hfair =>
    refine h.cons h.keyed (fun base hbase => h.copy base (Talk.copy_cons_error _ err ▸ hbase))
      (fun _ _ he => by cases he) fun q name he => ?_
    obtain ⟨_, hwrites⟩ := hfair q _ name he
    cases he
    cases hwrites
  | @accepted present given stored hkey _ _ hcore =>
    refine h.cons (fun stored' hstored => ?_) (fun base hbase => ?_) (fun _ _ he => by cases he)
      fun _ _ he => by cases he
    · obtain rfl := Option.some.inj hstored
      rw [← h.keyed present rfl, Cluster.key, Cluster.key, ObjectKey.ofMeta, ObjectKey.ofMeta]
      exact congrArg₂ ObjectKey.mk (Kind.nsText_of_core hcore) (Kind.nameText_of_core hcore)
    · rw [Talk.copy_cons_of_some rfl] at hbase
      exact hbase
  | stale _ _ hversion =>
    -- what is written has the version of the copy, which is the present one
    obtain ⟨base, hbase, _, hsame⟩ := h.written hproper
    exact absurd (Option.some.inj hbase ▸ hsame) hversion
  | missing _ =>
    obtain ⟨base, hbase, _⟩ := h.written hproper
    cases hbase
  | beyond hbeyond => exact absurd (h.within hproper hlooks) hbeyond

/-- A pass that keeps to the rules is in step all along. -/
theorem inStep_of_serves (hstart : ∀ stored, k₀ = some stored → stored.key = key)
    (hserves : Serves key k₀ t k) (hobeys : t.Obeys fun t q => Proper t q ∧ LooksUp key q) : InStep key t k := by
  induction t generalizing k with
  | nil =>
    obtain rfl : k = k₀ := hserves
    exact ⟨hstart, fun base hbase => absurd hbase.symm (Option.some_ne_none base),
      fun _ _ => List.not_mem_nil, fun _ _ => List.not_mem_nil⟩
  | cons e t ih =>
    obtain ⟨k₁, hserves, hanswers⟩ := hserves
    exact (ih hserves hobeys.2).step hanswers hobeys.1.1 hobeys.1.2

/-! ### The pass -/

theorem obeys_of_goes {r : PassResult × ClusterPass}
    (h : (Pass.run ClusterPass.steps (ClusterPass.start key)).Goes [] t r) :
    t.Obeys fun t q => Proper t q ∧ LooksUp key q :=
  (((ClusterPass.run_keeps key).and (run_looksUp key)).of_goes h).2 trivial

/-- A line of the log changes nothing of what is stored. -/
theorem serves_log {level : LogLevel} {message : String}
    (h : Serves key k₀ (⟨Request.log level message, ()⟩ :: t) k) : Serves key k₀ t k := by
  obtain ⟨k₁, h, hanswers⟩ := h
  cases hanswers with
  | elsewhere _ _ => exact h
  | beyond hbeyond => exact absurd trivial hbeyond

/-- While nobody else writes the cluster of a pass, whether or not the pass elects a leader: no status that the
pass writes is refused, and the pass does not end with a conflict over a cluster. When there is something to
write at the end, it is written over the cluster as it is stored then, it is accepted, and what is stored
after the pass has the status that the last step left: its phase, its record of the bootstrap and its leader. -/
theorem pass_never_conflicts {r : PassResult} {c : ClusterPass}
    (hstart : ∀ stored, k₀ = some stored → stored.key = key)
    (hpass : (Pass.run ClusterPass.steps (ClusterPass.start key)).Goes [] t (r, c))
    (hserves : Serves key k₀ t k) :
    (∀ name, r.error ≠ some (.conflict Kind.cluster.name name)) ∧
    (∀ (given : Cluster) (e : OperatorError),
      (⟨Request.store (.replaceStatus .cluster given), Except.error e⟩ : Turn Surroundings) ∉ t) ∧
    ∃ t₁ outcome left,
      (Pass.walk ClusterPass.steps "" (ClusterPass.start key)).Goes [] t₁ (r.lastStep, outcome, left) ∧ t₁ <:+ t ∧
      ∀ o, left.cluster = some o → ¬Pass.Vanishes o → ∃ base stored : Cluster,
        Serves key k₀ t₁ (some base) ∧ base.Outgrows o ∧
        (⟨Request.store (.replaceStatus .cluster o), Except.ok stored⟩ : Turn Surroundings) ∈ t ∧
        k = some stored ∧ stored.status = o.status := by
  have hinstep := inStep_of_serves hstart hserves (obeys_of_goes hpass)
  have hobeys := obeys_of_goes hpass
  obtain ⟨t₁, outcome, left, t₂, written, level, message, hwalk, hpersist, rfl, hends⟩ :=
    Pass.exists_of_goes_run (k := .cluster) hpass
  have hsuffix : t₁ <:+ ⟨Request.log level message, ()⟩ :: t₂ := hpersist.suffix.trans (List.suffix_cons _ t₂)
  have hwrites := Pass.writesStatus_of_goes (k := .cluster) (fun _ => rfl) hpersist
  refine ⟨fun name herror => ?_, hinstep.unrefused, t₁, outcome, left, hwalk, hsuffix, fun o ho hstays => ?_⟩
  · cases written with
    | error e =>
      cases hwrites with
      | refused _ _ => exact hinstep.unrefused _ _ (List.mem_cons_of_mem _ List.mem_cons_self)
    | ok c' =>
      rw [Pass.conclusion_ok] at hends
      have hfailed : outcome.error? = some (.conflict Kind.cluster.name name) := by
        have hverdict : r.error = (Pass.verdict outcome).2 := congrArg Prod.snd hends
        rw [← herror, hverdict]
        cases outcome <;> rfl
      have hexplains := ((Pass.walk_explained ClusterPass.steps_explained [] "" (ClusterPass.start key)).of_goes
        hwalk).1 _ hfailed
      obtain ⟨q, htold⟩ := hexplains _ _ rfl
      exact hinstep.agreed q name (hsuffix.mem htold)
  · have hserves₂ := serves_log hserves
    cases hwrites with
    | absent hnone => exact absurd (ho.symm.trans hnone) (Option.some_ne_none o)
    | @vanished o' ho' hvanishes =>
      obtain rfl : o = o' := Option.some.inj (ho.symm.trans ho')
      exact absurd hvanishes hstays
    | @refused o' e ho' _ =>
      exact absurd (List.mem_cons_of_mem _ List.mem_cons_self) (hinstep.unrefused o' e)
    | @written o' stored ho' _ =>
      obtain rfl : o = o' := Option.some.inj (ho.symm.trans ho')
      obtain ⟨base, hcopy, houtgrows⟩ := ((ClusterPass.walk_follows key).of_goes hwalk).1 o ho
      obtain ⟨k₁, hserves₁, hanswers⟩ := hserves₂
      have hinstep₁ := inStep_of_serves hstart hserves₁ hobeys.2.2
      obtain rfl := hinstep₁.copy base hcopy
      refine ⟨base, stored, hserves₁, houtgrows, List.mem_cons_of_mem _ List.mem_cons_self, ?_⟩
      cases hanswers with
      | elsewhere hq _ => exact absurd rfl hq
      | accepted _ _ hstatus _ => exact ⟨rfl, hstatus⟩
      | beyond hbeyond => exact absurd (hinstep₁.within hobeys.2.1.1 hobeys.2.1.2) hbeyond

/-! ### A store in memory -/

section

open Simulation

variable {τ : Type} {os : Objects}

theorem fair_answer (os : Objects) (q : StoreRequest) : Fair ⟨Request.store q, (os.answer q).1⟩ := by
  intro q' kind name he
  obtain rfl : q = q' := Request.store.inj (congrArg Turn.ask he)
  have htold : (os.answer q).1 = .error (.conflict kind name) := eq_of_heq (Turn.mk.inj he).2
  cases q with
  | get _ _ _ => cases htold
  | list _ _ _ => cases htold
  | create k o =>
    rw [Objects.answer] at htold
    dsimp only at htold
    split at htold
    next =>
      cases htold
      exact ⟨rfl, rfl⟩
    next => cases htold
  | replace k o => exact ⟨Objects.update_eq_conflict htold, rfl⟩
  | replaceStatus k o => exact ⟨Objects.update_eq_conflict htold, rfl⟩

/-- A status is replaced in the present version only. -/
theorem answers_replaceStatus (hkept : os.Kept) {given : Cluster} (hkey : given.key = key) :
    Answers key (os.find? .cluster key.ns key.name)
      ⟨Request.store (.replaceStatus .cluster given), (os.answer (.replaceStatus .cluster given)).1⟩
      ((os.answer (.replaceStatus .cluster given)).2.find? .cluster key.ns key.name) := by
  subst hkey
  rw [Objects.answer]
  cases hfound : os.find? .cluster given.key.ns given.key.name with
  | none =>
    rw [Objects.update_of_missing hfound, hfound]
    exact .missing rfl
  | some present =>
    by_cases hversion : given.version ≠ none ∧ given.version ≠ present.version
    · rw [Objects.update_of_stale hfound hversion, hfound]
      exact .stale rfl hversion.1 hversion.2
    · have hplace : (os.put .cluster (Objects.withStatusOf .cluster present given)).2.find? .cluster
          given.key.ns given.key.name = some (os.put .cluster (Objects.withStatusOf .cluster present given)).1 := by
        rw [Objects.find?_put, Objects.metadata_withStatusOf]
        exact if_pos ⟨(hkept.ns hfound).symm, (hkept.name hfound).symm⟩
      rw [Objects.update_of_not_stale hfound hversion, hplace]
      refine .accepted rfl ?_ rfl (Objects.core_put_withStatusOf (hkept.uid hfound))
      by_cases hnone : given.version = none
      · exact Or.inl hnone
      · exact Or.inr (not_not.1 fun hne => hversion ⟨hnone, hne⟩)

/-- A store in memory that nobody else writes answers so. -/
theorem answers_respond (answer : Answering τ) (s : Stage τ) (q : Request) :
    Answers key (s.objects.find? .cluster key.ns key.name) ⟨q, (s.respond answer q).1⟩
      ((s.respond answer q).2.objects.find? .cluster key.ns key.name) := by
  by_cases hwithin : Within key q
  · cases q with
    | store q =>
      by_cases hkind : q.kind = .cluster
      · cases q with
        | get kind ns name =>
          obtain rfl : kind = .cluster := hkind
          obtain rfl : (⟨ns, name⟩ : ObjectKey) = key := hwithin
          exact .read
        | replaceStatus kind given =>
          obtain rfl : kind = .cluster := hkind
          exact answers_replaceStatus s.kept hwithin
        | list kind ns selector => exact absurd hkind hwithin
        | create kind o => exact absurd hkind hwithin
        | replace kind o => exact absurd hkind hwithin
      · have hsame : (s.objects.answer q).2.find? .cluster key.ns key.name =
            s.objects.find? .cluster key.ns key.name := Objects.find?_answer_of_ne fun h => hkind h.symm
        show Answers key _ _ ((s.objects.answer q).2.find? .cluster key.ns key.name)
        rw [hsame]
        exact .elsewhere hkind (fair_answer s.objects q)
    | admin q => exact .elsewhere trivial fun _ _ _ h => Request.noConfusion (congrArg Turn.ask h)
    | record about event => exact .elsewhere trivial fun _ _ _ h => Request.noConfusion (congrArg Turn.ask h)
    | log level message => exact .elsewhere trivial fun _ _ _ h => Request.noConfusion (congrArg Turn.ask h)
  · exact .beyond hwithin

/-- A program that is played with a store in memory is served so. -/
theorem serves_play {α : Type} (answer : Answering τ) (p : Act α) (s : Stage τ) (key : ObjectKey) :
    Serves key (s.objects.find? .cluster key.ns key.name) (p.play (Stage.respond answer) [] s).talk
      ((p.play (Stage.respond answer) [] s).state.objects.find? .cluster key.ns key.name) := by
  have hplay : ∀ k₀ t s₁, Serves key k₀ t (s₁.objects.find? .cluster key.ns key.name) →
      Serves key k₀ (p.play (Stage.respond answer) t s₁).talk
        ((p.play (Stage.respond answer) t s₁).state.objects.find? .cluster key.ns key.name) := by
    induction p with
    | done a => exact fun _ _ _ h => h
    | ask q next ih => exact fun k₀ t s₁ h => ih _ k₀ _ _ ⟨_, h, answers_respond answer s₁ q⟩
  exact hplay _ [] s rfl

end

/-! ### An example: a leader is elected -/

section

open Simulation

/-- A shop whose cluster no pass has seen, with an instance that has started. -/
def unled : Stage Registry where
  objects := (Shop.objects.put .cluster { Shop.cluster with status := none }).2
  kept := Shop.kept_objects.put _ _
  topology := {
    topology := { Topology.blank with started := SortedMap.empty.insert "storage-0-0" () }
    addresses := [] }

/-- The pass over the cluster of the shop. -/
def electing : Played Surroundings (Stage Registry) (PassResult × ClusterPass) :=
  (Pass.run ClusterPass.steps (ClusterPass.start ⟨"db", "shop"⟩)).play (Stage.respond Registry.answer) [] unled

/-- The steps of the pass. -/
def stepping : Played Surroundings (Stage Registry) (String × Outcome × ClusterPass) :=
  (Pass.walk ClusterPass.steps "" (ClusterPass.start ⟨"db", "shop"⟩)).play (Stage.respond Registry.answer) [] unled

theorem stepping_suffix : stepping.talk <:+ electing.talk := by
  rw [electing, Pass.run, play_bind]
  exact (goes_play _ _ _ _).suffix

/-- The pass elects a leader, bootstraps the storages and ends in line; both statuses that it writes are accepted,
and the second one is what is stored. -/
theorem electing_accepted :
    (electing.talk.filter (·.ask.isStatusWrite)).length = 2 ∧
    (∀ name, electing.result.1.error ≠ some (.conflict Kind.cluster.name name)) ∧
    (∀ (given : Cluster) (e : OperatorError),
      (⟨Request.store (.replaceStatus .cluster given), Except.error e⟩ : Turn Surroundings) ∉ electing.talk) ∧
    ∃ stored : Cluster, electing.state.objects.find? .cluster "db" "shop" = some stored ∧
      stored.status = some ⟨.ready, true, some "storage-0-0"⟩ := by
  have hstart : ∀ stored : Cluster, unled.objects.find? .cluster "db" "shop" = some stored →
      stored.key = ⟨"db", "shop"⟩ := fun stored hstored =>
    congrArg₂ ObjectKey.mk (unled.kept.ns hstored) (unled.kept.name hstored)
  obtain ⟨herror, hunrefused, t₁, outcome, left, hwalk, hsuffix, haccepted⟩ :=
    pass_never_conflicts hstart (goes_play (Stage.respond Registry.answer) _ [] unled)
      (serves_play Registry.answer _ unled ⟨"db", "shop"⟩)
  -- what the steps left is what they left when they were played
  have hwalked := goes_play (Stage.respond Registry.answer)
    (Pass.walk ClusterPass.steps "" (ClusterPass.start ⟨"db", "shop"⟩)) [] unled
  obtain ⟨_, hsame⟩ := hwalk.eq_of_suffix hwalked hsuffix stepping_suffix
  have hleft : left.cluster = stepping.result.2.2.cluster := congrArg (fun r => r.2.2.cluster) hsame
  obtain ⟨o, ho, hready⟩ : ∃ o, stepping.result.2.2.cluster = some o ∧
      o.metadata.isDeleting = false ∧ o.status = some ⟨.ready, true, some "storage-0-0"⟩ := by
    have hplayed : (stepping.result.2.2.cluster.map fun o => (o.metadata.isDeleting, o.status)) =
        some (false, some ⟨.ready, true, some "storage-0-0"⟩) := by decide +kernel
    obtain ⟨o, ho, hready⟩ := Option.map_eq_some_iff.1 hplayed
    exact ⟨o, ho, Prod.mk.inj hready⟩
  have hstays : ¬Pass.Vanishes o := fun hvanishes => Bool.false_ne_true (hready.1.symm.trans hvanishes.1)
  obtain ⟨_, stored, _, _, _, hstored, hstatus⟩ := haccepted o (hleft.trans ho) hstays
  exact ⟨by decide +kernel, herror, hunrefused, stored, hstored, hstatus.trans hready.2⟩

end

end SoleWriter

end ClusterKeeper
