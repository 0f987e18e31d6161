import ClusterKeeper.Pass.Surroundings
import ClusterKeeper.Proofs.Program.Playing
import ClusterKeeper.Proofs.Simulation.Objects
import ClusterKeeper.Replicaset.Identity

/-!
The surroundings of passes when nobody else acts: a store in memory beside a topology that remembers what
it is told (`Remembers`). Instances that joined stay joined, those that applied their roles have applied
them, a weight that could be set can be set again; the roles, the failover parameters and the clusterwide
config that were set are what the next query returns; and a query changes nothing.

A request that reads leaves such surroundings as they are (`Stage.respond_of_reads`), so a program is
played through its reads without a change of state.
-/

namespace ClusterKeeper

/-- The request asks for what is the case and changes nothing. -/
def AdminRequest.IsQuery : AdminRequest → Prop
  | instanceUuid _ | replicasetRoles .. | rolesHierarchy _ | failoverParams _ | cartridgeConfig _
  | isCartridgeStarted _ | isCartridgeConfigured _ => True
  | join .. | setWeight .. | setReplicasetRoles .. | bootstrapVshard _ | setFailoverParams ..
  | applyCartridgeConfig .. => False

/-- The request reads from the store, asks an instance for what is the case, or writes to the log. -/
def Request.Reads : Request → Prop
  | store (.get ..) | store (.list ..) | log .. => True
  | admin q => q.IsQuery
  | store _ | record .. => False

namespace Simulation

/-- How topologies answer, and what becomes of them. -/
abbrev Answering (τ : Type) := (t : τ) → (q : AdminRequest) → Except AdminError q.Result × τ

variable {τ : Type}

section

variable (answer : Answering τ) (t t' : τ)

/-- The instance of a pod is part of the topology. -/
def Joined (pod : Pod) : Prop := ∃ uuid, uuid ≠ "" ∧ (answer t (.instanceUuid pod)).1 = .ok uuid

/-- The instance of a pod has applied its roles. -/
def Configured (pod : Pod) : Prop := (answer t (.isCartridgeConfigured pod)).1 = .ok true

/-- The weight of a replicaset can be set. -/
def TakesWeight (leader : Pod) (uuid : String) (weight : Int32) : Prop :=
  (answer t (.setWeight leader uuid weight)).1 = .ok ()

/-- Nothing of a topology that was so is undone in another. -/
structure Later : Prop where
  joined : ∀ {pod}, Joined answer t pod → Joined answer t' pod
  configured : ∀ {pod}, Configured answer t pod → Configured answer t' pod
  takesWeight : ∀ {leader uuid weight}, TakesWeight answer t leader uuid weight →
    TakesWeight answer t' leader uuid weight
  hierarchy : ∀ leader, (answer t' (.rolesHierarchy leader)).1 = (answer t (.rolesHierarchy leader)).1

end

section

variable {answer : Answering τ} {t t₁ t₂ : τ}

theorem Later.rfl : Later answer t t := ⟨id, id, id, fun _ => Eq.refl _⟩

theorem Later.trans (h₁ : Later answer t t₁) (h₂ : Later answer t₁ t₂) : Later answer t t₂ where
  joined h := h₂.joined (h₁.joined h)
  configured h := h₂.configured (h₁.configured h)
  takesWeight h := h₂.takesWeight (h₁.takesWeight h)
  hierarchy leader := (h₂.hierarchy leader).trans (h₁.hierarchy leader)

end

/-- Topologies that remember what they are told. -/
structure Remembers (answer : Answering τ) : Prop where
  query : ∀ t q, q.IsQuery → (answer t q).2 = t
  later : ∀ t q, Later answer t (answer t q).2
  /-- Instances that were joined are part of the topology; an instance goes by its address in the
  namespace of its cluster. -/
  join : ∀ {t leader request uris outcome}, (answer t (.join leader request uris)).1 = .ok outcome →
    ∀ (cluster : Cluster) (pod : Pod), pod.metadata.nsText = cluster.nsOf →
      cluster.advertiseUri pod.name ∈ uris → Joined answer (answer t (.join leader request uris)).2 pod
  roles : ∀ {t leader uuid roles}, (answer t (.setReplicasetRoles leader uuid roles)).1 = .ok () →
    (answer (answer t (.setReplicasetRoles leader uuid roles)).2 (.replicasetRoles leader uuid)).1 =
      .ok roles
  otherRoles : ∀ {t leader uuid roles uuid'}, uuid' ≠ uuid →
    (answer (answer t (.setReplicasetRoles leader uuid roles)).2 (.replicasetRoles leader uuid')).1 =
      (answer t (.replicasetRoles leader uuid')).1
  rolesOfWeight : ∀ {t leader uuid weight uuid'},
    (answer (answer t (.setWeight leader uuid weight)).2 (.replicasetRoles leader uuid')).1 =
      (answer t (.replicasetRoles leader uuid')).1
  params : ∀ {t leader params}, (answer t (.setFailoverParams leader params)).1 = .ok () →
    (answer (answer t (.setFailoverParams leader params)).2 (.failoverParams leader)).1 = .ok params
  /-- The sections that were uploaded are there. -/
  config : ∀ {t leader config}, (answer t (.applyCartridgeConfig leader config)).1 = .ok () →
    ∃ actual : Sections,
      (answer (answer t (.applyCartridgeConfig leader config)).2 (.cartridgeConfig leader)).1 =
        .ok actual ∧ ∀ name value, config.get? name = some value → actual.get? name = some value

/-- A store in memory beside a topology. -/
structure Stage (τ : Type) where
  objects : Objects
  kept : objects.Kept
  topology : τ

namespace Stage

/-- What a stage answers, and what becomes of it. -/
def respond (answer : Answering τ) (s : Stage τ) : (q : Request) → q.Answer × Stage τ
  | .store q =>
    ((s.objects.answer q).1, { s with objects := (s.objects.answer q).2, kept := s.kept.answer q })
  | .admin q => ((answer s.topology q).1, { s with topology := (answer s.topology q).2 })
  | .record .. | .log .. => ((), s)

variable {answer : Answering τ} {s : Stage τ}

/-- A request that reads leaves the stage as it is. -/
theorem respond_of_reads (h : Remembers answer) {q : Request} (hq : q.Reads) :
    (s.respond answer q).2 = s := by
  cases q with
  | store q =>
    cases q with
    | get k ns name => rfl
    | list k ns selector => rfl
    | _ => exact hq.elim
  | admin q =>
    show { s with topology := (answer s.topology q).2 } = s
    rw [h.query s.topology q hq]
  | record about event => rfl
  | log level message => rfl

/-- The result of a program that is answered from one stage all along. -/
def recollect {α : Type} (answer : Answering τ) (s : Stage τ) (p : Act α) : α :=
  Program.run (m := Id) (fun q => (s.respond answer q).1) p

end Stage

/-! ### Requests as they are played -/

/-- Everything may be asked. -/
def Free (_ : Stage τ) (_ : Request) : Prop := True

/-- A rule by which everything may be read. -/
class AdmitsReads (rule : Stage τ → Request → Prop) : Prop where
  of_reads : ∀ s q, q.Reads → rule s q

instance : AdmitsReads (Free (τ := τ)) := ⟨fun _ _ _ => trivial⟩

section

open Program

variable {answer : Answering τ} {s : Stage τ} {rule : Stage τ → Request → Prop} {α ε : Type}

theorem playsOr_store (q : StoreRequest) {ok : Stage τ → q.Result → Prop}
    {fails : Stage τ → OperatorError → Prop} :
    @PlaysOr Surroundings _ (no_index q.Result) OperatorError (Stage.respond answer) rule
        (Attempt.store q) ok fails s ↔
      rule s (.store q) ∧
        (∀ a, (s.objects.answer q).1 = .ok a → ok (s.respond answer (.store q)).2 a) ∧
        ∀ e, (s.objects.answer q).1 = .error e → fails (s.respond answer (.store q)).2 e := by
  exact and_congr_right fun _ => playsOr_done (β := q.Result) (s.objects.answer q).1

theorem playsOr_ask (q : AdminRequest) {ok : Stage τ → q.Result → Prop}
    {fails : Stage τ → AdminError → Prop} :
    @PlaysOr Surroundings _ (no_index q.Result) AdminError (Stage.respond answer) rule
        (Act.admin q) ok fails s ↔
      rule s (.admin q) ∧
        (∀ a, (answer s.topology q).1 = .ok a → ok (s.respond answer (.admin q)).2 a) ∧
        ∀ e, (answer s.topology q).1 = .error e → fails (s.respond answer (.admin q)).2 e := by
  exact and_congr_right fun _ => playsOr_done (β := q.Result) (answer s.topology q).1

theorem playsOr_admin (q : AdminRequest) {ok : Stage τ → q.Result → Prop}
    {fails : Stage τ → OperatorError → Prop} :
    @PlaysOr Surroundings _ (no_index q.Result) OperatorError (Stage.respond answer) rule
        (Attempt.admin q) ok fails s ↔
      @PlaysOr Surroundings _ q.Result AdminError (Stage.respond answer) rule (Act.admin q) ok
        (fun s e => fails s (.admin e)) s :=
  playsOr_mapError _ _

variable [AdmitsReads rule]

theorem plays_log (level : LogLevel) (message : String) {fits : Stage τ → Unit → Prop} :
    Plays (Stage.respond answer) rule (Act.log level message) fits s ↔ fits s () :=
  and_iff_right (AdmitsReads.of_reads s _ trivial)

theorem playsOr_log (level : LogLevel) (message : String) {ok : Stage τ → Unit → Prop}
    {fails : Stage τ → OperatorError → Prop} :
    PlaysOr (Stage.respond answer) rule (Attempt.log level message) ok fails s ↔ ok s () := by
  rw [Attempt.log, playsOr_lift, plays_log]

theorem playsOr_get (k : Kind) (ns name : String) {ok : Stage τ → Option k.Object → Prop}
    {fails : Stage τ → OperatorError → Prop} :
    PlaysOr (Stage.respond answer) rule (Attempt.get k ns name) ok fails s ↔
      ok s (s.objects.find? k ns name) :=
  and_iff_right (AdmitsReads.of_reads s _ trivial)

theorem playsOr_list (k : Kind) (ns : String) (selector : Labels)
    {ok : Stage τ → List k.Object → Prop} {fails : Stage τ → OperatorError → Prop} :
    PlaysOr (Stage.respond answer) rule (Attempt.list k ns selector) ok fails s ↔
      ok s (s.objects.matching k ns selector) :=
  and_iff_right (AdmitsReads.of_reads s _ trivial)

theorem playsOr_query (h : Remembers answer) (q : AdminRequest) (hq : q.IsQuery)
    {ok : Stage τ → q.Result → Prop} {fails : Stage τ → AdminError → Prop} :
    @PlaysOr Surroundings _ (no_index q.Result) AdminError (Stage.respond answer) rule
        (Act.admin q) ok fails s ↔
      (∀ a, (answer s.topology q).1 = .ok a → ok s a) ∧
        ∀ e, (answer s.topology q).1 = .error e → fails s e := by
  have hstate : (s.respond answer (.admin q)).2 = s := Stage.respond_of_reads h hq
  rw [playsOr_ask, hstate]
  exact and_iff_right (AdmitsReads.of_reads s _ hq)

/-- A query whose answer is known. -/
theorem playsOr_query_of_ok (h : Remembers answer) (q : AdminRequest) (hq : q.IsQuery) {a : q.Result}
    (ha : (answer s.topology q).1 = .ok a) {ok : Stage τ → q.Result → Prop}
    {fails : Stage τ → AdminError → Prop} :
    @PlaysOr Surroundings _ (no_index q.Result) AdminError (Stage.respond answer) rule
        (Act.admin q) ok fails s ↔ ok s a := by
  rw [playsOr_query h q hq, ha]
  exact ⟨fun hok => hok.1 a rfl, fun hok => ⟨fun _ hb => Except.ok.inj hb ▸ hok, nofun⟩⟩

/-- A program that reads comes to one result, and leaves the stage as it is. -/
theorem plays_of_reads (h : Remembers answer) {p : Act α} (hp : p.Only Request.Reads)
    {fits : Stage τ → α → Prop} :
    Plays (Stage.respond answer) rule p fits s ↔ fits s (s.recollect answer p) := by
  replace hp := hp []
  generalize ([] : Talk Surroundings) = t at hp
  induction p generalizing t with
  | done a => exact Iff.rfl
  | ask q next ih =>
    have hstate : (s.respond answer q).2 = s := Stage.respond_of_reads h hp.1
    rw [Plays, hstate]
    exact (and_iff_right (AdmitsReads.of_reads s q hp.1)).trans (ih (s.respond answer q).1 _ (hp.2 _))

end

/-- Two stages that answer alike give a program one result. -/
theorem Stage.recollect_congr {answer : Answering τ} {s s' : Stage τ} {α : Type} {asked : Request → Prop}
    {p : Act α} (hp : p.Only asked)
    (h : ∀ q, asked q → (s'.respond answer q).1 = (s.respond answer q).1) :
    s'.recollect answer p = s.recollect answer p := by
  replace hp := hp []
  generalize ([] : Talk Surroundings) = t at hp
  induction p generalizing t with
  | done a => rfl
  | ask q next ih =>
    show s'.recollect answer (next (s'.respond answer q).1) = s.recollect answer (next (s.respond answer q).1)
    rw [h q hp.1]
    exact ih _ _ (hp.2 _)

/-! ### Change -/

section

variable {answer : Answering τ} {s s' s'' : Stage τ}

/-- The objects stay as they are, and nothing is undone in the topology. -/
structure Onward (answer : Answering τ) (s s' : Stage τ) : Prop where
  objects : s'.objects = s.objects
  later : Later answer s.topology s'.topology

theorem Onward.rfl : Onward answer s s := ⟨Eq.refl _, .rfl⟩

theorem Onward.trans (h₁ : Onward answer s s') (h₂ : Onward answer s' s'') : Onward answer s s'' :=
  ⟨h₂.objects.trans h₁.objects, h₁.later.trans h₂.later⟩

theorem onward_admin (h : Remembers answer) (q : AdminRequest) :
    Onward answer s (s.respond answer (.admin q)).2 := ⟨Eq.refl _, h.later _ _⟩

end

/-- Nothing is changed but objects of one kind. -/
structure OnlyIn (k : Kind) (s s' : Stage τ) : Prop where
  topology : s'.topology = s.topology
  shelf : ∀ k' ≠ k, s'.objects.shelf k' = s.objects.shelf k'

namespace OnlyIn

variable {k k' : Kind} {s s₁ s₂ : Stage τ}

theorem rfl : OnlyIn k s s := ⟨Eq.refl _, fun _ _ => Eq.refl _⟩

theorem trans (h₁ : OnlyIn k s s₁) (h₂ : OnlyIn k s₁ s₂) : OnlyIn k s s₂ :=
  ⟨h₂.topology.trans h₁.topology, fun k' hk => (h₂.shelf k' hk).trans (h₁.shelf k' hk)⟩

theorem find? (h : OnlyIn k s s₁) (hk : k' ≠ k) (ns name : String) :
    s₁.objects.find? k' ns name = s.objects.find? k' ns name := Objects.find?_congr (h.shelf k' hk) ns name

end OnlyIn

/-- What becomes of a stage when an object is stored. -/
structure Stored (s s' : Stage τ) {k : Kind} (given stored : k.Object) : Prop extends
    OnlyIn k s s' where
  find? : ∀ ns name, s'.objects.find? k ns name =
    if ns = (KubeObject.metadata given).nsText ∧ name = (KubeObject.metadata given).nameText
    then some stored else s.objects.find? k ns name
  stamped : ∃ version, stored =
    KubeObject.setMetadata (Objects.stamped version (KubeObject.metadata given)) given

/-- What becomes of a stage when the status of an object is replaced. -/
structure Restatused (s s' : Stage τ) {k : Kind} (given stored : k.Object) : Prop extends
    OnlyIn k s s' where
  found : s'.objects.find? k (KubeObject.metadata given).nsText (KubeObject.metadata given).nameText =
    some stored
  core : ∃ old, s.objects.find? k (KubeObject.metadata given).nsText
    (KubeObject.metadata given).nameText = some old ∧ Kind.core stored = Kind.core old
  status : Objects.withStatusOf k stored given = stored

section

open Program Objects

variable {answer : Answering τ} {s : Stage τ} {rule : Stage τ → Request → Prop} {k : Kind}
  {given old : k.Object}

theorem Stored.found {s' : Stage τ} {stored : k.Object} (h : Stored s s' given stored) :
    s'.objects.find? k (KubeObject.metadata given).nsText (KubeObject.metadata given).nameText =
      some stored := (h.find? _ _).trans (if_pos ⟨rfl, rfl⟩)

theorem stored_of_put {s' : Stage τ} (hobjects : s'.objects = (s.objects.put k given).2)
    (htopology : s'.topology = s.topology) : Stored s s' given (s.objects.put k given).1 where
  topology := htopology
  shelf k' hk := by rw [hobjects, shelf_put_of_ne hk]
  find? ns name := by rw [hobjects, find?_put]
  stamped := ⟨_, rfl⟩

/-- An object may be created, or not. -/
theorem playsOr_create {ok : Stage τ → k.Object → Prop}
    {fails : Stage τ → OperatorError → Prop} (hfails : ∀ s' e, fails s' e)
    (hok : ∀ s' stored, s.objects.find? k (KubeObject.metadata given).nsText
      (KubeObject.metadata given).nameText = none → Stored s s' given stored → ok s' stored) :
    PlaysOr (Stage.respond answer) Free (Attempt.create k given) ok fails s := by
  rw [Attempt.create, playsOr_store]
  refine ⟨trivial, fun stored hstored => ?_, fun e _ => hfails _ e⟩
  obtain ⟨hfree, rfl, hput⟩ := create_eq_ok hstored
  exact hok _ _ hfree (stored_of_put hput rfl)

/-- An object may be replaced, or not. -/
theorem playsOr_replace {ok : Stage τ → k.Object → Prop}
    {fails : Stage τ → OperatorError → Prop} (hfails : ∀ s' e, fails s' e)
    (hok : ∀ s' stored, Stored s s' given stored → ok s' stored) :
    PlaysOr (Stage.respond answer) Free (Attempt.replace k given) ok fails s := by
  rw [Attempt.replace, playsOr_store]
  refine ⟨trivial, fun stored hstored => ?_, fun e _ => hfails _ e⟩
  obtain ⟨old, hold, rfl, hput⟩ := update_eq_ok hstored
  exact hok _ _ (stored_of_put hput rfl)

theorem restatused_of_update
    (hold : s.objects.find? k (KubeObject.metadata given).nsText (KubeObject.metadata given).nameText =
      some old)
    (hput : (s.objects.answer (.replaceStatus k given)).2 =
      (s.objects.put k (withStatusOf k old given)).2) :
    Restatused s (s.respond answer (.store (.replaceStatus k given))).2 given
      (s.objects.put k (withStatusOf k old given)).1 where
  found := by
    show (s.objects.answer (.replaceStatus k given)).2.find? k _ _ = _
    rw [hput, find?_put, metadata_withStatusOf]
    exact if_pos ⟨(s.kept.ns hold).symm, (s.kept.name hold).symm⟩
  core := ⟨old, hold, core_put_withStatusOf (s.kept.uid hold)⟩
  status := by cases k <;> rfl
  topology := rfl
  shelf k' hk := by
    show (s.objects.answer (.replaceStatus k given)).2.shelf k' = _
    rw [hput, shelf_put_of_ne hk]

/-- A status may be replaced, or not. -/
theorem playsOr_replaceStatus {ok : Stage τ → k.Object → Prop}
    {fails : Stage τ → OperatorError → Prop} (hfails : ∀ s' e, fails s' e)
    (hok : ∀ s' stored, Restatused s s' given stored → ok s' stored) :
    PlaysOr (Stage.respond answer) Free (Attempt.replaceStatus k given) ok fails s := by
  rw [Attempt.replaceStatus, playsOr_store]
  refine ⟨trivial, fun stored hstored => ?_, fun e _ => hfails _ e⟩
  obtain ⟨old, hold, rfl, hput⟩ := update_eq_ok hstored
  exact hok _ _ (restatused_of_update hold hput)

/-- A status is replaced in the version that is stored. -/
theorem playsOr_replaceStatus_of_version {ok : Stage τ → k.Object → Prop}
    {fails : Stage τ → OperatorError → Prop}
    (hrule : rule s (.store (.replaceStatus k given)))
    (hold : s.objects.find? k (KubeObject.metadata given).nsText (KubeObject.metadata given).nameText =
      some old)
    (hversion : (KubeObject.metadata given).resourceVersion = (KubeObject.metadata old).resourceVersion)
    (hok : ∀ s' stored, Restatused s s' given stored → ok s' stored) :
    PlaysOr (Stage.respond answer) rule (Attempt.replaceStatus k given) ok fails s := by
  have hanswer : s.objects.answer (.replaceStatus k given) =
      (.ok (s.objects.put k (withStatusOf k old given)).1, (s.objects.put k (withStatusOf k old given)).2) :=
    update_of_version hold hversion
  rw [Attempt.replaceStatus, playsOr_store, hanswer]
  refine ⟨hrule, fun stored hstored => ?_, fun e he => ?_⟩
  · rw [← Except.ok.inj hstored]
    exact hok _ _ (restatused_of_update hold (congrArg Prod.snd hanswer))
  · cases he

end

end Simulation

end ClusterKeeper
