import ClusterKeeper.Pass.Surroundings
import ClusterKeeper.Proofs.Program.Course

/-!
The requests of a pass in its talk. A request is followed by its answer or by its failure, and what
comes next has to go on from both (`keepsOr_store`, `keepsOr_ask`). Of the talk of a pass three things
matter here: the copy of a cluster that the store gave last (`Talk.copy`), whether pods have the names
that they were asked for by (`Talk.NamesPods`) or a name at all (`Talk.FindsNamed`), and whether a status
that was accepted is the one that was given (`Talk.TakesStatus`).

Most requests are `JoinFree`: they join no instances, write no custom resources and do not concern clusters at
all, so they leave the copy alone (`Talk.copy_cons`). Most of these are `DeedFree` besides: they look up no custom
resource by its name, make no StatefulSet, change nothing of a topology and are no warnings, all of which are
called deeds here.
-/

namespace ClusterKeeper

open Program

/-! ### Kinds of requests -/

/-- Whether passes are made over the objects of a kind. -/
@[simp] def Kind.isCustom : Kind → Bool
  | cluster | role | cartridgeConfig => true
  | pod | statefulSet | service | secret => false

/-- The request writes no custom resource. -/
@[simp] def StoreRequest.CustomWriteFree : StoreRequest → Prop
  | get .. | list .. => True
  | create k _ | replace k _ | replaceStatus k _ => k.isCustom = false

namespace Request

/-- The request does not concern the store's clusters. -/
def Elsewhere : Request → Prop
  | store q => q.kind ≠ .cluster
  | _ => True

/-- The request neither joins instances, nor writes a custom resource, nor concerns the store's clusters. -/
def JoinFree : Request → Prop
  | store q => q.kind ≠ .cluster ∧ q.CustomWriteFree
  | admin (.join ..) => False
  | _ => True

theorem JoinFree.elsewhere {q : Request} (h : q.JoinFree) : q.Elsewhere := by
  cases q with
  | store q => exact h.1
  | admin q => trivial
  | record about event => trivial
  | log level message => trivial

/-- The request to an instance changes nothing, and does not ask for its identifier. -/
@[simp] def Inquires : AdminRequest → Prop
  | .isCartridgeStarted _ | .isCartridgeConfigured _ | .replicasetRoles .. | .rolesHierarchy _
  | .failoverParams _ | .cartridgeConfig _ => True
  | _ => False

/-- The request neither finds nor writes a custom resource, makes no StatefulSet, changes nothing of a
topology, does not ask for an identifier and is no warning. -/
def DeedFree : Request → Prop
  | store (.get k ..) => k.isCustom = false
  | store (.list k ..) => k ≠ .cluster
  | store (.create k _) => k.isCustom = false ∧ k ≠ .statefulSet
  | store (.replace k _) | store (.replaceStatus k _) => k.isCustom = false
  | admin q => Inquires q
  | record _ event => event.severity = .normal
  | log .. => True

/-- The request is no deed, or one of some deeds. -/
def DeedFreeOr (deed : Request → Prop) (q : Request) : Prop := q.DeedFree ∨ deed q

/-- The request records a warning. -/
def Warns : Request → Prop
  | record _ event => event.severity = .warning
  | _ => False

theorem DeedFree.joinFree {q : Request} (h : q.DeedFree) : q.JoinFree := by
  have hcustom : ∀ {k : Kind}, k.isCustom = false → k ≠ .cluster := by
    rintro k hk rfl
    cases hk
  cases q with
  | store q =>
    cases q with
    | get k ns name => exact ⟨hcustom h, trivial⟩
    | list k ns selector => exact ⟨h, trivial⟩
    | create k o => exact ⟨hcustom h.1, h.1⟩
    | replace k o => exact ⟨hcustom h, h⟩
    | replaceStatus k o => exact ⟨hcustom h, h⟩
  | admin q => cases q <;> trivial
  | record about event => trivial
  | log level message => trivial

theorem DeedFree.not_warns {q : Request} (h : q.DeedFree) : ¬q.Warns := by
  intro hwarns
  cases q with
  | store q => exact hwarns
  | admin q => exact hwarns
  | record about event => exact absurd (h.symm.trans hwarns) (by decide)
  | log level message => exact hwarns

@[simp] theorem elsewhere_store {q : StoreRequest} : (store q).Elsewhere ↔ q.kind ≠ .cluster := Iff.rfl

@[simp] theorem elsewhere_admin {q : AdminRequest} : (admin q).Elsewhere := trivial

@[simp] theorem elsewhere_log {level : LogLevel} {message : String} :
    (log level message).Elsewhere := trivial

@[simp] theorem elsewhere_record {about : ObjectReference} {event : Event} :
    (record about event).Elsewhere := trivial

@[simp] theorem joinFree_store {q : StoreRequest} :
    (store q).JoinFree ↔ q.kind ≠ .cluster ∧ q.CustomWriteFree := Iff.rfl

@[simp] theorem joinFree_admin {q : AdminRequest} :
    (admin q).JoinFree ↔ ∀ leader request uris, q ≠ .join leader request uris := by
  cases q <;> simp [JoinFree]

@[simp] theorem joinFree_log {level : LogLevel} {message : String} : (log level message).JoinFree := trivial

@[simp] theorem joinFree_record {about : ObjectReference} {event : Event} :
    (record about event).JoinFree := trivial

@[simp] theorem deedFree_get {k : Kind} {ns name : String} :
    (store (.get k ns name)).DeedFree ↔ k.isCustom = false := Iff.rfl

@[simp] theorem deedFree_list {k : Kind} {ns : String} {selector : Labels} :
    (store (.list k ns selector)).DeedFree ↔ k ≠ .cluster := Iff.rfl

@[simp] theorem deedFree_create {k : Kind} {o : k.Object} :
    (store (.create k o)).DeedFree ↔ k.isCustom = false ∧ k ≠ .statefulSet := Iff.rfl

@[simp] theorem deedFree_replace {k : Kind} {o : k.Object} :
    (store (.replace k o)).DeedFree ↔ k.isCustom = false := Iff.rfl

@[simp] theorem deedFree_admin {q : AdminRequest} : (admin q).DeedFree ↔ Inquires q := Iff.rfl

@[simp] theorem deedFree_record {about : ObjectReference} {event : Event} :
    (record about event).DeedFree ↔ event.severity = .normal := Iff.rfl

@[simp] theorem deedFreeOr_iff {deed : Request → Prop} {q : Request} :
    q.DeedFreeOr deed ↔ q.DeedFree ∨ deed q := Iff.rfl

@[simp] theorem deedFree_log {level : LogLevel} {message : String} : (log level message).DeedFree := trivial

end Request

theorem Program.Only.joinFree {α : Type} {p : Act α} (h : p.Only Request.DeedFree) : p.Only Request.JoinFree :=
  h.imp fun _ => Request.DeedFree.joinFree

/-! ### What the talk of a pass tells -/

namespace Turn

/-- The cluster that the store gave. -/
def cluster? : Turn Surroundings → Option Cluster
  | ⟨.store (.get .cluster _ _), .ok found⟩ => found
  | ⟨.store (.replaceStatus .cluster _), .ok stored⟩ => some stored
  | _ => none

/-- A pod that was found has the name that it was looked for by. -/
def NamesPod : Turn Surroundings → Prop
  | ⟨.store (.get .pod _ name), .ok (some pod)⟩ => pod.name = name
  | _ => True

/-- A pod that was found by a name has one. -/
def FindsNamed : Turn Surroundings → Prop
  | ⟨.store (.get .pod _ name), .ok (some pod)⟩ => name ≠ "" → pod.name ≠ ""
  | _ => True

theorem NamesPod.findsNamed {e : Turn Surroundings} (h : e.NamesPod) : e.FindsNamed := by
  unfold FindsNamed
  split
  next ns name pod =>
    have heq : pod.name = name := h
    exact fun hname => heq ▸ hname
  next => trivial

/-- A cluster's status that was accepted is the one that was given. -/
def TakesStatus : Turn Surroundings → Prop
  | ⟨.store (.replaceStatus .cluster given), .ok stored⟩ => stored.status = given.status
  | _ => True

theorem cluster?_of_elsewhere {q : Request} (hq : q.Elsewhere) (a : q.Answer) :
    cluster? ⟨q, a⟩ = none := by
  unfold cluster?
  split
  next h => cases h; exact absurd rfl hq
  next h => cases h; exact absurd rfl hq
  next => rfl

theorem takesStatus_of_elsewhere {q : Request} (hq : q.Elsewhere) (a : q.Answer) :
    TakesStatus ⟨q, a⟩ := by
  unfold TakesStatus
  split
  next h => cases h; exact absurd rfl hq
  next => trivial

theorem cluster?_error (q : StoreRequest) (e : OperatorError) :
    cluster? ⟨Request.store q, @Except.error OperatorError (no_index q.Result) e⟩ = none := by
  unfold cluster?
  split
  next h => cases h
  next h => cases h
  next => rfl

theorem takesStatus_error (q : StoreRequest) (e : OperatorError) :
    TakesStatus ⟨Request.store q, @Except.error OperatorError (no_index q.Result) e⟩ := by
  unfold TakesStatus
  split
  next h => cases h
  next => trivial

end Turn

namespace Talk

variable {t : Talk Surroundings}

/-- The cluster that the store gave last. -/
def copy (t : Talk Surroundings) : Option Cluster := t.findSome? Turn.cluster?

/-- All pods that were found have the names that they were looked for by. -/
def NamesPods (t : Talk Surroundings) : Prop := ∀ e ∈ t, e.NamesPod

/-- All pods that were found by a name have one. -/
def FindsNamed (t : Talk Surroundings) : Prop := ∀ e ∈ t, e.FindsNamed

/-- All statuses of clusters that were accepted are those that were given. -/
def TakesStatus (t : Talk Surroundings) : Prop := ∀ e ∈ t, e.TakesStatus

@[simp] theorem namesPods_cons {e : Turn Surroundings} :
    NamesPods (e :: t) ↔ e.NamesPod ∧ t.NamesPods := List.forall_mem_cons

@[simp] theorem findsNamed_cons {e : Turn Surroundings} :
    FindsNamed (e :: t) ↔ e.FindsNamed ∧ t.FindsNamed := List.forall_mem_cons

theorem NamesPods.findsNamed (h : t.NamesPods) : t.FindsNamed := fun e he => (h e he).findsNamed

@[simp] theorem takesStatus_cons {e : Turn Surroundings} :
    TakesStatus (e :: t) ↔ e.TakesStatus ∧ t.TakesStatus := List.forall_mem_cons

theorem name_of_namesPods {ns name : String} {pod : Pod}
    (h : NamesPods (⟨Request.store (.get .pod ns name), Except.ok (some pod)⟩ :: t)) :
    pod.name = name := (namesPods_cons.1 h).1

theorem name_ne_empty_of_findsNamed {ns name : String} {pod : Pod} (hname : name ≠ "")
    (h : FindsNamed (⟨Request.store (.get .pod ns name), Except.ok (some pod)⟩ :: t)) : pod.name ≠ "" :=
  (findsNamed_cons.1 h).1 hname

theorem copy_cons_of_some {e : Turn Surroundings} {k : Cluster} (h : e.cluster? = some k) :
    copy (e :: t) = some k := by
  rw [copy, List.findSome?_cons, h]

theorem copy_cons_of_none {e : Turn Surroundings} (h : e.cluster? = none) :
    copy (e :: t) = t.copy := by
  rw [copy, List.findSome?_cons, h, copy]

/-- A request that does not concern clusters leaves the copy alone. -/
@[simp] theorem copy_cons {q : Request} (hq : q.Elsewhere) (a : q.Answer) : copy (⟨q, a⟩ :: t) = t.copy :=
  copy_cons_of_none (Turn.cluster?_of_elsewhere hq a)

/-- A request that fails leaves the copy alone. -/
@[simp] theorem copy_cons_error (q : StoreRequest) (e : OperatorError) :
    copy (⟨Request.store q, @Except.error OperatorError (no_index q.Result) e⟩ :: t) = t.copy :=
  copy_cons_of_none (Turn.cluster?_error q e)

/-- The copy comes from an answer. -/
theorem exists_of_copy {k : Cluster} (h : t.copy = some k) : ∃ e ∈ t, e.cluster? = some k := by
  obtain ⟨_, e, _, rfl, he, _⟩ := List.findSome?_eq_some_iff.1 h
  exact ⟨e, List.mem_append_right _ List.mem_cons_self, he⟩

end Talk

/-! ### Rules for requests -/

section

variable {rule : Talk Surroundings → Request → Prop} {t : Talk Surroundings}

attribute [simp] Attempt.get Attempt.list Attempt.create Attempt.replace Attempt.replaceStatus
  StoreRequest.kind

@[simp] theorem keepsOr_store (q : StoreRequest) {ok : Talk Surroundings → q.Result → Prop}
    {fails : Talk Surroundings → OperatorError → Prop} :
    @KeepsOr Surroundings (no_index q.Result) OperatorError rule (Attempt.store q) ok fails t ↔
      rule t (.store q) ∧ (∀ a, ok (⟨Request.store q, Except.ok a⟩ :: t) a) ∧
        ∀ e, fails (⟨Request.store q, Except.error e⟩ :: t) e := by
  refine and_congr_right fun _ => ⟨fun h => ⟨fun a => h (.ok a), fun e => h (.error e)⟩, fun h a => ?_⟩
  cases a with
  | ok a => exact h.1 a
  | error e => exact h.2 e

@[simp] theorem keepsOr_ask (q : AdminRequest) {ok : Talk Surroundings → q.Result → Prop}
    {fails : Talk Surroundings → AdminError → Prop} :
    @KeepsOr Surroundings (no_index q.Result) AdminError rule (Act.admin q) ok fails t ↔
      rule t (.admin q) ∧ (∀ a, ok (⟨Request.admin q, Except.ok a⟩ :: t) a) ∧
        ∀ e, fails (⟨Request.admin q, Except.error e⟩ :: t) e := by
  refine and_congr_right fun _ => ⟨fun h => ⟨fun a => h (.ok a), fun e => h (.error e)⟩, fun h a => ?_⟩
  cases a with
  | ok a => exact h.1 a
  | error e => exact h.2 e

@[simp] theorem keepsOr_admin (q : AdminRequest) {ok : Talk Surroundings → q.Result → Prop}
    {fails : Talk Surroundings → OperatorError → Prop} :
    @KeepsOr Surroundings (no_index q.Result) OperatorError rule (Attempt.admin q) ok fails t ↔
      rule t (.admin q) ∧ (∀ a, ok (⟨Request.admin q, Except.ok a⟩ :: t) a) ∧
        ∀ e, fails (⟨Request.admin q, Except.error e⟩ :: t) (.admin e) :=
  (keepsOr_mapError _ _).trans (keepsOr_ask q)

@[simp] theorem keeps_log (level : LogLevel) (message : String)
    {fits : Talk Surroundings → Unit → Prop} :
    Keeps rule (Act.log level message) fits t ↔
      rule t (.log level message) ∧ fits (⟨Request.log level message, ()⟩ :: t) () :=
  and_congr_right fun _ => ⟨fun h => h (), fun h _ => h⟩

@[simp] theorem keeps_record (about : ObjectReference) (event : Event)
    {fits : Talk Surroundings → Unit → Prop} :
    Keeps rule (Act.record about event) fits t ↔
      rule t (.record about event) ∧ fits (⟨Request.record about event, ()⟩ :: t) () :=
  and_congr_right fun _ => ⟨fun h => h (), fun h _ => h⟩

@[simp] theorem keepsOr_log (level : LogLevel) (message : String)
    {ok : Talk Surroundings → Unit → Prop} {fails : Talk Surroundings → OperatorError → Prop} :
    KeepsOr rule (Attempt.log level message) ok fails t ↔
      Keeps rule (Act.log level message) ok t := keepsOr_lift _

@[simp] theorem keepsOr_record (about : ObjectReference) (event : Event)
    {ok : Talk Surroundings → Unit → Prop} {fails : Talk Surroundings → OperatorError → Prop} :
    KeepsOr rule (Attempt.record about event) ok fails t ↔
      Keeps rule (Act.record about event) ok t := keepsOr_lift _

end

/-! ### Courses -/

theorem goes_run_admin {q : AdminRequest} {t t' : Talk Surroundings} {r : Except OperatorError q.Result} :
    Program.Goes (I := Surroundings) (Attempt.admin q).run t t' r ↔
      ∃ a : Except AdminError q.Result, t' = ⟨Request.admin q, a⟩ :: t ∧ r = a.mapError .admin := by
  rw [Attempt.admin, ExceptT.run_mk, goes_bind]
  constructor
  · rintro ⟨t₁, a, hasked, rfl, rfl⟩
    exact ⟨a, goes_question.1 hasked, rfl⟩
  · rintro ⟨a, rfl, rfl⟩
    exact ⟨_, a, goes_question.2 rfl, rfl, rfl⟩

theorem goes_run_log {level : LogLevel} {message : String} {t t' : Talk Surroundings} {r : Except OperatorError Unit} :
    Program.Goes (I := Surroundings) (Attempt.log level message).run t t' r ↔
      t' = ⟨Request.log level message, ()⟩ :: t ∧ r = .ok () := by
  constructor
  · rintro ⟨_, rfl, rfl⟩
    exact ⟨rfl, rfl⟩
  · rintro ⟨rfl, rfl⟩
    exact ⟨(), rfl, rfl⟩

end ClusterKeeper
