import ClusterKeeper.Proofs.Pass.Requests
import ClusterKeeper.Proofs.Resource.ClusterStatus
import ClusterKeeper.Replicaset.Identity

/-!
The rule that passes ask by. A pass writes nothing of a cluster but its status, and that only over the
copy that the store gave it last: what it writes is an advance of this copy, and has a leader when the
copy has one and pods that are found by a name have one. Instances are joined through the leader that the
copy records, and only if the leader joins with them or is part of a topology already.

A program whose requests are all `JoinFree` obeys the rule whatever it does, and keeps what does not depend
on such requests (`keeps_of_joinFree`).
-/

namespace ClusterKeeper

open Program

/-- A pod leads a cluster, as far as the store was right about pods and statuses. -/
def Leads (t : Talk Surroundings) (k : Cluster) (leader : Pod) : Prop :=
  t.NamesPods → t.TakesStatus → k.foreignLeader = none → k.electedLeader = some leader.name

theorem Leads.of_suffix {t t' : Talk Surroundings} {k : Cluster} {leader : Pod} (h : Leads t k leader)
    (hsuffix : t <:+ t') : Leads t' k leader :=
  fun hn hs => h (fun e he => hn e (hsuffix.mem he)) (fun e he => hs e (hsuffix.mem he))

/-- The instance of a pod has told that it is part of a topology. -/
def Placed (t : Talk Surroundings) (pod : Pod) : Prop :=
  ∃ uuid, uuid ≠ "" ∧ (⟨Request.admin (.instanceUuid pod), Except.ok uuid⟩ : Turn Surroundings) ∈ t

/-- The leader joins itself, or is part of a topology. -/
def SoundJoin (t : Talk Surroundings) (k : Cluster) (leader : Pod) (uris : List String) : Prop :=
  k.advertiseUri leader.name ∈ uris ∨ Placed t leader

/-- The rule of passes. -/
def Proper (t : Talk Surroundings) : Request → Prop
  | .store (.replaceStatus .cluster given) =>
    ∃ base, t.copy = some base ∧ given.metadata = base.metadata ∧ base.Advances given ∧
      (t.FindsNamed → base.electedLeader ≠ none → given.electedLeader ≠ none)
  | .store (.get ..) => True
  | .store q => q.kind ≠ .cluster
  | .admin (.join leader _ uris) =>
    ∃ k, t.copy = some k ∧ SoundJoin t k leader uris ∧ Leads t k leader
  | _ => True

/-- A rule by which every request may be made that is no deed. -/
class AdmitsDeedFree (rule : Talk Surroundings → Request → Prop) : Prop where
  of_deedFree : ∀ t q, q.DeedFree → rule t q

/-- A rule by which every request may be made that is free of joins. -/
class AdmitsJoinFree (rule : Talk Surroundings → Request → Prop) : Prop where
  of_joinFree : ∀ t q, q.JoinFree → rule t q

instance {rule : Talk Surroundings → Request → Prop} [AdmitsJoinFree rule] : AdmitsDeedFree rule :=
  ⟨fun t q h => AdmitsJoinFree.of_joinFree t q h.joinFree⟩

/-- A rule that admits what is no deed lets every line of the log pass. -/
theorem keeps_log_iff {rule : Talk Surroundings → Request → Prop} [AdmitsDeedFree rule] {t : Talk Surroundings}
    {level : LogLevel} {message : String} {fits : Talk Surroundings → Unit → Prop} :
    Keeps rule (Act.log level message) fits t ↔ fits (⟨Request.log level message, ()⟩ :: t) () :=
  (keeps_log level message).trans (and_iff_right (AdmitsDeedFree.of_deedFree _ _ Request.deedFree_log))

theorem keepsOr_lift_log_bind {rule : Talk Surroundings → Request → Prop} [AdmitsDeedFree rule] {t : Talk Surroundings}
    {α ε : Type} {level : LogLevel} {message : String} {x : ExceptT ε Act α}
    {ok : Talk Surroundings → α → Prop} {fails : Talk Surroundings → ε → Prop} :
    KeepsOr rule (do ExceptT.lift (Act.log level message); x) ok fails t ↔
      KeepsOr rule x ok fails (⟨Request.log level message, ()⟩ :: t) := by
  rw [keepsOr_bind, keepsOr_lift, keeps_log_iff]

theorem keepsOr_log_bind {rule : Talk Surroundings → Request → Prop} [AdmitsDeedFree rule] {t : Talk Surroundings}
    {α : Type} {level : LogLevel} {message : String} {x : Attempt α} {ok : Talk Surroundings → α → Prop}
    {fails : Talk Surroundings → OperatorError → Prop} :
    KeepsOr rule (do Attempt.log level message; x) ok fails t ↔
      KeepsOr rule x ok fails (⟨Request.log level message, ()⟩ :: t) := keepsOr_lift_log_bind

instance : AdmitsJoinFree Proper where
  of_joinFree t q h := by
    unfold Proper
    split
    · exact absurd rfl h.1
    · trivial
    · exact h.1
    · exact h.elim
    · trivial

@[simp] theorem proper_of_joinFree {t : Talk Surroundings} {q : Request} (h : q.JoinFree) : Proper t q :=
  AdmitsJoinFree.of_joinFree t q h

/-! ### What programs without joins keep -/

/-- A condition on talks that requests which do not concern clusters leave alone. -/
def Persists (inv : Talk Surroundings → Prop) : Prop :=
  ∀ t (q : Request) (a : q.Answer), q.Elsewhere → inv t → inv (⟨q, a⟩ :: t)

section

variable {α ε : Type} {inv : Talk Surroundings → Prop} {t : Talk Surroundings}
  {rule : Talk Surroundings → Request → Prop} [AdmitsJoinFree rule]

theorem keeps_of_joinFree {p : Act α} (hp : p.Only Request.JoinFree) (hinv : Persists inv) (ht : inv t) :
    Keeps rule p (fun t _ => inv t) t :=
  hp.keeps (fun t q _ hq => AdmitsJoinFree.of_joinFree t q hq) (fun t q a h hq => hinv t q a hq.elsewhere h) ht

theorem keepsOr_of_joinFree {x : ExceptT ε Act α} (hx : x.run.Only Request.JoinFree) (hinv : Persists inv)
    (ht : inv t) : KeepsOr rule x (fun t _ => inv t) (fun t _ => inv t) t :=
  (keeps_run x).1 (keeps_of_joinFree hx hinv ht)

theorem persists_copy (k : Option Cluster) : Persists fun t => t.copy = k :=
  fun _ _ a hq ht => (Talk.copy_cons hq a).trans ht

theorem persists_leads (k : Cluster) (leader : Pod) : Persists fun t => Leads t k leader :=
  fun t _ _ _ ht => ht.of_suffix (List.suffix_cons _ t)

/-- What follows from a condition on all turns so far follows from it later. -/
theorem persists_of_all (holds : Turn Surroundings → Prop) (p : Prop) :
    Persists fun t => (∀ e ∈ t, holds e) → p :=
  fun _ _ _ _ ht hall => ht fun e he => hall e (List.mem_cons_of_mem _ he)

theorem persists_soundJoin (k : Cluster) (leader : Pod) (uris : List String) :
    Persists fun t => SoundJoin t k leader uris := by
  intro t q a _ ht
  refine ht.imp_right fun ⟨uuid, hne, hmem⟩ => ⟨uuid, hne, List.mem_cons_of_mem _ hmem⟩

theorem persists_const (p : Prop) : Persists fun _ => p := fun _ _ _ _ ht => ht

theorem Persists.and {inv' : Talk Surroundings → Prop} (h : Persists inv) (h' : Persists inv') :
    Persists fun t => inv t ∧ inv' t :=
  fun t q a hq ht => ⟨h t q a hq ht.1, h' t q a hq ht.2⟩

theorem Persists.or {inv' : Talk Surroundings → Prop} (h : Persists inv) (h' : Persists inv') :
    Persists fun t => inv t ∨ inv' t :=
  fun t q a hq ht => ht.imp (h t q a hq) (h' t q a hq)

/-- A line of the log does not matter, and nor does an event. -/
theorem Persists.keepsOr_log {level : LogLevel} {message : String} {x : Attempt α}
    {ok : Talk Surroundings → α → Prop} {fails : Talk Surroundings → OperatorError → Prop}
    (hinv : Persists inv) (ht : inv t) (hx : ∀ t, inv t → KeepsOr rule x ok fails t) :
    KeepsOr rule (do Attempt.log level message; x) ok fails t := by
  rw [keepsOr_bind, ClusterKeeper.keepsOr_log, keeps_log]
  exact ⟨AdmitsJoinFree.of_joinFree _ _ Request.joinFree_log, hx _ (hinv t _ _ Request.elsewhere_log ht)⟩

theorem Persists.keepsOr_record {about : ObjectReference} {event : Event} {x : Attempt α}
    {ok : Talk Surroundings → α → Prop} {fails : Talk Surroundings → OperatorError → Prop}
    (hinv : Persists inv) (ht : inv t) (hx : ∀ t, inv t → KeepsOr rule x ok fails t) :
    KeepsOr rule (do Attempt.record about event; x) ok fails t := by
  rw [keepsOr_bind, ClusterKeeper.keepsOr_record, keeps_record]
  exact ⟨AdmitsJoinFree.of_joinFree _ _ Request.joinFree_record, hx _ (hinv t _ _ Request.elsewhere_record ht)⟩

end

end ClusterKeeper
