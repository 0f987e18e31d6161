import ClusterKeeper.Pass.Step
import ClusterKeeper.Proofs.Pass.Conduct
import ClusterKeeper.Proofs.Program.Interleaving
import Mathlib.Data.List.Pairwise

/-!
The store as many passes see one cluster. Its states are kept in a `History`. A status is accepted only
over the present version and then changes nothing else; whatever changes the cluster gives it a version
that it never had; others may change all but the status at any time. Nothing more is assumed: reads may
be stale, any request may fail, and anything may be answered about other objects.

The invariant: every state advances from those before it, and every pass holds states of the history
only. A pass that keeps to the rule writes over a state that it was given, so when the write is accepted
this state is the present one (`reply_keeps`).
-/

namespace ClusterKeeper

/-- The version of a cluster. -/
def Cluster.version (k : Cluster) : Option String := k.metadata.resourceVersion

/-- The namespace and name of a cluster. -/
def Cluster.key (k : Cluster) : ObjectKey := ObjectKey.ofMeta k.metadata

/-- The states of a cluster: the present one, and those before it, the latest first. -/
structure History where
  now : Cluster
  past : List Cluster

namespace History

/-- A history without a past. -/
def start (k : Cluster) : History := ⟨k, []⟩

/-- All states. -/
def states (h : History) : List Cluster := h.now :: h.past

/-- The history after a change. -/
def change (h : History) (k : Cluster) : History := ⟨k, h.states⟩

/-- A state with a version that there never was. -/
def Fresh (h : History) (k : Cluster) : Prop := ∀ k' ∈ h.states, k.version ≠ k'.version

end History

/-- Requests about whole clusters, which may do anything to them. -/
def StoreRequest.Sweeping : StoreRequest → Prop
  | list k .. => k = .cluster
  | create k _ => k = .cluster
  | replace k _ => k = .cluster
  | get .. => False
  | replaceStatus .. => False

/-- How the store may answer with the cluster of a key, and what that makes of its history. -/
inductive Reply (key : ObjectKey) : History → (q : Request) → q.Answer → History → Prop
  | elsewhere {h q a} : q.Elsewhere → Reply key h q a h
  | refused {h q e} : Reply key h (.store q) (Except.error e) h
  | read {h ns name} {found : Option Cluster} : (∀ k, found = some k → k.key = key → k ∈ h.states) →
      Reply key h (.store (.get .cluster ns name)) (Except.ok found) h
  | changed {h} {given stored : Cluster} : given.key = key → given.version = h.now.version →
      stored.status = given.status → stored.spec = h.now.spec →
      stored.metadata = { h.now.metadata with resourceVersion := stored.version } →
      h.Fresh stored →
      Reply key h (.store (.replaceStatus .cluster given)) (Except.ok stored) (h.change stored)
  | unchanged {h} {given : Cluster} : given.key = key → given.version = h.now.version →
      given.status = h.now.status →
      Reply key h (.store (.replaceStatus .cluster given)) (Except.ok h.now) h
  | other {h} {given stored : Cluster} : given.key ≠ key → stored.key ≠ key →
      stored.status = given.status →
      Reply key h (.store (.replaceStatus .cluster given)) (Except.ok stored) h
  | sweeping {h h' q a} : StoreRequest.Sweeping q → Reply key h (.store q) a h'

/-- Somebody else changes the cluster, but not its status. -/
def Edit (h h' : History) : Prop :=
  ∃ k, h' = h.change k ∧ k.status = h.now.status ∧ k.key = h.now.key ∧ h.Fresh k

/-- The store with the cluster of a key. -/
def storeOf (key : ObjectKey) : Environment Surroundings History := ⟨Reply key, Edit⟩

/-! ### The invariant -/

/-- The states of a history have the same key and different versions, and each advances from those
before it. -/
structure History.Consistent (key : ObjectKey) (h : History) : Prop where
  keys : ∀ k ∈ h.states, k.key = key
  versions : h.states.Pairwise fun k k' => k.version ≠ k'.version
  order : h.states.Pairwise fun later earlier => Relation.ReflTransGen Cluster.Advances earlier later

/-- A talk gave only states of the history for the cluster of a key. -/
structure Known (key : ObjectKey) (h : History) (t : Talk Surroundings) : Prop where
  states : ∀ e ∈ t, ∀ k, e.cluster? = some k → k.key = key → k ∈ h.states
  takes : t.TakesStatus

namespace History

variable {key : ObjectKey} {h : History} {k k' : Cluster} {t : Talk Surroundings}

theorem consistent_start (k : Cluster) : (start k).Consistent k.key where
  keys _ hk' := by rw [List.mem_singleton.1 hk', start]
  versions := List.pairwise_singleton _ _
  order := List.pairwise_singleton _ _

/-- A version belongs to one state. -/
theorem Consistent.eq_of_version (hh : h.Consistent key) (hk : k ∈ h.states) (hk' : k' ∈ h.states)
    (hv : k.version = k'.version) : k = k' := by
  refine List.Pairwise.forall_of_forall_of_flip (R := fun k k' => k.version = k'.version → k = k')
    (fun _ _ _ => rfl) ?_ ?_ hk hk' hv
  · exact hh.versions.imp fun hne heq => absurd heq hne
  · exact hh.versions.imp fun hne heq => absurd heq.symm hne

/-- Of two states one advances from the other. -/
theorem Consistent.total (hh : h.Consistent key) (hk : k ∈ h.states) (hk' : k' ∈ h.states) :
    Relation.ReflTransGen Cluster.Advances k k' ∨ Relation.ReflTransGen Cluster.Advances k' k := by
  refine List.Pairwise.forall_of_forall_of_flip
    (R := fun k k' => Relation.ReflTransGen Cluster.Advances k k' ∨
      Relation.ReflTransGen Cluster.Advances k' k)
    (fun _ _ => Or.inl .refl) ?_ ?_ hk hk'
  · exact hh.order.imp Or.inr
  · exact hh.order.imp Or.inl

/-- A change that advances keeps a history consistent. -/
theorem Consistent.change (hh : h.Consistent key) (hkey : k.key = key) (hfresh : h.Fresh k)
    (hnow : h.now.Advances k) : (h.change k).Consistent key where
  keys := List.forall_mem_cons.2 ⟨hkey, hh.keys⟩
  versions := List.pairwise_cons.2 ⟨hfresh, hh.versions⟩
  order := by
    refine List.pairwise_cons.2 ⟨fun k' hk' => ?_, hh.order⟩
    rcases List.mem_cons.1 hk' with rfl | hpast
    · exact .single hnow
    · exact .tail ((List.pairwise_cons.1 hh.order).1 k' hpast) hnow

end History

section

variable {key : ObjectKey} {h h' : History} {t t' : Talk Surroundings}

theorem Known.mono (ht : Known key h t) (hstates : ∀ k ∈ h.states, k ∈ h'.states) : Known key h' t :=
  ⟨fun e he k hk hkey => hstates k (ht.states e he k hk hkey), ht.takes⟩

theorem Known.cons {e : Turn Surroundings} (ht : Known key h t)
    (hcluster : ∀ k, e.cluster? = some k → k.key = key → k ∈ h.states) (htakes : e.TakesStatus) :
    Known key h (e :: t) :=
  ⟨List.forall_mem_cons.2 ⟨hcluster, ht.states⟩, Talk.takesStatus_cons.2 ⟨htakes, ht.takes⟩⟩

/-- The copy of a pass is a state of the history. -/
theorem Known.copy_mem {k : Cluster} (ht : Known key h t) (hcopy : t.copy = some k)
    (hkey : k.key = key) : k ∈ h.states := by
  obtain ⟨e, he, hk⟩ := Talk.exists_of_copy hcopy
  exact ht.states e he k hk hkey

/-- A status that is accepted was written over the present state. -/
theorem Known.now_of_proper {given : Cluster} (hh : h.Consistent key) (ht : Known key h t)
    (hrule : Proper t (.store (.replaceStatus .cluster given))) (hkey : given.key = key)
    (hversion : given.version = h.now.version) :
    h.now.Advances given ∧
      (t.FindsNamed → h.now.electedLeader ≠ none → given.electedLeader ≠ none) := by
  obtain ⟨base, hcopy, hmeta, hwritten⟩ := hrule
  have hbase : base.key = key := by rw [← hkey, Cluster.key, Cluster.key, hmeta]
  have hnow : base = h.now := by
    refine hh.eq_of_version (ht.copy_mem hcopy hbase) List.mem_cons_self ?_
    rw [← hversion, Cluster.version, Cluster.version, hmeta]
  exact hnow ▸ hwritten

/-- A pass that keeps to the rule does not ask for whole clusters. -/
theorem StoreRequest.Sweeping.not_proper {q : StoreRequest} (hq : q.Sweeping) : ¬Proper t (.store q) := by
  cases q with
  | list k ns selector => exact fun hrule => hrule hq
  | create k o => exact fun hrule => hrule hq
  | replace k o => exact fun hrule => hrule hq
  | get k ns name => exact hq.elim
  | replaceStatus k o => exact hq.elim

/-- An answer lets the present state advance when the request kept to the rule. -/
theorem reply_advances {q : Request} {a : q.Answer} (hh : h.Consistent key) (ht : Known key h t)
    (hrule : Proper t q) (hreply : Reply key h q a h') :
    h.now.Advances h'.now ∧
      (t.FindsNamed → h.now.electedLeader ≠ none → h'.now.electedLeader ≠ none) := by
  have hsame : h.now.Advances h.now ∧
      (t.FindsNamed → h.now.electedLeader ≠ none → h.now.electedLeader ≠ none) :=
    ⟨Cluster.advances_of_status_eq rfl, fun _ hled => hled⟩
  cases hreply with
  | elsewhere _ => exact hsame
  | refused => exact hsame
  | read _ => exact hsame
  | changed hkey hversion hstatus _ _ _ =>
    obtain ⟨hadvances, hled⟩ := ht.now_of_proper hh hrule hkey hversion
    refine ⟨hadvances.trans_status hstatus, fun hn hnow => ?_⟩
    exact Cluster.electedLeader_congr hstatus ▸ hled hn hnow
  | unchanged _ _ _ => exact hsame
  | other _ _ _ => exact hsame
  | sweeping hq => exact absurd hrule hq.not_proper

/-- An answer keeps the invariant when the request kept to the rule. -/
theorem reply_keeps {q : Request} {a : q.Answer} (hh : h.Consistent key) (ht : Known key h t)
    (hrule : Proper t q) (hreply : Reply key h q a h') :
    h'.Consistent key ∧ Known key h' (⟨q, a⟩ :: t) ∧ ∀ t', Known key h t' → Known key h' t' := by
  have hadvances := (reply_advances hh ht hrule hreply).1
  cases hreply with
  | elsewhere hq =>
    refine ⟨hh, ht.cons (fun k hk => ?_) (Turn.takesStatus_of_elsewhere hq a), fun _ ht' => ht'⟩
    rw [Turn.cluster?_of_elsewhere hq a] at hk
    exact absurd hk.symm (Option.some_ne_none k)
  | @refused q e =>
    refine ⟨hh, ht.cons (fun k hk => ?_) (Turn.takesStatus_error q e), fun _ ht' => ht'⟩
    rw [Turn.cluster?_error q e] at hk
    exact absurd hk.symm (Option.some_ne_none k)
  | read hfound => exact ⟨hh, ht.cons hfound trivial, fun _ ht' => ht'⟩
  | @changed given stored hkey hversion hstatus hspec hmeta hfresh =>
    have hstored : stored.key = key := by
      rw [← hh.keys h.now List.mem_cons_self, Cluster.key, Cluster.key, hmeta]
      rfl
    have hmono : ∀ t', Known key h t' → Known key (h.change stored) t' :=
      fun t' ht' => ht'.mono fun k hk => List.mem_cons_of_mem _ hk
    refine ⟨hh.change hstored hfresh hadvances, (hmono t ht).cons (fun k hk _ => ?_) hstatus, hmono⟩
    exact Option.some.inj hk ▸ List.mem_cons_self
  | unchanged hkey hversion hstatus =>
    refine ⟨hh, ht.cons (fun k hk _ => ?_) hstatus.symm, fun _ ht' => ht'⟩
    exact Option.some.inj hk ▸ List.mem_cons_self
  | other hkey hstored hstatus =>
    refine ⟨hh, ht.cons (fun k hk hkey' => ?_) hstatus, fun _ ht' => ht'⟩
    exact absurd (Option.some.inj hk ▸ hkey') hstored
  | sweeping hq => exact absurd hrule hq.not_proper

/-- An edit keeps the invariant. -/
theorem edit_keeps (hh : h.Consistent key) (hedit : Edit h h') :
    h'.Consistent key ∧ ∀ t', Known key h t' → Known key h' t' := by
  obtain ⟨k, rfl, hstatus, hkey, hfresh⟩ := hedit
  refine ⟨hh.change (hkey.trans (hh.keys _ List.mem_cons_self)) hfresh ?_, fun t' ht' => ?_⟩
  · exact Cluster.advances_of_status_eq hstatus
  · exact ht'.mono fun k hk => List.mem_cons_of_mem _ hk

/-- Programs that keep to the rule keep the invariant of the store. -/
theorem storeOf_invariant {α : Type} {starts : Act α → Prop}
    (hstarts : ∀ p, starts p → p.Keeps Proper (fun _ _ => True) []) :
    System.Invariant (storeOf key) starts Proper (History.Consistent key) (Known key) where
  start := hstarts
  nil _ _ := ⟨fun _ he => absurd he List.not_mem_nil, fun _ he => absurd he List.not_mem_nil⟩
  reply := reply_keeps
  drift hh hedit := edit_keeps hh hedit

end

end ClusterKeeper
