import ClusterKeeper.Proofs.Election.Loss
import ClusterKeeper.Proofs.Kubernetes.Labels
import Mathlib.Data.List.Nodup

/-!
What a search for a leader finds. The `Findings` of a talk say of each name which pod there is, and what its
instance says when it is asked whether it can lead, as far as the talk tells.

A talk may be told by no findings, when a pod is looked up twice and is another the second time. A search never
does that: roles of distinct names have instances of distinct names (`instances_nodup`), and each of these is
looked up at most once, in the order in which they are listed (`search_looks`). So there are findings that fit
every election (`exists_fits`).
-/

namespace ClusterKeeper

open Program

/-! ### The names of instances -/

/-- What follows the last mark of a text tells what is before it. -/
theorem append_mark_inj {mark : Char} {cs cs' ds ds' : List Char} (hds : mark ∉ ds) (hds' : mark ∉ ds')
    (h : cs ++ mark :: ds = cs' ++ mark :: ds') : cs = cs' ∧ ds = ds' := by
  rcases List.append_eq_append_iff.1 h with ⟨as, hcs, hrest⟩ | ⟨as, hcs, hrest⟩
  · cases as with
    | nil => simp_all
    | cons a as =>
      obtain ⟨rfl, rfl⟩ := List.cons.inj hrest
      simp at hds
  · cases as with
    | nil => simp_all
    | cons a as =>
      obtain ⟨rfl, rfl⟩ := List.cons.inj hrest
      simp at hds'

theorem toDigits_inj {n n' : Nat} (h : Nat.toDigits 10 n = Nat.toDigits 10 n') : n = n' := by
  rw [← foldl_toDigits n, h, foldl_toDigits]

/-- A text that ends with a mark and a number tells both parts. -/
theorem append_integerText_inj {s s' : String} {n n' : Nat}
    (h : s ++ "-" ++ Labels.integerText n = s' ++ "-" ++ Labels.integerText n') : s = s' ∧ n = n' := by
  have hdigits : ∀ m : Nat, '-' ∉ Nat.toDigits 10 m := by
    intro m hmem
    have hdigit : '-'.isDigit = true := Nat.isDigit_of_mem_toDigits (by decide) (by decide) hmem
    simp at hdigit
  have htext : ∀ (s : String) (m : Nat),
      (s ++ "-" ++ Labels.integerText m).toList = s.toList ++ '-' :: Nat.toDigits 10 m := by
    intro s m
    simp [Labels.integerText, Json.integer]
  have hlists := congrArg String.toList h
  rw [htext, htext] at hlists
  obtain ⟨hs, hn⟩ := append_mark_inj (hdigits n) (hdigits n') hlists
  exact ⟨String.toList_inj.1 hs, toDigits_inj hn⟩

namespace Election

variable {t t' : Talk Surroundings} {cluster : Cluster} {previous : Option String} {roles : List Role}

/-- The name of an instance tells its role, its replicaset and its replica. -/
theorem instanceName_inj {role role' : Role} {replicaset replicaset' replica replica' : Nat}
    (h : instanceName role replicaset replica = instanceName role' replicaset' replica') :
    KubeObject.name role = KubeObject.name role' ∧ replicaset = replicaset' ∧ replica = replica' := by
  obtain ⟨hreplicaset, hreplica⟩ := append_integerText_inj h
  obtain ⟨hrole, hordinal⟩ := append_integerText_inj hreplicaset
  exact ⟨hrole, hordinal, hreplica⟩

/-- The names of all instances that a search may look up, in their order. -/
def instances (roles : List Role) : List String :=
  (List.range' 0 (largest Role.replicas roles)).flatMap fun replica =>
    (List.range' 0 (largest Role.replicasets roles)).flatMap fun replicaset =>
      roles.flatMap fun role => [instanceName role replicaset replica]

/-- Roles of distinct names have instances of distinct names. -/
theorem instances_nodup (h : (roles.map KubeObject.name).Nodup) : (instances roles).Nodup := by
  have hroles : roles.Pairwise fun role role' => KubeObject.name role ≠ KubeObject.name role' :=
    List.pairwise_map.1 h
  rw [instances]
  refine List.nodup_flatMap.2 ⟨fun replica _ => List.nodup_flatMap.2 ⟨fun replicaset _ => ?_, ?_⟩, ?_⟩
  · refine List.nodup_flatMap.2 ⟨fun role _ => List.nodup_singleton _, hroles.imp fun hne name hname hname' => ?_⟩
    rw [List.mem_singleton] at hname hname'
    exact hne (instanceName_inj (hname.symm.trans hname')).1
  · refine (List.nodup_range' 1).imp fun hne name hname hname' => ?_
    simp only [List.mem_flatMap, List.mem_singleton] at hname hname'
    obtain ⟨role, _, rfl⟩ := hname
    obtain ⟨role', _, hsame⟩ := hname'
    exact hne (instanceName_inj hsame).2.1
  · refine (List.nodup_range' 1).imp fun hne name hname hname' => ?_
    simp only [List.mem_flatMap, List.mem_singleton] at hname hname'
    obtain ⟨replicaset, _, role, _, rfl⟩ := hname
    obtain ⟨replicaset', _, role', _, hsame⟩ := hname'
    exact hne (instanceName_inj hsame).2.2

end Election

/-! ### What is looked up -/

/-- The name of the pod that a request looks up. -/
def Request.podName? : Request → Option String
  | .store (.get .pod _ name) => some name
  | _ => none

namespace Talk

variable {t t' t'' : Talk Surroundings} {names names' : List String}

/-- The names of the pods that were looked up, the latest first. -/
def podNames (t : Talk Surroundings) : List String := t.filterMap (·.ask.podName?)

/-- A talk goes on from another one and looks up pods of some names, in their order, and each at most once. -/
def Looks (names : List String) (t t' : Talk Surroundings) : Prop :=
  ∃ said, t' = said ++ t ∧ (podNames said).reverse.Sublist names

theorem looks_refl : Looks names t t := ⟨[], rfl, List.nil_sublist names⟩

theorem Looks.trans (h : Looks names t t') (h' : Looks names' t' t'') : Looks (names ++ names') t t'' := by
  obtain ⟨said, rfl, hsaid⟩ := h
  obtain ⟨said', rfl, hsaid'⟩ := h'
  refine ⟨said' ++ said, by simp, ?_⟩
  have hboth : (podNames (said' ++ said)).reverse = (podNames said).reverse ++ (podNames said').reverse := by
    simp [podNames]
  rw [hboth]
  exact hsaid.append hsaid'

theorem Looks.more (h : Looks names t t') (names' : List String) : Looks (names ++ names') t t' :=
  h.trans looks_refl

theorem Looks.cons {q : Request} {a : q.Answer} (h : Looks names t t') (hq : q.podName? = none) :
    Looks names t (⟨q, a⟩ :: t') := by
  obtain ⟨said, rfl, hsaid⟩ := h
  refine ⟨⟨q, a⟩ :: said, rfl, ?_⟩
  have hnone : podNames (⟨q, a⟩ :: said) = podNames said := List.filterMap_cons_none hq
  rwa [hnone]

end Talk

/-! ### The names that a search looks up -/

section

variable {α β : Type} {names : List String}

/-- A part of a pass looks up pods of some names, in their order, and each at most once. -/
def Attempt.Looks (names : List String) (x : Attempt α) : Prop :=
  ∀ t t' r, x.run.Goes t t' r → Talk.Looks names t t'

theorem Attempt.looks_pure (a : α) : Attempt.Looks names (pure a) := by
  rintro t t' r ⟨rfl, -⟩
  exact Talk.looks_refl

theorem Attempt.looks_bind {x : Attempt α} {f : α → Attempt β} {names' : List String} (hx : x.Looks names)
    (hf : ∀ a, (f a).Looks names') : Attempt.Looks (names ++ names') (x >>= f) := by
  intro t t' r hgoes
  obtain ⟨t₁, a, hfirst, hrest⟩ := goes_run_bind.1 hgoes
  have hlooks := hx t t₁ a hfirst
  cases a with
  | error e =>
    obtain ⟨rfl, -⟩ := hrest
    exact hlooks.more names'
  | ok a => exact hlooks.trans (hf a t₁ t' r hrest)

theorem Attempt.looks_firstOf {attempt : β → Attempt (Option α)} {name : β → List String}
    (h : ∀ b, (attempt b).Looks (name b)) (bs : List β) :
    Attempt.Looks (bs.flatMap name) (firstOf attempt bs) := by
  induction bs with
  | nil => exact Attempt.looks_pure none
  | cons b bs ih =>
    rw [List.flatMap_cons]
    refine Attempt.looks_bind (h b) fun found => ?_
    cases found with
    | none => exact ih
    | some a => exact Attempt.looks_pure (some a)

theorem Attempt.looks_firstUpTo {attempt : Nat → Attempt (Option α)} {name : Nat → List String}
    (h : ∀ n, (attempt n).Looks (name n)) (count next : Nat) :
    Attempt.Looks ((List.range' next count).flatMap name) (firstUpTo attempt count next) := by
  induction count generalizing next with
  | zero => exact Attempt.looks_pure none
  | succ count ih =>
    rw [List.range'_succ, List.flatMap_cons]
    refine Attempt.looks_bind (h next) fun found => ?_
    cases found with
    | none => exact ih (next + 1)
    | some a => exact Attempt.looks_pure (some a)

end

namespace Election

variable {t t' : Talk Surroundings} {cluster : Cluster} {previous : Option String} {roles : List Role}

/-- To ask an instance whether it can lead looks up no pod. -/
theorem canLead_looks_none (cluster : Cluster) (pod : Pod) :
    (canLead cluster pod).run.Only fun q : Request => q.podName? = none := by
  intro t
  simp [canLead, probe, Request.podName?]

theorem candidate_looks (replica replicaset : Nat) (role : Role) :
    (candidate cluster previous replica replicaset role).Looks [instanceName role replicaset replica] := by
  have hlookup : ∀ (t : Talk Surroundings) (found : Except OperatorError (Option Pod)),
      Talk.Looks [instanceName role replicaset replica] t
        (lookedUp cluster (instanceName role replicaset replica) found :: t) :=
    fun t found => ⟨[lookedUp cluster _ found], rfl, List.Sublist.refl _⟩
  intro t t' r hgoes
  have hkeeps : KeepsOr (fun _ _ => True) (candidate cluster previous replica replicaset role)
      (fun t' _ => Talk.Looks [instanceName role replicaset replica] t t')
      (fun t' _ => Talk.Looks [instanceName role replicaset replica] t t') t := by
    rw [candidate, keepsOr_ite]
    refine ⟨fun _ => Talk.looks_refl, fun _ => ?_⟩
    dsimp only
    rw [keepsOr_ite]
    refine ⟨fun _ => Talk.looks_refl, fun _ => ?_⟩
    rw [keepsOr_bind, Attempt.get, keepsOr_store]
    refine ⟨trivial, Option.forall.2 ⟨hlookup t _, fun pod => ?_⟩, fun e => hlookup t _⟩
    simp only [keepsOr_bind, keepsOr_lift]
    have hcan : Keeps (fun _ _ => True) (canLead cluster pod).run
        (fun t' _ => Talk.Looks [instanceName role replicaset replica] t t') _ :=
      (canLead_looks_none cluster pod).keeps (fun _ _ _ _ => trivial) (fun _ _ _ h hq => h.cons hq)
        (hlookup t (.ok (some pod)))
    refine hcan.mono fun t₁ ready h => ?_
    rcases ready with e | ready
    · dsimp only
      rw [keepsOr_bind, keepsOr_log, keeps_log]
      exact ⟨trivial, h.cons rfl⟩
    · cases ready with
      | true => exact h
      | false => exact h
  have hlooks := (Keeps.of_goes hkeeps hgoes).1
  cases r with
  | ok found => exact hlooks
  | error e => exact hlooks

/-- A search looks up the instances in their order, and each at most once. -/
theorem search_looks (cluster : Cluster) (roles : List Role) (previous : Option String) :
    (search cluster roles previous).Looks (instances roles) := by
  refine Attempt.looks_firstUpTo (fun replica => ?_) _ _
  refine Attempt.looks_firstUpTo (fun replicaset => ?_) _ _
  exact Attempt.looks_firstOf (fun role => candidate_looks replica replicaset role) roles

end Election

/-! ### Findings -/

/-- Which pod there is of each name, and what its instance says when it is asked whether it can lead. -/
structure Findings where
  pod : String → Option Pod
  ready : String → Except AdminError Bool

namespace Findings

open Election

variable {t : Talk Surroundings} {cluster : Cluster}

/-- Findings that fit what a talk tells: of the pods that were looked up, and of the instances that were asked
after their pods were looked up. -/
structure Fits (f : Findings) (cluster : Cluster) (t : Talk Surroundings) : Prop where
  looked : ∀ {name found}, lookedUp cluster name (.ok found) ∈ t → found = f.pod name
  asked : ∀ {name pod ready}, [probed cluster pod ready, lookedUp cluster name (.ok (some pod))] <:+: t →
    ready = f.ready name

/-- Of a talk in which no pod was looked up twice, a lookup tells what was said before it. -/
theorem eq_of_lookedUp (h : t.podNames.Nodup) {name : String} {found found' : Except OperatorError (Option Pod)}
    {u u' : Talk Surroundings} (hu : lookedUp cluster name found :: u <:+ t)
    (hu' : lookedUp cluster name found' :: u' <:+ t) :
    lookedUp cluster name found :: u = lookedUp cluster name found' :: u' := by
  -- of two lookups, the later one is the earlier one, since the name is looked up once
  have hlater : ∀ {found found' : Except OperatorError (Option Pod)} {u u' : Talk Surroundings},
      lookedUp cluster name found' :: u' <:+ t →
      lookedUp cluster name found :: u <:+ lookedUp cluster name found' :: u' →
      lookedUp cluster name found :: u = lookedUp cluster name found' :: u' := by
    intro found found' u u' hu' hsuffix
    rcases List.suffix_cons_iff.1 hsuffix with hsame | hbefore
    · exact hsame
    · have hlooked : (name :: u'.podNames).Sublist t.podNames :=
        hu'.sublist.filterMap fun e : Turn Surroundings => e.ask.podName?
      have honce : (name :: u'.podNames).Nodup := h.sublist hlooked
      have hmem : name ∈ u'.podNames :=
        List.mem_filterMap.2 ⟨lookedUp cluster name found, hbefore.mem List.mem_cons_self, rfl⟩
      exact absurd hmem (List.nodup_cons.1 honce).1
  rcases List.suffix_or_suffix_of_suffix hu hu' with hsuffix | hsuffix
  · exact hlater hu' hsuffix
  · exact (hlater hu hsuffix).symm

/-- Some findings fit a talk in which no pod was looked up twice. -/
theorem exists_fits (cluster : Cluster) (h : t.podNames.Nodup) : ∃ f : Findings, f.Fits cluster t := by
  have hpod : ∀ name, ∃ pod, ∀ found, lookedUp cluster name (.ok found) ∈ t → found = pod := by
    intro name
    by_cases hlooked : ∃ pod, lookedUp cluster name (.ok pod) ∈ t
    · obtain ⟨pod, hpod⟩ := hlooked
      refine ⟨pod, fun found hfound => ?_⟩
      obtain ⟨later, u, rfl⟩ := List.append_of_mem hpod
      obtain ⟨later', u', hsplit⟩ := List.append_of_mem hfound
      have hsame := eq_of_lookedUp h ⟨later', hsplit.symm⟩ ⟨later, rfl⟩
      exact Except.ok.inj (lookedUp_inj (List.cons.inj hsame).1)
    · exact ⟨none, fun found hfound => absurd ⟨found, hfound⟩ hlooked⟩
  have hready : ∀ name, ∃ ready, ∀ pod a,
      [probed cluster pod a, lookedUp cluster name (.ok (some pod))] <:+: t → a = ready := by
    intro name
    by_cases hasked : ∃ pod a, [probed cluster pod a, lookedUp cluster name (.ok (some pod))] <:+: t
    · obtain ⟨pod, a, later, u, hasked⟩ := hasked
      refine ⟨a, fun pod' a' hasked' => ?_⟩
      obtain ⟨later', u', hasked'⟩ := hasked'
      have hu : probed cluster pod a :: lookedUp cluster name (.ok (some pod)) :: u <:+ t :=
        ⟨later, by simpa using hasked⟩
      have hu' : probed cluster pod' a' :: lookedUp cluster name (.ok (some pod')) :: u' <:+ t :=
        ⟨later', by simpa using hasked'⟩
      have hsame := eq_of_lookedUp h ((List.suffix_cons _ _).trans hu') ((List.suffix_cons _ _).trans hu)
      obtain ⟨hlookup, rfl⟩ := List.cons.inj hsame
      obtain rfl : pod' = pod := Option.some.inj (Except.ok.inj (lookedUp_inj hlookup))
      exact probed_inj (List.cons.inj (eq_of_suffixes hu' hu rfl)).1
    · exact ⟨.ok false, fun pod a h => absurd ⟨pod, a, h⟩ hasked⟩
  choose pod hpod using hpod
  choose ready hready using hready
  exact ⟨⟨pod, ready⟩, fun h => hpod _ _ h, fun h => hready _ _ _ h⟩

end Findings

end ClusterKeeper
