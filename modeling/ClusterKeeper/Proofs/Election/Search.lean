import ClusterKeeper.Proofs.Election.Findings
import Mathlib.Data.Prod.Lex
import Mathlib.Order.Bounds.Basic

/-!
What a search for a leader comes to. The instances are tried in three loops, one in the other, and a try that finds
nothing, for whatever reason, is followed by the next one. So a search finds what the findings of its talk tell
(`Findings.gives_search`), and this is at the least of all places at which there is an instance that may be chosen
(`Findings.isLeast_of_search`, `Findings.search_eq_none_iff`).
-/

namespace ClusterKeeper

open Program

/-! ### Programs that give one result -/

namespace Program

section

variable {I : Interface} {α β ε : Type} {whole : Talk I}

/-- Within a whole talk, a program does not fail and gives one result, wherever it begins. -/
def Gives (whole : Talk I) (x : ExceptT ε (Program I) α) (a : α) : Prop :=
  ∀ t t' r, x.run.Goes t t' r → t' <:+ whole → r = .ok a

theorem gives_pure (a : α) : Gives whole (pure a : ExceptT ε (Program I) α) a := by
  rintro t t' r ⟨-, rfl⟩ -
  rfl

theorem gives_bind {x : ExceptT ε (Program I) α} {f : α → ExceptT ε (Program I) β} {a : α} {b : β}
    (hx : Gives whole x a) (hf : Gives whole (f a) b) : Gives whole (x >>= f) b := by
  intro t t' r hgoes hwhole
  obtain ⟨t₁, a', hfirst, hrest⟩ := goes_run_bind.1 hgoes
  have ht₁ : t₁ <:+ whole := by
    cases a' with
    | error e => exact hrest.1 ▸ hwhole
    | ok a' => exact hrest.suffix.trans hwhole
  obtain rfl := hx t t₁ a' hfirst ht₁
  exact hf t₁ t' r hrest hwhole

/-- The first item that has a result gives it. -/
theorem gives_firstOf {attempt : β → ExceptT ε (Program I) (Option α)} {found : β → Option α}
    (h : ∀ b, Gives whole (attempt b) (found b)) (bs : List β) :
    Gives whole (firstOf attempt bs) (bs.findSome? found) := by
  induction bs with
  | nil => exact gives_pure none
  | cons b bs ih =>
    rw [List.findSome?_cons]
    refine gives_bind (h b) ?_
    cases found b with
    | none => exact ih
    | some a => exact gives_pure (some a)

/-- The first number that has a result gives it. -/
theorem gives_firstUpTo {attempt : Nat → ExceptT ε (Program I) (Option α)} {found : Nat → Option α}
    (h : ∀ n, Gives whole (attempt n) (found n)) (count next : Nat) :
    Gives whole (firstUpTo attempt count next) ((List.range' next count).findSome? found) := by
  induction count generalizing next with
  | zero => exact gives_pure none
  | succ count ih =>
    rw [List.range'_succ, List.findSome?_cons]
    refine gives_bind (h next) ?_
    cases found next with
    | none => exact ih (next + 1)
    | some a => exact gives_pure (some a)

/-- What every course gives within the whole talk is given. -/
theorem gives_of_keepsOr {x : ExceptT ε (Program I) α} {a : α}
    (h : ∀ t, KeepsOr (fun _ _ => True) x (fun t' b => t' <:+ whole → b = a) (fun t' _ => ¬t' <:+ whole) t) :
    Gives whole x a := by
  intro t t' r hgoes hwhole
  have hends := (Keeps.of_goes (h t) hgoes).1
  cases r with
  | ok b => exact congrArg Except.ok (hends hwhole)
  | error e => exact absurd hwhole hends

end

end Program

namespace Findings

open Election

variable {f : Findings} {whole t t' : Talk Surroundings} {cluster : Cluster} {previous : Option String}
  {roles : List Role}

/-! ### What a search finds -/

/-- Whether a pod of a name can lead: it runs and is not about to go, and its instance says that it can. -/
def Ready (f : Findings) (name : String) (pod : Pod) : Prop :=
  pod.isRunning = true ∧ pod.isDeleting = false ∧ f.ready name = .ok true

/-- The pod of a name, if it can lead. -/
def able (f : Findings) (name : String) : Option Pod :=
  (f.pod name).filter fun pod => pod.isRunning && !pod.isDeleting && decide ((f.ready name).toOption = some true)

/-- What a search finds at an instance. -/
def candidate (f : Findings) (previous : Option String) (replica replicaset : Nat) (role : Role) : Option Pod :=
  if role.replicasets ≤ replicaset ∨ role.replicas ≤ replica then none
  else if previous = some (instanceName role replicaset replica) then none
  else f.able (instanceName role replicaset replica)

/-- What a search finds. -/
def search (f : Findings) (roles : List Role) (previous : Option String) : Option Pod :=
  (List.range' 0 (largest Role.replicas roles)).findSome? fun replica =>
    (List.range' 0 (largest Role.replicasets roles)).findSome? fun replicaset =>
      roles.findSome? (f.candidate previous replica replicaset)

theorem able_eq_some_iff {name : String} {pod : Pod} :
    f.able name = some pod ↔ f.pod name = some pod ∧ f.Ready name pod := by
  have hready : (f.ready name).toOption = some true ↔ f.ready name = .ok true := by
    cases f.ready name with
    | ok a => simp [Except.toOption]
    | error e => simp [Except.toOption]
  simp [able, Ready, Option.filter_eq_some_iff, hready, and_assoc]

/-- An instance whose pod was looked up leads if it can, as far as the findings tell. -/
theorem canLead_tells (hf : f.Fits cluster whole) {name : String} {pod : Pod} (t : Talk Surroundings) :
    KeepsOr (fun _ _ => True) (canLead cluster pod)
      (fun t' ready => t' <:+ whole → (ready = true ↔ f.Ready name pod))
      (fun t' _ => t' <:+ whole → ¬f.Ready name pod)
      (lookedUp cluster name (.ok (some pod)) :: t) := by
  have hasked : ∀ {t' : Talk Surroundings} {ready : Except AdminError Bool}, t' <:+ whole →
      probed cluster pod ready :: lookedUp cluster name (.ok (some pod)) :: t <:+ t' → ready = f.ready name := by
    intro t' ready hwhole hprobed
    have hinfix : [probed cluster pod ready, lookedUp cluster name (.ok (some pod))] <:+: whole :=
      List.IsInfix.trans ⟨[], t, rfl⟩ (hprobed.trans hwhole).isInfix
    exact hf.asked hinfix
  rw [canLead, keepsOr_ite]
  constructor
  · intro hending
    rw [keepsOr_pure]
    intro _
    rw [Ready]
    simp only [Bool.or_eq_true, Bool.not_eq_true'] at hending
    rcases hending with hdeleting | hstopped
    · simp [hdeleting]
    · simp [hstopped]
  · intro hstays
    obtain ⟨hdeleting, hrunning⟩ : pod.isDeleting = false ∧ pod.isRunning = true := by
      simpa using hstays
    simp only [keepsOr_bind, keepsOr_lift, keeps_run]
    refine keepsOr_probe (fun ready => ?_) fun e => ?_
    · rw [keepsOr_pure]
      intro hwhole
      rw [Ready, ← hasked hwhole List.suffix_rfl]
      simp [hdeleting, hrunning]
    · rw [keepsOr_ite]
      refine ⟨fun _ hwhole => ?_, fun _ => ?_⟩
      · rw [Ready, ← hasked hwhole List.suffix_rfl]
        simp
      · rw [keepsOr_bind, keepsOr_log, keeps_log]
        refine ⟨trivial, fun hwhole => ?_⟩
        rw [Ready, ← hasked hwhole (List.suffix_cons _ _)]
        simp

/-- What is found at an instance is what the findings tell, as long as no lookup fails. -/
theorem gives_candidate (hf : f.Fits cluster whole)
    (hlooked : ∀ name e, lookedUp cluster name (.error e) ∉ whole) (replica replicaset : Nat) (role : Role) :
    Gives whole (Election.candidate cluster previous replica replicaset role)
      (f.candidate previous replica replicaset role) := by
  refine gives_of_keepsOr fun t => ?_
  rw [Election.candidate, candidate, keepsOr_ite]
  refine ⟨fun hout => ?_, fun hin => ?_⟩
  · rw [keepsOr_pure]
    intro _
    rw [if_pos hout]
  dsimp only
  rw [if_neg hin, keepsOr_ite]
  refine ⟨fun hprevious => ?_, fun hprevious => ?_⟩
  · rw [keepsOr_pure]
    intro _
    rw [if_pos hprevious]
  rw [if_neg hprevious, keepsOr_bind, Attempt.get, keepsOr_store]
  refine ⟨trivial, Option.forall.2 ⟨fun hwhole => ?_, fun pod => ?_⟩, fun e hwhole => ?_⟩
  · have hpod := hf.looked (hwhole.mem List.mem_cons_self)
    rw [able, ← hpod]
    rfl
  · have hable : ∀ t', lookedUp cluster (instanceName role replicaset replica) (.ok (some pod)) :: t <:+ t' →
        t' <:+ whole → f.pod (instanceName role replicaset replica) = some pod := fun t' hlater hwhole =>
      (hf.looked ((hlater.trans hwhole).mem List.mem_cons_self)).symm
    have hunable : ∀ t', lookedUp cluster (instanceName role replicaset replica) (.ok (some pod)) :: t <:+ t' →
        t' <:+ whole → ¬f.Ready (instanceName role replicaset replica) pod →
        none = f.able (instanceName role replicaset replica) := by
      intro t' hlater hwhole hready
      refine (Option.eq_none_iff_forall_ne_some.2 fun pod' hpod' => ?_).symm
      obtain ⟨hpod, hready'⟩ := able_eq_some_iff.1 hpod'
      obtain rfl : pod = pod' := Option.some.inj ((hable t' hlater hwhole).symm.trans hpod)
      exact hready hready'
    simp only [keepsOr_bind, keepsOr_lift, keeps_run]
    refine (canLead_tells hf t).suffix.mono (fun t' ready h => ?_) fun t' e h => ?_
    · obtain ⟨hlater, hready⟩ := h
      cases ready with
      | true =>
        intro hwhole
        exact (able_eq_some_iff.2 ⟨hable t' hlater hwhole, (hready hwhole).1 rfl⟩).symm
      | false =>
        intro hwhole
        exact hunable t' hlater hwhole fun h => Bool.false_ne_true ((hready hwhole).2 h)
    · obtain ⟨hlater, hready⟩ := h
      rw [keepsOr_log, keeps_log]
      refine ⟨trivial, fun hwhole => ?_⟩
      have hwhole' : t' <:+ whole := (List.suffix_cons _ _).trans hwhole
      exact hunable t' hlater hwhole' (hready hwhole')
  · exact hlooked _ e (hwhole.mem List.mem_cons_self)

theorem gives_search (hf : f.Fits cluster whole)
    (hlooked : ∀ name e, lookedUp cluster name (.error e) ∉ whole) (roles : List Role) :
    Gives whole (Election.search cluster roles previous) (f.search roles previous) := by
  refine gives_firstUpTo (fun replica => ?_) _ _
  refine gives_firstUpTo (fun replicaset => ?_) _ _
  exact gives_firstOf (gives_candidate hf hlooked replica replicaset) roles

end Findings

/-! ### The order of a search -/

namespace Election

/-- Where an instance is in a search: its replica, its replicaset, and the position of its role. -/
@[ext] structure Place where
  replica : Nat
  replicaset : Nat
  position : Nat

/-- Places are ordered by replicas, those of one replica by replicasets, and those of one replicaset by roles. -/
def Place.key (p : Place) : ℕ ×ₗ ℕ ×ₗ ℕ := toLex (p.replica, toLex (p.replicaset, p.position))

theorem Place.key_injective : Function.Injective Place.key := by
  rintro ⟨replica, replicaset, position⟩ ⟨replica', replicaset', position'⟩ h
  simp only [Place.key, EmbeddingLike.apply_eq_iff_eq, Prod.mk.injEq] at h
  obtain ⟨rfl, rfl, rfl⟩ := h
  rfl

instance : LinearOrder Place := LinearOrder.lift' Place.key Place.key_injective

theorem Place.lt_iff {p q : Place} : p < q ↔ p.replica < q.replica ∨ p.replica = q.replica ∧
    (p.replicaset < q.replicaset ∨ p.replicaset = q.replicaset ∧ p.position < q.position) := by
  show p.key < q.key ↔ _
  simp [Place.key, Prod.Lex.toLex_lt_toLex]

theorem le_largest {count : Role → Int} {roles : List Role} {role : Role} (h : role ∈ roles) :
    (count role).toNat ≤ largest count roles := by
  have hrun : ∀ (roles : List Role) (n : Nat),
      n ≤ roles.foldl (fun n role => max n (count role).toNat) n ∧
      ∀ role ∈ roles, (count role).toNat ≤ roles.foldl (fun n role => max n (count role).toNat) n := by
    intro roles
    induction roles with
    | nil => intro n; simp
    | cons role roles ih =>
      intro n
      obtain ⟨hn, hroles⟩ := ih (max n (count role).toNat)
      simp only [List.foldl_cons, List.forall_mem_cons]
      exact ⟨by omega, by omega, hroles⟩
  exact (hrun roles 0).2 role h

end Election

section

variable {α β : Type}

/-- What is found first in a list is found at a position before which nothing is found. -/
theorem exists_position_of_findSome? {found : β → Option α} {bs : List β} {a : α}
    (h : bs.findSome? found = some a) : ∃ (k : Nat) (b : β), bs[k]? = some b ∧ found b = some a ∧
      ∀ j < k, ∀ b', bs[j]? = some b' → found b' = none := by
  obtain ⟨before, b, after, rfl, hb, hbefore⟩ := List.findSome?_eq_some_iff.1 h
  refine ⟨before.length, b, by simp, hb, fun j hj b' hb' => hbefore b' ?_⟩
  rw [List.getElem?_append_left hj] at hb'
  exact List.mem_of_getElem? hb'

/-- What is found first among numbers is found at one below which nothing is found. -/
theorem exists_least_of_findSome? {found : Nat → Option α} {n : Nat} {a : α}
    (h : (List.range' 0 n).findSome? found = some a) : ∃ k, found k = some a ∧ ∀ j < k, found j = none := by
  obtain ⟨k, b, hb, hfound, hbefore⟩ := exists_position_of_findSome? h
  have hk : k < n := by simpa using (List.getElem?_eq_some_iff.1 hb).1
  have hget : ∀ j < n, (List.range' 0 n)[j]? = some j := fun j hj => by simp [hj]
  obtain rfl : k = b := Option.some.inj ((hget k hk).symm.trans hb)
  exact ⟨k, hfound, fun j hj => hbefore j hj j (hget j (hj.trans hk))⟩

end

namespace Findings

open Election

variable {f : Findings} {previous : Option String} {roles : List Role} {place : Place} {pod : Pod}

/-- The instance at a place may be chosen: there is such an instance, it is not the previous leader, its pod is
there, and it can lead. -/
def Eligible (f : Findings) (roles : List Role) (previous : Option String) (place : Place) (pod : Pod) : Prop :=
  ∃ role, roles[place.position]? = some role ∧ place.replicaset < role.replicasets ∧
    place.replica < role.replicas ∧
    previous ≠ some (instanceName role place.replicaset place.replica) ∧
    f.pod (instanceName role place.replicaset place.replica) = some pod ∧
    f.Ready (instanceName role place.replicaset place.replica) pod

/-- The places of all instances that may be chosen. -/
def eligible (f : Findings) (roles : List Role) (previous : Option String) : Set Place :=
  {place | ∃ pod, f.Eligible roles previous place pod}

theorem candidate_eq_some_iff {replica replicaset : Nat} {role : Role} :
    f.candidate previous replica replicaset role = some pod ↔
      replicaset < role.replicasets ∧ replica < role.replicas ∧
      previous ≠ some (instanceName role replicaset replica) ∧
      f.pod (instanceName role replicaset replica) = some pod ∧
      f.Ready (instanceName role replicaset replica) pod := by
  rw [candidate, Option.ite_none_left_eq_some, Option.ite_none_left_eq_some, able_eq_some_iff, not_or, not_le,
    not_le, and_assoc]

theorem eligible_iff : f.Eligible roles previous place pod ↔ ∃ role, roles[place.position]? = some role ∧
    f.candidate previous place.replica place.replicaset role = some pod := by
  simp only [Eligible, candidate_eq_some_iff]

/-- A search comes to every instance that may be chosen. -/
theorem Eligible.lt_largest (h : f.Eligible roles previous place pod) :
    place.replica < largest Role.replicas roles ∧ place.replicaset < largest Role.replicasets roles := by
  obtain ⟨role, hrole, hreplicaset, hreplica, -⟩ := h
  have hmem : role ∈ roles := List.mem_of_getElem? hrole
  have hreplicas : role.replicas.toNat ≤ largest Role.replicas roles := le_largest hmem
  have hreplicasets : role.replicasets.toNat ≤ largest Role.replicasets roles := le_largest hmem
  omega

/-- A pass over the replicas of an instance that may be chosen finds something. -/
theorem Eligible.ne_none (h : f.Eligible roles previous place pod) :
    ((List.range' 0 (largest Role.replicasets roles)).findSome? fun replicaset =>
      roles.findSome? (f.candidate previous place.replica replicaset)) ≠ none := by
  intro hnone
  obtain ⟨role, hrole, hfound⟩ := eligible_iff.1 h
  have hmem : place.replicaset ∈ List.range' 0 (largest Role.replicasets roles) := by simp [h.lt_largest.2]
  have hroles := List.findSome?_eq_none_iff.1 hnone place.replicaset hmem
  have hcandidate := List.findSome?_eq_none_iff.1 hroles role (List.mem_of_getElem? hrole)
  rw [hfound] at hcandidate
  simp at hcandidate

/-- What a search finds is at the least place. -/
theorem isLeast_of_search (h : f.search roles previous = some pod) :
    ∃ place, IsLeast (f.eligible roles previous) place ∧ f.Eligible roles previous place pod := by
  obtain ⟨replica, hreplica, hreplicas⟩ := exists_least_of_findSome? h
  obtain ⟨replicaset, hreplicaset, hreplicasets⟩ := exists_least_of_findSome? hreplica
  obtain ⟨position, role, hrole, hfound, hroles⟩ := exists_position_of_findSome? hreplicaset
  have heligible : f.Eligible roles previous ⟨replica, replicaset, position⟩ pod :=
    eligible_iff.2 ⟨role, hrole, hfound⟩
  refine ⟨⟨replica, replicaset, position⟩, ⟨⟨pod, heligible⟩, ?_⟩, heligible⟩
  rintro other ⟨pod', hother⟩
  obtain ⟨role', hrole', hfound'⟩ := eligible_iff.1 hother
  by_contra hbefore
  -- an earlier place would have been found: one of the three loops came to it and found nothing
  rcases Place.lt_iff.1 (not_le.1 hbefore) with hlt | ⟨hsame, hlt | ⟨hsame', hlt⟩⟩
  · exact hother.ne_none (hreplicas other.replica hlt)
  · have hnone := hreplicasets other.replicaset hlt
    rw [List.findSome?_eq_none_iff] at hnone
    have hnone' := hnone role' (List.mem_of_getElem? hrole')
    rw [← show other.replica = replica from hsame, hfound'] at hnone'
    simp at hnone'
  · have hnone := hroles other.position hlt role' hrole'
    rw [← show other.replica = replica from hsame, ← show other.replicaset = replicaset from hsame',
      hfound'] at hnone
    simp at hnone

/-- A search finds nothing if and only if no instance may be chosen. -/
theorem search_eq_none_iff : f.search roles previous = none ↔ f.eligible roles previous = ∅ := by
  constructor
  · intro hnone
    refine Set.eq_empty_iff_forall_notMem.2 fun place hplace => ?_
    obtain ⟨pod, hpod⟩ := hplace
    have hmem : place.replica ∈ List.range' 0 (largest Role.replicas roles) := by simp [hpod.lt_largest.1]
    exact hpod.ne_none (List.findSome?_eq_none_iff.1 hnone place.replica hmem)
  · intro hempty
    cases hfound : f.search roles previous with
    | none => rfl
    | some pod =>
      obtain ⟨place, hleast, -⟩ := isLeast_of_search hfound
      rw [hempty] at hleast
      exact absurd hleast.1 (Set.notMem_empty place)

end Findings

end ClusterKeeper
