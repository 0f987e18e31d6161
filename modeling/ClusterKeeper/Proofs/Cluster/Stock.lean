import ClusterKeeper.Proofs.Pass.Candour
import ClusterKeeper.Proofs.Program.Interleaving
import Mathlib.Data.Set.Insert

/-!
The store as many passes see all custom resources. A `Stock` has the present objects of every kind, and
every state that any of them ever had. A status is accepted only over the present version and then
changes nothing else; others may create objects without a status, edit all of an object but its status
and the label that names its cluster, and delete whatever is no cluster. Every change gives a version
that there never was. Reads may be stale and any request may fail.

The invariant: no state claims that storages are bootstrapped when the present cluster is not
(`Stock.Good`), and a pass was given nothing but such states (`Stock.Knows`). A candid pass keeps it
(`Stock.answers_keep`).
-/

namespace ClusterKeeper

namespace Kind

/-- What is known of the objects of a kind. -/
def Status : Kind → Type
  | .cluster => ClusterStatus
  | .role => RoleStatus
  | .cartridgeConfig => CartridgeConfigStatus
  | _ => Empty

/-- The status of an object. -/
def status : {k : Kind} → k.Object → Option k.Status
  | .cluster, o => Cluster.status o
  | .role, o => Role.status o
  | .cartridgeConfig, o => CartridgeConfig.status o
  | .pod, _ | .statefulSet, _ | .service, _ | .secret, _ => none

/-- The version of an object. -/
def version {k : Kind} (o : k.Object) : Option String := (metadata o).resourceVersion

/-- The name of an object's cluster. -/
def clusterOf {k : Kind} (o : k.Object) : Option String :=
  (metadata o).labelSet.get? Labels.clusterName

/-- The object is a cluster and its storages are bootstrapped. -/
def Boots : (k : Kind) → k.Object → Prop
  | .cluster, c => Cluster.isBootstrapped c = true
  | _, _ => False

/-- The phase of the object, if it is a cluster, agrees with whether its storages are bootstrapped. -/
def Tells : (k : Kind) → k.Object → Prop
  | .cluster, c => Cluster.Truthful c
  | _, _ => True

section

variable {k : Kind} {o o' : k.Object}

/-! What an object says depends on its status alone. -/

theorem claims_congr (h : status o = status o') : k.Claims o ↔ k.Claims o' := by
  cases k with
  | role =>
    have hphase : Role.phase o = Role.phase o' := congrArg (fun s => (s.getD .initial).phase) h
    rw [Claims, Claims, hphase]
  | cartridgeConfig =>
    have hphase : CartridgeConfig.phase o = CartridgeConfig.phase o' :=
      congrArg (fun s => (s.getD .initial).phase) h
    rw [Claims, Claims, hphase]
  | _ => rfl

theorem boots_congr (h : status o = status o') : k.Boots o ↔ k.Boots o' := by
  cases k with
  | cluster =>
    have hboot : Cluster.isBootstrapped o = Cluster.isBootstrapped o' := Cluster.isBootstrapped_congr h
    rw [Boots, Boots, hboot]
  | _ => rfl

theorem tells_congr (h : status o = status o') (ho : k.Tells o') : k.Tells o := by
  cases k with
  | cluster =>
    have hphase : Cluster.phase o = Cluster.phase o' := congrArg (fun s => (s.getD .initial).phase) h
    have hboot : Cluster.isBootstrapped o = Cluster.isBootstrapped o' := Cluster.isBootstrapped_congr h
    exact ⟨fun hp => hboot.trans (ho.bootstrapped (hphase ▸ hp)),
      fun hp => hboot.trans (ho.unable (hphase ▸ hp))⟩
  | _ => trivial

/-- An object without a status claims nothing. -/
theorem not_claims_of_status_eq_none (h : status o = none) : ¬k.Claims o := by
  cases k with
  | role =>
    have hphase : Role.phase o = .pending := congrArg (fun s => (s.getD .initial).phase) h
    rw [Claims, hphase]
    exact fun h => h.elim nofun nofun
  | cartridgeConfig =>
    have hphase : CartridgeConfig.phase o = .waitingForCluster :=
      congrArg (fun s => (s.getD .initial).phase) h
    rw [Claims, hphase]
    exact fun h => h.elim nofun fun h => h.elim nofun nofun
  | _ => exact id

theorem not_boots_of_status_eq_none (h : status o = none) : ¬k.Boots o := by
  cases k with
  | cluster =>
    have hboot : Cluster.isBootstrapped o = false := congrArg (Option.any ClusterStatus.bootstrapped) h
    rw [Boots, hboot]
    exact nofun
  | _ => exact id

theorem tells_of_status_eq_none (h : status o = none) : k.Tells o := by
  cases k with
  | cluster =>
    have hphase : Cluster.phase o = .pending := congrArg (fun s => (s.getD .initial).phase) h
    refine ⟨fun hp => ?_, fun hp => nomatch hphase.symm.trans hp⟩
    rw [hphase] at hp
    exact hp.elim nofun nofun
  | _ => trivial

end

end Kind

/-- The objects of a store: the present ones, and every state that there ever was. -/
structure Stock where
  now : (k : Kind) → ObjectKey → Option k.Object
  ever : (k : Kind) → Set k.Object

namespace Stock

/-- The stock after an object is stored. -/
def put (s : Stock) {k : Kind} (o : k.Object) : Stock where
  now := Function.update s.now k (Function.update (s.now k) (Kind.keyOf o) (some o))
  ever := Function.update s.ever k (insert o (s.ever k))

/-- The stock after an object is deleted. -/
def drop (s : Stock) (k : Kind) (key : ObjectKey) : Stock where
  now := Function.update s.now k (Function.update (s.now k) key none)
  ever := s.ever

/-- An object has a version that none of its states ever had. -/
def Fresh (s : Stock) {k : Kind} (o : k.Object) : Prop :=
  ∀ o' ∈ s.ever k, Kind.keyOf o' = Kind.keyOf o → Kind.version o' ≠ Kind.version o

/-- What is stored when the status of an object is accepted: the object as it is when that makes no
difference, and otherwise the object with the status and another version. -/
structure Takes (s : Stock) {k : Kind} (now given stored : k.Object) : Prop where
  status : Kind.status stored = Kind.status given
  rest : stored = now ∨
    s.Fresh stored ∧ Kind.metadata stored = { Kind.metadata now with resourceVersion := Kind.version stored }

/-- How the store may answer, and what that makes of its stock. -/
inductive Answers (s : Stock) : (q : Request) → q.Answer → Stock → Prop
  | outside {q a} : (∀ r, q = .store r → r.kind.isCustom = false) → Answers s q a s
  | refused {q e} : Answers s (.store q) (Except.error e) s
  | listed {k ns selector a} : Answers s (.store (.list k ns selector)) a s
  | read {k ns name} {found : Option (Kind.Object k)} :
      (∀ o, found = some o → o ∈ s.ever k ∧ Kind.keyOf o = ⟨ns, name⟩) →
      Answers s (.store (.get k ns name)) (Except.ok found) s
  | accepted {k} {now given stored : Kind.Object k} {a} : k.isCustom = true →
      s.now k (Kind.keyOf given) = some now →
      Kind.version given = Kind.version now → s.Takes now given stored →
      (∀ o, a = Except.ok o → o = stored) →
      Answers s (.store (.replaceStatus k given)) a (s.put stored)
  | created {k} {o : Kind.Object k} {a s'} : k.isCustom = true →
      Answers s (.store (.create k o)) a s'
  | replaced {k} {o : Kind.Object k} {a s'} : k.isCustom = true →
      Answers s (.store (.replace k o)) a s'

/-- What others may do to a stock. -/
inductive Stirs (s : Stock) : Stock → Prop
  | creates {k} {o : Kind.Object k} : s.now k (Kind.keyOf o) = none → Kind.status o = none →
      s.Fresh o → Stirs s (s.put o)
  | edits {k} {now o : Kind.Object k} : s.now k (Kind.keyOf o) = some now →
      Kind.status o = Kind.status now → Kind.clusterOf o = Kind.clusterOf now → s.Fresh o →
      Stirs s (s.put o)
  | deletes {k key} : k ≠ .cluster → Stirs s (s.drop k key)

/-- The store with a stock. -/
def store : Environment Surroundings Stock := ⟨Answers, Stirs⟩

/-! ### The invariant -/

/-- The present object of a key tells that its storages are bootstrapped. -/
def Boots (s : Stock) (k : Kind) (key : ObjectKey) : Prop := ∃ o, s.now k key = some o ∧ k.Boots o

/-- The present cluster that an object's labels name is bootstrapped. -/
def Vouches (s : Stock) (m : ObjectMeta) : Prop :=
  ∃ name, m.labelSet.get? Labels.clusterName = some name ∧ s.Boots .cluster ⟨m.nsText, name⟩

/-- A state may be stored: it tells the truth about its own storages, which stay bootstrapped, and claims
only what its cluster bears out. -/
structure Admits (s : Stock) {k : Kind} (o : k.Object) : Prop where
  tells : k.Tells o
  boots : s.Boots k (Kind.keyOf o) → k.Boots o
  claims : k.Claims o → s.Vouches (Kind.metadata o)

/-- The states of a stock are told apart by their versions, and none says too much. -/
structure Good (s : Stock) : Prop where
  stored : ∀ k key o, s.now k key = some o → o ∈ s.ever k ∧ Kind.keyOf o = key
  versions : ∀ (k : Kind) (o o' : k.Object), o ∈ s.ever k → o' ∈ s.ever k →
    Kind.keyOf o = Kind.keyOf o' → Kind.version o = Kind.version o' → o = o'
  tells : ∀ (k : Kind) (o : k.Object), o ∈ s.ever k → k.Tells o
  boots : ∀ (k : Kind) (o : k.Object), o ∈ s.ever k → k.Boots o → s.Boots k (Kind.keyOf o)
  claims : ∀ (k : Kind) (o : k.Object), o ∈ s.ever k → k.Claims o → s.Vouches (Kind.metadata o)

/-- A talk gave states of the stock only, and those that were asked for. -/
structure Knows (s : Stock) (t : Talk Surroundings) : Prop where
  ever : ∀ (k : Kind) (o : k.Object), k.isCustom = true → t.Given k o → o ∈ s.ever k
  honest : t.Honest

variable {s s' : Stock} {k : Kind} {o : k.Object}

@[simp] theorem now_put_self : (s.put o).now k (Kind.keyOf o) = some o := by
  simp [put]

theorem now_put_of_ne {k' : Kind} {key : ObjectKey} (h : k' = k → key ≠ Kind.keyOf o) :
    (s.put o).now k' key = s.now k' key := by
  by_cases hk : k' = k
  · subst hk
    simp [put, h rfl]
  · simp [put, hk]

theorem mem_ever_put {o' : k.Object} : o' ∈ (s.put o).ever k ↔ o' = o ∨ o' ∈ s.ever k := by
  simp [put]

theorem ever_put_of_ne {k' : Kind} (h : k' ≠ k) : (s.put o).ever k' = s.ever k' := by
  simp [put, h]

theorem ever_subset_put (k' : Kind) : s.ever k' ⊆ (s.put o).ever k' := by
  by_cases hk : k' = k
  · subst hk
    exact fun o' ho' => mem_ever_put.2 (Or.inr ho')
  · rw [ever_put_of_ne hk]

/-! ### Changes of the stock -/

theorem Boots.put {k' : Kind} {key : ObjectKey} (h : s.Boots k' key) (hadmits : s.Admits o) :
    (s.put o).Boots k' key := by
  by_cases hk : k' = k ∧ key = Kind.keyOf o
  · obtain ⟨rfl, rfl⟩ := hk
    exact ⟨o, now_put_self, hadmits.boots h⟩
  · obtain ⟨o', hnow, hboots⟩ := h
    exact ⟨o', (now_put_of_ne fun h h' => hk ⟨h, h'⟩).trans hnow, hboots⟩

theorem Vouches.put {m : ObjectMeta} (h : s.Vouches m) (hadmits : s.Admits o) : (s.put o).Vouches m := by
  obtain ⟨name, hlabel, hboots⟩ := h
  exact ⟨name, hlabel, hboots.put hadmits⟩

/-- What an object's labels say of its cluster. -/
theorem Vouches.congr {m m' : ObjectMeta} (h : s.Vouches m) (hns : m'.nsText = m.nsText)
    (hlabel : m'.labelSet.get? Labels.clusterName = m.labelSet.get? Labels.clusterName) :
    s.Vouches m' := by
  obtain ⟨name, hname, hboots⟩ := h
  exact ⟨name, hlabel.trans hname, hns ▸ hboots⟩

theorem stored_put
    (hs : ∀ (k : Kind) key (o : k.Object), s.now k key = some o → o ∈ s.ever k ∧ Kind.keyOf o = key)
    (k' : Kind) (key : ObjectKey) (o' : k'.Object) (ho' : (s.put o).now k' key = some o') :
    o' ∈ (s.put o).ever k' ∧ Kind.keyOf o' = key := by
  by_cases hk : k' = k ∧ key = Kind.keyOf o
  · obtain ⟨rfl, rfl⟩ := hk
    rw [now_put_self] at ho'
    obtain rfl := Option.some.inj ho'
    exact ⟨mem_ever_put.2 (Or.inl rfl), rfl⟩
  · rw [now_put_of_ne fun h h' => hk ⟨h, h'⟩] at ho'
    obtain ⟨hever, hkey⟩ := hs k' key o' ho'
    exact ⟨ever_subset_put k' hever, hkey⟩

/-- Storing a state that is new, or the present one again. -/
theorem Good.put (hs : s.Good) (hadmits : s.Admits o)
    (hfresh : s.Fresh o ∨ s.now k (Kind.keyOf o) = some o) : (s.put o).Good where
  stored := stored_put hs.stored
  versions k' o₁ o₂ h₁ h₂ hkey hversion := by
    by_cases hk : k' = k
    · subst hk
      -- a state that was there before has another version than a new one
      have hnew : ∀ o', o' ∈ s.ever k' → Kind.keyOf o' = Kind.keyOf o →
          Kind.version o' = Kind.version o → o' = o := by
        intro o' ho' hkey' hversion'
        rcases hfresh with hfresh | hnow
        · exact absurd hversion' (hfresh o' ho' hkey')
        · exact hs.versions k' o' o ho' (hs.stored _ _ _ hnow).1 hkey' hversion'
      rcases mem_ever_put.1 h₁ with rfl | hold₁ <;> rcases mem_ever_put.1 h₂ with rfl | hold₂
      · rfl
      · exact (hnew o₂ hold₂ hkey.symm hversion.symm).symm
      · exact hnew o₁ hold₁ hkey hversion
      · exact hs.versions k' o₁ o₂ hold₁ hold₂ hkey hversion
    · rw [ever_put_of_ne hk] at h₁ h₂
      exact hs.versions k' o₁ o₂ h₁ h₂ hkey hversion
  tells k' o' ho' := by
    by_cases hk : k' = k
    · subst hk
      rcases mem_ever_put.1 ho' with rfl | ho'
      · exact hadmits.tells
      · exact hs.tells k' o' ho'
    · exact hs.tells k' o' (ever_put_of_ne hk ▸ ho')
  boots k' o' ho' hboots := by
    by_cases hk : k' = k
    · subst hk
      rcases mem_ever_put.1 ho' with rfl | ho'
      · exact ⟨o', now_put_self, hboots⟩
      · exact (hs.boots k' o' ho' hboots).put hadmits
    · exact (hs.boots k' o' (ever_put_of_ne hk ▸ ho') hboots).put hadmits
  claims k' o' ho' hclaims := by
    by_cases hk : k' = k
    · subst hk
      rcases mem_ever_put.1 ho' with rfl | ho'
      · exact (hadmits.claims hclaims).put hadmits
      · exact (hs.claims k' o' ho' hclaims).put hadmits
    · exact (hs.claims k' o' (ever_put_of_ne hk ▸ ho') hclaims).put hadmits

/-- Deleting what is no cluster. -/
theorem Good.drop (hs : s.Good) {key : ObjectKey} (hne : k ≠ .cluster) : (s.drop k key).Good := by
  have hnow : ∀ k' key', (s.drop k key).now k' key' = s.now k' key' ∨
      (s.drop k key).now k' key' = none := by
    intro k' key'
    by_cases hk : k' = k
    · subst hk
      by_cases hkey : key' = key <;> simp [Stock.drop, hkey]
    · simp [Stock.drop, hk]
  have hcluster : ∀ key', (s.drop k key).now .cluster key' = s.now .cluster key' := fun key' => by
    simp [Stock.drop, hne.symm]
  have hboots : ∀ {k' key'}, s.Boots k' key' → (s.drop k key).Boots k' key' := by
    rintro k' key' ⟨o, ho, hb⟩
    cases k' with
    | cluster => exact ⟨o, (hcluster key').trans ho, hb⟩
    | _ => exact hb.elim
  constructor
  case stored =>
    intro k' key' o ho
    rcases hnow k' key' with h | h
    · exact hs.stored k' key' o (h.symm.trans ho)
    · exact absurd (ho.symm.trans h) (Option.some_ne_none o)
  case versions => exact hs.versions
  case tells => exact hs.tells
  case boots => exact fun k' o ho hb => hboots (hs.boots k' o ho hb)
  case claims =>
    intro k' o ho hc
    obtain ⟨name, hlabel, hb⟩ := hs.claims k' o ho hc
    exact ⟨name, hlabel, hboots hb⟩

/-! ### What passes and others do -/

theorem Knows.mono {t : Talk Surroundings} (h : s.Knows t) (hever : ∀ k, s.ever k ⊆ s'.ever k) :
    s'.Knows t := ⟨fun k o hcustom hgiven => hever k (h.ever k o hcustom hgiven), h.honest⟩

theorem Knows.cons {t : Talk Surroundings} {e : Turn Surroundings} (h : s.Knows t)
    (hever : ∀ (k : Kind) (o : k.Object), k.isCustom = true → e.Gives k o → o ∈ s.ever k)
    (hhonest : e.Honest) : s.Knows (e :: t) where
  ever k o hcustom hgiven := by
    obtain ⟨e', he', hgives⟩ := hgiven
    rcases List.mem_cons.1 he' with rfl | he'
    · exact hever k o hcustom hgives
    · exact h.ever k o hcustom ⟨e', he', hgives⟩
  honest := List.forall_mem_cons.2 ⟨hhonest, h.honest⟩

/-- A status that is accepted was written over the present state. -/
theorem Good.now_eq {now given base : k.Object} (hs : s.Good) (hbase : base ∈ s.ever k)
    (hmeta : Kind.metadata given = Kind.metadata base) (hnow : s.now k (Kind.keyOf given) = some now)
    (hversion : Kind.version given = Kind.version now) : now = base := by
  obtain ⟨hever, hkey⟩ := hs.stored k _ now hnow
  refine hs.versions k now base hever hbase (hkey.trans ?_) (hversion.symm.trans ?_)
  · rw [Kind.keyOf, hmeta, Kind.keyOf]
  · rw [Kind.version, hmeta, Kind.version]

theorem Takes.metadata_eq {now given stored : k.Object} (h : s.Takes now given stored) :
    Kind.metadata stored = { Kind.metadata now with resourceVersion := Kind.version stored } := by
  rcases h.rest with rfl | ⟨_, hmeta⟩
  · rfl
  · exact hmeta

theorem Takes.keyOf_eq {now given stored : k.Object} (h : s.Takes now given stored) :
    Kind.keyOf stored = Kind.keyOf now := by
  rw [Kind.keyOf, h.metadata_eq]
  rfl

/-- What the labels of the present state vouch for they vouch for afterwards. -/
theorem Takes.vouches {now given stored : k.Object} (h : s.Takes now given stored)
    (hvouches : s.Vouches (Kind.metadata now)) : s.Vouches (Kind.metadata stored) := by
  rw [h.metadata_eq]
  exact hvouches.congr rfl rfl

/-- The cluster that a pass was given vouches for what it wrote. -/
theorem Good.vouches {t : Talk Surroundings} {m : ObjectMeta} (hs : s.Good) (ht : s.Knows t)
    (h : Vouched t m) : s.Vouches m := by
  obtain ⟨name, cluster, hlabel, hgiven, hboot, hkey⟩ := h
  refine ⟨name, hlabel, ?_⟩
  rw [← hkey ht.honest]
  exact hs.boots .cluster cluster (ht.ever .cluster cluster rfl hgiven) hboot

theorem admits_of_ne_cluster {o : k.Object} (hne : k ≠ .cluster)
    (hclaims : k.Claims o → s.Vouches (Kind.metadata o)) : s.Admits o := by
  have hboots : ∀ o' : k.Object, ¬k.Boots o' := by
    cases k with
    | cluster => exact absurd rfl hne
    | _ => exact fun _ => id
  refine ⟨?_, fun ⟨o', _, hb⟩ => absurd hb (hboots o'), hclaims⟩
  cases k with
  | cluster => exact absurd rfl hne
  | _ => trivial

/-- What a candid pass writes over the present state may be stored. -/
theorem Good.admits {t : Talk Surroundings} {now given stored : k.Object} (hs : s.Good)
    (ht : s.Knows t) (hcustom : k.isCustom = true) (hrule : Candid t (.store (.replaceStatus k given)))
    (hnow : s.now k (Kind.keyOf given) = some now) (hversion : Kind.version given = Kind.version now)
    (htakes : s.Takes now given stored) : s.Admits stored := by
  have hkey : Kind.keyOf stored = Kind.keyOf given := htakes.keyOf_eq.trans (hs.stored _ _ _ hnow).2
  by_cases hk : k = .cluster
  · subst hk
    obtain ⟨base, hgiven, hmeta, hboot, htruth⟩ := hrule
    have hbase : base ∈ s.ever .cluster := ht.ever .cluster base rfl hgiven
    obtain rfl : now = base := hs.now_eq hbase hmeta hnow hversion
    refine ⟨Kind.tells_congr htakes.status (htruth (hs.tells .cluster now hbase)), ?_, False.elim⟩
    rintro ⟨o, ho, hb⟩
    rw [hkey, hnow] at ho
    obtain rfl := Option.some.inj ho
    exact (Kind.boots_congr htakes.status).2 (hboot hb)
  · obtain ⟨base, hgiven, hmeta, hclaims⟩ := (candid_replaceStatus_iff hcustom hk).1 hrule
    have hbase : base ∈ s.ever k := ht.ever k base hcustom hgiven
    obtain rfl : now = base := hs.now_eq hbase hmeta hnow hversion
    refine admits_of_ne_cluster hk fun hc => htakes.vouches ?_
    rcases hclaims ((Kind.claims_congr htakes.status).1 hc) with hc | hvouched
    · exact hs.claims k now hbase hc
    · exact hmeta ▸ hs.vouches ht hvouched

/-- A turn that gives no custom resource is honest. -/
theorem honest_of_forall_not_gives {e : Turn Surroundings}
    (h : ∀ (k : Kind) (o : k.Object), k.isCustom = true → ¬e.Gives k o) : e.Honest := by
  unfold Turn.Honest
  split
  next k ns name o => exact fun hcustom => absurd .got (h k o hcustom)
  next k given o => exact fun hcustom => absurd .stored (h k o hcustom)
  next => trivial

/-- A turn that gives no custom resource adds nothing to what a pass knows. -/
theorem Knows.cons_of_forall_not_gives {t : Talk Surroundings} {e : Turn Surroundings} (ht : s.Knows t)
    (h : ∀ (k : Kind) (o : k.Object), k.isCustom = true → ¬e.Gives k o) : s.Knows (e :: t) :=
  ht.cons (fun k o hcustom hgives => absurd hgives (h k o hcustom)) (honest_of_forall_not_gives h)

/-- An answer keeps the invariant when the request was candid. -/
theorem answers_keep {t : Talk Surroundings} {q : Request} {a : q.Answer} (hs : s.Good)
    (ht : s.Knows t) (hrule : Candid t q) (hanswers : s.Answers q a s') :
    s'.Good ∧ s'.Knows (⟨q, a⟩ :: t) ∧ ∀ t', s.Knows t' → s'.Knows t' := by
  cases hanswers with
  | outside hq =>
    refine ⟨hs, ht.cons_of_forall_not_gives fun k o hcustom hgives => ?_, fun _ ht' => ht'⟩
    cases hgives with
    | got => exact Bool.false_ne_true ((hq _ rfl).symm.trans hcustom)
    | stored => exact Bool.false_ne_true ((hq _ rfl).symm.trans hcustom)
  | refused =>
    exact ⟨hs, ht.cons_of_forall_not_gives (fun k o _ hgives => nomatch hgives), fun _ ht' => ht'⟩
  | listed =>
    exact ⟨hs, ht.cons_of_forall_not_gives (fun k o _ hgives => nomatch hgives), fun _ ht' => ht'⟩
  | @read k ns name found hfound =>
    refine ⟨hs, ht.cons (fun k' o hcustom hgives => ?_) ?_, fun _ ht' => ht'⟩
    · cases hgives with
      | got => exact (hfound o rfl).1
    · cases found with
      | none => trivial
      | some o => exact fun _ => (hfound o rfl).2
  | @accepted k now given stored a hcustom hnow hversion htakes ha =>
    have hkey : Kind.keyOf stored = Kind.keyOf given := htakes.keyOf_eq.trans (hs.stored _ _ _ hnow).2
    have hgood : (s.put stored).Good := by
      refine hs.put (hs.admits ht hcustom hrule hnow hversion htakes) ?_
      rcases htakes.rest with rfl | ⟨hfresh, _⟩
      · exact Or.inr (hkey ▸ hnow)
      · exact Or.inl hfresh
    have hmono : ∀ t', s.Knows t' → (s.put stored).Knows t' := fun t' ht' => ht'.mono ever_subset_put
    refine ⟨hgood, (hmono t ht).cons (fun k' o _ hgives => ?_) ?_, hmono⟩
    · cases hgives with
      | stored => exact mem_ever_put.2 (Or.inl (ha o rfl))
    · cases a with
      | error e => trivial
      | ok o => exact fun _ => (ha o rfl) ▸ hkey
  | created hcustom => exact absurd (hrule.symm.trans hcustom) Bool.false_ne_true
  | replaced hcustom => exact absurd (hrule.symm.trans hcustom) Bool.false_ne_true

/-- What others do keeps the invariant. -/
theorem stirs_keep (hs : s.Good) (hstirs : s.Stirs s') :
    s'.Good ∧ ∀ t', s.Knows t' → s'.Knows t' := by
  cases hstirs with
  | @creates k o hnow hstatus hfresh =>
    have hadmits : s.Admits o := by
      refine ⟨Kind.tells_of_status_eq_none hstatus, fun ⟨o', ho', _⟩ => ?_, fun hc => ?_⟩
      · exact absurd (ho'.symm.trans hnow) (Option.some_ne_none o')
      · exact absurd hc (Kind.not_claims_of_status_eq_none hstatus)
    exact ⟨hs.put hadmits (Or.inl hfresh), fun t' ht' => ht'.mono ever_subset_put⟩
  | @edits k now o hnow hstatus hlabel hfresh =>
    obtain ⟨hever, hkey⟩ := hs.stored k _ now hnow
    have hadmits : s.Admits o := by
      refine ⟨Kind.tells_congr hstatus (hs.tells k now hever), fun ⟨o', ho', hb⟩ => ?_, fun hc => ?_⟩
      · obtain rfl : now = o' := Option.some.inj (hnow.symm.trans ho')
        exact (Kind.boots_congr hstatus).2 hb
      · have hvouches := hs.claims k now hever ((Kind.claims_congr hstatus).1 hc)
        exact hvouches.congr (congrArg ObjectKey.ns hkey.symm) hlabel
    exact ⟨hs.put hadmits (Or.inl hfresh), fun t' ht' => ht'.mono ever_subset_put⟩
  | deletes hne => exact ⟨hs.drop hne, fun t' ht' => ht'.mono fun _ => subset_rfl⟩

/-- Candid programs keep the invariant of the store. -/
theorem store_invariant {α : Type} {starts : Act α → Prop}
    (hstarts : ∀ p, starts p → p.Keeps Candid (fun _ _ => True) []) :
    System.Invariant store starts Candid Good Knows where
  start := hstarts
  nil _ _ := ⟨fun _ _ _ ⟨_, he, _⟩ => absurd he List.not_mem_nil,
    fun _ he => absurd he List.not_mem_nil⟩
  reply := answers_keep
  drift := stirs_keep

end Stock

end ClusterKeeper
