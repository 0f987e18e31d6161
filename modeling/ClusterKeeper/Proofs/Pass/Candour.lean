import ClusterKeeper.Proofs.Pass.ClusterConduct
import ClusterKeeper.Proofs.Pass.RoleConduct

/-!
Passes do not claim more than they were told. Some phases claim that the storages of a cluster are
bootstrapped (`Kind.Claims`, `Cluster.Truthful`). A pass writes a status over an object that the store
gave it, and if the status claims more than the one it replaces then the store gave the pass the cluster
with its storages bootstrapped (`Vouched`). What the store gave stays given, so everything here holds of
all longer talks as well.

The election keeps to this rule (`Election.leaderFor_candid`).
-/

namespace ClusterKeeper

open Program

namespace Kind

/-- The metadata of an object. -/
def metadata {k : Kind} (o : k.Object) : ObjectMeta := KubeObject.metadata o

/-- The key of an object. -/
def keyOf {k : Kind} (o : k.Object) : ObjectKey := ObjectKey.ofMeta (metadata o)

/-- An object's phase claims that the storages of its cluster are bootstrapped. -/
def Claims : (k : Kind) → k.Object → Prop
  | .role, r => Role.phase r = .configuringWeights ∨ Role.phase r = .ready
  | .cartridgeConfig, c =>
    CartridgeConfig.phase c = .waitingForLeader ∨ CartridgeConfig.phase c = .applying ∨
      CartridgeConfig.phase c = .ready
  | _, _ => False

end Kind

/-- A cluster's phase agrees with whether its storages are bootstrapped. -/
structure Cluster.Truthful (k : Cluster) : Prop where
  bootstrapped : k.phase = .failoverConfiguring ∨ k.phase = .ready → k.isBootstrapped = true
  unable : k.phase = .unableToBootstrap → k.isBootstrapped = false

/-! ### What the store gave -/

namespace Turn

/-- The store gave an object. -/
inductive Gives (k : Kind) : Turn Surroundings → k.Object → Prop
  | got {ns name} {o : k.Object} : Gives k ⟨Request.store (.get k ns name), Except.ok (some o)⟩ o
  | stored {given o : k.Object} : Gives k ⟨Request.store (.replaceStatus k given), Except.ok o⟩ o

/-- The store gave the custom resource that it was asked for. -/
def Honest : Turn Surroundings → Prop
  | ⟨.store (.get k ns name), .ok (some o)⟩ => k.isCustom = true → Kind.keyOf o = ⟨ns, name⟩
  | ⟨.store (.replaceStatus k given), .ok o⟩ => k.isCustom = true → Kind.keyOf o = Kind.keyOf given
  | _ => True

end Turn

namespace Talk

/-- The store gave an object some time. -/
def Given (k : Kind) (t : Talk Surroundings) (o : k.Object) : Prop := ∃ e ∈ t, e.Gives k o

/-- The store always gave the custom resources that it was asked for. -/
def Honest (t : Talk Surroundings) : Prop := ∀ e ∈ t, e.Honest

variable {k : Kind} {o : k.Object} {t t' : Talk Surroundings}

theorem Given.mono (h : Given k t o) (hsuffix : t <:+ t') : Given k t' o := by
  obtain ⟨e, he, hgives⟩ := h
  exact ⟨e, hsuffix.mem he, hgives⟩

theorem Honest.mono (h : t'.Honest) (hsuffix : t <:+ t') : t.Honest := fun e he => h e (hsuffix.mem he)

theorem given_of_gives {e : Turn Surroundings} (h : e.Gives k o) : Given k (e :: t) o :=
  ⟨e, List.mem_cons_self, h⟩

end Talk

/-- The store gave the bootstrapped cluster that an object's labels name. -/
def Vouched (t : Talk Surroundings) (m : ObjectMeta) : Prop :=
  ∃ (name : String) (cluster : Cluster), m.labelSet.get? Labels.clusterName = some name ∧
    t.Given .cluster cluster ∧ cluster.isBootstrapped = true ∧
    (t.Honest → ObjectKey.ofMeta cluster.metadata = ⟨m.nsText, name⟩)

/-- A cluster is one that the store gave, with no more than its phase and its leader changed, and no more
claimed than before. -/
def Held (t : Talk Surroundings) (cluster : Cluster) : Prop :=
  ∃ base : Cluster, t.Given .cluster base ∧ cluster.metadata = base.metadata ∧
    cluster.isBootstrapped = base.isBootstrapped ∧ (base.Truthful → cluster.Truthful)

/-- The rule: a status is written over an object that the store gave, and claims no more than what the
store gave allows. -/
def Candid (t : Talk Surroundings) : Request → Prop
  | .store (.replaceStatus .cluster given) =>
    ∃ base : Cluster, t.Given .cluster base ∧ given.metadata = base.metadata ∧
      (base.isBootstrapped = true → given.isBootstrapped = true) ∧ (base.Truthful → given.Truthful)
  | .store (.replaceStatus k given) => k.isCustom = true →
    ∃ base : k.Object, t.Given k base ∧ Kind.metadata given = Kind.metadata base ∧
      (k.Claims given → k.Claims base ∨ Vouched t (Kind.metadata given))
  | .store q => q.CustomWriteFree
  | _ => True

instance : AdmitsJoinFree Candid where
  of_joinFree t q h := by
    unfold Candid
    split
    · exact absurd rfl h.1
    · exact fun hcustom => absurd (h.2.symm.trans hcustom) Bool.false_ne_true
    · exact h.2
    · trivial

variable {t t' : Talk Surroundings}

theorem candid_replaceStatus_iff {k : Kind} {given : k.Object} (hcustom : k.isCustom = true)
    (hne : k ≠ .cluster) :
    Candid t (.store (.replaceStatus k given)) ↔
      ∃ base : k.Object, t.Given k base ∧ Kind.metadata given = Kind.metadata base ∧
        (k.Claims given → k.Claims base ∨ Vouched t (Kind.metadata given)) := by
  cases k with
  | cluster => exact absurd rfl hne
  | role => exact ⟨fun h => h hcustom, fun h _ => h⟩
  | cartridgeConfig => exact ⟨fun h => h hcustom, fun h _ => h⟩
  | pod => cases hcustom
  | statefulSet => cases hcustom
  | service => cases hcustom
  | secret => cases hcustom

theorem Vouched.mono {m : ObjectMeta} (h : Vouched t m) (hsuffix : t <:+ t') : Vouched t' m := by
  obtain ⟨name, cluster, hlabel, hgiven, hboot, hkey⟩ := h
  exact ⟨name, cluster, hlabel, hgiven.mono hsuffix, hboot, fun ht' => hkey (ht'.mono hsuffix)⟩

theorem Held.mono {cluster : Cluster} (h : Held t cluster) (hsuffix : t <:+ t') : Held t' cluster := by
  obtain ⟨base, hgiven, hbase⟩ := h
  exact ⟨base, hgiven.mono hsuffix, hbase⟩

theorem held_of_given {cluster : Cluster} (h : t.Given .cluster cluster) : Held t cluster :=
  ⟨cluster, h, rfl, rfl, id⟩

/-- A condition that longer talks keep. -/
theorem persists_of_mono {inv : Talk Surroundings → Prop} (h : ∀ t t', t <:+ t' → inv t → inv t') :
    Persists inv := fun t _ _ _ ht => h t _ (List.suffix_cons _ t) ht

/-! ### The election -/

namespace Election

/-- The cluster with which a leader is found: the same one, or one that the store gave. -/
def FoundWith (cluster : Cluster) (t : Talk Surroundings) (found : Cluster) : Prop :=
  found = cluster ∨ t.Given .cluster found ∧
    (t.Honest → ObjectKey.ofMeta found.metadata = ObjectKey.ofMeta cluster.metadata)

theorem FoundWith.mono {cluster found : Cluster} (h : FoundWith cluster t found) (hsuffix : t <:+ t') :
    FoundWith cluster t' found :=
  h.imp_right fun ⟨hgiven, hkey⟩ => ⟨hgiven.mono hsuffix, fun ht' => hkey (ht'.mono hsuffix)⟩

theorem elect_candid {cluster : Cluster} {previous : Option String} (h : Held t cluster) :
    KeepsOr Candid (elect cluster previous) (fun t r => FoundWith cluster t r.2)
      (fun _ _ => True) t := by
  have hheld : Persists fun t => Held t cluster := persists_of_mono fun _ _ hsuffix h => h.mono hsuffix
  rw [elect, keepsOr_bind, Attempt.list, keepsOr_store]
  refine ⟨AdmitsJoinFree.of_joinFree _ _ (by simp), fun roles => ?_, fun _ => trivial⟩
  rw [keepsOr_bind]
  refine (keepsOr_of_joinFree (search_deedFree cluster roles previous).joinFree hheld
    (h.mono (List.suffix_cons _ t))).mono (fun t found h => ?_) fun _ _ _ => trivial
  cases found with
  | none => trivial
  | some pod =>
    obtain ⟨base, hgiven, hmeta, hboot, htruth⟩ := h
    simp only [keepsOr_bind, keepsOr_lift, keeps_run, Attempt.replaceStatus, keepsOr_store]
    refine ⟨⟨base, hgiven, hmeta, fun hb => ?_, fun hb => ?_⟩, fun stored => ?_, fun e => trivial⟩
    · rw [Cluster.isBootstrapped_setLeader, hboot, hb]
    · exact ⟨fun hp => Cluster.isBootstrapped_setLeader.trans ((htruth hb).bootstrapped hp),
        fun hp => Cluster.isBootstrapped_setLeader.trans ((htruth hb).unable hp)⟩
    · have hfound : FoundWith cluster (⟨Request.store (.replaceStatus .cluster
          (cluster.setLeader pod.name)), Except.ok stored⟩ :: t) stored :=
        Or.inr ⟨Talk.given_of_gives .stored, fun ht => ht _ List.mem_cons_self rfl⟩
      have hstays : Persists fun t => FoundWith cluster t stored :=
        persists_of_mono fun _ _ hsuffix h => h.mono hsuffix
      exact hstays.keepsOr_log hfound fun t ht => hstays.keepsOr_record ht fun t ht => ht

theorem leaderFor_candid {cluster : Cluster} (h : Held t cluster) :
    KeepsOr Candid (leaderFor cluster) (fun t r => FoundWith cluster t r.2) (fun _ _ => True) t := by
  have hheld : Persists fun t => Held t cluster := persists_of_mono fun _ _ hsuffix h => h.mono hsuffix
  rw [leaderFor]
  split
  next => exact elect_candid h
  next leader _ =>
    simp only [keepsOr_bind, keepsOr_lift, keeps_run]
    refine (keepsOr_of_joinFree (recorded_deedFree cluster leader).joinFree hheld h).mono (fun t pod _ => Or.inl rfl)
      fun t e h => ?_
    split
    next h => cases h
    next =>
      rw [keepsOr_ite]
      exact ⟨fun _ => hheld.keepsOr_log h fun t ht => elect_candid ht, fun _ => trivial⟩
    next => trivial

theorem getLeader_candid {C α : Type} [PassState C α] {inv : Talk Surroundings → C → Prop}
    (hmono : ∀ t t' c, t <:+ t' → inv t c → inv t' c)
    (hheld : ∀ t c cluster, inv t c → PassState.cluster c = some cluster → Held t cluster)
    (hfound : ∀ t c cluster found leader, inv t c → PassState.cluster c = some cluster →
      FoundWith cluster t found → inv t (PassState.withLeader leader (PassState.withCluster found c))) :
    (Pass.getLeader (C := C)).Preserves Candid inv := by
  have hinv : ∀ c, Persists fun t => inv t c := fun c => persists_of_mono fun t t' h => hmono t t' c h
  refine Pass.preserves_ofAttempt fun t c hc => ?_
  split
  next => exact hc
  next cluster hcluster =>
    simp only [keepsOr_bind, keepsOr_lift, keeps_run]
    refine (leaderFor_candid (hheld t c cluster hc hcluster)).suffix.mono (fun t' r hr => ?_)
      fun (t' : Talk Surroundings) e he => ?_
    · exact hfound t' c cluster r.2 r.1 (hmono t t' c hr.1 hc) hcluster hr.2
    · have hc : inv t' c := hmono t t' c he.1 hc
      split
      next h => cases h
      next => exact hc
      next =>
        rw [keepsOr_ite]
        exact ⟨fun _ => hc, fun _ => (hinv c).keepsOr_log hc fun _ h => h⟩
      next => exact hc

end Election

end ClusterKeeper
