import ClusterKeeper.Proofs.Cluster.Safety
import ClusterKeeper.Proofs.Cluster.Stock
import ClusterKeeper.Proofs.Pass.CandidCluster
import ClusterKeeper.Proofs.Pass.CandidMember
import ClusterKeeper.Proofs.Program.Play

/-!
Stored phases tell the truth about the bootstrap, under any number of passes of all three kinds and
whatever others do in between (`Stock.phases_of_reaches`).
-/

namespace ClusterKeeper

/-- Passes over the custom resources of a store. -/
abbrev Stocked := System Surroundings Stock (Except OperatorError Action)

namespace Stock

/-- A stock whose objects no pass has seen: none has a status or had another state. -/
structure Untouched (s : Stock) : Prop where
  now : ∀ (k : Kind) key (o : k.Object), s.now k key = some o →
    Kind.keyOf o = key ∧ Kind.status o = none
  ever : ∀ (k : Kind) (o : k.Object), o ∈ s.ever k ↔ s.now k (Kind.keyOf o) = some o

/-- Any number of steps of the store, of passes and of others. -/
def Reaches : Stocked → Stocked → Prop := System.Reaches store IsPass

variable {s : Stock} {w : Stocked}

theorem Untouched.good (h : s.Untouched) : s.Good where
  stored k key o ho := by
    obtain ⟨hkey, _⟩ := h.now k key o ho
    exact ⟨(h.ever k o).2 (hkey ▸ ho), hkey⟩
  versions k o o' ho ho' hkey _ := by
    have hsame := (h.ever k o).1 ho
    rw [hkey, (h.ever k o').1 ho'] at hsame
    exact (Option.some.inj hsame).symm
  tells k o ho := Kind.tells_of_status_eq_none (h.now k _ o ((h.ever k o).1 ho)).2
  boots k o ho hb := absurd hb (Kind.not_boots_of_status_eq_none (h.now k _ o ((h.ever k o).1 ho)).2)
  claims k o ho hc := absurd hc (Kind.not_claims_of_status_eq_none (h.now k _ o ((h.ever k o).1 ho)).2)

theorem keeps_of_isPass (p : Act (Except OperatorError Action)) (h : IsPass p) :
    p.Keeps Candid (fun _ _ => True) [] := by
  cases h with
  | cluster k => exact ClusterPass.reconcile_candid k
  | role r => exact RolePass.reconcile_candid r
  | config c => exact ConfigPass.reconcile_candid c

/-- In every stock that passes and others reach from one that no pass has seen: a cluster that is
configured for failover or ready is bootstrapped, one that could not be bootstrapped is not; and a role
that got to its weights, or a clusterwide config that got past its cluster, has a cluster that is
bootstrapped. -/
theorem phases_of_reaches (hs : s.Untouched) (hreach : Reaches ⟨s, []⟩ w) :
    (∀ key (c : Cluster), w.state.now .cluster key = some c →
      (c.phase = .failoverConfiguring ∨ c.phase = .ready → c.isBootstrapped = true) ∧
        (c.phase = .unableToBootstrap → c.isBootstrapped = false)) ∧
    (∀ key (r : Role), w.state.now .role key = some r →
      r.phase = .configuringWeights ∨ r.phase = .ready →
      ∃ (name : String) (c : Cluster), r.metadata.labelSet.get? Labels.clusterName = some name ∧
        w.state.now .cluster ⟨key.ns, name⟩ = some c ∧ c.isBootstrapped = true) ∧
    (∀ key (g : CartridgeConfig), w.state.now .cartridgeConfig key = some g →
      g.phase = .waitingForLeader ∨ g.phase = .applying ∨ g.phase = .ready →
      ∃ (name : String) (c : Cluster), g.metadata.labelSet.get? Labels.clusterName = some name ∧
        w.state.now .cluster ⟨key.ns, name⟩ = some c ∧ c.isBootstrapped = true) := by
  have hgood : w.state.Good :=
    ((store_invariant keeps_of_isPass).sound_of_reaches
      (System.Invariant.sound_of_good hs.good) hreach).good
  have hvouches : ∀ (k : Kind) key (o : k.Object), w.state.now k key = some o → k.Claims o →
      ∃ (name : String) (c : Cluster), (Kind.metadata o).labelSet.get? Labels.clusterName = some name ∧
        w.state.now .cluster ⟨key.ns, name⟩ = some c ∧ c.isBootstrapped = true := by
    intro k key o ho hclaims
    obtain ⟨hever, rfl⟩ := hgood.stored k key o ho
    obtain ⟨name, hlabel, c, hc, hboot⟩ := hgood.claims k o hever hclaims
    exact ⟨name, c, hlabel, hc, hboot⟩
  refine ⟨fun key c hc => ?_, fun key r hr hphase => hvouches .role key r hr hphase,
    fun key g hg hphase => hvouches .cartridgeConfig key g hg hphase⟩
  have htells : c.Truthful := hgood.tells .cluster c (hgood.stored .cluster key c hc).1
  exact ⟨htells.bootstrapped, htells.unable⟩

/-! ### An example: a cluster with one role -/

/-- A cluster that names its leader. -/
def shop : Cluster :=
  ⟨Keeping.metadataOf "shop", { ClusterSpec.default with foreignLeader := some "router-0-0" }, none⟩

/-- The shop and its router. -/
def bareNow : (k : Kind) → ObjectKey → Option k.Object
  | .cluster, key => if key = ⟨"shop", "shop"⟩ then some shop else none
  | .role, key => if key = ⟨"shop", "router"⟩ then some (Keeping.roleOf "router") else none
  | _, _ => none

/-- A stock with nothing else. -/
def bare : Stock := ⟨bareNow, fun k => {o | bareNow k (Kind.keyOf o) = some o}⟩

theorem untouched_bare : bare.Untouched where
  now k key o ho := by
    cases k with
    | cluster =>
      have hnow : (if key = ⟨"shop", "shop"⟩ then some shop else none) = some o := ho
      split at hnow
      next h => exact h ▸ Option.some.inj hnow ▸ ⟨rfl, rfl⟩
      next => cases hnow
    | role =>
      have hnow : (if key = ⟨"shop", "router"⟩ then some (Keeping.roleOf "router") else none) = some o := ho
      split at hnow
      next h => exact h ▸ Option.some.inj hnow ▸ ⟨rfl, rfl⟩
      next => cases hnow
    | _ => cases ho
  ever _ _ := Iff.rfl

/-- The present object with the status of another, in the next version. -/
def retake : {k : Kind} → (now given : k.Object) → k.Object
  | .cluster, now, given =>
    ({ now with metadata := next now.metadata, status := Cluster.status given } : Cluster)
  | .role, now, given => ({ now with metadata := next now.metadata, status := Role.status given } : Role)
  | .cartridgeConfig, now, given =>
    ({ now with metadata := next now.metadata, status := CartridgeConfig.status given } : CartridgeConfig)
  | .pod, now, _ | .statefulSet, now, _ | .service, now, _ | .secret, now, _ => now
where
  next (m : ObjectMeta) : ObjectMeta := { m with resourceVersion := m.resourceVersion.map (· ++ "1") }

/-- Answers about a topology that is joined. -/
def answerAdmin : (q : AdminRequest) → Except AdminError q.Result
  | .instanceUuid _ => .ok "a22a12b7-eee9-4d46-bf7e-5eea8ff38b5b"
  | .isCartridgeStarted _ | .isCartridgeConfigured _ => .ok true
  | .rolesHierarchy _ => .ok SortedMap.empty
  | .replicasetRoles .. => .ok []
  | .bootstrapVshard _ | .setWeight .. | .setFailoverParams .. => .ok ()
  | .failoverParams _ => .ok (.plain .disabled 0)
  | _ => .error .decode

/-- What a stock answers when nothing fails, and what becomes of it. -/
def respond (s : Stock) : (q : Request) → q.Answer × Stock
  | .store (.get .pod _ name) => (.ok (some (Keeping.podOf name)), s)
  | .store (.get k ns name) => (.ok (s.now k ⟨ns, name⟩), s)
  | .store (.list .role _ _) => (.ok (s.now .role ⟨"shop", "router"⟩).toList, s)
  | .store (.list .pod _ _) => (.ok [Keeping.podOf "router-0-0"], s)
  | .store (.list .statefulSet _ _) => (.ok [⟨Keeping.metadataOf "router-0", none⟩], s)
  | .store (.create .service o) => (.ok o, s)
  | .store (.replaceStatus k given) =>
    match s.now k (Kind.keyOf given) with
    | some now =>
      if k.isCustom = true ∧ Kind.version given = Kind.version now then
        (.ok (retake now given), s.put (retake now given))
      else (.error (.conflict k.name ""), s)
    | none => (.error (.notFound k.name "" ""), s)
  | .store (.list ..) => (.ok [], s)
  | .store _ => (.error .serialization, s)
  | .admin q => (answerAdmin q, s)
  | .record .. => ((), s)
  | .log .. => ((), s)

/-- How many versions an object has had. -/
def age {k : Kind} (o : k.Object) : Nat := (Kind.version o).elim 0 String.length

/-- Every object has a version, and the present state is the one with the longest. -/
structure Aged (s : Stock) : Prop where
  stored : ∀ k key o, s.now k key = some o → o ∈ s.ever k ∧ Kind.keyOf o = key
  versioned : ∀ k key o, s.now k key = some o → (Kind.version o).isSome = true
  oldest : ∀ (k : Kind) key (o o' : k.Object), s.now k key = some o → o' ∈ s.ever k →
    Kind.keyOf o' = key → age o' ≤ age o

section

variable {k : Kind} {now given : k.Object}

theorem metadata_retake (hcustom : k.isCustom = true) :
    Kind.metadata (retake now given) = retake.next (Kind.metadata now) := by
  cases k <;> first | rfl | cases hcustom

theorem status_retake : Kind.status (retake now given) = Kind.status given := by
  cases k <;> rfl

theorem keyOf_retake (hcustom : k.isCustom = true) : Kind.keyOf (retake now given) = Kind.keyOf now := by
  rw [Kind.keyOf, metadata_retake hcustom]
  rfl

theorem version_retake (hcustom : k.isCustom = true) :
    Kind.version (retake now given) = (Kind.version now).map (· ++ "1") := by
  rw [Kind.version, metadata_retake hcustom]
  rfl

theorem age_retake (hcustom : k.isCustom = true) (hversion : (Kind.version now).isSome = true) :
    age (retake now given) = age now + 1 := by
  obtain ⟨v, hv⟩ := Option.isSome_iff_exists.1 hversion
  rw [age, age, version_retake hcustom, hv]
  exact String.length_append v "1"

theorem aged_bare : bare.Aged where
  stored := untouched_bare.good.stored
  versioned k key o ho := by
    cases k with
    | cluster =>
      have hnow : (if key = ⟨"shop", "shop"⟩ then some shop else none) = some o := ho
      split at hnow
      next => exact Option.some.inj hnow ▸ rfl
      next => cases hnow
    | role =>
      have hnow : (if key = ⟨"shop", "router"⟩ then some (Keeping.roleOf "router") else none) = some o := ho
      split at hnow
      next => exact Option.some.inj hnow ▸ rfl
      next => cases hnow
    | _ => cases ho
  oldest k key o o' ho ho' hkey := by
    obtain rfl : o' = o := Option.some.inj (((untouched_bare.ever k o').1 ho').symm.trans (hkey ▸ ho))
    exact le_rfl

theorem Aged.fresh_retake (hs : s.Aged) (hcustom : k.isCustom = true)
    (hnow : s.now k (Kind.keyOf now) = some now) : s.Fresh (retake now given) := by
  intro o' ho' hkey hversion
  have hle : age o' ≤ age now := hs.oldest k _ now o' hnow ho' (hkey.trans (keyOf_retake hcustom))
  have hage : age o' = age now + 1 := by
    rw [age, hversion]
    exact age_retake hcustom (hs.versioned k _ now hnow)
  exact absurd hle (by rw [hage]; exact Nat.not_succ_le_self _)

theorem Aged.put_retake (hs : s.Aged) (hcustom : k.isCustom = true)
    (hnow : s.now k (Kind.keyOf now) = some now) : (s.put (retake now given)).Aged := by
  have hversion : (Kind.version now).isSome = true := hs.versioned k _ now hnow
  have hkey : Kind.keyOf (retake now given) = Kind.keyOf now := keyOf_retake hcustom
  refine ⟨stored_put hs.stored, fun k' key o ho => ?_, fun k' key o o' ho ho' hkey' => ?_⟩
  · by_cases hk : k' = k ∧ key = Kind.keyOf (retake now given)
    · obtain ⟨rfl, rfl⟩ := hk
      rw [now_put_self] at ho
      rw [← Option.some.inj ho, version_retake hcustom, Option.isSome_map]
      exact hversion
    · rw [now_put_of_ne fun h h' => hk ⟨h, h'⟩] at ho
      exact hs.versioned k' key o ho
  · by_cases hk : k' = k
    · subst hk
      by_cases hsame : key = Kind.keyOf (retake now given)
      · subst hsame
        rw [now_put_self] at ho
        rw [← Option.some.inj ho, age_retake hcustom hversion]
        rcases mem_ever_put.1 ho' with rfl | ho'
        · rw [age_retake hcustom hversion]
        · exact Nat.le_succ_of_le (hs.oldest k' _ now o' hnow ho' (hkey'.trans hkey))
      · rw [now_put_of_ne fun _ => hsame] at ho
        rcases mem_ever_put.1 ho' with rfl | ho'
        · exact absurd hkey'.symm hsame
        · exact hs.oldest k' key o o' ho ho' hkey'
    · rw [now_put_of_ne fun h => absurd h hk] at ho
      exact hs.oldest k' key o o' ho (ever_put_of_ne hk ▸ ho') hkey'

end

/-- The answers are allowed. -/
theorem answers_respond (hs : s.Aged) (q : Request) :
    s.Answers q (respond s q).1 (respond s q).2 ∧ (respond s q).2.Aged := by
  cases q with
  | store q =>
    cases q with
    | get k ns name =>
      have hfound : ∀ o, s.now k ⟨ns, name⟩ = some o → o ∈ s.ever k ∧ Kind.keyOf o = ⟨ns, name⟩ :=
        fun o ho => hs.stored k _ o ho
      cases k with
      | pod => exact ⟨.outside fun r hr => by cases hr; rfl, hs⟩
      | _ => exact ⟨.read hfound, hs⟩
    | list k ns selector => cases k <;> exact ⟨.listed, hs⟩
    | create k o =>
      cases k with
      | service => exact ⟨.outside fun r hr => by cases hr; rfl, hs⟩
      | _ => exact ⟨.refused, hs⟩
    | replace k o => exact ⟨.refused, hs⟩
    | replaceStatus k given =>
      rw [respond]
      split
      next now hnow =>
        have hself : s.now k (Kind.keyOf now) = some now := by
          rw [(hs.stored k _ now hnow).2, hnow]
        split
        next hversion =>
          refine ⟨.accepted hversion.1 hnow hversion.2 ⟨status_retake, Or.inr ⟨?_, ?_⟩⟩ ?_,
            hs.put_retake hversion.1 hself⟩
          · exact hs.fresh_retake hversion.1 hself
          · rw [Kind.version, metadata_retake hversion.1]
            rfl
          · exact fun o ho => (Except.ok.inj ho).symm
        next => exact ⟨.refused, hs⟩
      next => exact ⟨.refused, hs⟩
  | admin q => exact ⟨.outside fun r hr => Request.noConfusion hr, hs⟩
  | record about event => exact ⟨.outside fun r hr => Request.noConfusion hr, hs⟩
  | log level message => exact ⟨.outside fun r hr => Request.noConfusion hr, hs⟩

/-- What is left of the stock after passes that run one after another. -/
def afterPasses (passes : List (Act (Except OperatorError Action))) (s : Stock) : Stock :=
  passes.foldl (fun s p => (p.play respond [] s).state) s

theorem exists_reaches_afterPasses {passes : List (Act (Except OperatorError Action))}
    (hpasses : ∀ p ∈ passes, IsPass p) (hs : s.Aged) (rs : List (Running Surroundings _)) :
    ∃ rs', Reaches ⟨s, rs⟩ ⟨afterPasses passes s, rs'⟩ := by
  induction passes generalizing s rs with
  | nil => exact ⟨rs, .refl⟩
  | cons p passes ih =>
    obtain ⟨hp, hpasses⟩ := List.forall_mem_cons.1 hpasses
    have hrespond (s : Stock) (q : Request) (hs : s.Aged) :
        store.reply s q (s.respond q).1 (s.respond q).2 ∧ (s.respond q).2.Aged := answers_respond hs q
    obtain ⟨haged, hplay⟩ : _ ∧ Reaches _ _ := System.exists_reaches_play hrespond p [] rs hs
    obtain ⟨rs', hreach⟩ := ih hpasses haged _
    exact ⟨rs', .head (.start hp) (.trans hplay hreach)⟩

/-- A pass over the router, one over the shop, and the router's again. -/
def shopPasses : List (Act (Except OperatorError Action)) :=
  [Controller.reconcile RolePass.steps MemberPass.start (Keeping.roleOf "router"),
    Controller.reconcile ClusterPass.steps ClusterPass.start shop,
    Controller.reconcile RolePass.steps MemberPass.start (Keeping.roleOf "router")]

/-- The router is ready after two passes, and its cluster is bootstrapped. -/
theorem router_ready :
    ∃ (w : Stocked) (r : Role) (name : String) (c : Cluster), Reaches ⟨bare, []⟩ w ∧
      w.state.now .role ⟨"shop", "router"⟩ = some r ∧ r.phase = .ready ∧
      r.metadata.labelSet.get? Labels.clusterName = some name ∧
      w.state.now .cluster ⟨"shop", name⟩ = some c ∧ c.isBootstrapped = true := by
  have hpasses : ∀ p ∈ shopPasses, IsPass p :=
    List.forall_mem_cons.2 ⟨.role _, List.forall_mem_cons.2 ⟨.cluster _, List.forall_mem_singleton.2 (.role _)⟩⟩
  obtain ⟨rs, hreach⟩ := exists_reaches_afterPasses hpasses aged_bare []
  have hready : ((afterPasses shopPasses bare).now .role ⟨"shop", "router"⟩).map Role.phase =
      some .ready := by
    decide +kernel
  generalize afterPasses shopPasses bare = s at hreach hready
  obtain ⟨r, hr, hphase⟩ := Option.map_eq_some_iff.1 hready
  obtain ⟨_, hroles, _⟩ := phases_of_reaches untouched_bare hreach
  obtain ⟨name, c, hlabel, hc, hboot⟩ := hroles _ r hr (Or.inr hphase)
  exact ⟨_, r, name, c, hreach, hr, hphase, hlabel, hc, hboot⟩

end Stock

end ClusterKeeper
