import ClusterKeeper.Proofs.Cluster.History
import ClusterKeeper.Proofs.Pass.ClusterConduct
import ClusterKeeper.Proofs.Pass.RoleConduct

/-!
Safety of a cluster under any number of passes, of all three kinds and over any objects, that make their
requests in any order while others edit the cluster. A stored cluster goes on as it should from one
state to the next (`status_of_step`), and while its storages are not bootstrapped, instances are joined
to one topology only (`joins_agree`).
-/

namespace ClusterKeeper

/-- The programs of passes. -/
inductive IsPass : Act (Except OperatorError Action) → Prop
  | cluster (k : Cluster) : IsPass (Controller.reconcile ClusterPass.steps ClusterPass.start k)
  | role (r : Role) : IsPass (Controller.reconcile RolePass.steps MemberPass.start r)
  | config (c : CartridgeConfig) : IsPass (Controller.reconcile ConfigPass.steps MemberPass.start c)

/-- A store with one cluster, and the passes that have started. -/
abbrev Keeping := System Surroundings History (Except OperatorError Action)

namespace Keeping

/-- A cluster before any pass has started. -/
def start (k : Cluster) : Keeping := ⟨.start k, []⟩

/-- One step of the store, a pass or somebody else. -/
def Step (key : ObjectKey) : Keeping → Keeping → Prop := System.Step (storeOf key) IsPass

/-- Any number of steps. -/
def Reaches (key : ObjectKey) : Keeping → Keeping → Prop := System.Reaches (storeOf key) IsPass

variable {k₀ : Cluster} {w w' : Keeping}

theorem keeps_of_isPass (p : Act (Except OperatorError Action)) (h : IsPass p) :
    p.Keeps Proper (fun _ _ => True) [] := by
  cases h with
  | cluster k => exact ClusterPass.reconcile_keeps k
  | role r => exact RolePass.reconcile_keeps r
  | config c => exact ConfigPass.reconcile_keeps c

theorem sound_of_reaches (h : Reaches k₀.key (start k₀) w) :
    System.Sound Proper (History.Consistent k₀.key) (Known k₀.key) w :=
  (storeOf_invariant keeps_of_isPass).sound_of_reaches
    (System.Invariant.sound_of_good (History.consistent_start k₀)) h

/-! ### An example: two passes over roles of a cluster that has a leader -/

/-- The metadata of an object of a shop. -/
def metadataOf (name : String) : ObjectMeta :=
  { ObjectMeta.blank with name := some name, ns := some "shop", resourceVersion := some "1" }

/-- A cluster whose leader is the first instance of the role `router`. -/
def shop : Cluster := ⟨metadataOf "shop", .default, some ⟨.pending, false, some "router-0-0"⟩⟩

/-- A role of the cluster, with one instance. -/
def roleOf (name : String) : Role :=
  ⟨{ metadataOf name with labels := some (Labels.clusterSelector "shop") }, .default, none⟩

/-- A pod that is ready. -/
def podOf (name : String) : Pod :=
  ⟨metadataOf name, none, some ⟨some "Running", some [⟨name, "", "", true, 0⟩]⟩⟩

/-- Answers to the passes over a role, before or after the leader has joined. -/
def answer (role : String) (leaderJoined : Bool) : (q : Request) → q.Answer
  | .store (.get .role _ name) => .ok (some (roleOf name))
  | .store (.get .cluster _ _) => .ok (some shop)
  | .store (.get .pod _ name) => .ok (some (podOf name))
  | .store (.list .pod _ _) => .ok [podOf (podName (Replicaset.name role 0) 0)]
  | .store (.list .statefulSet _ _) => .ok [⟨metadataOf (Replicaset.name role 0), none⟩]
  | .store _ => .error .serialization
  | .admin (.instanceUuid pod) =>
    .ok (if leaderJoined ∧ pod.name = "router-0-0" then "a22a12b7-eee9-4d46-bf7e-5eea8ff38b5b" else "")
  | .admin (.isCartridgeStarted _) => .ok true
  | .admin (.join ..) => .ok .joined
  | .admin _ => .error .decode
  | .record .. => ()
  | .log .. => ()

/-- Where the cluster is what is read, and other requests about clusters fail, a request that writes no
status leaves the store as it is. -/
theorem reply_of_reads {k : Cluster} {answers : (q : Request) → q.Answer}
    (hget : ∀ ns name, answers (.store (.get .cluster ns name)) = Except.ok (some k))
    (hlist : ∀ ns selector, answers (.store (.list .cluster ns selector)) = Except.error .serialization)
    (hcreate : ∀ o, answers (.store (.create .cluster o)) = Except.error .serialization)
    (hreplace : ∀ o, answers (.store (.replace .cluster o)) = Except.error .serialization)
    {q : Request} (hq : ¬Election.WritesCluster q) : Reply k.key (.start k) q (answers q) (.start k) := by
  cases q with
  | store q =>
    by_cases hkind : q.kind = .cluster
    · cases q with
      | get kind ns name =>
        obtain rfl : kind = .cluster := hkind
        rw [hget]
        exact .read fun _ hk _ => Option.some.inj hk ▸ List.mem_cons_self
      | list kind ns selector =>
        obtain rfl : kind = .cluster := hkind
        exact hlist ns selector ▸ .refused
      | create kind o =>
        obtain rfl : kind = .cluster := hkind
        exact hcreate o ▸ .refused
      | replace kind o =>
        obtain rfl : kind = .cluster := hkind
        exact hreplace o ▸ .refused
      | replaceStatus kind o =>
        obtain rfl : kind = .cluster := hkind
        exact absurd ⟨o, rfl⟩ hq
    · exact .elsewhere hkind
  | admin q => exact .elsewhere Request.elsewhere_admin
  | record about event => exact .elsewhere Request.elsewhere_record
  | log level message => exact .elsewhere Request.elsewhere_log

theorem reply_answer (role : String) (leaderJoined : Bool) (q : Request) :
    Reply shop.key (.start shop) q (answer role leaderJoined q) (.start shop) := by
  by_cases hq : Election.WritesCluster q
  · obtain ⟨given, rfl⟩ := hq
    exact .refused
  · exact reply_of_reads (fun _ _ => rfl) (fun _ _ => rfl) (fun _ => rfl) (fun _ => rfl) hq

/-- The turns of a pass over a role that is answered so. -/
def talkOf (role : String) (leaderJoined : Bool) : Talk Surroundings :=
  (Controller.reconcile RolePass.steps MemberPass.start (roleOf role)).hear (answer role leaderJoined) []

/-- Two passes run after one another, the second after the leader has joined. -/
theorem exists_reaches :
    ∃ w : Keeping, Reaches shop.key (start shop) w ∧ w.state = .start shop ∧
      w.running.map (·.talk) = [talkOf "storage" true, talkOf "router" false] := by
  have hpass : ∀ role leaderJoined rs, ∃ a, Reaches shop.key ⟨.start shop, rs⟩
      ⟨.start shop, ⟨talkOf role leaderJoined, .done a⟩ :: rs⟩ := by
    intro role leaderJoined rs
    obtain ⟨a, hreach⟩ := System.exists_reaches_hear (E := storeOf shop.key) (reply_answer role leaderJoined)
      (Controller.reconcile RolePass.steps MemberPass.start (roleOf role)) [] rs
    exact ⟨a, .head (.start (.role _)) hreach⟩
  obtain ⟨a, hrouter⟩ := hpass "router" false []
  obtain ⟨b, hstorage⟩ := hpass "storage" true _
  exact ⟨_, .trans hrouter hstorage, rfl, rfl⟩

theorem namesPods_talkOf (role : String) (leaderJoined : Bool) :
    (talkOf role leaderJoined).NamesPods := by
  refine Program.forall_mem_hear (fun q => ?_) _ fun _ he => absurd he List.not_mem_nil
  unfold Turn.NamesPod
  split
  next h => cases h; rfl
  next => trivial

theorem cluster?_talkOf (role : String) (leaderJoined : Bool) :
    ∀ e ∈ talkOf role leaderJoined, ∀ k, e.cluster? = some k → k = shop := by
  refine Program.forall_mem_hear (fun q k hk => ?_) _ fun _ he => absurd he List.not_mem_nil
  unfold Turn.cluster? at hk
  split at hk
  next h => cases h; exact (Option.some.inj hk).symm
  next h => cases h
  next => exact absurd hk.symm (Option.some_ne_none k)

/-! ### The status -/

/-- From one state to the next the storages of a cluster stay bootstrapped, a cluster with a leader has
one, as long as pods that are found by a name have one, and before the storages are bootstrapped it is
the same leader. -/
theorem status_of_step (hreach : Reaches k₀.key (start k₀) w) (hstep : Step k₀.key w w') :
    (w.state.now.isBootstrapped → w'.state.now.isBootstrapped) ∧
      ((∀ r ∈ w'.running, r.talk.FindsNamed) →
        w.state.now.electedLeader ≠ none → w'.state.now.electedLeader ≠ none) ∧
      (w.state.now.isBootstrapped = false →
        ∀ x, w.state.now.electedLeader = some x → w'.state.now.electedLeader = some x) := by
  have hsound := sound_of_reaches hreach
  cases hstep with
  | start _ => exact ⟨fun hb => hb, fun _ hled => hled, fun _ _ hx => hx⟩
  | @exchange s s' before after t q next a hreply =>
    have hmem : (⟨t, .ask q next⟩ : Running Surroundings _) ∈ before ++ ⟨t, .ask q next⟩ :: after :=
      List.mem_append_right _ List.mem_cons_self
    obtain ⟨hadvances, hled⟩ :=
      reply_advances hsound.good (hsound.ties _ hmem) (hsound.keeps _ hmem).1 hreply
    refine ⟨hadvances.bootstrapped, fun hpods => hled ?_, hadvances.leader⟩
    have hnamed := hpods ⟨⟨q, a⟩ :: t, next a⟩ (List.mem_append_right _ List.mem_cons_self)
    exact (Talk.findsNamed_cons.1 hnamed).2
  | drift hedit =>
    obtain ⟨k, rfl, hstatus, _, _⟩ := hedit
    have hadvances := Cluster.advances_of_status_eq hstatus
    refine ⟨hadvances.bootstrapped, fun _ hled => ?_, hadvances.leader⟩
    exact Cluster.electedLeader_congr hstatus ▸ hled

/-- The shop when its storages are bootstrapped. -/
def openShop : Cluster := { shop with status := some ⟨.ready, true, some "router-0-0"⟩ }

/-- The shop with a status that was taken. -/
def storedShop (given : Cluster) : Cluster :=
  ⟨{ openShop.metadata with resourceVersion := some "2" }, openShop.spec, given.status⟩

/-- Answers to a pass over the role `storage` when the pod of the leader is gone, and one pod is found for
every other name. -/
def lossAnswer (found : Pod) : (q : Request) → q.Answer
  | .store (.get .cluster _ _) => .ok (some openShop)
  | .store (.get .pod _ name) => .ok (if name = "router-0-0" then none else some found)
  | .store (.list .role _ _) => .ok [roleOf "storage"]
  | .store (.replaceStatus .cluster given) => .ok (storedShop given)
  | .admin (.isCartridgeConfigured _) => .ok true
  | q => answer "storage" true q

theorem reply_lossAnswer (found : Pod) (q : Request) (hq : ¬Election.WritesCluster q) :
    Reply openShop.key (.start openShop) q (lossAnswer found q) (.start openShop) :=
  reply_of_reads (fun _ _ => rfl) (fun _ _ => rfl) (fun _ => rfl) (fun _ => rfl) hq

/-- The turns of the pass that is answered so. -/
def lossTalk (found : Pod) : Talk Surroundings :=
  (Controller.reconcile RolePass.steps MemberPass.start (roleOf "storage")).hear (lossAnswer found) []

/-- The key, the version and the leader of a cluster whose status is written. -/
def written (e : Turn Surroundings) : Option (ObjectKey × Option String × Option String) :=
  match e.ask with
  | .store (.replaceStatus .cluster given) => some (given.key, given.version, given.electedLeader)
  | _ => none

/-- The pass elects the pod that is found. -/
theorem exists_election {found : Pod} {leader : Option String}
    (h : (lossTalk found).filterMap written = [(openShop.key, openShop.version, leader)]) :
    ∃ w w' : Keeping, Reaches openShop.key (start openShop) w ∧ Step openShop.key w w' ∧
      w.state.now = openShop ∧ w'.state.now.electedLeader = leader ∧
      ∀ r ∈ w'.running, ∀ e ∈ r.talk, ∃ q, e = ⟨q, lossAnswer found q⟩ := by
  have hasked : ∃ e ∈ lossTalk found, Election.WritesCluster e.ask := by
    obtain ⟨⟨q, a⟩, he, hwritten⟩ := List.mem_filterMap.1 (h ▸ List.mem_singleton_self _)
    refine ⟨_, he, ?_⟩
    unfold written at hwritten
    split at hwritten
    next given hq => exact ⟨given, hq⟩
    next => cases hwritten
  obtain ⟨earlier, q, next, ⟨given, rfl⟩, hsuffix, hreach⟩ :=
    System.exists_reaches_ask (E := storeOf openShop.key) (reply_lossAnswer found)
      (Controller.reconcile RolePass.steps MemberPass.start (roleOf "storage"))
      (fun _ he => absurd he List.not_mem_nil) [] hasked
  have hwritten : (given.key, given.version, given.electedLeader) = (openShop.key, openShop.version, leader) := by
    refine List.mem_singleton.1 (h ▸ List.mem_filterMap.2 ⟨_, hsuffix.mem List.mem_cons_self, ?_⟩)
    rfl
  obtain ⟨hkey, hversion, hleader⟩ : given.key = openShop.key ∧ given.version = openShop.version ∧
      given.electedLeader = leader := by simpa using hwritten
  have hfresh : (History.start openShop).Fresh (storedShop given) := by
    intro k hk
    have hne : some "2" ≠ some "1" := by decide
    exact List.mem_singleton.1 hk ▸ hne
  have hreply : Reply openShop.key (.start openShop) _
      (lossAnswer found (.store (.replaceStatus .cluster given)))
      ((History.start openShop).change (storedShop given)) := .changed hkey hversion rfl rfl rfl hfresh
  have hstep : Step openShop.key ⟨.start openShop, [] ++ [⟨earlier, .ask _ next⟩]⟩ ⟨_, [] ++ [⟨_, next _⟩]⟩ :=
    .exchange hreply
  refine ⟨_, _, .head (.start (.role _)) hreach, hstep, rfl, ?_, ?_⟩
  · exact (Cluster.electedLeader_congr rfl).trans hleader
  · have hturns : ∀ e ∈ lossTalk found, ∃ q, e = ⟨q, lossAnswer found q⟩ :=
      Program.forall_mem_hear (fun q => ⟨q, rfl⟩) _ fun _ he => absurd he List.not_mem_nil
    intro r hr e he
    rw [List.mem_singleton.1 hr] at he
    exact hturns e (hsuffix.mem he)

theorem findsNamed_lossAnswer {found : Pod} (hfound : found.name ≠ "") (q : Request) :
    Turn.FindsNamed ⟨q, lossAnswer found q⟩ := by
  cases q with
  | store q =>
    cases q with
    | get k ns name =>
      cases k with
      | pod =>
        by_cases hname : name = "router-0-0"
        · simp [Turn.FindsNamed, lossAnswer, hname]
        · simp [Turn.FindsNamed, lossAnswer, hname, hfound]
      | _ => trivial
    | _ => trivial
  | _ => trivial

/-- A pod whose metadata tell no name. -/
def namelessPod : Pod := { podOf "storage-0-0" with metadata := { metadataOf "" with name := none } }

/-- When a pod without a name is found, it is elected, and the shop has no leader any more. -/
theorem nameless_pod_elected :
    ∃ w w' : Keeping, Reaches openShop.key (start openShop) w ∧ Step openShop.key w w' ∧
      w.state.now.electedLeader = some "router-0-0" ∧ w'.state.now.electedLeader = none := by
  have hwritten : (lossTalk namelessPod).filterMap written = [(openShop.key, openShop.version, none)] := by
    decide +kernel
  obtain ⟨w, w', hreach, hstep, hnow, hleader, _⟩ := exists_election hwritten
  exact ⟨w, w', hreach, hstep, by rw [hnow]; rfl, hleader⟩

/-- The shop with another port. -/
def editedShop : Cluster :=
  ⟨{ shop.metadata with resourceVersion := some "2" }, { shop.spec with listenPort := 3302 },
    shop.status⟩

/-- The open shop gets another leader when its pod is gone, and stays open. When somebody edits the shop
after two passes, it keeps its leader. -/
theorem shop_has_leader :
    (∃ w w' : Keeping, Reaches openShop.key (start openShop) w ∧ Step openShop.key w w' ∧
      (∀ r ∈ w'.running, r.talk.FindsNamed) ∧ w.state.now = openShop ∧
      w'.state.now.electedLeader = some "storage-0-0" ∧ w'.state.now.isBootstrapped ∧
      w'.state.now.electedLeader ≠ none) ∧
    ∃ w w' : Keeping, Reaches shop.key (start shop) w ∧ Step shop.key w w' ∧
      w.state.now = shop ∧ w'.state.now = editedShop ∧
      w'.state.now.electedLeader = some "router-0-0" := by
  constructor
  · have hwritten : (lossTalk (podOf "storage-0-0")).filterMap written =
        [(openShop.key, openShop.version, some "storage-0-0")] := by
      decide +kernel
    obtain ⟨w, w', hreach, hstep, hnow, hleader, hturns⟩ := exists_election hwritten
    have hnamed : ∀ r ∈ w'.running, r.talk.FindsNamed := by
      intro r hr e he
      obtain ⟨q, rfl⟩ := hturns r hr e he
      exact findsNamed_lossAnswer (by decide) q
    obtain ⟨hboot, hled, _⟩ := status_of_step hreach hstep
    exact ⟨w, w', hreach, hstep, hnamed, hnow, hleader, hboot (by rw [hnow]; rfl), hled hnamed (by rw [hnow]; decide)⟩
  · obtain ⟨w, hreach, hstate, _⟩ := exists_reaches
    have hfresh : (History.start shop).Fresh editedShop := by
      intro k hk
      rw [List.mem_singleton.1 hk]
      decide
    have hstep : Step shop.key w ⟨w.state.change editedShop, w.running⟩ := by
      exact .drift ⟨editedShop, rfl, by rw [hstate]; rfl, by rw [hstate]; rfl, by rw [hstate]; exact hfresh⟩
    refine ⟨w, _, hreach, hstep, by rw [hstate]; rfl, rfl, ?_⟩
    exact (status_of_step hreach hstep).2.2 (by rw [hstate]; rfl) _ (by rw [hstate]; rfl)

/-! ### The topology -/

/-- After what was said earlier, a pass has asked a leader to join instances. -/
def Joins (t earlier : Talk Surroundings) (leader : Pod) (uris : List String) : Prop :=
  ∃ later request answer, t = later ++ ⟨Request.admin (.join leader request uris), answer⟩ :: earlier

theorem proper_of_joins {t earlier : Talk Surroundings} {leader : Pod} {uris : List String}
    (ht : t.Obeys Proper) (h : Joins t earlier leader uris) :
    ∃ k, earlier.copy = some k ∧ SoundJoin earlier k leader uris ∧ Leads earlier k leader := by
  obtain ⟨later, request, answer, rfl⟩ := h
  exact Talk.obeys_of_append ht

theorem Joins.mem {t earlier : Talk Surroundings} {leader : Pod} {uris : List String}
    (h : Joins t earlier leader uris) : ∀ e ∈ earlier, e ∈ t := by
  obtain ⟨later, request, answer, rfl⟩ := h
  exact fun e he => List.mem_append_right _ (List.mem_cons_of_mem _ he)

/-- The leader of a join is the one that the copy of the cluster records. -/
theorem electedLeader_of_joins {r : Running Surroundings (Except OperatorError Action)}
    (hsound : System.Sound Proper (History.Consistent k₀.key) (Known k₀.key) w) (hr : r ∈ w.running)
    (hforeign : ∀ k ∈ w.state.states, k.foreignLeader = none) (hpods : r.talk.NamesPods)
    {earlier : Talk Surroundings} {leader : Pod} {uris : List String} {k : Cluster}
    (hjoin : Joins r.talk earlier leader uris) (hcopy : earlier.copy = some k) (hkey : k.key = k₀.key) :
    k ∈ w.state.states ∧ k.electedLeader = some leader.name := by
  obtain ⟨k', hcopy', _, hleads⟩ := proper_of_joins (hsound.obeys r hr) hjoin
  obtain rfl : k = k' := Option.some.inj (hcopy.symm.trans hcopy')
  have hties := hsound.ties r hr
  obtain ⟨e, he, hk⟩ := Talk.exists_of_copy hcopy
  have hmem : k ∈ w.state.states := hties.states e (hjoin.mem e he) k hk hkey
  exact ⟨hmem, hleads (fun e he => hpods e (hjoin.mem e he))
    (fun e he => hties.takes e (hjoin.mem e he)) (hforeign k hmem)⟩

/-- The leader of a join joins itself or is part of a topology. Before the storages are bootstrapped,
all joins go to one leader, as long as the specification names none and pods have the names they are
asked for by. -/
theorem joins_agree (hreach : Reaches k₀.key (start k₀) w) :
    (∀ r ∈ w.running, ∀ earlier leader uris, Joins r.talk earlier leader uris →
      ∃ k, earlier.copy = some k ∧ SoundJoin earlier k leader uris) ∧
    ((∀ k ∈ w.state.states, k.foreignLeader = none) → (∀ r ∈ w.running, r.talk.NamesPods) →
      ∀ r ∈ w.running, ∀ r' ∈ w.running, ∀ earlier earlier' leader leader' uris uris' k k',
        Joins r.talk earlier leader uris → Joins r'.talk earlier' leader' uris' →
        earlier.copy = some k → earlier'.copy = some k' → k.key = k₀.key → k'.key = k₀.key →
        k.isBootstrapped = false → k'.isBootstrapped = false → leader.name = leader'.name) := by
  have hsound := sound_of_reaches hreach
  refine ⟨fun r hr earlier leader uris hjoin => ?_, fun hforeign hpods => ?_⟩
  · obtain ⟨k, hcopy, hjoins, _⟩ := proper_of_joins (hsound.obeys r hr) hjoin
    exact ⟨k, hcopy, hjoins⟩
  · intro r hr r' hr' earlier earlier' leader leader' uris uris' k k' hjoin hjoin' hcopy hcopy'
      hkey hkey' hboot hboot'
    obtain ⟨hmem, hleader⟩ :=
      electedLeader_of_joins hsound hr hforeign (hpods r hr) hjoin hcopy hkey
    obtain ⟨hmem', hleader'⟩ :=
      electedLeader_of_joins hsound hr' hforeign (hpods r' hr') hjoin' hcopy' hkey'
    -- the later of the two copies still has the leader of the earlier one
    rcases hsound.good.total hmem hmem' with horder | horder
    · have hstays := Cluster.electedLeader_of_advances horder hboot' hleader
      exact Option.some.inj (hstays.symm.trans hleader')
    · have hstays := Cluster.electedLeader_of_advances horder hboot hleader'
      exact Option.some.inj (hleader.symm.trans hstays)

/-- Whether a turn is a request to join instances. -/
def isJoin (e : Turn Surroundings) : Bool :=
  match e.ask with
  | .admin (.join ..) => true
  | _ => false

theorem exists_joins {t : Talk Surroundings} (h : t.any isJoin = true) :
    ∃ earlier leader uris, Joins t earlier leader uris := by
  obtain ⟨⟨q, a⟩, he, hjoin⟩ := List.any_eq_true.1 h
  obtain ⟨later, earlier, rfl⟩ := List.append_of_mem he
  unfold isJoin at hjoin
  split at hjoin
  next leader request uris hq =>
    cases hq
    exact ⟨earlier, leader, uris, later, request, a, rfl⟩
  next => cases hjoin

theorem copy_of_joins {role : String} {leaderJoined : Bool} {earlier : Talk Surroundings} {leader : Pod}
    {uris : List String} {k : Cluster} (h : Joins (talkOf role leaderJoined) earlier leader uris)
    (hcopy : earlier.copy = some k) : k = shop := by
  obtain ⟨e, he, hk⟩ := Talk.exists_of_copy hcopy
  exact cluster?_talkOf role leaderJoined e (h.mem e he) k hk

/-- The second pass joins an instance that is not the leader's, and both passes join through the
leader. -/
theorem shop_joins_agree :
    ∃ w : Keeping, Reaches shop.key (start shop) w ∧
      ∃ r ∈ w.running, ∃ r' ∈ w.running, ∃ earlier earlier' leader leader' uris uris',
        Joins r.talk earlier leader uris ∧ Joins r'.talk earlier' leader' uris' ∧
          r.talk = talkOf "storage" true ∧ r'.talk = talkOf "router" false ∧
          SoundJoin earlier shop leader uris ∧ leader.name = leader'.name := by
  obtain ⟨⟨state, running⟩, hreach, rfl, htalks⟩ := exists_reaches
  obtain ⟨r, _, rfl, hr, htalks⟩ := List.map_eq_cons_iff.1 htalks
  obtain ⟨r', _, rfl, hr', htalks⟩ := List.map_eq_cons_iff.1 htalks
  obtain rfl := List.map_eq_nil_iff.1 htalks
  obtain ⟨hsound, hagree⟩ := joins_agree hreach
  have hjoins : (talkOf "storage" true).any isJoin ∧ (talkOf "router" false).any isJoin := by
    decide +kernel
  obtain ⟨earlier, leader, uris, hjoin⟩ := exists_joins hjoins.1
  obtain ⟨earlier', leader', uris', hjoin'⟩ := exists_joins hjoins.2
  have hmem : r ∈ [r, r'] := List.mem_cons_self
  have hmem' : r' ∈ [r, r'] := List.mem_cons_of_mem _ List.mem_cons_self
  have hpods : ∀ q ∈ [r, r'], q.talk.NamesPods := by
    simp [hr, hr', namesPods_talkOf]
  obtain ⟨k, hcopy, hsoundJoin⟩ := hsound r hmem earlier leader uris (hr ▸ hjoin)
  obtain ⟨k', hcopy', _⟩ := hsound r' hmem' earlier' leader' uris' (hr' ▸ hjoin')
  obtain rfl := copy_of_joins hjoin hcopy
  obtain rfl := copy_of_joins hjoin' hcopy'
  refine ⟨_, hreach, r, hmem, r', hmem', earlier, earlier', leader, leader', uris, uris',
    hr ▸ hjoin, hr' ▸ hjoin', hr, hr', hsoundJoin, ?_⟩
  refine hagree (fun k hk => ?_) hpods r hmem r' hmem' _ _ _ _ _ _ _ _ (hr ▸ hjoin) (hr' ▸ hjoin')
    hcopy hcopy' rfl rfl rfl rfl
  rw [List.mem_singleton.1 hk]
  rfl

end Keeping

end ClusterKeeper
