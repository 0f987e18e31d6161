import ClusterKeeper.Proofs.Election.Search
import ClusterKeeper.Proofs.Http.Listing

/-!
Whom an election chooses. It lists the roles, searches, and concludes (`Election.elect_concludes`): of all
instances that may be chosen the one at the least place is, and without any the election fails for want of one
(`Election.chooses_least`). Through the API server the order in which it lists the roles makes no difference.
-/

namespace ClusterKeeper

open Program

namespace Election

variable {t : Talk Surroundings} {cluster : Cluster} {previous : Option String} {roles : List Role}
  {r : Except OperatorError (Pod × Cluster)}

/-! ### The choice -/

/-- The turn in which the roles of a cluster are listed. -/
def listed (cluster : Cluster) (roles : Except OperatorError (List Role)) : Turn Surroundings :=
  ⟨Request.store (.list .role cluster.nsOf (Labels.clusterSelector cluster.name)), roles⟩

/-- What comes of writing the name of a pod as that of the leader. -/
def settledBy (pod : Pod) : Except OperatorError Cluster → Except OperatorError (Pod × Cluster)
  | .ok stored => .ok (pod, stored)
  | .error e => .error (if e.isConflict then .leaderElectionConflict else e)

/-- An election chooses a pod: it writes one status, with the name of the pod as the leader's, and ends with what
comes of that. -/
def Chooses (cluster : Cluster) (pod : Pod) (t : Talk Surroundings) (r : Except OperatorError (Pod × Cluster)) :
    Prop :=
  ∃ stored, t.statusWrites =
      [⟨Request.store (.replaceStatus .cluster (recording cluster pod.name)), stored⟩] ∧ r = settledBy pod stored

/-- What an election does with what its search found. -/
def Concludes (cluster : Cluster) (t : Talk Surroundings) (r : Except OperatorError (Pod × Cluster)) :
    Except OperatorError (Option Pod) → Prop
  | .ok (some pod) => Chooses cluster pod t r
  | .ok none => t.statusWrites = [] ∧ r = .error .noAvailableLeader
  | .error e => t.statusWrites = [] ∧ r = .error e

/-- An election lists the roles, searches, and concludes. -/
theorem elect_concludes (cluster : Cluster) (previous : Option String) :
    Keeps (fun _ _ => True) (elect cluster previous).run
      (fun t r => (∃ e, t = [listed cluster (.error e)]) ∨
        ∃ roles t₁ found, (search cluster roles previous).run.Goes [listed cluster (.ok roles)] t₁ found ∧
          t₁ <:+ t ∧ t.podNames = t₁.podNames ∧ Concludes cluster t r found) [] := by
  rw [keeps_run, elect, keepsOr_bind, Attempt.list, keepsOr_store]
  refine ⟨trivial, fun roles => ?_, fun e => Or.inl ⟨e, rfl⟩⟩
  have hsearch : Keeps (fun _ _ => True) (search cluster roles previous).run
      (fun t₁ found => (search cluster roles previous).run.Goes [listed cluster (.ok roles)] t₁ found ∧ t₁.WriteFree)
      [listed cluster (.ok roles)] :=
    ((search_searches cluster roles previous).keeps (fun _ _ _ _ => trivial)
      (fun _ _ a ht hq => (hq.writeFree a).2 ht) ((Talk.writeFree_cons rfl rfl).2 Talk.writeFree_nil)).goes
  rw [keepsOr_bind]
  refine ((keeps_run _).1 hsearch).mono (fun t₁ found h => ?_) fun t₁ e h => ?_
  · obtain ⟨hgoes, hwrites, -⟩ := h
    cases found with
    | none => exact Or.inr ⟨roles, t₁, _, hgoes, List.suffix_rfl, rfl, hwrites, rfl⟩
    | some pod =>
      simp only [keepsOr_bind, keepsOr_lift, keeps_run, Attempt.replaceStatus, keepsOr_store, keepsOr_log,
        keeps_log, keepsOr_record, keeps_record, keepsOr_pure]
      refine ⟨trivial, fun stored => ⟨trivial, trivial, ?_⟩, fun refusal => ?_⟩
      · refine Or.inr ⟨roles, t₁, _, hgoes, ⟨[_, _, _], rfl⟩, rfl, .ok stored, ?_, rfl⟩
        exact congrArg (List.cons _) hwrites
      · refine Or.inr ⟨roles, t₁, _, hgoes, ⟨[_], rfl⟩, rfl, .error refusal, ?_, rfl⟩
        exact congrArg (List.cons _) hwrites
  · obtain ⟨hgoes, hwrites, -⟩ := h
    exact Or.inr ⟨roles, t₁, _, hgoes, List.suffix_rfl, rfl, hwrites, rfl⟩

/-- The search of an election in which the roles were listed. -/
theorem exists_search_of_elect (h : (elect cluster previous).run.Goes [] t r)
    (hlisted : [listed cluster (.ok roles)] <:+ t) :
    ∃ t₁ found, (search cluster roles previous).run.Goes [listed cluster (.ok roles)] t₁ found ∧ t₁ <:+ t ∧
      t.podNames = t₁.podNames ∧ Concludes cluster t r found := by
  rcases (Keeps.of_goes (elect_concludes cluster previous) h).1 with ⟨e, rfl⟩ | ⟨roles', t₁, found, hgoes, ht, hend⟩
  · have hfirst := eq_of_suffixes hlisted List.suffix_rfl rfl
    simp [listed] at hfirst
  · have hfirst := eq_of_suffixes hlisted (hgoes.suffix.trans ht) rfl
    obtain rfl : roles = roles' := by simpa [listed] using hfirst
    exact ⟨t₁, found, hgoes, ht, hend⟩

/-- An election looks up no pod twice. -/
theorem podNames_nodup (h : (elect cluster previous).run.Goes [] t r)
    (hlisted : [listed cluster (.ok roles)] <:+ t) (hnames : (roles.map KubeObject.name).Nodup) :
    t.podNames.Nodup := by
  obtain ⟨t₁, found, hgoes, -, hsame, -⟩ := exists_search_of_elect h hlisted
  obtain ⟨said, rfl, hsaid⟩ := search_looks cluster roles previous _ _ _ hgoes
  have hbegins : Talk.podNames (said ++ [listed cluster (.ok roles)]) = Talk.podNames said := by
    simp [Talk.podNames, listed, Request.podName?]
  rw [hsame, hbegins]
  exact List.nodup_reverse.1 ((instances_nodup hnames).sublist hsaid)

/-- The election chooses the least. As long as no lookup fails, some findings fit its talk, and for all that do: if
any instance may be chosen, the one at the least place is, and the election fails for want of a leader, before it
writes anything, if and only if none may be. What instances say or fail to say does not end it otherwise. Through
the API server it goes on in the same way, exchange for exchange, when the same roles are listed in another
order. -/
theorem chooses_least (h : (elect cluster previous).run.Goes [] t r) (hlisted : [listed cluster (.ok roles)] <:+ t)
    (hnames : (roles.map KubeObject.name).Nodup) (hlooked : ∀ name e, lookedUp cluster name (.error e) ∉ t) :
    (∃ f : Findings, f.Fits cluster t) ∧
    (∀ f : Findings, f.Fits cluster t →
      ((f.eligible roles previous).Nonempty → ∃ place pod, IsLeast (f.eligible roles previous) place ∧
        f.Eligible roles previous place pod ∧ Chooses cluster pod t r) ∧
      (f.eligible roles previous = ∅ ↔ r = .error .noAvailableLeader ∧ t.statusWrites = [])) ∧
    ∀ (d : Deployment) (published : Published) (w : Talk ApiServer) (m : Http.Message) (reply reply' : Http.Reply)
      (items items' : List Role) (r : Except OperatorError (Pod × Cluster) × Published),
      reply.objects .role = .ok items → reply'.objects .role = .ok items' → items.Perm items' →
      (items.map KubeObject.name).Nodup →
      d.Makes (elect cluster previous).run published (w ++ [⟨m, reply⟩]) r →
      d.Makes (elect cluster previous).run published (w ++ [⟨m, reply'⟩]) r := by
  refine ⟨Findings.exists_fits cluster (podNames_nodup h hlisted hnames), fun f hf => ?_, ?_⟩
  · obtain ⟨t₁, found, hgoes, ht, -, hend⟩ := exists_search_of_elect h hlisted
    obtain rfl := Findings.gives_search hf hlooked roles _ _ _ hgoes ht
    cases hfound : f.search roles previous with
    | none =>
      have hempty := Findings.search_eq_none_iff.1 hfound
      rw [hfound] at hend
      obtain ⟨hwrites, hr⟩ := hend
      refine ⟨fun hsome => ?_, fun _ => ⟨hr, hwrites⟩, fun _ => hempty⟩
      rw [hempty] at hsome
      exact absurd hsome Set.not_nonempty_empty
    | some pod =>
      obtain ⟨place, hleast, hpod⟩ := Findings.isLeast_of_search hfound
      rw [hfound] at hend
      refine ⟨fun _ => ⟨place, pod, hleast, hpod, hend⟩, fun hempty => ?_, fun hr => ?_⟩
      · rw [hempty] at hleast
        exact absurd hleast.1 (Set.notMem_empty place)
      · obtain ⟨stored, hwrites, -⟩ := hend
        rw [hr.2] at hwrites
        simp at hwrites
  · intro d published w m reply reply' items items' r hreply hreply' hperm hdistinct hgoes
    rw [elect] at hgoes ⊢
    exact Deployment.makes_of_relisted hreply hreply' hperm hdistinct hgoes

/-! ### An example: a second instance waits for all first ones -/

/-- A role of the shop with two instances. -/
def routers : Role :=
  ⟨{ Shop.metadataOf "router" with labels := some (Labels.clusterSelector "shop") },
    { RoleSpec.default with template := { RoleSpec.default.template with replicas := 2 } }, none⟩

/-- The shop has two roles. All instances have started but the first router, which does not answer in time. -/
def answerWithoutFirst : (q : Request) → q.Answer
  | .store (.get .pod _ name) => .ok (some (Shop.podOf name))
  | .store (.list .role _ _) => .ok [routers, Shop.storage]
  | .store (.replaceStatus _ o) => .ok o
  | .store _ => .error .serialization
  | .admin (.isCartridgeStarted pod) =>
    if pod.name = "router-0-0" then .error (.timeout (.seconds 10)) else .ok true
  | .admin _ => .error .decode
  | .record .. => ()
  | .log .. => ()

/-- A page that lists roles. -/
def page (roles : List Role) : Http.Reply := .answer 200 (some (.obj [("items", .arr (roles.map Wire.write))]))

/-- The storage is chosen before the second router, in whatever order the API server lists their roles. -/
theorem storage_chosen_first :
    (∃ t f place, (elect unled none).run.Goes [] t (.ok (Shop.podOf "storage-0-0", unled.setLeader "storage-0-0")) ∧
      Findings.Fits f unled t ∧ IsLeast (f.eligible [routers, Shop.storage] none) place ∧
      f.Eligible [routers, Shop.storage] none place (Shop.podOf "storage-0-0")) ∧
    ∀ d : Deployment, ∃ w m r,
      d.Makes (elect unled none).run [] (w ++ [⟨m, page [routers, Shop.storage]⟩]) r ∧
      d.Makes (elect unled none).run [] (w ++ [⟨m, page [Shop.storage, routers]⟩]) r := by
  obtain ⟨t, ht⟩ : ∃ t, t = (elect unled none).run.hear answerWithoutFirst [] := ⟨_, rfl⟩
  have hgoes : (elect unled none).run.Goes [] t
      (.ok (Shop.podOf "storage-0-0", unled.setLeader "storage-0-0")) :=
    ht ▸ goes_hear (I := Surroundings) answerWithoutFirst (elect unled none).run []
  have hlisted : [listed unled (.ok [routers, Shop.storage])] <:+ t := ⟨t.dropLast, by rw [ht]; rfl⟩
  have hlooked : ∀ name e, lookedUp unled name (.error e) ∉ t := by
    intro name e hmem
    rw [ht] at hmem
    have hanswer : Except.error e = Except.ok (some (Shop.podOf name)) := answer_of_mem_hear (I := Surroundings) hmem
    simp at hanswer
  have hnames : ([routers, Shop.storage].map KubeObject.name).Nodup := by decide
  obtain ⟨⟨f, hf⟩, hchooses, hrelisted⟩ := chooses_least hgoes hlisted hnames hlooked
  obtain ⟨hsome, hnone⟩ := hchooses f hf
  constructor
  · have hne : (f.eligible [routers, Shop.storage] none).Nonempty := by
      rw [Set.nonempty_iff_ne_empty]
      intro hempty
      have hr := (hnone.1 hempty).1
      simp at hr
    obtain ⟨place, pod, hleast, hpod, stored, -, hr⟩ := hsome hne
    cases stored with
    | error e => simp [settledBy] at hr
    | ok stored =>
      obtain ⟨rfl, -⟩ : Shop.podOf "storage-0-0" = pod ∧ unled.setLeader "storage-0-0" = stored := by
        simpa [settledBy] using hr
      exact ⟨t, f, place, hgoes, hf, hleast, hpod⟩
  · intro d
    obtain ⟨w, m, r, hmakes⟩ : ∃ w m r,
        d.Makes (elect unled none).run [] (w ++ [⟨m, page [routers, Shop.storage]⟩]) r := by
      rw [elect]
      exact Deployment.exists_makes_listed d [] _ (fun _ => page [routers, Shop.storage]) (by decide +kernel)
    refine ⟨w, m, r, hmakes, ?_⟩
    exact hrelisted d [] w m _ _ [routers, Shop.storage] [Shop.storage, routers] r rfl rfl (List.Perm.swap _ _ _)
      hnames hmakes

end Election

end ClusterKeeper
