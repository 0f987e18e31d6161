import ClusterKeeper.Proofs.Election.Outcome

/-!
When the leadership moves. A call begins by assessing the leader that is recorded: its pod is looked up, and
the instance of a pod that runs is asked (`Assessed`). Another name is written only after a definite loss
(`Lost`) in a topology that has its storages and elects its leader, and a leader that could not be assessed
stays, with the error as the result (`Election.moves_only_on_loss`).

A lookup that fails with the error of an unready leader passes for the verdict that the named pod is lost,
which is the one way in which a leader that was not assessed is replaced (`Election.leader_moved_unread`).
-/

namespace ClusterKeeper.Election

open Program

variable {t t' : Talk Surroundings} {cluster : Cluster} {leader : String}

/-! ### The assessment of a leader -/

/-- The turn in which the leader's pod is looked up. -/
def lookedUp (cluster : Cluster) (leader : String) (found : Except OperatorError (Option Pod)) :
    Turn Surroundings :=
  ⟨Request.store (.get .pod cluster.nsOf leader), found⟩

/-- The turn in which an instance is asked whether it can lead. -/
def probed (cluster : Cluster) (pod : Pod) (ready : Except AdminError Bool) : Turn Surroundings :=
  if cluster.isBootstrapped then ⟨Request.admin (.isCartridgeConfigured pod), ready⟩
  else ⟨Request.admin (.isCartridgeStarted pod), ready⟩

/-- How a leader is assessed, with the turns that this takes. -/
inductive Assessed (cluster : Cluster) (leader : String) : Talk Surroundings → Except OperatorError Pod → Prop
  /-- The pod could not be looked up. -/
  | unread (e : OperatorError) : Assessed cluster leader [lookedUp cluster leader (.error e)] (.error e)
  /-- There is no pod. -/
  | gone : Assessed cluster leader [lookedUp cluster leader (.ok none)] (.error (.leaderNotReady leader))
  /-- The pod does not run, or is about to go. -/
  | ending {pod : Pod} : pod.isDeleting = true ∨ pod.isRunning = false →
      Assessed cluster leader [lookedUp cluster leader (.ok (some pod))] (.error (.leaderNotReady leader))
  /-- The instance could not be reached. -/
  | unreached {pod : Pod} {e : AdminError} : e.isTransport = true →
      Assessed cluster leader [probed cluster pod (.error e), lookedUp cluster leader (.ok (some pod))]
        (.error (.admin e))
  /-- The instance was reached, and failed to say. -/
  | refused {pod : Pod} {e : AdminError} : e.isTransport = false →
      Assessed cluster leader [⟨Request.log .debug "Instance state probe failed", ()⟩,
        probed cluster pod (.error e), lookedUp cluster leader (.ok (some pod))] (.error (.leaderNotReady leader))
  /-- The instance cannot lead. -/
  | unready {pod : Pod} :
      Assessed cluster leader [probed cluster pod (.ok false), lookedUp cluster leader (.ok (some pod))]
        (.error (.leaderNotReady leader))
  /-- The instance can lead. -/
  | usable {pod : Pod} :
      Assessed cluster leader [probed cluster pod (.ok true), lookedUp cluster leader (.ok (some pod))] (.ok pod)

theorem keepsOr_probe {pod : Pod} {ok : Talk Surroundings → Bool → Prop}
    {fails : Talk Surroundings → AdminError → Prop}
    (hok : ∀ ready, ok (probed cluster pod (.ok ready) :: t) ready)
    (hfails : ∀ e, fails (probed cluster pod (.error e) :: t) e) :
    KeepsOr (fun _ _ => True) (probe cluster pod) ok fails t := by
  rw [probe]
  unfold probed at hok hfails
  split
  next hboot =>
    rw [keepsOr_ask]
    simp only [if_pos hboot] at hok hfails
    exact ⟨trivial, hok, hfails⟩
  next hboot =>
    rw [keepsOr_ask]
    simp only [if_neg hboot] at hok hfails
    exact ⟨trivial, hok, hfails⟩

theorem recorded_assessed (cluster : Cluster) (leader : String) :
    KeepsOr (fun _ _ => True) (recorded cluster leader) (fun t pod => Assessed cluster leader t (.ok pod))
      (fun t e => Assessed cluster leader t (.error e)) [] := by
  rw [recorded, keepsOr_bind, Attempt.get, keepsOr_store]
  refine ⟨trivial, Option.forall.2 ⟨.gone, fun pod => ?_⟩, fun e => .unread e⟩
  rw [keepsOr_bind, canLead, keepsOr_ite]
  constructor
  · intro hending
    rw [keepsOr_pure, keepsOr_ite]
    refine ⟨fun h => absurd h Bool.false_ne_true, fun _ => .ending ?_⟩
    simpa using hending
  · intro _
    simp only [keepsOr_bind, keepsOr_lift, keeps_run]
    refine keepsOr_probe (fun ready => ?_) fun e => ?_
    · rw [keepsOr_pure, keepsOr_ite]
      refine ⟨?_, fun h => ?_⟩
      · rintro rfl
        exact .usable
      · obtain rfl : ready = false := Bool.eq_false_iff.2 h
        exact .unready
    · rw [keepsOr_ite]
      refine ⟨fun he => .unreached he, fun he => ?_⟩
      rw [keepsOr_bind, keepsOr_log, keeps_log]
      exact ⟨trivial, .refused (Bool.eq_false_iff.2 he)⟩

theorem writeFree_probed {pod : Pod} {ready : Except AdminError Bool} :
    Talk.WriteFree (probed cluster pod ready :: t) ↔ t.WriteFree := by
  unfold probed
  split <;> exact Talk.writeFree_cons rfl rfl

/-- An assessment writes nothing. -/
theorem Assessed.writeFree {a : Except OperatorError Pod} (h : Assessed cluster leader t a) : t.WriteFree := by
  have hlooked : ∀ found, Talk.WriteFree [lookedUp cluster leader found] :=
    fun _ => (Talk.writeFree_cons rfl rfl).2 Talk.writeFree_nil
  cases h with
  | unread e => exact hlooked _
  | gone => exact hlooked _
  | ending _ => exact hlooked _
  | unreached _ => exact writeFree_probed.2 (hlooked _)
  | refused _ => exact (Talk.writeFree_cons rfl rfl).2 (writeFree_probed.2 (hlooked _))
  | unready => exact writeFree_probed.2 (hlooked _)
  | usable => exact writeFree_probed.2 (hlooked _)

/-! ### Losses -/

/-- The leader is lost for certain: there is no pod, the pod does not run or is about to go, or its instance said
that its roles are not applied, or was reached and failed to say. -/
inductive Lost (cluster : Cluster) (leader : String) (t : Talk Surroundings) : Prop
  | gone (h : [lookedUp cluster leader (.ok none)] <:+ t)
  | ending {pod : Pod} (hpod : pod.isDeleting = true ∨ pod.isRunning = false)
      (h : [lookedUp cluster leader (.ok (some pod))] <:+ t)
  | unready {pod : Pod} (h : [⟨Request.admin (.isCartridgeConfigured pod), Except.ok false⟩,
      lookedUp cluster leader (.ok (some pod))] <:+ t)
  | refused {pod : Pod} {e : AdminError} (he : e.isTransport = false)
      (h : [⟨Request.admin (.isCartridgeConfigured pod), Except.error e⟩,
        lookedUp cluster leader (.ok (some pod))] <:+ t)

theorem probed_of_isBootstrapped (hboot : cluster.isBootstrapped = true) (pod : Pod)
    (ready : Except AdminError Bool) :
    probed cluster pod ready = ⟨Request.admin (.isCartridgeConfigured pod), ready⟩ := if_pos hboot

/-- A leader of a bootstrapped topology that is not ready is lost, unless its pod could not be looked up. -/
theorem Assessed.lost {name : String} (h : Assessed cluster leader t (.error (.leaderNotReady name)))
    (hboot : cluster.isBootstrapped = true) (ht : t <:+ t') :
    (name = leader ∧ Lost cluster leader t') ∨
      [lookedUp cluster leader (.error (.leaderNotReady name))] <:+ t' := by
  cases h with
  | unread _ => exact Or.inr ht
  | gone => exact Or.inl ⟨rfl, .gone ht⟩
  | ending hpod => exact Or.inl ⟨rfl, .ending hpod ht⟩
  | refused he =>
    rw [probed_of_isBootstrapped hboot] at ht
    exact Or.inl ⟨rfl, .refused he ((List.suffix_cons _ _).trans ht)⟩
  | unready =>
    rw [probed_of_isBootstrapped hboot] at ht
    exact Or.inl ⟨rfl, .unready ht⟩

/-! ### The course of a call -/

/-- The line of the log before a leader is replaced. -/
def replacing : Turn Surroundings :=
  ⟨Request.log .warn "Topology leader is not ready, electing a new one", ()⟩

/-- A call ends with the assessment of the leader, or goes on with an election. -/
inductive Proceeds (cluster : Cluster) (t : Talk Surroundings) (a : Except OperatorError Pod)
    (t' : Talk Surroundings) (r : Except OperatorError (Pod × Cluster)) : Prop
  | ends (ht : t' = t) (hr : r = a.map fun pod => (pod, cluster))
  | elects {name : String} (ha : a = .error (.leaderNotReady name)) (hboot : cluster.isBootstrapped = true)
      (hforeign : cluster.foreignLeader = none)
      (h : (elect cluster (some name)).run.Goes (replacing :: t) t' r)

theorem leaderFor_proceeds (hleader : cluster.leader = some leader) :
    Keeps (fun _ _ => True) (leaderFor cluster).run
      (fun t r => ∃ t₁ a, Assessed cluster leader t₁ a ∧ Proceeds cluster t₁ a t r) [] := by
  rw [keeps_run, leaderFor, hleader]
  simp only [keepsOr_bind, keepsOr_lift, keeps_run]
  refine (recorded_assessed cluster leader).mono (fun t pod hpod => ⟨t, _, hpod, .ends rfl rfl⟩) fun t e he => ?_
  split
  next h => cases h
  next name h =>
    cases h
    rw [keepsOr_ite]
    refine ⟨fun hlost => ?_, fun _ => ⟨t, _, he, .ends rfl rfl⟩⟩
    obtain ⟨hboot, hforeign⟩ := Bool.and_eq_true_iff.1 hlost
    rw [keepsOr_bind, keepsOr_log, keeps_log]
    have helects : KeepsOr (fun _ _ => True) (elect cluster (some name))
        (fun t' r => (elect cluster (some name)).run.Goes (replacing :: t) t' (.ok r) ∧ True)
        (fun t' e => (elect cluster (some name)).run.Goes (replacing :: t) t' (.error e) ∧ True)
        (replacing :: t) := (keeps_run _).1 (keeps_of_forall _ fun _ _ => trivial).goes
    exact ⟨trivial, helects.mono
      (fun _ _ h => ⟨t, _, he, .elects rfl hboot (Option.isNone_iff_eq_none.1 hforeign) h.1⟩)
      fun _ _ h => ⟨t, _, he, .elects rfl hboot (Option.isNone_iff_eq_none.1 hforeign) h.1⟩⟩
  next h =>
    cases h
    exact ⟨t, _, he, .ends rfl rfl⟩

/-- The turns of an assessment come first, and are all, or a line of the log follows. -/
theorem Proceeds.begins {a : Except OperatorError Pod} {r : Except OperatorError (Pod × Cluster)}
    (h : Proceeds cluster t a t' r) : t' = t ∨ (replacing :: t) <:+ t' := by
  cases h with
  | ends ht _ => exact Or.inl ht
  | elects _ _ _ h => exact Or.inr h.suffix

theorem Proceeds.suffix {a : Except OperatorError Pod} {r : Except OperatorError (Pod × Cluster)}
    (h : Proceeds cluster t a t' r) : t <:+ t' := by
  rcases h.begins with rfl | h
  · exact List.suffix_rfl
  · exact (List.suffix_cons _ _).trans h

/-- An error of another kind is the end. -/
theorem Proceeds.eq_of_error {e : OperatorError} {r : Except OperatorError (Pod × Cluster)}
    (h : Proceeds cluster t (.error e) t' r) (he : ∀ name, e ≠ .leaderNotReady name) : t' = t ∧ r = .error e := by
  cases h with
  | ends ht hr => exact ⟨ht, hr⟩
  | elects ha => exact absurd (Except.error.inj ha) (he _)

/-! ### What opens a talk -/

theorem eq_of_suffixes {l l' : Talk Surroundings} (h : l <:+ t) (h' : l' <:+ t) (hlength : l.length = l'.length) :
    l = l' := (List.suffix_of_suffix_length_le h h' (Nat.le_of_eq hlength)).eq_of_length hlength

theorem lookedUp_inj {found found' : Except OperatorError (Option Pod)}
    (h : lookedUp cluster leader found = lookedUp cluster leader found') : found = found' := by
  simpa [lookedUp] using h

theorem probed_inj {pod pod' : Pod} {ready ready' : Except AdminError Bool}
    (h : probed cluster pod ready = probed cluster pod' ready') : ready = ready' := by
  unfold probed at h
  split at h <;> cases h <;> rfl

theorem probed_ne_replacing {pod : Pod} {ready : Except AdminError Bool} : probed cluster pod ready ≠ replacing := by
  unfold probed
  split <;> intro h <;> cases h

/-- A lookup that fails is the whole assessment. -/
theorem Assessed.of_unread {a : Except OperatorError Pod} {e : OperatorError} (h : Assessed cluster leader t a)
    (ht : t <:+ t') (hopens : [lookedUp cluster leader (.error e)] <:+ t') :
    t = [lookedUp cluster leader (.error e)] ∧ a = .error e := by
  have hfirst : ∀ {found}, [lookedUp cluster leader found] <:+ t → found = .error e := fun h =>
    lookedUp_inj (List.singleton_inj.1 (eq_of_suffixes (h.trans ht) hopens rfl))
  cases h with
  | unread e' =>
    cases hfirst List.suffix_rfl
    exact ⟨rfl, rfl⟩
  | gone => cases hfirst List.suffix_rfl
  | ending _ => cases hfirst List.suffix_rfl
  | unreached _ => cases hfirst (List.suffix_cons _ _)
  | refused _ => cases hfirst ((List.suffix_cons _ _).trans (List.suffix_cons _ _))
  | unready => cases hfirst (List.suffix_cons _ _)
  | usable => cases hfirst (List.suffix_cons _ _)

/-- A probe that does not reach the instance is the whole assessment, with the lookup. -/
theorem Assessed.of_unreached {a : Except OperatorError Pod} {r : Except OperatorError (Pod × Cluster)} {pod : Pod}
    {e : AdminError} (h : Assessed cluster leader t a) (hproceeds : Proceeds cluster t a t' r)
    (hopens : [probed cluster pod (.error e), lookedUp cluster leader (.ok (some pod))] <:+ t')
    (he : e.isTransport = true) :
    t = [probed cluster pod (.error e), lookedUp cluster leader (.ok (some pod))] ∧ a = .error (.admin e) := by
  -- a lookup that is the whole assessment is followed by nothing or by the line of the log
  have hlooked : ∀ {found}, t ≠ [lookedUp cluster leader found] := by
    rintro found rfl
    rcases hproceeds.begins with rfl | hlogged
    · exact absurd hopens.length_le (by simp)
    · exact probed_ne_replacing (List.cons.inj (eq_of_suffixes hopens hlogged rfl)).1
  have hprobed : ∀ {pod' ready}, [probed cluster pod' ready, lookedUp cluster leader (.ok (some pod'))] <:+ t →
      ready = .error e ∧ pod' = pod := by
    intro pod' ready h
    obtain ⟨hprobe, hlookup⟩ := List.cons.inj (eq_of_suffixes (h.trans hproceeds.suffix) hopens rfl)
    exact ⟨probed_inj hprobe, Option.some.inj (Except.ok.inj (lookedUp_inj (List.singleton_inj.1 hlookup)))⟩
  cases h with
  | unread _ => exact absurd rfl hlooked
  | gone => exact absurd rfl hlooked
  | ending _ => exact absurd rfl hlooked
  | unreached _ =>
    obtain ⟨hready, rfl⟩ := hprobed List.suffix_rfl
    cases hready
    exact ⟨rfl, rfl⟩
  | refused he' =>
    cases (hprobed (List.suffix_cons _ _)).1
    exact absurd (he'.symm.trans he) Bool.false_ne_true
  | unready => cases (hprobed List.suffix_rfl).1
  | usable => cases (hprobed List.suffix_rfl).1

/-! ### The name that is written -/

theorem obeys_of_writeFree {previous : Option String} (ht : t.WriteFree) : t.Obeys (Nominates cluster previous) := by
  induction t with
  | nil => trivial
  | cons e t ih =>
    obtain ⟨he, ht⟩ := List.forall_mem_cons.1 (Talk.writeFree_iff.1 ht)
    exact ⟨nominates_of_not he.1, ih (Talk.writeFree_iff.2 ht)⟩

theorem successor_of_obeys {previous : Option String} (h : t.Obeys (Nominates cluster previous))
    (hn : t.NamesPods) {e : Turn Surroundings} (he : e ∈ t) (hwrite : e.ask.isStatusWrite = true) :
    ∃ name, e.ask = .store (.replaceStatus .cluster (recording cluster name)) ∧ Successor previous name := by
  obtain ⟨later, earlier, rfl⟩ := List.append_of_mem he
  exact Talk.obeys_of_append h hwrite fun e he => hn e (by simp [he])

/-- A specification that names no leader, or the empty one. -/
theorem foreignLeader_eq_none_iff :
    cluster.foreignLeader = none ↔ cluster.spec.foreignLeader = none ∨ cluster.spec.foreignLeader = some "" := by
  rw [Cluster.foreignLeader]
  cases cluster.spec.foreignLeader with
  | none => simp
  | some name => simp

/-- Leadership moves only on a definite loss. A status is written only if the specification names no leader, the
storages are bootstrapped, and the leader is lost, or its lookup failed with the error of an unready leader; and the
name that is written is not that of the lost one. A lookup that fails in any other way, and a probe that does not
reach the instance, end the call with their errors. -/
theorem moves_only_on_loss {r : Except OperatorError (Pod × Cluster)} (hleader : cluster.leader = some leader)
    (h : (leaderFor cluster).run.Goes [] t r) (hn : t.NamesPods) :
    (∀ e ∈ t, e.ask.isStatusWrite = true →
      (cluster.spec.foreignLeader = none ∨ cluster.spec.foreignLeader = some "") ∧
      cluster.isBootstrapped = true ∧ ∃ lost name,
        e.ask = .store (.replaceStatus .cluster (recording cluster name)) ∧ name ≠ lost ∧
        ((lost = leader ∧ Lost cluster leader t) ∨
          [lookedUp cluster leader (.error (.leaderNotReady lost))] <:+ t)) ∧
    (∀ e, (∀ name, e ≠ .leaderNotReady name) → [lookedUp cluster leader (.error e)] <:+ t →
      t = [lookedUp cluster leader (.error e)] ∧ r = .error e) ∧
    ∀ pod e, ((∃ reason, e = .transport reason) ∨ (∃ limit, e = .timeout limit) ∨ ∃ fault, e = .transcript fault) →
      [probed cluster pod (.error e), lookedUp cluster leader (.ok (some pod))] <:+ t →
      t = [probed cluster pod (.error e), lookedUp cluster leader (.ok (some pod))] ∧ r = .error (.admin e) := by
  obtain ⟨t₁, a, hassessed, hproceeds⟩ := (Keeps.of_goes (leaderFor_proceeds hleader) h).1
  refine ⟨fun e he hwrite => ?_, fun e hkind hopens => ?_, fun pod e hkind hopens => ?_⟩
  · cases hproceeds with
    | ends ht _ =>
      subst ht
      have hwriteFree := (Talk.writeFree_iff.1 hassessed.writeFree e he).1
      exact absurd (hwriteFree.symm.trans hwrite) Bool.false_ne_true
    | @elects lost ha hboot hforeign helect =>
      subst ha
      have hwriteFree : Talk.WriteFree (replacing :: t₁) := (Talk.writeFree_cons rfl rfl).2 hassessed.writeFree
      have hobeys := (Keeps.of_goes (elect_ends hwriteFree) helect).2 (obeys_of_writeFree hwriteFree)
      obtain ⟨name, hask, hname⟩ := successor_of_obeys hobeys hn he hwrite
      refine ⟨foreignLeader_eq_none_iff.1 hforeign, hboot, lost, name, hask, ?_, ?_⟩
      · rintro rfl
        exact hname.fresh rfl
      · exact hassessed.lost hboot ((List.suffix_cons _ _).trans helect.suffix)
  · obtain ⟨rfl, rfl⟩ := hassessed.of_unread hproceeds.suffix hopens
    exact hproceeds.eq_of_error hkind
  · have he : e.isTransport = true := by
      rcases hkind with ⟨_, rfl⟩ | ⟨_, rfl⟩ | ⟨_, rfl⟩ <;> rfl
    obtain ⟨rfl, rfl⟩ := hassessed.of_unreached hproceeds hopens he
    exact hproceeds.eq_of_error fun _ => OperatorError.noConfusion

/-! ### An example: the leader of a shop -/

/-- The shop has a role beside its leader, whose lookup and whose instance answer as given. -/
def answerFor (found : Except OperatorError (Option Pod)) (ready : Except AdminError Bool) :
    (q : Request) → q.Answer
  | .store (.get .pod _ name) => if name = "router-0-0" then found else .ok (some (Shop.podOf name))
  | .store (.list .role _ _) => .ok [Shop.storage]
  | .store (.replaceStatus _ o) => .ok o
  | .store _ => .error .serialization
  | .admin (.isCartridgeConfigured pod) => if pod.name = "router-0-0" then ready else .ok true
  | .admin _ => .error .decode
  | .record .. => ()
  | .log .. => ()

/-- What a call says then. -/
def talkFor (found : Except OperatorError (Option Pod)) (ready : Except AdminError Bool) : Talk Surroundings :=
  (leaderFor Shop.shop).run.hear (answerFor found ready) []

theorem goes_talkFor (found : Except OperatorError (Option Pod)) (ready : Except AdminError Bool) :
    (leaderFor Shop.shop).run.Goes [] (talkFor found ready)
      (Program.run (m := Id) (answerFor found ready) (leaderFor Shop.shop).run) :=
  goes_hear (I := Surroundings) (answerFor found ready) (leaderFor Shop.shop).run []

theorem namesPods_talkFor {found : Except OperatorError (Option Pod)} (ready : Except AdminError Bool)
    (hfound : ∀ pod, found = .ok (some pod) → pod.name = "router-0-0") : (talkFor found ready).NamesPods := by
  refine forall_mem_hear (fun q => ?_) _ (List.forall_mem_nil _)
  unfold Turn.NamesPod
  split
  next name pod h =>
    injection h with hask hanswer
    subst hask
    rw [heq_iff_eq, answerFor] at hanswer
    split at hanswer
    next hname => exact (hfound pod hanswer).trans hname.symm
    next =>
      cases hanswer
      rfl
  next => trivial

/-- A leader that is gone is replaced; one that does not answer in time stays. -/
theorem leader_replaced_when_gone :
    (∃ e ∈ talkFor (.ok none) (.ok true), ∃ name, name ≠ "router-0-0" ∧
      e.ask = .store (.replaceStatus .cluster (recording Shop.shop name)) ∧
      Lost Shop.shop "router-0-0" (talkFor (.ok none) (.ok true))) ∧
    ∃ t, (leaderFor Shop.shop).run.Goes [] t (.error (.admin (.timeout (.seconds 10)))) ∧
      t.statusWrites = [] := by
  constructor
  · have hn : (talkFor (.ok none) (.ok true)).NamesPods := namesPods_talkFor _ fun _ h => nomatch h
    have hany : (talkFor (.ok none) (.ok true)).any (·.ask.isStatusWrite) = true := by decide +kernel
    obtain ⟨e, he, hwrite⟩ := List.any_eq_true.1 hany
    obtain ⟨_, _, lost, name, hask, hne, hlost⟩ :=
      (moves_only_on_loss rfl (goes_talkFor (.ok none) (.ok true)) hn).1 e he hwrite
    have hopens : [lookedUp Shop.shop "router-0-0" (.ok none)] <:+ talkFor (.ok none) (.ok true) :=
      ⟨(talkFor (.ok none) (.ok true)).dropLast, rfl⟩
    rcases hlost with ⟨rfl, hlost⟩ | hunread
    · exact ⟨e, he, name, hne, hask, hlost⟩
    · cases lookedUp_inj (List.singleton_inj.1 (eq_of_suffixes hopens hunread rfl))
  · have hn : (talkFor (.ok (some (Shop.podOf "router-0-0"))) (.error (.timeout (.seconds 10)))).NamesPods :=
      namesPods_talkFor _ fun _ h => by cases h; rfl
    obtain ⟨ht, hr⟩ := (moves_only_on_loss rfl (goes_talkFor _ _) hn).2.2 (Shop.podOf "router-0-0")
      (.timeout (.seconds 10)) (Or.inr (Or.inl ⟨_, rfl⟩)) ⟨[], rfl⟩
    exact ⟨_, hr ▸ goes_talkFor _ _, congrArg Talk.statusWrites ht⟩

/-- A leader that was not assessed, since its lookup failed with the error of an unready leader, is replaced. -/
theorem leader_moved_unread :
    ∃ t pod k, (leaderFor Shop.shop).run.Goes [] t (.ok (pod, k)) ∧ t.NamesPods ∧ t.statusWrites ≠ [] ∧
      [lookedUp Shop.shop "router-0-0" (.error (.leaderNotReady "router-9-9"))] <:+ t ∧
      ¬Lost Shop.shop "router-0-0" t := by
  have hgoes := goes_talkFor (.error (.leaderNotReady "router-9-9")) (.ok true)
  have hn : (talkFor (.error (.leaderNotReady "router-9-9")) (.ok true)).NamesPods :=
    namesPods_talkFor _ fun _ h => nomatch h
  have hwrites : (talkFor (.error (.leaderNotReady "router-9-9")) (.ok true)).statusWrites.length = 1 := by
    decide +kernel
  have hopens : [lookedUp Shop.shop "router-0-0" (.error (.leaderNotReady "router-9-9"))] <:+
      talkFor (.error (.leaderNotReady "router-9-9")) (.ok true) :=
    ⟨(talkFor (.error (.leaderNotReady "router-9-9")) (.ok true)).dropLast, rfl⟩
  have hfirst : ∀ {found}, [lookedUp Shop.shop "router-0-0" (.ok found)] <:+
      talkFor (.error (.leaderNotReady "router-9-9")) (.ok true) → False := fun h => by
    cases lookedUp_inj (List.singleton_inj.1 (eq_of_suffixes h hopens rfl))
  refine ⟨_, Shop.podOf "storage-0-0", Shop.shop.setLeader "storage-0-0", hgoes, hn, ?_, hopens, fun hlost => ?_⟩
  · exact List.ne_nil_of_length_pos (hwrites ▸ Nat.one_pos)
  · cases hlost with
    | gone h => exact hfirst h
    | ending _ h => exact hfirst h
    | unready h => exact hfirst ((List.suffix_cons _ _).trans h)
    | refused _ h => exact hfirst ((List.suffix_cons _ _).trans h)

end ClusterKeeper.Election
