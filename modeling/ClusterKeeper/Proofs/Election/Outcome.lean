import ClusterKeeper.Pass.Resolve
import ClusterKeeper.Proofs.Pass.Conclusion
import ClusterKeeper.Proofs.Pass.Leadership

/-!
How a call for the leader ends. It is all or nothing: the leader is kept and nothing is written (`Kept`), or
one is elected by one write and one event (`Elected`), or the call fails, with one refused write at most
(`Failed`), and exactly one of these is the case (`Election.leaderFor_all_or_nothing`). The pass that made the
call goes on with the cluster that was stored, and with the one it had when the call failed.

Until the status is written a talk is `WriteFree`. What is written names a successor (`Nominates`).
-/

namespace ClusterKeeper

open Program

namespace Request

/-- Whether a request writes a status. -/
def isStatusWrite : Request → Bool
  | store (.replaceStatus ..) => true
  | _ => false

/-- Whether a request records an event. -/
def isEvent : Request → Bool
  | record .. => true
  | _ => false

end Request

/-- A cluster whose status was accepted has the specification and the status that were given. -/
def Turn.Accepts : Turn Surroundings → Prop
  | ⟨.store (.replaceStatus .cluster given), .ok stored⟩ =>
    stored.spec = given.spec ∧ stored.status = given.status
  | _ => True

namespace Talk

variable {t : Talk Surroundings}

/-- The turns in which a status is written. -/
def statusWrites (t : Talk Surroundings) : Talk Surroundings := t.filter (·.ask.isStatusWrite)

/-- The turns in which an event is recorded. -/
def events (t : Talk Surroundings) : Talk Surroundings := t.filter (·.ask.isEvent)

/-- The clusters whose statuses were accepted are stored as they were given. -/
def Accepts (t : Talk Surroundings) : Prop := ∀ e ∈ t, e.Accepts

/-- No status was written and no event recorded. -/
def WriteFree (t : Talk Surroundings) : Prop := t.statusWrites = [] ∧ t.events = []

@[simp] theorem writeFree_nil : WriteFree [] := ⟨rfl, rfl⟩

theorem writeFree_iff : t.WriteFree ↔ ∀ e ∈ t, e.ask.isStatusWrite = false ∧ e.ask.isEvent = false := by
  simp only [WriteFree, statusWrites, events, List.filter_eq_nil_iff, Bool.not_eq_true]
  exact forall₂_and.symm

theorem writeFree_cons {q : Request} {a : q.Answer} (hwrite : q.isStatusWrite = false)
    (hevent : q.isEvent = false) : WriteFree (⟨q, a⟩ :: t) ↔ t.WriteFree := by
  rw [writeFree_iff, writeFree_iff, List.forall_mem_cons]
  exact and_iff_right ⟨hwrite, hevent⟩

end Talk

namespace Election

variable {t : Talk Surroundings} {cluster : Cluster} {previous : Option String} {C α : Type}

/-! ### The ends of a call -/

/-- The leader is kept. -/
def Kept (cluster : Cluster) (t : Talk Surroundings) (r : Except OperatorError (Pod × Cluster)) : Prop :=
  ∃ pod, r = .ok (pod, cluster) ∧ t.statusWrites = [] ∧ t.events = []

/-- The cluster with another leader in its status. -/
def recording (cluster : Cluster) (leader : String) : Cluster :=
  { cluster with status := some { cluster.currentStatus with leader := some leader } }

/-- A leader is elected: its name is written and accepted once, and one event tells of it. -/
def Elected (cluster : Cluster) (t : Talk Surroundings) (r : Except OperatorError (Pod × Cluster)) : Prop :=
  ∃ pod stored, r = .ok (pod, stored) ∧
    t.statusWrites =
      [⟨Request.store (.replaceStatus .cluster (recording cluster pod.name)), Except.ok stored⟩] ∧
    t.events = [⟨Request.record (KubeObject.reference stored)
      ⟨.normal, "NewTopologyLeaderElected", "Pod " ++ pod.name ++ " is a new topology leader"⟩, ()⟩]

/-- An error says that an object was modified since it was read. -/
def Conflicts (e : OperatorError) : Prop :=
  (∃ kind name, e = .conflict kind name) ∨ ∃ refusal : ApiRefusal, refusal.code = 409 ∧ e = .kube refusal

/-- The call fails: no event is recorded, and a write that was tried was refused. -/
def Failed (cluster : Cluster) (t : Talk Surroundings) (r : Except OperatorError (Pod × Cluster)) : Prop :=
  ∃ e, r = .error e ∧ t.events = [] ∧
    (t.statusWrites = [] ∨ ∃ leader refusal,
      t.statusWrites =
        [⟨Request.store (.replaceStatus .cluster (recording cluster leader)), Except.error refusal⟩] ∧
      (Conflicts refusal → e = .leaderElectionConflict) ∧ (¬Conflicts refusal → e = refusal))

theorem isConflict_iff (e : OperatorError) : e.isConflict = true ↔ Conflicts e := by
  unfold OperatorError.isConflict
  split
  next kind name => exact iff_of_true rfl (Or.inl ⟨kind, name, rfl⟩)
  next refusal =>
    rw [OperatorError.conflictCode, beq_iff_eq]
    refine ⟨fun h => Or.inr ⟨refusal, h, rfl⟩, ?_⟩
    rintro (⟨kind, name, h⟩ | ⟨_, h, hrefusal⟩)
    · cases h
    · cases hrefusal
      exact h
  next hconflict hkube =>
    refine iff_of_false Bool.false_ne_true ?_
    rintro (⟨kind, name, h⟩ | ⟨refusal, _, h⟩)
    · exact hconflict kind name h
    · exact hkube refusal h

/-- Exactly one of three things is the case. -/
def ExactlyOne (a b c : Prop) : Prop := (a ∧ ¬b ∧ ¬c) ∨ (¬a ∧ b ∧ ¬c) ∨ (¬a ∧ ¬b ∧ c)

/-- No call has two ends. -/
theorem exactlyOne_of_ends {r : Except OperatorError (Pod × Cluster)}
    (h : Kept cluster t r ∨ Elected cluster t r ∨ Failed cluster t r) :
    ExactlyOne (Kept cluster t r) (Elected cluster t r) (Failed cluster t r) := by
  have hkept : Kept cluster t r → ¬Elected cluster t r := by
    rintro ⟨_, _, hnone, _⟩ ⟨_, _, _, hone, _⟩
    exact List.cons_ne_nil _ _ (hone.symm.trans hnone)
  have hok : ∀ {pod k}, r = .ok (pod, k) → ¬Failed cluster t r := by
    rintro pod k rfl ⟨e, h, _⟩
    cases h
  rcases h with h | h | h
  · obtain ⟨pod, hr, _⟩ := id h
    exact Or.inl ⟨h, hkept h, hok hr⟩
  · obtain ⟨pod, stored, hr, _⟩ := id h
    exact Or.inr (Or.inl ⟨fun hk => hkept hk h, h, hok hr⟩)
  · exact Or.inr (Or.inr ⟨fun ⟨_, hr, _⟩ => hok hr h, fun ⟨_, _, hr, _⟩ => hok hr h, h⟩)

/-! ### The successor -/

/-- A name that may be recorded: it is no empty one, and not that of the previous leader. -/
structure Successor (previous : Option String) (leader : String) : Prop where
  named : leader ≠ ""
  fresh : previous ≠ some leader

/-- A status is written only to record a successor, as far as pods have the names that they are asked for by. -/
def Nominates (cluster : Cluster) (previous : Option String) (t : Talk Surroundings) (q : Request) : Prop :=
  q.isStatusWrite = true → t.NamesPods →
    ∃ leader, q = .store (.replaceStatus .cluster (recording cluster leader)) ∧ Successor previous leader

theorem nominates_of_not {q : Request} (h : q.isStatusWrite = false) : Nominates cluster previous t q :=
  fun hwrite => absurd (h.symm.trans hwrite) Bool.false_ne_true

theorem Searches.isStatusWrite {q : Request} (h : Searches q) : q.isStatusWrite = false := by
  unfold Searches at h
  split at h <;> first | exact h.elim | rfl

theorem Searches.isEvent {q : Request} (h : Searches q) : q.isEvent = false := by
  unfold Searches at h
  split at h <;> first | exact h.elim | rfl

theorem Searches.writeFree {q : Request} (h : Searches q) (a : q.Answer) :
    Talk.WriteFree (⟨q, a⟩ :: t) ↔ t.WriteFree := Talk.writeFree_cons h.isStatusWrite h.isEvent

/-- To ask an instance whether it can lead changes nothing of what is known. -/
theorem canLead_writeFree {holds : Prop} {pod : Pod} (ht : t.WriteFree ∧ (t.NamesPods → holds)) :
    KeepsOr (Nominates cluster previous) (canLead cluster pod) (fun t _ => t.WriteFree ∧ (t.NamesPods → holds))
      (fun t _ => t.WriteFree ∧ (t.NamesPods → holds)) t := by
  refine (keeps_run _).1 ((canLead_searches cluster pod).keeps (fun _ _ _ hq => ?_) ?_ ht)
  · exact nominates_of_not hq.isStatusWrite
  · rintro t q a ⟨hwriteFree, hholds⟩ hq
    exact ⟨(hq.writeFree a).2 hwriteFree, fun hn => hholds (Talk.namesPods_cons.1 hn).2⟩

/-- The pod that was found, if there is one, may succeed. -/
def Found (previous : Option String) (t : Talk Surroundings) (found : Option Pod) : Prop :=
  t.WriteFree ∧ ∀ pod, found = some pod → t.NamesPods → Successor previous pod.name

theorem found_none (ht : t.WriteFree) : Found previous t none := ⟨ht, fun _ h => nomatch h⟩

theorem found_some {pod : Pod} (ht : t.WriteFree) (hpod : t.NamesPods → Successor previous pod.name) :
    Found previous t (some pod) := ⟨ht, fun _ h => Option.some.inj h ▸ hpod⟩

theorem candidate_found (ht : t.WriteFree) (replica replicaset : Nat) (role : Role) :
    KeepsOr (Nominates cluster previous) (candidate cluster previous replica replicaset role)
      (Found previous) (fun t _ => t.WriteFree) t := by
  rw [candidate, keepsOr_ite]
  refine ⟨fun _ => found_none ht, fun _ => ?_⟩
  dsimp only
  rw [keepsOr_ite]
  refine ⟨fun _ => found_none ht, fun hfresh => ?_⟩
  have hask : ∀ a, Talk.WriteFree (⟨Request.store (.get .pod cluster.nsOf (instanceName role replicaset replica)), a⟩
      :: t) := fun _ => (Talk.writeFree_cons rfl rfl).2 ht
  rw [keepsOr_bind, Attempt.get, keepsOr_store]
  refine ⟨nominates_of_not rfl, Option.forall.2 ⟨found_none (hask _), fun pod => ?_⟩, fun _ => hask _⟩
  have hnamed : Talk.NamesPods (⟨Request.store (.get .pod cluster.nsOf (instanceName role replicaset replica)),
      Except.ok (some pod)⟩ :: t) → Successor previous pod.name := by
    intro hn
    have hname := Talk.name_of_namesPods hn
    exact ⟨hname ▸ instanceName_ne_empty _ _ _, hname ▸ hfresh⟩
  simp only [keepsOr_bind, keepsOr_lift, keeps_run]
  refine (canLead_writeFree ⟨hask _, hnamed⟩).mono (fun t ready hpod => ?_) fun t e hpod => ?_
  · cases ready with
    | true => exact found_some hpod.1 hpod.2
    | false => exact found_none hpod.1
  · rw [keepsOr_log, keeps_log]
    exact ⟨nominates_of_not rfl, found_none ((Talk.writeFree_cons rfl rfl).2 hpod.1)⟩

theorem search_found (ht : t.WriteFree) (roles : List Role) :
    KeepsOr (Nominates cluster previous) (search cluster roles previous) (Found previous)
      (fun t _ => t.WriteFree) t := by
  have helim : ∀ {x : Attempt (Option Pod)} {t : Talk Surroundings},
      KeepsOr (Nominates cluster previous) x (Found previous) (fun t _ => t.WriteFree) t →
      KeepsOr (Nominates cluster previous) x
        (fun t r => r.elim t.WriteFree fun pod => Found previous t (some pod)) (fun t _ => t.WriteFree) t := by
    refine fun h => h.mono (fun t r hr => ?_) fun _ _ h => h
    cases r with
    | none => exact hr.1
    | some pod => exact hr
  have hnone : ∀ t : Talk Surroundings, t.WriteFree → Found previous t none := fun _ => found_none
  refine keepsOr_firstUpTo hnone (fun replica t ht => helim ?_) _ _ ht
  refine keepsOr_firstUpTo hnone (fun replicaset t ht => helim ?_) _ _ ht
  exact keepsOr_firstOf hnone (fun role t ht => helim (candidate_found ht replica replicaset role)) _ ht

/-! ### The calls -/

theorem recorded_writeFree (ht : t.WriteFree) (leader : String) :
    KeepsOr (Nominates cluster previous) (recorded cluster leader)
      (fun t pod => t.WriteFree ∧ (t.NamesPods → pod.name = leader)) (fun t _ => t.WriteFree) t := by
  have hask : ∀ a, Talk.WriteFree (⟨Request.store (.get .pod cluster.nsOf leader), a⟩ :: t) :=
    fun _ => (Talk.writeFree_cons rfl rfl).2 ht
  rw [recorded, keepsOr_bind, Attempt.get, keepsOr_store]
  refine ⟨nominates_of_not rfl, Option.forall.2 ⟨hask _, fun pod => ?_⟩, fun _ => hask _⟩
  rw [keepsOr_bind]
  refine (canLead_writeFree ⟨hask _, Talk.name_of_namesPods⟩).mono (fun t ready hpod => ?_) fun _ _ h => h.1
  rw [keepsOr_ite]
  exact ⟨fun _ => hpod, fun _ => hpod.1⟩

/-- An election ends with a leader that is stored, or fails. -/
theorem elect_ends (ht : t.WriteFree) :
    KeepsOr (Nominates cluster previous) (elect cluster previous)
      (fun t r => Elected cluster t (.ok r) ∧ (t.NamesPods → r.1.name ≠ ""))
      (fun t e => Failed cluster t (.error e)) t := by
  have hfailed : ∀ t : Talk Surroundings, ∀ e, t.WriteFree → Failed cluster t (.error e) :=
    fun _ e h => ⟨e, rfl, h.2, Or.inl h.1⟩
  rw [elect, keepsOr_bind, Attempt.list, keepsOr_store]
  refine ⟨nominates_of_not rfl, fun roles => ?_, fun e => hfailed _ e ((Talk.writeFree_cons rfl rfl).2 ht)⟩
  rw [keepsOr_bind]
  refine (search_found ((Talk.writeFree_cons rfl rfl).2 ht) roles).mono (fun t found hfound => ?_)
    fun t e h => hfailed t e h
  cases found with
  | none => exact hfailed t _ hfound.1
  | some pod =>
    obtain ⟨⟨hwrites, hevents⟩, hpod⟩ := hfound
    simp only [keepsOr_bind, keepsOr_lift, keeps_run, Attempt.replaceStatus, keepsOr_store, keepsOr_log,
      keeps_log, keepsOr_record, keeps_record, keepsOr_pure]
    refine ⟨fun _ hn => ⟨pod.name, rfl, hpod pod rfl hn⟩, fun stored => ?_, fun refusal => ?_⟩
    · refine ⟨nominates_of_not rfl, nominates_of_not rfl, ⟨pod, stored, rfl, ?_, ?_⟩, fun hn => ?_⟩
      · exact congrArg (List.cons _) hwrites
      · exact congrArg (List.cons _) hevents
      · have hbefore := (Talk.namesPods_cons.1 (Talk.namesPods_cons.1 (Talk.namesPods_cons.1 hn).2).2).2
        exact (hpod pod rfl hbefore).named
    · refine ⟨_, rfl, hevents, Or.inr ⟨pod.name, refusal, congrArg (List.cons _) hwrites, ?_, ?_⟩⟩
      · exact fun hconflict => if_pos ((isConflict_iff refusal).2 hconflict)
      · exact fun hconflict => if_neg fun h => hconflict ((isConflict_iff refusal).1 h)

/-- The leader that was elected leads the cluster that is stored. -/
theorem leader_of_elected {pod : Pod} {k : Cluster} (h : Elected cluster t (.ok (pod, k))) (ht : t.Accepts)
    (hforeign : cluster.foreignLeader = none) (hname : pod.name ≠ "") : k.leader = some pod.name := by
  obtain ⟨_, _, hr, hwrites, _⟩ := h
  cases hr
  have hmem : (⟨Request.store (.replaceStatus .cluster (recording cluster pod.name)), Except.ok k⟩ :
      Turn Surroundings) ∈ t.statusWrites := hwrites ▸ List.mem_singleton_self _
  obtain ⟨hspec, hstatus⟩ : k.spec = cluster.spec ∧ k.status = (cluster.setLeader pod.name).status :=
    ht _ (List.mem_of_mem_filter hmem)
  have hnone : k.foreignLeader = none := by rw [Cluster.foreignLeader, hspec, ← Cluster.foreignLeader, hforeign]
  rw [Cluster.leader, hnone, Cluster.electedLeader_congr hstatus, Cluster.electedLeader_setLeader hname]
  rfl

theorem foreignLeader_of_leader_eq_none (h : cluster.leader = none) : cluster.foreignLeader = none := by
  cases hforeign : cluster.foreignLeader with
  | none => rfl
  | some leader => simp [Cluster.leader, hforeign] at h

theorem elect_leads (ht : t.WriteFree) (hforeign : cluster.foreignLeader = none) :
    KeepsOr (fun _ _ => True) (elect cluster previous)
      (fun t r => (Kept cluster t (.ok r) ∨ Elected cluster t (.ok r)) ∧
        (t.NamesPods → t.Accepts → r.2.leader = some r.1.name))
      (fun t e => Failed cluster t (.error e)) t := by
  refine ((elect_ends ht).relax fun _ _ _ => trivial).mono (fun t r hr => ?_) fun _ _ h => h
  exact ⟨Or.inr hr.1, fun hn ha => leader_of_elected hr.1 ha hforeign (hr.2 hn)⟩

theorem leaderFor_ends (cluster : Cluster) (ht : t.WriteFree) :
    KeepsOr (fun _ _ => True) (leaderFor cluster)
      (fun t r => (Kept cluster t (.ok r) ∨ Elected cluster t (.ok r)) ∧
        (t.NamesPods → t.Accepts → r.2.leader = some r.1.name))
      (fun t e => Failed cluster t (.error e)) t := by
  rw [leaderFor]
  split
  next hnone => exact elect_leads ht (foreignLeader_of_leader_eq_none hnone)
  next leader hleader =>
    simp only [keepsOr_bind, keepsOr_lift, keeps_run]
    have hrecorded : KeepsOr (Nominates cluster none) (recorded cluster leader) _ _ t := recorded_writeFree ht leader
    refine (hrecorded.relax fun _ _ _ => trivial).mono (fun t pod hpod => ?_) fun t e he => ?_
    · exact ⟨Or.inl ⟨pod, rfl, hpod.1.1, hpod.1.2⟩, fun hn _ => (hpod.2 hn).symm ▸ hleader⟩
    · have hfailed : ∀ e, Failed cluster t (.error e) := fun e => ⟨e, rfl, he.2, Or.inl he.1⟩
      split
      next h => cases h
      next lost _ =>
        rw [keepsOr_ite]
        refine ⟨fun hlost => ?_, fun _ => hfailed _⟩
        have hforeign := Option.isNone_iff_eq_none.1 (Bool.and_eq_true_iff.1 hlost).2
        rw [keepsOr_bind, keepsOr_log, keeps_log]
        exact ⟨trivial, elect_leads ((Talk.writeFree_cons rfl rfl).2 he) hforeign⟩
      next => exact hfailed _

/-! ### The pass that makes the call -/

/-- The state of a pass once its call has ended. -/
def resumed [PassState C α] (c : C) : Except OperatorError (Pod × Cluster) → C
  | .ok (leader, k) => PassState.withLeader leader (PassState.withCluster k c)
  | .error _ => c

/-- A step that finds the leader makes one call, and resumes with what came of it. -/
theorem getLeader_calls [PassState C α] {c : C} (hc : PassState.cluster c = some cluster) :
    Keeps (fun _ _ => True) (Pass.getLeader.run c)
      (fun t' r => ∃ t₁ called, (leaderFor cluster).run.Goes t t₁ called ∧ t₁ <:+ t' ∧ r.2 = resumed c called)
      t := by
  have hcall : KeepsOr (fun _ _ => True) (leaderFor cluster)
      (fun t₁ r => (leaderFor cluster).run.Goes t t₁ (.ok r) ∧ True)
      (fun t₁ e => (leaderFor cluster).run.Goes t t₁ (.error e) ∧ True) t :=
    (keeps_run _).1 (keeps_of_forall _ fun _ _ => trivial).goes
  rw [Pass.getLeader, Step.ofAttempt]
  dsimp only
  rw [keeps_bind, keeps_run, hc]
  simp only [keepsOr_bind, keepsOr_lift, keeps_run]
  refine hcall.mono (fun t₁ r hr => ⟨t₁, _, hr.1, List.suffix_rfl, rfl⟩) fun t₁ e he => ?_
  have hstays : ∀ t' (outcome : Outcome), t₁ <:+ t' → ∃ t₁ called,
      (leaderFor cluster).run.Goes t t₁ called ∧ t₁ <:+ t' ∧ (outcome, c).2 = resumed c called :=
    fun _ _ hsuffix => ⟨t₁, _, he.1, hsuffix, rfl⟩
  split
  next h => cases h
  next => exact hstays t₁ .wait List.suffix_rfl
  next =>
    rw [keepsOr_ite]
    refine ⟨fun _ => hstays t₁ _ List.suffix_rfl, fun _ => ?_⟩
    rw [keepsOr_bind, keepsOr_log, keeps_log]
    exact ⟨trivial, hstays _ .wait (List.suffix_cons _ _)⟩
  next => exact hstays t₁ _ List.suffix_rfl

/-- A call for the leader is all or nothing: exactly one of its ends is the case. With a store that finds the pods
that are asked for and keeps what it is given, the pod leads the cluster that there is then; and the pass that made
the call has its own cluster still if it failed. -/
theorem leaderFor_all_or_nothing (cluster : Cluster) (t : Talk Surroundings)
    (r : Except OperatorError (Pod × Cluster)) (h : (leaderFor cluster).run.Goes [] t r) :
    ExactlyOne (Kept cluster t r) (Elected cluster t r) (Failed cluster t r) ∧
      (t.NamesPods → t.Accepts → ∀ pod k, r = .ok (pod, k) → k.leader = some pod.name) ∧
      ∀ {C α : Type} [PassState C α] (c : C), PassState.cluster c = some cluster →
        ∀ t' outcome c', (Pass.getLeader.run c).Goes [] t' (outcome, c') → t <:+ t' → c' = resumed c r := by
  have hends := (Keeps.of_goes (leaderFor_ends cluster Talk.writeFree_nil) h).1
  refine ⟨exactlyOne_of_ends ?_, ?_, ?_⟩
  · cases r with
    | ok r => exact hends.1.imp_right Or.inl
    | error e => exact Or.inr (Or.inr hends)
  · rintro hn ha pod k rfl
    exact hends.2 hn ha
  · intro C α _ c hc t' outcome c' hstep hsuffix
    obtain ⟨t₁, called, hcalled, ht₁, rfl⟩ := ((getLeader_calls hc).of_goes hstep).1
    obtain ⟨_, rfl⟩ := h.eq_of_suffix hcalled hsuffix ht₁
    rfl

/-! ### An example: the first leader of a shop -/

/-- A shop that no pass has seen. -/
def unled : Cluster := ⟨Shop.metadataOf "shop", .default, none⟩

/-- The shop has one role, whose instance has started; its status is taken, or was modified by another pass. -/
def answerFirst (taken : Bool) : (q : Request) → q.Answer
  | .store (.get .pod _ name) => .ok (some (Shop.podOf name))
  | .store (.list .role _ _) => .ok [Shop.storage]
  | .store (.replaceStatus _ o) => if taken then .ok o else .error (.conflict "Cluster" "shop")
  | .store _ => .error .serialization
  | .admin (.isCartridgeStarted _) => .ok true
  | .admin _ => .error .decode
  | .record .. => ()
  | .log .. => ()

/-- The state of a pass over the shop. -/
def unledPass : ClusterPass := ⟨⟨"db", "shop"⟩, some unled, none⟩

/-- What a call says when the status is taken or not. -/
def firstTalk (taken : Bool) : Talk Surroundings := (leaderFor unled).run.hear (answerFirst taken) []

theorem goes_firstTalk {taken : Bool} {r : Except OperatorError (Pod × Cluster)}
    (h : Program.run (m := Id) (answerFirst taken) (leaderFor unled).run = r) :
    (leaderFor unled).run.Goes [] (firstTalk taken) r :=
  h ▸ goes_hear (I := Surroundings) (answerFirst taken) (leaderFor unled).run []

theorem namesPods_firstTalk (taken : Bool) : (firstTalk taken).NamesPods := by
  refine forall_mem_hear (fun q => ?_) _ (List.forall_mem_nil _)
  unfold Turn.NamesPod
  split
  next h => cases h; rfl
  next => trivial

theorem accepts_firstTalk : (firstTalk true).Accepts := by
  refine forall_mem_hear (fun q => ?_) _ (List.forall_mem_nil _)
  unfold Turn.Accepts
  split
  next h => cases h; exact ⟨rfl, rfl⟩
  next => trivial

/-- The first leader is elected, unless another pass was first; then the pass over the shop has its cluster still. -/
theorem first_leader_elected :
    (Elected unled (firstTalk true) (.ok (Shop.podOf "storage-0-0", unled.setLeader "storage-0-0")) ∧
      (unled.setLeader "storage-0-0").leader = some (Shop.podOf "storage-0-0").name) ∧
    Failed unled (firstTalk false) (.error .leaderElectionConflict) ∧
    ∃ t' outcome c', (Pass.getLeader.run unledPass).Goes [] t' (outcome, c') ∧ firstTalk false <:+ t' ∧
      c' = unledPass := by
  have helected : (leaderFor unled).run.Goes [] (firstTalk true)
      (.ok (Shop.podOf "storage-0-0", unled.setLeader "storage-0-0")) := goes_firstTalk rfl
  have hfailed : (leaderFor unled).run.Goes [] (firstTalk false) (.error .leaderElectionConflict) :=
    goes_firstTalk rfl
  have hpass : (Pass.getLeader.run unledPass).Goes [] (firstTalk false) (.wait, unledPass) :=
    goes_hear (I := Surroundings) (answerFirst false) (Pass.getLeader.run unledPass) []
  obtain ⟨hone, hleads, _⟩ := leaderFor_all_or_nothing unled _ _ helected
  obtain ⟨hone', _, hpasses⟩ := leaderFor_all_or_nothing unled _ _ hfailed
  refine ⟨⟨?_, hleads (namesPods_firstTalk true) accepts_firstTalk _ _ rfl⟩, ?_, _, _, _, hpass, List.suffix_rfl,
    hpasses unledPass rfl _ _ _ hpass List.suffix_rfl⟩
  · rcases hone with ⟨⟨_, h, _⟩, _⟩ | ⟨_, h, _⟩ | ⟨_, _, _, h, _⟩
    · cases h
    · exact h
    · cases h
  · rcases hone' with ⟨⟨_, h, _⟩, _⟩ | ⟨_, ⟨_, _, h, _⟩, _⟩ | ⟨_, _, h⟩
    · cases h
    · cases h
    · exact h

end Election

end ClusterKeeper
