import ClusterKeeper.Proofs.Pass.Steps

/-!
Where a conflict comes from that a pass over a cluster ends with. A pass makes none up: an error that is a
conflict was told by the store (`Talk.Explains`). This goes from one attempt to the next
(`Attempt.Explained.bind`), also where an error is looked at and passed on, and along the steps of the pass
(`ClusterPass.walk_explained`).
-/

namespace ClusterKeeper

open Program

namespace Talk

variable {t : Talk Surroundings} {e : OperatorError}

/-- The error, if it is a conflict, was told by the store. -/
def Explains (t : Talk Surroundings) (e : OperatorError) : Prop :=
  ∀ kind name, e = .conflict kind name →
    ∃ q : StoreRequest, (⟨Request.store q, Except.error e⟩ : Turn Surroundings) ∈ t

theorem explains_of_ne (h : ∀ kind name, e ≠ .conflict kind name) : t.Explains e :=
  fun kind name he => absurd he (h kind name)

theorem explains_told (q : StoreRequest) (e : OperatorError) :
    Explains (⟨Request.store q, Except.error e⟩ :: t) e := fun _ _ _ => ⟨q, List.mem_cons_self⟩

theorem explains_admin (e : AdminError) : t.Explains (.admin e) :=
  explains_of_ne fun _ _ h => OperatorError.noConfusion h

end Talk

namespace Attempt

variable {α β : Type} {p : α → Prop} {ok : β → Prop}

/-- An attempt that fails with a conflict was told so by the store; one that does not fail has a result that is
fine. -/
def Explained (ok : α → Prop) (x : Attempt α) : Prop :=
  ∀ t, KeepsOr (fun _ _ => True) x (fun _ a => ok a) (fun t e => t.Explains e) t

theorem explained_pure {b : β} (h : ok b) : Explained ok (pure b) := fun _ => h

theorem explained_throw {e : OperatorError} (h : ∀ kind name, e ≠ .conflict kind name) :
    Explained ok (throw e) := fun _ => Talk.explains_of_ne h

theorem explained_store (q : StoreRequest) : Explained (fun _ => True) (Attempt.store q) := by
  intro t
  rw [keepsOr_store]
  exact ⟨trivial, fun _ => trivial, fun e => Talk.explains_told q e⟩

theorem explained_admin (q : AdminRequest) : Explained (fun _ => True) (Attempt.admin q) := by
  intro t
  rw [keepsOr_admin]
  exact ⟨trivial, fun _ => trivial, fun e => Talk.explains_admin e⟩

theorem Explained.bind {x : Attempt α} {f : α → Attempt β} (hx : Explained p x)
    (hf : ∀ a, p a → Explained ok (f a)) : Explained ok (x >>= f) := by
  intro t
  rw [keepsOr_bind]
  exact (hx t).mono (fun t a ha => hf a ha t) fun _ _ h => h

theorem Explained.ite {c : Prop} [Decidable c] {x y : Attempt β} (hx : c → Explained ok x)
    (hy : ¬c → Explained ok y) : Explained ok (if c then x else y) := by
  intro t
  rw [keepsOr_ite]
  exact ⟨fun hc => hx hc t, fun hc => hy hc t⟩

theorem Explained.lift_bind {q : Act α} {f : α → Attempt β} (hf : ∀ a, Explained ok (f a)) :
    Explained ok (do f (← ExceptT.lift q)) := by
  intro t
  rw [keepsOr_bind, keepsOr_lift]
  exact keeps_of_forall _ fun t a => hf a t

/-- An error may be looked at and passed on. -/
theorem Explained.run_bind {x : Attempt α} {f : Except OperatorError α → Attempt β} (hx : Explained p x)
    (hok : ∀ a, p a → Explained ok (f (.ok a)))
    (herror : ∀ t e, t.Explains e →
      KeepsOr (fun _ _ => True) (f (.error e)) (fun _ b => ok b) (fun t e => t.Explains e) t) :
    Explained ok (do f (← ExceptT.lift x.run)) := by
  intro t
  simp only [keepsOr_bind, keepsOr_lift, keeps_run]
  exact (hx t).mono (fun t a ha => hok a ha t) herror

/-! ### Loops -/

theorem Explained.firstUpTo {attempt : Nat → Attempt (Option α)} (h : ∀ n, Explained (fun _ => True) (attempt n)) :
    ∀ count next, Explained (fun _ => True) (firstUpTo attempt count next) := by
  intro count
  induction count with
  | zero => exact fun _ => explained_pure trivial
  | succ count ih =>
    intro next
    rw [Program.firstUpTo]
    refine (h next).bind fun found _ => ?_
    cases found with
    | none => exact ih (next + 1)
    | some a => exact explained_pure trivial

theorem Explained.firstOf {attempt : β → Attempt (Option α)} (h : ∀ b, Explained (fun _ => True) (attempt b))
    (bs : List β) : Explained (fun _ => True) (firstOf attempt bs) := by
  induction bs with
  | nil => exact explained_pure trivial
  | cons b bs ih =>
    rw [Program.firstOf]
    refine (h b).bind fun found _ => ?_
    cases found with
    | none => exact ih
    | some a => exact explained_pure trivial

end Attempt

open Attempt

/-! ### The election -/

namespace Election

theorem canLead_explained (cluster : Cluster) (pod : Pod) : Explained (fun _ => True) (canLead cluster pod) := by
  rw [canLead]
  refine Explained.ite (fun _ => explained_pure trivial) fun _ => Explained.lift_bind fun answer => ?_
  cases answer with
  | ok ready => exact explained_pure trivial
  | error e =>
    refine Explained.ite (fun _ => explained_throw fun _ _ h => OperatorError.noConfusion h) fun _ => ?_
    exact Explained.lift_bind fun _ => explained_pure trivial

theorem candidate_explained (cluster : Cluster) (previous : Option String) (replica replicaset : Nat) (role : Role) :
    Explained (fun _ => True) (candidate cluster previous replica replicaset role) := by
  rw [candidate]
  refine Explained.ite (fun _ => explained_pure trivial) fun _ => ?_
  refine Explained.ite (fun _ => explained_pure trivial) fun _ => ?_
  refine (explained_store _).bind fun found _ => ?_
  cases found with
  | none => exact explained_pure trivial
  | some pod =>
    refine Explained.lift_bind fun answer => ?_
    cases answer with
    | ok ready => cases ready <;> exact explained_pure trivial
    | error e => exact Explained.lift_bind fun _ => explained_pure trivial

theorem search_explained (cluster : Cluster) (roles : List Role) (previous : Option String) :
    Explained (fun _ => True) (search cluster roles previous) :=
  Explained.firstUpTo (fun replica => Explained.firstUpTo (fun replicaset =>
    Explained.firstOf (candidate_explained cluster previous replica replicaset) roles) _ _) _ _

/-- A conflict over the cluster is told in other words. -/
theorem elect_explained (cluster : Cluster) (previous : Option String) :
    Explained (fun _ => True) (elect cluster previous) := by
  rw [elect]
  refine (explained_store _).bind fun roles _ => (search_explained cluster roles previous).bind fun found _ => ?_
  cases found with
  | none => exact explained_throw fun _ _ h => OperatorError.noConfusion h
  | some pod =>
    refine Explained.lift_bind fun answer => ?_
    cases answer with
    | ok stored => exact Explained.lift_bind fun _ => Explained.lift_bind fun _ => explained_pure trivial
    | error e =>
      refine explained_throw fun kind name h => ?_
      split at h
      next => cases h
      next hne =>
        subst h
        exact hne rfl

theorem recorded_explained (cluster : Cluster) (leader : String) :
    Explained (fun _ => True) (recorded cluster leader) := by
  have hlost : ∀ kind name, OperatorError.leaderNotReady leader ≠ .conflict kind name :=
    fun _ _ h => OperatorError.noConfusion h
  rw [recorded]
  refine (explained_store _).bind fun found _ => ?_
  cases found with
  | none => exact explained_throw hlost
  | some pod =>
    refine (canLead_explained cluster pod).bind fun ready _ => ?_
    exact Explained.ite (fun _ => explained_pure trivial) fun _ => explained_throw hlost

theorem leaderFor_explained (cluster : Cluster) : Explained (fun _ => True) (leaderFor cluster) := by
  rw [leaderFor]
  split
  next => exact elect_explained cluster none
  next leader _ =>
    refine (recorded_explained cluster leader).run_bind (fun _ _ => explained_pure trivial) fun t e he => ?_
    split
    next h => cases h
    next lost _ =>
      refine Explained.ite (fun _ => ?_) (fun _ => explained_throw fun _ _ h => OperatorError.noConfusion h) t
      exact Explained.lift_bind fun _ => elect_explained cluster _
    next hsame => exact Except.error.inj hsame ▸ he

end Election

namespace Failover

theorem wanted_explained (cluster : Cluster) : Explained (fun _ => True) (wanted cluster) := by
  have hwrong : ∀ text kind name, OperatorError.invalidConfig text ≠ .conflict kind name :=
    fun _ _ _ h => OperatorError.noConfusion h
  have hpassword : ∀ provider r, Explained (fun _ => True) (password cluster.nsOf provider r) := by
    intro provider r
    cases r with
    | none => exact explained_pure trivial
    | some r =>
      rw [password, readPassword]
      refine (explained_store _).bind fun secret _ => ?_
      cases secret with
      | none => exact explained_throw fun _ _ h => OperatorError.noConfusion h
      | some secret =>
        dsimp only
        split
        next => exact explained_throw (hwrong _)
        next =>
          split
          next => exact explained_throw (hwrong _)
          next => exact explained_pure trivial
  rw [wanted]
  refine Explained.ite (fun _ => explained_pure trivial) fun _ => ?_
  split
  next => exact explained_throw (hwrong _)
  next =>
    split
    next => exact explained_throw (hwrong _)
    next => exact (hpassword _ _).bind fun _ _ => explained_pure trivial
  next =>
    split
    next => exact explained_throw (hwrong _)
    next => exact (hpassword _ _).bind fun _ _ => explained_pure trivial

end Failover

/-! ### Steps -/

/-- The error that a step ended with. -/
def Outcome.error? : Outcome → Option OperatorError
  | .fail e => some e
  | _ => none

/-- A step that fails with a conflict was told so by the store. -/
def Step.Explained {C : Type} (step : Step C) : Prop :=
  ∀ t c, Program.Keeps (fun _ _ => True) (step.run c) (fun t r => ∀ e, r.1.error? = some e → t.Explains e) t

/-- What the lines of the log need. -/
instance : AdmitsDeedFree fun _ _ => True := ⟨fun _ _ _ => trivial⟩

namespace Pass

variable {C α : Type}

theorem explained_ofAttempt {name : String} {f : C → Attempt (Outcome × C)}
    (h : ∀ c, Attempt.Explained (fun r => r.1.error? = none) (f c)) : (Step.ofAttempt name f).Explained := by
  intro t c
  rw [Step.ofAttempt, keeps_bind, Program.keeps_run]
  refine (h c t).mono (fun t r hr e he => absurd (hr.symm.trans he) (Option.some_ne_none e).symm)
    fun t e he e' he' => ?_
  obtain rfl : e = e' := Option.some.inj he'
  exact he

theorem explained_reading {name : String} {f : C → Attempt Outcome}
    (h : ∀ c, Attempt.Explained (fun outcome => outcome.error? = none) (f c)) :
    (Step.reading name f).Explained :=
  explained_ofAttempt fun c => (h c).bind fun _ houtcome => explained_pure houtcome

/-- A walk of such steps that fails with a conflict was told so by the store. -/
theorem walk_explained {steps : List (Step C)} (h : ∀ step ∈ steps, step.Explained) :
    ∀ t last c, Program.Keeps (fun _ _ => True) (walk steps last c)
      (fun t r => ∀ e, r.2.1.error? = some e → t.Explains e) t := by
  induction steps with
  | nil => exact fun _ _ _ e he => absurd he.symm (Option.some_ne_none e)
  | cons step steps ih =>
    intro t last c
    obtain ⟨hstep, hsteps⟩ := List.forall_mem_cons.1 h
    exact keeps_walk_cons ((hstep _ c).mono fun t r hr => ⟨fun _ => ih hsteps t step.name r.2, fun _ => hr⟩)

theorem info_explained : (info (C := C)).Explained := by
  intro t c
  rw [info, keeps_bind, keeps_log_iff]
  exact fun e he => absurd he.symm (Option.some_ne_none e)

variable [PassState C α]

theorem getLeader_explained : (getLeader (C := C)).Explained := by
  refine explained_ofAttempt fun c => ?_
  split
  next => exact explained_throw fun _ _ h => OperatorError.noConfusion h
  next cluster _ =>
    refine (Election.leaderFor_explained cluster).run_bind (fun _ _ => explained_pure rfl) fun t e he => ?_
    split
    next h => cases h
    next => exact rfl
    next =>
      refine Explained.ite (fun _ => explained_throw fun _ _ h => OperatorError.noConfusion h) (fun _ => ?_) t
      exact Explained.lift_bind fun _ => explained_pure rfl
    next hsame => exact Except.error.inj hsame ▸ he

variable [CustomResource α]

theorem getRequestedObject_explained
    (hfetch : ∀ ns name, Attempt.Explained (fun _ => True) (CustomResource.fetch ns name : Attempt (Option α))) :
    (getRequestedObject (C := C)).Explained := by
  refine explained_ofAttempt fun c => (hfetch _ _).bind fun found _ => ?_
  cases found with
  | none => exact Explained.lift_bind fun _ => explained_pure rfl
  | some o => exact explained_pure rfl

theorem setPhase_explained (phase : CustomResource.Phase α) : (setPhase (C := C) phase).Explained := by
  intro t c
  rw [setPhase]
  dsimp only
  split
  next =>
    rw [keeps_bind, keeps_log_iff]
    exact fun e he => absurd he.symm (Option.some_ne_none e)
  next => exact fun e he => absurd he.symm (Option.some_ne_none e)

theorem resetStatus_explained : (resetStatus (C := C)).Explained :=
  fun _ _ e he => absurd he.symm (Option.some_ne_none e)

end Pass

namespace ClusterPass

theorem loaded_explained (c : ClusterPass) : Explained (fun _ => True) (loaded c) := by
  rw [loaded]
  split
  next => exact explained_pure trivial
  next => exact explained_throw fun _ _ h => OperatorError.noConfusion h

theorem known_explained (c : ClusterPass) : Explained (fun _ => True) (known c) := by
  rw [known]
  split
  next => exact explained_pure trivial
  next => exact explained_throw fun _ _ h => OperatorError.noConfusion h

theorem checkDeletion_explained : checkDeletion.Explained := by
  refine Pass.explained_reading fun c => explained_pure ?_
  split <;> rfl

theorem syncClusterWideService_explained : syncClusterWideService.Explained := by
  have hwrites : ∀ (q : StoreRequest) message, Explained (fun outcome => outcome.error? = none) do
      Attempt.log .info message
      let _ ← Attempt.store q
      return Outcome.next :=
    fun q _ => Explained.lift_bind fun _ => (explained_store q).bind fun _ _ => explained_pure rfl
  refine Pass.explained_reading fun c => (loaded_explained c).bind fun cluster _ => ?_
  refine (explained_store _).bind fun found _ => ?_
  cases found with
  | none => exact hwrites _ _
  | some existing =>
    dsimp only
    split
    next => exact explained_pure rfl
    next => exact hwrites _ _

theorem waitForRolesPhases_explained (phases : List RolePhase) : (waitForRolesPhases phases).Explained := by
  refine Pass.explained_reading fun c => (explained_store _).bind fun roles _ => ?_
  refine Explained.ite (fun _ => Explained.lift_bind fun _ => explained_pure rfl) fun _ => ?_
  refine Explained.ite (fun _ => explained_pure rfl) fun _ => ?_
  exact Explained.lift_bind fun _ => explained_pure rfl

theorem bootstrap_explained : bootstrap.Explained := by
  refine Pass.explained_ofAttempt fun c => (loaded_explained c).bind fun cluster _ => ?_
  refine Explained.ite (fun _ => explained_pure rfl) fun _ => (known_explained c).bind fun leader _ => ?_
  refine Explained.lift_bind fun answer => ?_
  cases answer with
  | ok u => exact Explained.lift_bind fun _ => Explained.lift_bind fun _ => explained_pure rfl
  | error e =>
    refine Explained.ite (fun _ => ?_) fun _ => explained_throw fun _ _ h => OperatorError.noConfusion h
    exact Explained.lift_bind fun _ => Explained.lift_bind fun _ => explained_pure rfl

theorem configureFailover_explained : configureFailover.Explained := by
  refine Pass.explained_reading fun c => (loaded_explained c).bind fun cluster _ => ?_
  refine (known_explained c).bind fun leader _ => (Failover.wanted_explained cluster).bind fun wanted _ => ?_
  refine (explained_admin _).bind fun actual _ => ?_
  refine Explained.ite (fun _ => explained_pure rfl) fun _ => Explained.lift_bind fun _ => ?_
  exact (explained_admin _).bind fun _ _ => explained_pure rfl

/-- The steps of a pass over a cluster fail with a conflict only when the store told it. -/
theorem steps_explained : ∀ step ∈ steps, step.Explained := by
  simp only [steps, List.forall_mem_cons]
  exact ⟨Pass.info_explained, Pass.getRequestedObject_explained fun _ _ => explained_store _,
    Pass.setPhase_explained _, checkDeletion_explained, Pass.resetStatus_explained, Pass.setPhase_explained _,
    syncClusterWideService_explained, Pass.setPhase_explained _, waitForRolesPhases_explained _,
    Pass.setPhase_explained _, Pass.getLeader_explained, bootstrap_explained, Pass.setPhase_explained _,
    configureFailover_explained, Pass.setPhase_explained _, List.forall_mem_nil _⟩

end ClusterPass

end ClusterKeeper
