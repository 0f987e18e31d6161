import ClusterKeeper.Controller
import ClusterKeeper.Proofs.Pass.Leadership

/-!
Rules of passes for the engine. A pass keeps to a rule when each of its steps preserves an invariant
that ties its state to its talk, and the invariant allows the status to be written at the end
(`keeps_walk_append`, `keeps_run`). One step may also bring another invariant about when it goes on
(`keeps_walk_cons`). Steps that all passes share preserve every invariant that leaves aside what they
change.
-/

namespace ClusterKeeper

open Program

variable {C α : Type} {rule : Talk Surroundings → Request → Prop} [AdmitsDeedFree rule]
  {inv : Talk Surroundings → C → Prop}

/-- What the end of a step asks for: one thing when the next step follows, another when the pass ends. -/
def Meets (on : Prop) (ends : Outcome → Prop) : Outcome → Prop
  | .next => on
  | outcome => ends outcome

/-- The pass is made again after the default delay. -/
def Outcome.Retries : Outcome → Prop
  | .requeue after => after = retryDelay
  | .fail _ => True
  | _ => False

/-- A step keeps to a rule and preserves an invariant, however it ends. -/
def Step.Preserves (rule : Talk Surroundings → Request → Prop) (inv : Talk Surroundings → C → Prop)
    (step : Step C) : Prop :=
  ∀ t c, inv t c → Keeps rule (step.run c) (fun t r => inv t r.2) t

namespace Pass

omit [AdmitsDeedFree rule] in
theorem preserves_ofAttempt {name : String} {f : C → Attempt (Outcome × C)}
    (h : ∀ t c, inv t c → KeepsOr rule (f c) (fun t r => inv t r.2) (fun t _ => inv t c) t) :
    (Step.ofAttempt name f).Preserves rule inv := by
  intro t c hc
  rw [Step.ofAttempt, keeps_bind, keeps_run]
  exact h t c hc

omit [AdmitsDeedFree rule] in
variable (rule) in
theorem preserves_reading [AdmitsJoinFree rule] {name : String} {f : C → Attempt Outcome}
    (hinv : ∀ c, Persists fun t => inv t c) (hf : ∀ c, (f c).run.Only Request.JoinFree) :
    (Step.reading name f).Preserves rule inv := by
  refine preserves_ofAttempt fun t c hc => ?_
  rw [bind_pure_comp, keepsOr_map]
  exact keepsOr_of_joinFree (hf c) (hinv c) hc

/-! ### Walks and runs -/

/-- A step, followed by others if it goes on. -/
theorem keeps_walk_cons {step : Step C} {rest : List (Step C)} {last : String} {c : C}
    {t : Talk Surroundings} {fits : Talk Surroundings → String × Outcome × C → Prop}
    (hstep : Keeps rule (step.run c)
      (fun t r => (r.1 = .next → Keeps rule (walk rest step.name r.2) fits t) ∧
        (r.1 ≠ .next → fits t (step.name, r))) (⟨Request.log .debug "Running step", ()⟩ :: t)) :
    Keeps rule (walk (step :: rest) last c) fits t := by
  rw [walk, keeps_bind, keeps_log]
  refine ⟨AdmitsDeedFree.of_deedFree _ _ Request.deedFree_log, ?_⟩
  rw [keeps_bind]
  refine hstep.mono fun t r hr => ?_
  obtain ⟨outcome, c⟩ := r
  cases outcome with
  | next => exact hr.1 rfl
  | complete => exact hr.2 (fun h => nomatch h)
  | requeue after => exact hr.2 (fun h => nomatch h)
  | fail e => exact hr.2 (fun h => nomatch h)

/-- Steps that preserve an invariant, followed by others. -/
theorem keeps_walk_append {steps rest : List (Step C)} {fits : Talk Surroundings → String × Outcome × C → Prop}
    (hinv : ∀ c, Persists fun t => inv t c) (hsteps : ∀ step ∈ steps, step.Preserves rule inv)
    (hrest : ∀ t last c, inv t c → Keeps rule (walk rest last c) fits t)
    (hends : ∀ t last outcome c, inv t c → fits t (last, outcome, c)) :
    ∀ {t : Talk Surroundings} {last : String} {c : C}, inv t c →
      Keeps rule (walk (steps ++ rest) last c) fits t := by
  induction steps with
  | nil => exact fun hc => hrest _ _ _ hc
  | cons step steps ih =>
    intro t last c hc
    rw [List.cons_append]
    refine keeps_walk_cons ((hsteps step List.mem_cons_self _ c
      (hinv c _ _ _ Request.elsewhere_log hc)).mono fun t r hr => ?_)
    exact ⟨fun _ => ih (fun s hs => hsteps s (List.mem_cons_of_mem _ hs)) hr,
      fun _ => hends _ _ _ _ hr⟩

theorem keeps_walk {steps : List (Step C)} {fits : Talk Surroundings → String × Outcome × C → Prop}
    (hinv : ∀ c, Persists fun t => inv t c) (hsteps : ∀ step ∈ steps, step.Preserves rule inv)
    (hends : ∀ t last outcome c, inv t c → fits t (last, outcome, c)) {t : Talk Surroundings}
    {last : String} {c : C} (hc : inv t c) : Keeps rule (walk steps last c) fits t := by
  rw [← List.append_nil steps]
  have hnil : ∀ t last c, inv t c → Keeps rule (walk [] last c) fits t :=
    fun t last c hc => hends t last .next c hc
  exact keeps_walk_append hinv hsteps hnil hends hc

section

variable [PassState C α] [CustomResource α]

/-- A pass keeps to the rule when its steps end where the status may be written. -/
theorem keeps_run {steps : List (Step C)} {t : Talk Surroundings} {c : C}
    (hwalk : Keeps rule (walk steps "" c)
      (fun t r => KeepsOr rule (persist r.2.2) (fun _ _ => True) (fun _ _ => True) t) t) :
    Keeps rule (run steps c) (fun _ _ => True) t := by
  have hreport : ∀ last ending t, Keeps rule (report last ending) (fun _ _ => True) t := by
    rintro last ⟨action, error⟩ t
    have hlog : ∀ t level message, rule t (.log level message) :=
      fun t _ _ => AdmitsDeedFree.of_deedFree t _ Request.deedFree_log
    cases error <;> cases action <;> simp [report, hlog]
  rw [run, keeps_bind]
  refine hwalk.mono fun t r hr => ?_
  rw [keeps_bind, Program.keeps_run]
  refine KeepsOr.mono hr (fun t c _ => ?_) fun t e _ => ?_
  · rw [keeps_bind]
    exact hreport _ _ _
  · rw [keeps_bind]
    exact hreport _ _ _

theorem keeps_reconcile {steps : List (Step C)} {t : Talk Surroundings} {start : ObjectKey → C} {o : α}
    (hwalk : Keeps rule (walk steps "" (start (ObjectKey.ofMeta (KubeObject.metadata o))))
      (fun t r => KeepsOr rule (persist r.2.2) (fun _ _ => True) (fun _ _ => True) t) t) :
    Keeps rule (Controller.reconcile steps start o) (fun _ _ => True) t := by
  rw [Controller.reconcile, keeps_bind]
  exact keeps_run hwalk

omit [AdmitsDeedFree rule] in
/-- The status may be written when the rule lets it be written over the object that the state holds. -/
theorem persist_keeps {t : Talk Surroundings} {c : C}
    (hwrite : ∀ o : α, PassState.object c = some o →
      KeepsOr rule (CustomResource.replaceStatus o) (fun _ _ => True) (fun _ _ => True) t) :
    KeepsOr rule (persist c) (fun _ _ => True) (fun _ _ => True) t := by
  rw [persist]
  split
  next => trivial
  next o ho =>
    rw [keepsOr_ite]
    refine ⟨fun _ => trivial, fun _ => ?_⟩
    rw [bind_pure_comp, keepsOr_map]
    exact hwrite o ho

end

/-! ### Steps that all passes share -/

section

variable (rule) (hinv : ∀ c, Persists fun t => inv t c)
include hinv

theorem preserves_info : (info (C := C)).Preserves rule inv := by
  intro t c hc
  rw [info, keeps_bind, keeps_log]
  exact ⟨AdmitsDeedFree.of_deedFree _ _ Request.deedFree_log, hinv c _ _ _ Request.elsewhere_log hc⟩

variable [PassState C α]

omit [AdmitsDeedFree rule] in
theorem preserves_waitForClusterBootstrapped [AdmitsJoinFree rule] :
    (waitForClusterBootstrapped (C := C)).Preserves rule inv :=
  preserves_reading rule hinv fun _ _ => trivial

variable [CustomResource α]

omit [AdmitsDeedFree rule] in
theorem preserves_getRequestedObject [AdmitsJoinFree rule]
    (hfetch : ∀ t c, inv t c →
      KeepsOr rule (CustomResource.fetch (PassState.key c).ns (PassState.key c).name : Attempt (Option α))
        (fun t o => inv t (o.elim c fun o => PassState.withObject o c)) (fun t _ => inv t c) t) :
    (getRequestedObject (C := C)).Preserves rule inv := by
  refine preserves_ofAttempt fun t c hc => ?_
  rw [keepsOr_bind]
  refine (hfetch t c hc).mono (fun t o ho => ?_) fun _ _ h => h
  cases o with
  | none => exact (hinv c).keepsOr_log ho fun _ h => h
  | some o => exact ho

theorem preserves_setPhase (phase : CustomResource.Phase α)
    (hobject : ∀ t c (o : α), PassState.object c = some o → inv t c →
      inv t (PassState.withObject (CustomResource.setPhase phase o) c)) :
    (setPhase (C := C) phase).Preserves rule inv := by
  intro t c hc
  rw [setPhase]
  dsimp only
  split
  next o ho =>
    rw [keeps_bind, keeps_log]
    refine ⟨AdmitsDeedFree.of_deedFree _ _ Request.deedFree_log, hobject _ c o ho ?_⟩
    exact hinv c _ _ _ Request.elsewhere_log hc
  next => exact hc

omit hinv [AdmitsDeedFree rule] in
theorem preserves_resetStatus
    (hobject : ∀ t c (o : α), PassState.object c = some o → inv t c →
      inv t (PassState.withObject (CustomResource.resetStatus o) c)) :
    (resetStatus (C := C)).Preserves rule inv := by
  intro t c hc
  show inv t (PassState.changeObject _ c)
  rw [PassState.changeObject]
  split
  next o ho => exact hobject t c o ho hc
  next => exact hc

end

/-- The election preserves what follows from a copy that is alike to the one the store gave last. -/
theorem preserves_getLeader [PassState C α]
    (hcopy : ∀ t c k, inv t c → PassState.cluster c = some k →
      ∃ base, t.copy = some base ∧ base.Alike k ∧ ∀ t' : Talk Surroundings, t <:+ t' →
        (t'.copy = some base → inv t' c) ∧
        ∀ r, Election.Led base k t' r →
          inv t' (PassState.withLeader r.1 (PassState.withCluster r.2 c))) :
    (getLeader (C := C)).Preserves Proper inv := by
  refine preserves_ofAttempt fun t c hc => ?_
  split
  next => exact hc
  next k hk =>
    obtain ⟨base, hbase, halike, hafter⟩ := hcopy t c k hc hk
    simp only [keepsOr_bind, keepsOr_lift, Program.keeps_run]
    refine (Election.leaderFor_keeps hbase halike).suffix.mono (fun t' r hr => ?_)
      fun (t' : Talk Surroundings) e he => ?_
    · exact (hafter t' hr.1).2 r hr.2
    · have hfails : inv t' c := (hafter t' he.1).1 he.2
      have hlogged : ∀ level message, inv (⟨Request.log level message, ()⟩ :: t') c := by
        intro level message
        refine (hafter _ (he.1.trans (List.suffix_cons _ t'))).1 ?_
        rw [Talk.copy_cons Request.elsewhere_log, he.2]
      split
      next h => cases h
      next => exact hfails
      next => simp [hfails, hlogged]
      next => exact hfails

end Pass

end ClusterKeeper
