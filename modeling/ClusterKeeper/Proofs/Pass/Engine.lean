import ClusterKeeper.Controller
import ClusterKeeper.Proofs.Pass.Requests
import ClusterKeeper.Proofs.Program.Course

/-!
What the engine of passes does, for every list of steps and whatever they do. The steps run one after
another up to the first that does not go on (`Pass.Walks`); then the status of the object is written
once if there is something to write it to (`Pass.WritesStatus`); and what follows depends on both
(`Pass.conclusion`).

Main statement: every course of a pass is of this form, and what a controller makes of the pass is what
the pass says (`Pass.run_spec`).
-/

namespace ClusterKeeper

open Program

variable {C : Type}

/-- A step runs, with a line in the log before it. -/
def Step.Runs (step : Step C) (t : Talk Surroundings) (c : C) (t' : Talk Surroundings)
    (outcome : Outcome) (c' : C) : Prop :=
  (step.run c).Goes (⟨.log .debug "Running step", ()⟩ :: t) t' (outcome, c')

namespace Pass

/-- Each of some steps runs once and goes on, the first on a state and each other one on the state that
the one before it left. -/
inductive Chain : List (Step C) → Talk Surroundings → C → Talk Surroundings → C → Prop
  | nil {t c} : Chain [] t c t c
  | cons {step steps t c t₁ c₁ t' c'} : step.Runs t c t₁ .next c₁ → Chain steps t₁ c₁ t' c' →
      Chain (step :: steps) t c t' c'

/-- The name of the last of some steps, or of the one before them. -/
def lastName (last : String) (steps : List (Step C)) : String :=
  (steps.getLast?.map Step.name).getD last

/-- Steps run up to the first that does not go on, or all of them do; `last` is the name of the step
before them. -/
inductive Walks (steps : List (Step C)) (last : String) (t : Talk Surroundings) (c : C) :
    Talk Surroundings → String × Outcome × C → Prop
  | finished {t' c'} : Chain steps t c t' c' → Walks steps last t c t' (lastName last steps, .next, c')
  | stopped {before step after t₁ c₁ t' outcome c'} : steps = before ++ step :: after →
      Chain before t c t₁ c₁ → step.Runs t₁ c₁ t' outcome c' → outcome ≠ .next →
      Walks steps last t c t' (step.name, outcome, c')

/-- An object is being deleted and nothing holds it. -/
def Vanishes {α : Type} [CustomResource α] (o : α) : Prop :=
  (KubeObject.metadata o).isDeleting = true ∧ (KubeObject.metadata o).hasFinalizers = false

/-- The status of the object that a state holds is written once, unless there is none or it vanishes. -/
inductive WritesStatus (k : Kind) [PassState C k.Object] [CustomResource k.Object]
    (t : Talk Surroundings) (c : C) : Talk Surroundings → Except OperatorError C → Prop
  | absent : (PassState.object c : Option k.Object) = none → WritesStatus k t c t (.ok c)
  | vanished {o : k.Object} : PassState.object c = some o → Vanishes o → WritesStatus k t c t (.ok c)
  | written {o stored : k.Object} : PassState.object c = some o → ¬Vanishes o →
      WritesStatus k t c (⟨Request.store (.replaceStatus k o), Except.ok stored⟩ :: t)
        (.ok (PassState.withObject stored c))
  | refused {o : k.Object} {e : OperatorError} : PassState.object c = some o → ¬Vanishes o →
      WritesStatus k t c (⟨Request.store (.replaceStatus k o), Except.error e⟩ :: t) (.error e)

/-- What a pass says in the end: an error of the write comes before how the steps ended, and every error
lets the pass be made again after ten seconds. -/
def conclusion : Except OperatorError C → Outcome → Action × Option OperatorError
  | .error e, _ => (.requeue (.seconds 10), some e)
  | .ok _, .fail e => (.requeue (.seconds 10), some e)
  | .ok _, .requeue after => (.requeue after, none)
  | .ok _, .complete => (.done, none)
  | .ok _, .next => (.done, none)

/-- A pass as it is to be made: the steps, the status, and a line in the log. -/
def Completes (k : Kind) [PassState C k.Object] [CustomResource k.Object] (steps : List (Step C))
    (t : Talk Surroundings) (c : C) (t' : Talk Surroundings) (r : PassResult) : Prop :=
  ∃ t₁ outcome c₁ t₂ written level message,
    Walks steps "" t c t₁ (r.lastStep, outcome, c₁) ∧ WritesStatus k t₁ c₁ t₂ written ∧
      t' = ⟨.log level message, ()⟩ :: t₂ ∧ (r.action, r.error) = conclusion written outcome

variable {k : Kind} {steps : List (Step C)} {t t' : Talk Surroundings} {c c' : C}

/-! ### The steps -/

theorem lastName_cons (last : String) (step : Step C) (steps : List (Step C)) :
    lastName last (step :: steps) = lastName step.name steps := by
  rw [lastName, lastName, List.getLast?_cons]
  cases steps.getLast? <;> rfl

/-- Steps that follow one that goes on. -/
theorem Walks.cons {step : Step C} {last : String} {t₁ : Talk Surroundings} {c₁ : C}
    {r : String × Outcome × C} (hstep : step.Runs t c t₁ .next c₁)
    (h : Walks steps step.name t₁ c₁ t' r) : Walks (step :: steps) last t c t' r := by
  cases h with
  | finished hchain =>
    rw [← lastName_cons last]
    exact .finished (.cons hstep hchain)
  | stopped hsteps hchain hruns hstops =>
    exact .stopped (congrArg (step :: ·) hsteps) (.cons hstep hchain) hruns hstops

/-- A walk runs its first step, and goes on with the others if that does. -/
theorem runs_of_goes_walk {step : Step C} {last : String} {r : String × Outcome × C}
    (h : (walk (step :: steps) last c).Goes t t' r) : ∃ t₁ outcome c₁, step.Runs t c t₁ outcome c₁ ∧
      (outcome = .next ∧ (walk steps step.name c₁).Goes t₁ t' r ∨
        outcome ≠ .next ∧ t' = t₁ ∧ r = (step.name, outcome, c₁)) := by
  rw [walk, goes_bind] at h
  obtain ⟨t₀, _, hlog, h⟩ := h
  rw [Act.log, goes_question] at hlog
  subst hlog
  rw [goes_bind] at h
  obtain ⟨t₁, ⟨outcome, c₁⟩, hstep, h⟩ := h
  refine ⟨t₁, outcome, c₁, hstep, ?_⟩
  cases outcome with
  | next => exact Or.inl ⟨rfl, h⟩
  | complete => exact Or.inr ⟨nofun, h⟩
  | requeue after => exact Or.inr ⟨nofun, h⟩
  | fail e => exact Or.inr ⟨nofun, h⟩

theorem walks_of_goes {last : String} {r : String × Outcome × C}
    (h : (walk steps last c).Goes t t' r) : Walks steps last t c t' r := by
  induction steps generalizing last t c with
  | nil =>
    obtain ⟨rfl, rfl⟩ := h
    exact .finished .nil
  | cons step steps ih =>
    obtain ⟨t₁, outcome, c₁, hstep, ⟨rfl, h⟩ | ⟨hstops, rfl, rfl⟩⟩ := runs_of_goes_walk h
    · exact .cons hstep (ih h)
    · exact .stopped rfl .nil hstep hstops

/-- Steps that ask only questions of a kind, before others that may follow. -/
theorem exists_of_goes_walk_append {kind : Request → Prop} {before rest : List (Step C)} {r : String × Outcome × C}
    (hlog : ∀ level message, kind (.log level message)) (hbefore : ∀ step ∈ before, ∀ c, (step.run c).Only kind) :
    ∀ {t : Talk Surroundings} {last : String} {c : C}, (walk (before ++ rest) last c).Goes t t' r →
      ∃ t₁, t.Extends (fun e => kind e.ask) t₁ ∧
        (t' = t₁ ∨ ∃ last₁ c₁, (walk rest last₁ c₁).Goes t₁ t' r) := by
  induction before with
  | nil => exact fun h => ⟨_, Talk.extends_refl, Or.inr ⟨_, _, h⟩⟩
  | cons step before ih =>
    intro t last c h
    rw [List.cons_append] at h
    obtain ⟨t₁, outcome, c₁, hstep, hends⟩ := runs_of_goes_walk h
    have hlogged : t.Extends (fun e => kind e.ask) (⟨Request.log .debug "Running step", ()⟩ :: t) :=
      Talk.extends_refl.cons (hlog _ _)
    have ht₁ := hlogged.trans ((hbefore step List.mem_cons_self c).extends_of_goes hstep)
    obtain ⟨_, hrest⟩ | ⟨_, rfl, _⟩ := hends
    · obtain ⟨t₂, ht₂, hrest⟩ := ih (fun s hs => hbefore s (List.mem_cons_of_mem _ hs)) hrest
      exact ⟨t₂, ht₁.trans ht₂, hrest⟩
    · exact ⟨t', ht₁, Or.inl rfl⟩

/-- A step that only reads leaves the state as it is. -/
theorem eq_of_goes_reading {name : String} {f : C → Attempt Outcome} {outcome : Outcome}
    (h : ((Step.reading name f).run c).Goes t t' (outcome, c')) : c' = c := by
  rw [Step.reading, Step.ofAttempt, goes_bind] at h
  obtain ⟨_, result, hread, hends⟩ := h
  rw [goes_run_bind] at hread
  obtain ⟨_, read, _, hresult⟩ := hread
  cases read with
  | ok outcome =>
    obtain ⟨_, rfl⟩ := hresult
    exact congrArg Prod.snd hends.2
  | error e =>
    obtain ⟨_, rfl⟩ := hresult
    exact congrArg Prod.snd hends.2

/-! ### The end -/

theorem exists_of_goes_report {last : String} {ending : Action × Option OperatorError}
    (h : (report last ending).Goes t t' ()) :
    ∃ level message, t' = ⟨Request.log level message, ()⟩ :: t := by
  obtain ⟨action, error⟩ := ending
  cases error with
  | some e => exact ⟨_, _, goes_question.1 h⟩
  | none =>
    cases action with
    | requeue after => exact ⟨_, _, goes_question.1 h⟩
    | done => exact ⟨_, _, goes_question.1 h⟩

theorem conclusion_ok (c : C) (outcome : Outcome) :
    conclusion (.ok c : Except OperatorError C) outcome = verdict outcome := by
  cases outcome <;> rfl

theorem toExcept_eq_error_iff (r : PassResult) (e : OperatorError) :
    r.toExcept = .error e ↔ r.error = some e := by
  rw [PassResult.toExcept]
  cases r.error with
  | none => exact ⟨fun h => (nomatch h), fun h => (nomatch h)⟩
  | some e' => exact ⟨fun h => congrArg some (Except.error.inj h), fun h => congrArg _ (Option.some.inj h)⟩

theorem eq_action_of_toExcept {r : PassResult} {a : Action} (h : r.toExcept = .ok a) : a = r.action := by
  rw [PassResult.toExcept] at h
  split at h
  next => cases h
  next => exact (Except.ok.inj h).symm

theorem eq_of_goes_onError {action : Action} (h : (Controller.onError k).Goes t t' action) :
    action = .requeue retryDelay := by
  rw [Controller.onError, goes_bind] at h
  obtain ⟨_, _, _, _, hr⟩ := h
  exact hr

section

variable [PassState C k.Object] [CustomResource k.Object]

/-! ### The status -/

theorem writesStatus_of_goes {written : Except OperatorError C}
    (hwrite : ∀ o : k.Object, CustomResource.replaceStatus o = Attempt.replaceStatus k o)
    (h : (persist c).run.Goes t t' written) : WritesStatus k t c t' written := by
  rw [persist] at h
  split at h
  next hnone =>
    obtain ⟨rfl, rfl⟩ := h
    exact .absent hnone
  next o ho =>
    dsimp only at h
    split at h
    next hvanishes =>
      obtain ⟨rfl, rfl⟩ := h
      rw [Bool.and_eq_true, Bool.not_eq_true'] at hvanishes
      exact .vanished ho hvanishes
    next hstays =>
      rw [Bool.and_eq_true, Bool.not_eq_true'] at hstays
      rw [hwrite, ExceptT.run_bind, goes_bind] at h
      obtain ⟨t₁, answer, hasked, h⟩ := h
      rw [Attempt.replaceStatus, Attempt.store, ExceptT.run_mk] at hasked
      obtain rfl := goes_question.1 hasked
      cases answer with
      | ok stored =>
        obtain ⟨rfl, rfl⟩ := h
        exact .written ho hstays
      | error e =>
        obtain ⟨rfl, rfl⟩ := h
        exact .refused ho hstays

/-! ### The pass -/

/-- A pass runs its steps, writes the status and tells the log how it ended. -/
theorem exists_of_goes_run {r : PassResult} (h : (run steps c).Goes t t' (r, c')) :
    ∃ t₁ outcome c₁ t₂ written level message, (walk steps "" c).Goes t t₁ (r.lastStep, outcome, c₁) ∧
      (persist c₁).run.Goes t₁ t₂ written ∧ t' = ⟨.log level message, ()⟩ :: t₂ ∧
      (r.action, r.error) = conclusion written outcome := by
  rw [run, goes_bind] at h
  obtain ⟨t₁, ⟨last, outcome, c₁⟩, hwalk, h⟩ := h
  dsimp only at h
  rw [goes_bind] at h
  obtain ⟨t₂, written, hpersist, h⟩ := h
  cases written with
  | ok c₂ =>
    rw [goes_bind] at h
    obtain ⟨t₃, _, hreport, rfl, hr⟩ := h
    obtain ⟨rfl, rfl⟩ := Prod.mk.inj hr
    obtain ⟨level, message, ht⟩ := exists_of_goes_report hreport
    exact ⟨t₁, outcome, c₁, t₂, _, level, message, hwalk, hpersist, ht, (conclusion_ok _ _).symm⟩
  | error e =>
    rw [goes_bind] at h
    obtain ⟨t₃, _, hreport, rfl, hr⟩ := h
    obtain ⟨rfl, rfl⟩ := Prod.mk.inj hr
    obtain ⟨level, message, ht⟩ := exists_of_goes_report hreport
    exact ⟨t₁, outcome, _, t₂, _, level, message, hwalk, hpersist, ht, rfl⟩

theorem completes_of_goes {r : PassResult}
    (hwrite : ∀ o : k.Object, CustomResource.replaceStatus o = Attempt.replaceStatus k o)
    (h : (run steps c).Goes t t' (r, c')) : Completes k steps t c t' r := by
  obtain ⟨t₁, outcome, c₁, t₂, written, level, message, hwalk, hpersist, ht, hends⟩ := exists_of_goes_run h
  exact ⟨t₁, outcome, c₁, t₂, written, level, message, walks_of_goes hwalk,
    writesStatus_of_goes hwrite hpersist, ht, hends⟩

/-- A pass with an error is to be made again after the delay that follows from every error. -/
theorem Completes.action_of_error {r : PassResult} (h : Completes k steps t c t' r) {e : OperatorError}
    (he : r.error = some e) : r.action = .requeue retryDelay := by
  obtain ⟨t₁, outcome, c₁, t₂, written, level, message, _, _, _, hends⟩ := h
  obtain ⟨haction, herror⟩ := Prod.mk.inj hends
  rw [he] at herror
  rw [haction]
  cases written with
  | error e => rfl
  | ok c₂ => cases outcome <;> first | rfl | cases herror

/-- For every list of steps, every state and all answers: the steps run in order up to the first that
does not go on; after them the status is written once, if it is written at all; the pass ends with the
error of the write or else as the steps ended. Its result is an error exactly if it says so, and the
controller does what the pass says, also when it goes by the error alone. -/
theorem run_spec
    (hwrite : ∀ o : k.Object, CustomResource.replaceStatus o = Attempt.replaceStatus k o)
    (steps : List (Step C)) (start : ObjectKey → C) :
    (∀ t c t' r c', (run steps c).Goes t t' (r, c') →
      Completes k steps t c t' r ∧ ∀ e, r.toExcept = .error e ↔ r.error = some e) ∧
    ∀ (o : k.Object) t t' answer action, (Controller.handle steps start o).Goes t t' (answer, action) →
      ∃ t₁ r c', (run steps (start (ObjectKey.ofMeta (CustomResource.toKubeObject.metadata o)))).Goes
        t t₁ (r, c') ∧ answer = r.toExcept ∧ action = r.action := by
  refine ⟨fun t c t' r c' h => ⟨completes_of_goes hwrite h, toExcept_eq_error_iff r⟩, ?_⟩
  intro o t t' answer action h
  rw [Controller.handle, goes_bind] at h
  obtain ⟨t₁, result, hreconcile, h⟩ := h
  rw [Controller.reconcile, goes_bind] at hreconcile
  obtain ⟨t₂, ⟨r, c'⟩, hrun, rfl, rfl⟩ := hreconcile
  refine ⟨_, r, c', hrun, ?_⟩
  cases hr : r.toExcept with
  | ok a =>
    rw [hr] at h
    obtain ⟨rfl, hends⟩ := h
    obtain ⟨rfl, rfl⟩ := Prod.mk.inj hends
    exact ⟨rfl, eq_action_of_toExcept hr⟩
  | error e =>
    rw [hr, goes_bind] at h
    obtain ⟨_, delayed, hpolicy, rfl, hends⟩ := h
    obtain ⟨rfl, rfl⟩ := Prod.mk.inj hends
    have herror : r.error = some e := (toExcept_eq_error_iff r e).1 hr
    have haction : r.action = .requeue retryDelay :=
      (completes_of_goes hwrite hrun).action_of_error herror
    exact ⟨rfl, (eq_of_goes_onError hpolicy).trans haction.symm⟩

end

/-- The settings of a shop whose cluster is not there yet. -/
def settings : CartridgeConfig where
  metadata := { ObjectMeta.blank with
    name := some "settings", ns := some "db", labels := some (Labels.clusterSelector "shop") }
  spec := ⟨""⟩
  status := none

/-- Answers of a store that has the settings and refuses to write. -/
def refusing : (q : Request) → q.Answer
  | .store (.get .cartridgeConfig _ _) => .ok (some settings)
  | .store (.get .cluster _ _) => .ok none
  | .store _ => .error (.conflict "CartridgeConfig" "settings")
  | .admin _ => .error .decode
  | .record .. => ()
  | .log .. => ()

/-- The pass over the settings waits for their cluster, and ends with the error of the write. -/
theorem settings_refused :
    ∃ t r c, (run ConfigPass.steps (MemberPass.start ⟨"db", "settings"⟩)).Goes [] t (r, c) ∧
      Completes .cartridgeConfig ConfigPass.steps [] (MemberPass.start ⟨"db", "settings"⟩) t r ∧
      r.error = some (.conflict "CartridgeConfig" "settings") ∧ r.action = .requeue (.seconds 10) := by
  have hspec := run_spec (k := .cartridgeConfig) (fun _ => rfl) ConfigPass.steps MemberPass.start
  have hhandled : Program.run (m := Id) refusing
      (Controller.handle ConfigPass.steps MemberPass.start settings) =
      (.error (.conflict "CartridgeConfig" "settings"), .requeue (.seconds 10)) := by
    rfl
  have hgoes := goes_hear refusing (Controller.handle ConfigPass.steps MemberPass.start settings) []
  rw [hhandled] at hgoes
  obtain ⟨t, r, c, hrun, hanswer, haction⟩ := hspec.2 settings _ _ _ _ hgoes
  obtain ⟨hcompletes, herror⟩ := hspec.1 _ _ _ _ _ hrun
  exact ⟨t, r, c, hrun, hcompletes, (herror _).1 hanswer.symm, haction.symm⟩

end Pass

end ClusterKeeper
