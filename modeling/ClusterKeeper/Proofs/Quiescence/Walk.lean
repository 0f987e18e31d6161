import ClusterKeeper.Proofs.Pass.Walk
import ClusterKeeper.Proofs.Simulation.Stage

/-!
Passes on a stage, taken apart. A step leaves one thing to be shown when the next step follows and
another when the pass ends at it (`Step.Goes`). Along a walk the first is what the rest of the steps need
(`plays_walk_cons`), and at the end of a pass the status is written, or not (`plays_run`).
-/

namespace ClusterKeeper.Simulation

open Program

variable {τ C α : Type} {answer : Answering τ} {rule : Stage τ → Request → Prop} {s : Stage τ} {c : C}

/-- A step goes from a stage and the state of a pass: on to the next step, or to the end of the pass. -/
def Goes (answer : Answering τ) (rule : Stage τ → Request → Prop) (step : Step C)
    (on : Stage τ → C → Prop) (ends : Stage τ → Outcome → C → Prop) (s : Stage τ) (c : C) : Prop :=
  Plays (Stage.respond answer) rule (step.run c)
    (fun s r => Meets (on s r.2) (fun outcome => ends s outcome r.2) r.1) s

variable {on : Stage τ → C → Prop} {ends : Stage τ → Outcome → C → Prop}

theorem goes_ofAttempt (name : String) (f : C → Attempt (Outcome × C)) :
    Goes answer rule (.ofAttempt name f) on ends s c ↔
      PlaysOr (Stage.respond answer) rule (f c)
        (fun s r => Meets (on s r.2) (fun outcome => ends s outcome r.2) r.1)
        (fun s e => ends s (.fail e) c) s := by
  rw [Goes, Step.ofAttempt, plays_bind, plays_run]
  rfl

theorem goes_reading (name : String) (f : C → Attempt Outcome) :
    Goes answer rule (.reading name f) on ends s c ↔
      PlaysOr (Stage.respond answer) rule (f c)
        (fun s outcome => Meets (on s c) (fun outcome => ends s outcome c) outcome)
        (fun s e => ends s (.fail e) c) s := by
  rw [Step.reading, goes_ofAttempt, bind_pure_comp, playsOr_map]

/-! ### Walks and runs -/

section

variable [AdmitsReads rule] {fits : Stage τ → String × Outcome × C → Prop}

theorem plays_walk_cons (step : Step C) (rest : List (Step C)) (last : String) :
    Plays (Stage.respond answer) rule (Pass.walk (step :: rest) last c) fits s ↔
      Goes answer rule step
        (fun s c => Plays (Stage.respond answer) rule (Pass.walk rest step.name c) fits s)
        (fun s outcome c => fits s (step.name, outcome, c)) s c := by
  rw [Pass.walk, plays_bind, plays_log, plays_bind]
  refine plays_congr fun s r => ?_
  obtain ⟨outcome, c⟩ := r
  cases outcome <;> exact Iff.rfl

theorem plays_report (last : String) (ending : Action × Option OperatorError)
    {fits : Stage τ → Unit → Prop} :
    Plays (Stage.respond answer) rule (Pass.report last ending) fits s ↔ fits s () := by
  obtain ⟨action, error⟩ := ending
  cases error <;> cases action <;> exact plays_log _ _

end

/-! ### How passes end -/

/-- Custom resources of a kind, in the state of a pass: they are stored under the kind, and their status
tells how far a pass got. -/
class Tended (k : Kind) (C : Type) [PassState C k.Object] [CustomResource k.Object] : Prop where
  metadata_eq (o : k.Object) : CustomResource.toKubeObject.metadata o = KubeObject.metadata o
  fetch_eq (ns name : String) : CustomResource.fetch ns name = Attempt.get k ns name
  replaceStatus_eq (o : k.Object) : CustomResource.replaceStatus o = Attempt.replaceStatus k o
  phase_withStatusOf (stored given : k.Object) :
    CustomResource.phase (Objects.withStatusOf k stored given) = CustomResource.phase given
  object_withObject (o : k.Object) (c : C) : PassState.object (PassState.withObject o c) = some o

instance : Tended .role RolePass :=
  ⟨fun _ => rfl, fun _ _ => rfl, fun _ => rfl, fun _ _ => rfl, fun _ _ => rfl⟩

instance : Tended .cartridgeConfig ConfigPass :=
  ⟨fun _ => rfl, fun _ _ => rfl, fun _ => rfl, fun _ _ => rfl, fun _ _ => rfl⟩

instance : Tended .cluster ClusterPass :=
  ⟨fun _ => rfl, fun _ _ => rfl, fun _ => rfl, fun _ _ => rfl, fun _ _ => rfl⟩

/-- An object that is being deleted and that nothing holds. Its status is not written. -/
def Vanishes (m : ObjectMeta) : Prop := (m.isDeleting && !m.hasFinalizers) = true

section

variable [PassState C α] [CustomResource α]

/-- A pass has ended with nothing left to do and its object in a phase. -/
def EndsIn (phase : CustomResource.Phase α) (r : PassResult × C) : Prop :=
  r.1.action = .done ∧ r.1.error = none ∧
    ∃ o : α, PassState.object r.2 = some o ∧ CustomResource.phase o = phase

theorem endsIn_iff {phase : CustomResource.Phase α} {r : PassResult × C} : EndsIn phase r ↔
    r.1.action = .done ∧ r.1.error = none ∧
      (PassState.object r.2).map CustomResource.phase = some phase := by
  rw [EndsIn, Option.map_eq_some_iff]

instance : DecidableEq (CustomResource.Phase Role) := inferInstanceAs (DecidableEq RolePhase)

instance : DecidableEq (CustomResource.Phase CartridgeConfig) :=
  inferInstanceAs (DecidableEq CartridgeConfigPhase)

instance : DecidableEq (CustomResource.Phase Cluster) := inferInstanceAs (DecidableEq ClusterPhase)

instance [DecidableEq (CustomResource.Phase α)] (phase : CustomResource.Phase α) (r : PassResult × C) :
    Decidable (EndsIn phase r) :=
  decidable_of_iff _ endsIn_iff.symm

/-- The steps of a pass have ended so that the pass is made again, or with its object in another phase. -/
def FallsShort (phase : CustomResource.Phase α) (outcome : Outcome) (c : C) : Prop :=
  (outcome ≠ .next ∧ outcome ≠ .complete) ∨
    ∀ o : α, PassState.object c = some o → CustomResource.phase o ≠ phase

theorem fallsShort_of_none {phase : CustomResource.Phase α} {outcome : Outcome}
    (hnone : PassState.object c = none) : FallsShort phase outcome c :=
  Or.inr fun o ho => absurd (ho.symm.trans hnone) (Option.some_ne_none o)

theorem fallsShort_of_phase_ne {phase : CustomResource.Phase α} {outcome : Outcome} {o : α}
    (ho : PassState.object c = some o) (hne : CustomResource.phase o ≠ phase) : FallsShort phase outcome c :=
  Or.inr fun _ ho' => Option.some.inj (ho.symm.trans ho') ▸ hne

/-- Steps that have ended so that the pass is made again fall short. -/
theorem fallsShort_of_retry {phase : CustomResource.Phase α} {outcome : Outcome} {done : Prop}
    (h : outcome.Retries) : FallsShort phase outcome c ∨ done := by
  refine Or.inl (Or.inl ⟨?_, ?_⟩) <;> rintro rfl <;> exact h

/-- A pass that is made again, or that failed, ends in no phase. -/
theorem not_endsIn_verdict {phase : CustomResource.Phase α} {outcome : Outcome} {last : String}
    (hnext : outcome ≠ .next) (hcomplete : outcome ≠ .complete) (c : C) :
    ¬EndsIn phase ((⟨(Pass.verdict outcome).1, (Pass.verdict outcome).2, last⟩ : PassResult), c) := by
  rintro ⟨haction, herror, _⟩
  cases outcome with
  | next => exact hnext rfl
  | complete => exact hcomplete rfl
  | requeue after => cases haction
  | fail e => cases herror

theorem plays_run_pass [AdmitsReads rule] (steps : List (Step C)) {fits : Stage τ → PassResult × C → Prop} :
    Plays (Stage.respond answer) rule (Pass.run steps c) fits s ↔
      Plays (Stage.respond answer) rule (Pass.walk steps "" c)
        (fun s r => PlaysOr (Stage.respond answer) rule (Pass.persist r.2.2)
          (fun s c => fits s (⟨(Pass.verdict r.2.1).1, (Pass.verdict r.2.1).2, r.1⟩, c))
          (fun s e => fits s (⟨.requeue retryDelay, some e, r.1⟩, r.2.2)) s) s := by
  rw [Pass.run, plays_bind]
  refine plays_congr fun s r => ?_
  rw [plays_bind, plays_run]
  simp only [plays_bind, plays_report, plays_pure]

end

section

variable {k : Kind} [PassState C k.Object] [CustomResource k.Object] {phase : CustomResource.Phase k.Object}
  [Tended k C]

/-- The status is written, and may be refused, unless the object vanishes. -/
theorem persist_settles {o : k.Object} (ho : PassState.object c = some o) {ok : Stage τ → C → Prop}
    {fails : Stage τ → OperatorError → Prop} (hfails : ∀ s e, fails s e)
    (hvanishes : Vanishes (KubeObject.metadata o) → ok s c)
    (hstored : ¬Vanishes (KubeObject.metadata o) → ∀ s' stored, Restatused s s' o stored →
      ok s' (PassState.withObject stored c)) :
    PlaysOr (Stage.respond answer) Free (Pass.persist c) ok fails s := by
  rw [Pass.persist, ho]
  dsimp only
  rw [Tended.metadata_eq (C := C), playsOr_ite]
  refine ⟨fun h => hvanishes h, fun h => ?_⟩
  rw [bind_pure_comp, playsOr_map, Tended.replaceStatus_eq (C := C)]
  exact playsOr_replaceStatus hfails (hstored h)

/-- A status is written as it is stored. -/
theorem persist_of_found [AdmitsReads rule] {o : k.Object} (ho : PassState.object c = some o)
    (hfound : ¬Vanishes (KubeObject.metadata o) → s.objects.find? k (KubeObject.metadata o).nsText
      (KubeObject.metadata o).nameText = some o ∧ rule s (.store (.replaceStatus k o))) :
    PlaysOr (Stage.respond answer) rule (Pass.persist c)
      (fun _ c' => ∃ o' : k.Object, PassState.object c' = some o' ∧
        CustomResource.phase o' = CustomResource.phase o) (fun _ _ => False) s := by
  rw [Pass.persist, ho]
  dsimp only
  rw [Tended.metadata_eq (C := C), playsOr_ite]
  refine ⟨fun _ => ⟨o, ho, rfl⟩, fun h => ?_⟩
  obtain ⟨hfound, hrule⟩ := hfound h
  rw [bind_pure_comp, playsOr_map, Tended.replaceStatus_eq (C := C)]
  refine playsOr_replaceStatus_of_version hrule hfound rfl fun s' stored hstored => ?_
  refine ⟨stored, Tended.object_withObject stored c, ?_⟩
  rw [← hstored.status, Tended.phase_withStatusOf (C := C)]

/-- What is known when a pass ends in a phase: it is what the steps leave when they come to their end, kept
by the write of the status. -/
theorem run_settles {steps : List (Step C)} (done : Stage τ → C → Prop) {kept : Stage τ → Prop}
    (hwalk : Plays (Stage.respond answer) Free (Pass.walk steps "" c)
      (fun s r => FallsShort phase r.2.1 r.2.2 ∨ done s r.2.2) s)
    (hdone : ∀ s c, done s c → ∃ o : k.Object, PassState.object c = some o ∧
      (Vanishes (KubeObject.metadata o) → kept s) ∧
      (¬Vanishes (KubeObject.metadata o) → ∀ s' stored, Restatused s s' o stored → kept s')) :
    Plays (Stage.respond answer) Free (Pass.run steps c) (fun s r => EndsIn phase r → kept s) s := by
  rw [plays_run_pass]
  refine hwalk.mono fun s r hr => ?_
  obtain ⟨last, outcome, c⟩ := r
  have hfails : ∀ (s : Stage τ) e,
      EndsIn phase ((⟨.requeue retryDelay, some e, last⟩ : PassResult), c) → kept s :=
    fun _ _ h => absurd h.2.1 (Option.some_ne_none _)
  rcases hr with (⟨hnext, hcomplete⟩ | hphase) | hr
  · have hverdict (c' : C) : ¬EndsIn phase
        ((⟨(Pass.verdict outcome).1, (Pass.verdict outcome).2, last⟩ : PassResult), c') :=
      not_endsIn_verdict hnext hcomplete c'
    cases ho : (PassState.object c : Option k.Object) with
    | none =>
      rw [Pass.persist, ho]
      exact fun h => absurd h (hverdict c)
    | some o =>
      exact persist_settles ho hfails (fun _ h => absurd h (hverdict c))
        fun _ s' stored _ h => absurd h (hverdict _)
  · cases ho : (PassState.object c : Option k.Object) with
    | none =>
      rw [Pass.persist, ho]
      rintro ⟨_, _, o, ho', _⟩
      exact absurd (ho'.symm.trans ho) (Option.some_ne_none o)
    | some o =>
      refine persist_settles ho hfails (fun _ h => ?_) fun _ s' stored hstored h => ?_
      · obtain ⟨_, _, o', ho', hready⟩ := h
        exact absurd hready (hphase o' ho')
      · obtain ⟨_, _, o', ho', hready⟩ := h
        rw [Tended.object_withObject] at ho'
        rw [← Option.some.inj ho', ← hstored.status, Tended.phase_withStatusOf (C := C)] at hready
        exact absurd hready (hphase o ho)
  · obtain ⟨o, ho, hvanishes, hstored⟩ := hdone s c hr
    exact persist_settles ho hfails (fun h _ => hvanishes h) fun h s' stored hs _ => hstored h s' stored hs

/-- A pass ends in a phase when its steps come to their end with the object in that phase, as it is
stored. -/
theorem run_of_found [AdmitsReads rule] {steps : List (Step C)}
    (hwalk : Plays (Stage.respond answer) rule (Pass.walk steps "" c)
      (fun s r => r.2.1 = .next ∧ ∃ o : k.Object, PassState.object r.2.2 = some o ∧
        CustomResource.phase o = phase ∧
        (¬Vanishes (KubeObject.metadata o) → s.objects.find? k (KubeObject.metadata o).nsText
          (KubeObject.metadata o).nameText = some o ∧ rule s (.store (.replaceStatus k o)))) s) :
    Plays (Stage.respond answer) rule (Pass.run steps c) (fun _ r => EndsIn phase r) s := by
  rw [plays_run_pass]
  refine hwalk.mono fun s r hr => ?_
  obtain ⟨last, outcome, c⟩ := r
  obtain ⟨rfl, o, ho, hphase, hfound⟩ := hr
  refine (persist_of_found ho hfound).mono (fun s' c' hc' => ?_) fun _ _ h => h.elim
  obtain ⟨o', ho', hsame⟩ := hc'
  exact ⟨rfl, rfl, o', ho', hsame.trans hphase⟩

end

end ClusterKeeper.Simulation
