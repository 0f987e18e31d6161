import ClusterKeeper.Proofs.Program.Course
import ClusterKeeper.Proofs.Simulation.Stage

/-!
A store that keeps its promises and may fail at any request. A list holds what matches, in any order; an object
is created in a free place only; and a replacement is stored in the place of an object (`Carries`). A request
that fails was either refused, or carried out although its answer was lost (`Replies`). `Serves` says what a
store that was asked the questions of a talk, and answered them so, has become.

A store in memory serves so (`serves_play`).
-/

namespace ClusterKeeper

/-- A program that is played takes one of its courses. -/
theorem Program.goes_play {I : Interface} {σ α : Type} (respond : σ → (q : I.Ask) → I.Answer q × σ) (p : Program I α)
    (t : Talk I) (s : σ) : p.Goes t (p.play respond t s).talk (p.play respond t s).result := by
  induction p generalizing t s with
  | done a => exact ⟨rfl, rfl⟩
  | ask q next ih => exact ⟨(respond s q).1, ih _ _ _⟩

namespace Request

/-- Whether a request creates or replaces an object. -/
def isWrite : Request → Bool
  | store (.create ..) | store (.replace ..) | store (.replaceStatus ..) => true
  | _ => false

/-- The request reads an object, creates or replaces one, or is a line of the log. -/
def Provides : Request → Prop
  | store (.get ..) | store (.list ..) | store (.create ..) | store (.replace ..) | log .. => True
  | store (.replaceStatus ..) | admin _ | record .. => False

end Request

namespace Simulation

variable {τ : Type} {s s' s'' : Stage τ} {t : Talk Surroundings} {k : Kind} {ns : String} {selector : Labels}

/-- A request is carried out. -/
inductive Carries (s : Stage τ) : (q : StoreRequest) → q.Result → Stage τ → Prop
  | get {k : Kind} {ns name : String} : Carries s (.get k ns name) (s.objects.find? k ns name) s
  | list {k : Kind} {ns : String} {selector : Labels} {found : List k.Object}
      (h : found.Perm (s.objects.matching k ns selector)) : Carries s (.list k ns selector) found s
  | create {k : Kind} {given stored : k.Object} {s' : Stage τ}
      (hfree : s.objects.find? k (KubeObject.metadata given).nsText (KubeObject.metadata given).nameText = none)
      (h : Stored s s' given stored) : Carries s (.create k given) stored s'
  | replace {k : Kind} {given stored : k.Object} {s' : Stage τ}
      (hthere : (s.objects.find? k (KubeObject.metadata given).nsText
        (KubeObject.metadata given).nameText).isSome)
      (h : Stored s s' given stored) : Carries s (.replace k given) stored s'

/-- A request is answered, with what becomes of the store. -/
inductive Replies (s : Stage τ) : Turn Surroundings → Stage τ → Prop
  | done {q : StoreRequest} {r : q.Result} {s' : Stage τ} (h : Carries s q r s') :
      Replies s ⟨Request.store q, Except.ok r⟩ s'
  | refused {q : StoreRequest} {e : OperatorError} : Replies s ⟨Request.store q, Except.error e⟩ s
  | lost {q : StoreRequest} {e : OperatorError} {r : q.Result} {s' : Stage τ} (h : Carries s q r s') :
      Replies s ⟨Request.store q, Except.error e⟩ s'
  | told {level : LogLevel} {message : String} : Replies s ⟨Request.log level message, ()⟩ s

/-- A store has answered the questions of a talk, one after the other, with what it has become. -/
def Serves (s : Stage τ) : Talk Surroundings → Stage τ → Prop
  | [], s' => s' = s
  | e :: t, s'' => ∃ s', Serves s t s' ∧ Replies s' e s''

/-! ### Turn by turn -/

theorem serves_log {level : LogLevel} {message : String}
    (h : Serves s (⟨Request.log level message, ()⟩ :: t) s') : Serves s t s' := by
  obtain ⟨_, h, hreply⟩ := h
  cases hreply
  exact h

/-- What is listed is what matches. -/
theorem serves_list {found : List k.Object}
    (h : Serves s (⟨Request.store (.list k ns selector), Except.ok found⟩ :: t) s') :
    Serves s t s' ∧ found.Perm (s'.objects.matching k ns selector) := by
  obtain ⟨_, h, hreply⟩ := h
  cases hreply with
  | done hcarries =>
    cases hcarries with
    | list hfound => exact ⟨h, hfound⟩

theorem serves_list_error {e : OperatorError}
    (h : Serves s (⟨Request.store (.list k ns selector), Except.error e⟩ :: t) s') : Serves s t s' := by
  obtain ⟨_, h, hreply⟩ := h
  cases hreply with
  | refused => exact h
  | lost hcarries =>
    cases hcarries
    exact h

/-- An object that was created had no place yet. -/
theorem serves_create {given stored : k.Object}
    (h : Serves s (⟨Request.store (.create k given), Except.ok stored⟩ :: t) s'') :
    ∃ s', Serves s t s' ∧
      s'.objects.find? k (KubeObject.metadata given).nsText (KubeObject.metadata given).nameText = none ∧
      Stored s' s'' given stored := by
  obtain ⟨s', h, hreply⟩ := h
  cases hreply with
  | done hcarries =>
    cases hcarries with
    | create hfree hstored => exact ⟨s', h, hfree, hstored⟩

/-- An object that was not created, as far as is known, may have been created. -/
theorem serves_create_error {given : k.Object} {e : OperatorError}
    (h : Serves s (⟨Request.store (.create k given), Except.error e⟩ :: t) s'') :
    Serves s t s'' ∨ ∃ s' stored, Serves s t s' ∧
      s'.objects.find? k (KubeObject.metadata given).nsText (KubeObject.metadata given).nameText = none ∧
      Stored s' s'' given stored := by
  obtain ⟨s', h, hreply⟩ := h
  cases hreply with
  | refused => exact Or.inl h
  | lost hcarries =>
    cases hcarries with
    | create hfree hstored => exact Or.inr ⟨s', _, h, hfree, hstored⟩

theorem serves_replace {given stored : k.Object}
    (h : Serves s (⟨Request.store (.replace k given), Except.ok stored⟩ :: t) s'') :
    ∃ s', Serves s t s' ∧ Stored s' s'' given stored := by
  obtain ⟨s', h, hreply⟩ := h
  cases hreply with
  | done hcarries =>
    cases hcarries with
    | replace _ hstored => exact ⟨s', h, hstored⟩

theorem Carries.eq_of_read {q : StoreRequest} {r : q.Result} (h : Carries s q r s')
    (hq : (Request.store q).isWrite = false) : s' = s := by
  cases h with
  | get => rfl
  | list _ => rfl
  | create _ _ => cases hq
  | replace _ _ => cases hq

/-- A store that was asked to write nothing is as it was. -/
theorem Serves.eq_of_reads (h : Serves s t s') (ht : ∀ e ∈ t, e.ask.isWrite = false) : s' = s := by
  induction t generalizing s' with
  | nil => exact h
  | cons e t ih =>
    obtain ⟨he, ht⟩ := List.forall_mem_cons.1 ht
    obtain ⟨s₁, h, hreply⟩ := h
    have hsame : s' = s₁ := by
      cases hreply with
      | done hcarries => exact hcarries.eq_of_read he
      | refused => rfl
      | lost hcarries => exact hcarries.eq_of_read he
      | told => rfl
    rw [hsame, ih h ht]

/-! ### Stores in memory -/

theorem answer_create_error {os : Objects} {given : k.Object} {e : OperatorError}
    (h : (os.answer (.create k given)).1 = .error e) : (os.answer (.create k given)).2 = os := by
  rw [Objects.answer] at h ⊢
  dsimp only at h ⊢
  split at h
  next htaken => rw [if_pos htaken]
  next => cases h

theorem update_error {os : Objects} {given : k.Object} {merge : k.Object → k.Object} {e : OperatorError}
    (h : (os.update k given merge).1 = .error e) : (os.update k given merge).2 = os := by
  rw [Objects.update] at h ⊢
  dsimp only at h ⊢
  split at h
  next => rfl
  next =>
    split at h
    next hstale => rw [if_pos hstale]
    next => cases h

theorem replies_of_error {answer : Answering τ} {q : StoreRequest} {e : OperatorError}
    (he : (s.objects.answer q).1 = .error e) (hsame : (s.objects.answer q).2 = s.objects) :
    Replies s ⟨Request.store q, (s.objects.answer q).1⟩ (s.respond answer (.store q)).2 := by
  have hstate : (s.respond answer (.store q)).2 = s := by
    rw [Stage.respond]
    cases s
    simp only [Stage.mk.injEq, and_true]
    exact hsame
  rw [hstate, he]
  exact .refused

theorem replies_of_ok {answer : Answering τ} {q : StoreRequest} {r : q.Result}
    (hr : (s.objects.answer q).1 = .ok r) (hcarries : Carries s q r (s.respond answer (.store q)).2) :
    Replies s ⟨Request.store q, (s.objects.answer q).1⟩ (s.respond answer (.store q)).2 := by
  rw [hr]
  exact .done hcarries

/-- A store in memory keeps its promises. -/
theorem replies_respond (answer : Answering τ) (s : Stage τ) {q : Request} (hq : q.Provides) :
    Replies s ⟨q, (s.respond answer q).1⟩ (s.respond answer q).2 := by
  cases q with
  | store q =>
    cases q with
    | get k ns name => exact replies_of_ok rfl .get
    | list k ns selector => exact replies_of_ok rfl (.list (List.Perm.refl _))
    | create k given =>
      cases hanswer : (s.objects.answer (.create k given)).1 with
      | error e => exact hanswer ▸ replies_of_error hanswer (answer_create_error hanswer)
      | ok r =>
        obtain ⟨hfree, rfl, hput⟩ := Objects.create_eq_ok hanswer
        exact hanswer ▸ replies_of_ok hanswer (.create hfree (stored_of_put hput rfl))
    | replace k given =>
      cases hanswer : (s.objects.answer (.replace k given)).1 with
      | error e => exact hanswer ▸ replies_of_error hanswer (update_error hanswer)
      | ok r =>
        obtain ⟨old, hold, rfl, hput⟩ := Objects.update_eq_ok hanswer
        exact hanswer ▸ replies_of_ok hanswer (.replace (Option.isSome_of_eq_some hold) (stored_of_put hput rfl))
    | replaceStatus k given => exact hq.elim
  | log level message => exact .told
  | admin q => exact hq.elim
  | record about event => exact hq.elim

/-- A program that is played with a store in memory is served by it. -/
theorem serves_play {α : Type} (answer : Answering τ) {p : Act α} (hp : p.Only Request.Provides) (s : Stage τ) :
    p.Goes [] (p.play (Stage.respond answer) [] s).talk (p.play (Stage.respond answer) [] s).result ∧
      Serves s (p.play (Stage.respond answer) [] s).talk (p.play (Stage.respond answer) [] s).state := by
  have hplay : ∀ {t s₁}, Program.Keeps (fun _ q => Request.Provides q) p (fun _ _ => True) t → Serves s t s₁ →
      Serves s (p.play (Stage.respond answer) t s₁).talk (p.play (Stage.respond answer) t s₁).state := by
    clear hp
    intro t s₁ hp hs
    induction p generalizing t s₁ with
    | done a => exact hs
    | ask q next ih =>
      have hnext : Serves s (⟨q, (s₁.respond answer q).1⟩ :: t) (s₁.respond answer q).2 :=
        ⟨s₁, hs, replies_respond answer s₁ hp.1⟩
      exact ih (s₁.respond answer q).1 (hp.2 _) hnext
  exact ⟨Program.goes_play (Stage.respond answer) p [] s, hplay (hp []) rfl⟩

end Simulation

end ClusterKeeper
