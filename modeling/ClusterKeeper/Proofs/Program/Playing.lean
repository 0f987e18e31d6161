import ClusterKeeper.Proofs.Program.Play

/-!
Runs in a world that answers in one way only, taken apart. `Plays` is the weakest precondition of a
program over the states of such a world: every question obeys a rule that may look at the state in which
it is asked, and the result fits the state at the end. Programs that may fail have a condition for each
of their two ends (`PlaysOr`).

    Plays respond rule p fits s    played from s, p asks by the rule and ends as fits says

The precondition is taken apart along a program (`plays_bind`, `playsOr_bind`). Of a loop it says what
holds before each of its rounds: after a count of numbers (`playsOr_throughUpTo`), or with items still
to come (`playsOr_through`).
-/

namespace ClusterKeeper.Program

variable {I : Interface} {σ α β γ ε : Type} {respond : σ → (q : I.Ask) → I.Answer q × σ}
  {rule : σ → I.Ask → Prop} {s : σ}

/-- Played from a state, a program asks by the rule and ends with a state and a result that fit. -/
def Plays (respond : σ → (q : I.Ask) → I.Answer q × σ) (rule : σ → I.Ask → Prop) (p : Program I α)
    (fits : σ → α → Prop) (s : σ) : Prop :=
  match p with
  | done a => fits s a
  | ask q next => rule s q ∧ (next (respond s q).1).Plays respond rule fits (respond s q).2

/-- The same of a program that may fail, with a condition on its failure. -/
def PlaysOr (respond : σ → (q : I.Ask) → I.Answer q × σ) (rule : σ → I.Ask → Prop)
    (x : ExceptT ε (Program I) α) (ok : σ → α → Prop) (fails : σ → ε → Prop) (s : σ) : Prop :=
  Plays respond rule x.run
    (fun s r => match r with
      | .ok a => ok s a
      | .error e => fails s e) s

/-! ### Programs that cannot fail -/

section

variable {fits : σ → β → Prop}

@[simp] theorem plays_pure (b : β) : Plays respond rule (pure b) fits s ↔ fits s b := Iff.rfl

@[simp] theorem plays_bind (p : Program I α) (f : α → Program I β) :
    Plays respond rule (p >>= f) fits s ↔
      Plays respond rule p (fun s a => Plays respond rule (f a) fits s) s := by
  show Plays respond rule (p.bind f) fits s ↔ _
  induction p generalizing s with
  | done a => rfl
  | ask q next ih => exact and_congr_right fun _ => ih _

@[simp] theorem plays_map (p : Program I α) (f : α → β) :
    Plays respond rule (f <$> p) fits s ↔ Plays respond rule p (fun s a => fits s (f a)) s :=
  plays_bind p fun a => done (f a)

@[simp] theorem plays_ite {c : Prop} [Decidable c] (p q : Program I β) :
    Plays respond rule (if c then p else q) fits s ↔
      (c → Plays respond rule p fits s) ∧ (¬c → Plays respond rule q fits s) := by
  split <;> simp_all

end

theorem Plays.mono {fits fits' : σ → α → Prop} {p : Program I α} (h : Plays respond rule p fits s)
    (hfits : ∀ s a, fits s a → fits' s a) : Plays respond rule p fits' s := by
  induction p generalizing s with
  | done a => exact hfits s a h
  | ask q next ih => exact ⟨h.1, ih _ h.2⟩

theorem plays_congr {fits fits' : σ → α → Prop} {p : Program I α} (h : ∀ s a, fits s a ↔ fits' s a) :
    Plays respond rule p fits s ↔ Plays respond rule p fits' s :=
  ⟨fun hp => hp.mono fun s a => (h s a).1, fun hp => hp.mono fun s a => (h s a).2⟩

/-- What a run ends with is what `play` gives. -/
theorem Plays.play {fits : σ → α → Prop} {p : Program I α} (h : Plays respond rule p fits s)
    (t : Talk I) : fits (p.play respond t s).state (p.play respond t s).result := by
  induction p generalizing t s with
  | done a => exact h
  | ask q next ih => exact ih _ h.2 _

/-- A rule that does not depend on the state is obeyed by every question of `play`. -/
theorem Plays.talk {allowed : I.Ask → Prop} {fits : σ → α → Prop} {p : Program I α}
    (h : Plays respond (fun _ => allowed) p fits s) {t : Talk I} (ht : ∀ turn ∈ t, allowed turn.ask) :
    ∀ turn ∈ (p.play respond t s).talk, allowed turn.ask := by
  induction p generalizing t s with
  | done a => exact ht
  | ask q next ih => exact ih _ h.2 (List.forall_mem_cons.2 ⟨h.1, ht⟩)

/-! ### Programs that may fail -/

section

variable {ok : σ → β → Prop} {fails : σ → ε → Prop}

theorem PlaysOr.mono {ok' : σ → β → Prop} {fails' : σ → ε → Prop} {x : ExceptT ε (Program I) β}
    (h : PlaysOr respond rule x ok fails s) (hok : ∀ s b, ok s b → ok' s b)
    (hfails : ∀ s e, fails s e → fails' s e) : PlaysOr respond rule x ok' fails' s := by
  refine Plays.mono h fun s r hr => ?_
  cases r with
  | ok b => exact hok s b hr
  | error e => exact hfails s e hr

theorem PlaysOr.imp {ok' : σ → β → Prop} {x : ExceptT ε (Program I) β}
    (h : PlaysOr respond rule x ok fails s) (hok : ∀ s b, ok s b → ok' s b) :
    PlaysOr respond rule x ok' fails s := h.mono hok fun _ _ he => he

@[simp] theorem playsOr_pure (b : β) :
    PlaysOr respond rule (pure b : ExceptT ε (Program I) β) ok fails s ↔ ok s b := Iff.rfl

/-- A result that is there. -/
theorem playsOr_done (r : Except ε β) :
    PlaysOr respond rule (ExceptT.mk (done r)) ok fails s ↔
      (∀ b, r = .ok b → ok s b) ∧ ∀ e, r = .error e → fails s e := by
  cases r with
  | ok b => exact ⟨fun h => ⟨fun _ hb => Except.ok.inj hb ▸ h, nofun⟩, fun h => h.1 b rfl⟩
  | error e => exact ⟨fun h => ⟨nofun, fun _ he => Except.error.inj he ▸ h⟩, fun h => h.2 e rfl⟩

@[simp] theorem playsOr_throw (e : ε) :
    PlaysOr respond rule (throw e : ExceptT ε (Program I) β) ok fails s ↔ fails s e := Iff.rfl

@[simp] theorem plays_run {fits : σ → Except ε β → Prop} (x : ExceptT ε (Program I) β) :
    Plays respond rule x.run fits s ↔
      PlaysOr respond rule x (fun s b => fits s (.ok b)) (fun s e => fits s (.error e)) s := by
  constructor <;>
  · intro h
    refine Plays.mono h fun s r hr => ?_
    cases r <;> exact hr

@[simp] theorem playsOr_bind (x : ExceptT ε (Program I) α) (f : α → ExceptT ε (Program I) β) :
    PlaysOr respond rule (x >>= f) ok fails s ↔
      PlaysOr respond rule x (fun s a => PlaysOr respond rule (f a) ok fails s) fails s := by
  rw [PlaysOr, ExceptT.run_bind, plays_bind, PlaysOr]
  constructor <;>
  · intro h
    refine Plays.mono h fun s r hr => ?_
    cases r <;> exact hr

@[simp] theorem playsOr_map (x : ExceptT ε (Program I) α) (f : α → β) :
    PlaysOr respond rule (f <$> x) ok fails s ↔
      PlaysOr respond rule x (fun s a => ok s (f a)) fails s := by
  rw [map_eq_pure_bind]
  exact playsOr_bind x _

@[simp] theorem playsOr_lift (p : Program I β) :
    PlaysOr respond rule (ExceptT.lift p) ok fails s ↔ Plays respond rule p ok s := by
  rw [PlaysOr, ExceptT.run_lift, plays_map]

@[simp] theorem playsOr_mk (p : Program I (Except ε β)) :
    PlaysOr respond rule (ExceptT.mk p) ok fails s ↔
      Plays respond rule p (fun s r => match r with
        | .ok b => ok s b
        | .error e => fails s e) s := Iff.rfl

theorem playsOr_mapError {δ : Type} {fails : σ → δ → Prop} (x : ExceptT ε (Program I) β)
    (f : ε → δ) :
    PlaysOr respond rule (ExceptT.mk do return (← x.run).mapError f) ok fails s ↔
      PlaysOr respond rule x ok (fun s e => fails s (f e)) s := by
  rw [playsOr_mk, bind_pure_comp, plays_map, plays_run]
  rfl

@[simp] theorem playsOr_ofExcept (r : Except ε β) :
    PlaysOr respond rule (MonadExcept.ofExcept r : ExceptT ε (Program I) β) ok fails s ↔
      match r with
      | .ok b => ok s b
      | .error e => fails s e := by
  cases r <;> rfl

@[simp] theorem playsOr_ite {c : Prop} [Decidable c] (x y : ExceptT ε (Program I) β) :
    PlaysOr respond rule (if c then x else y) ok fails s ↔
      (c → PlaysOr respond rule x ok fails s) ∧ (¬c → PlaysOr respond rule y ok fails s) := by
  split <;> simp_all

end

/-! ### Loops -/

/-- Tries in turn: `inv` holds between them. -/
theorem playsOr_firstUpTo {attempt : Nat → ExceptT ε (Program I) (Option α)} (inv : σ → Prop)
    {ok : σ → Option α → Prop} {fails : σ → ε → Prop} (hnone : ∀ s, inv s → ok s none)
    (hattempt : ∀ n s, inv s → PlaysOr respond rule (attempt n)
      (fun s a => a.elim (inv s) fun a => ok s (some a)) fails s) :
    ∀ (count next : Nat) {s : σ}, inv s →
      PlaysOr respond rule (firstUpTo attempt count next) ok fails s := by
  intro count
  induction count with
  | zero => exact fun _ s hs => hnone s hs
  | succ count ih =>
    intro next s hs
    rw [firstUpTo, playsOr_bind]
    refine (hattempt next s hs).imp fun s a ha => ?_
    cases a with
    | none => exact ih (next + 1) ha
    | some a => exact ha

theorem playsOr_firstOf {attempt : β → ExceptT ε (Program I) (Option α)} (inv : σ → Prop)
    {ok : σ → Option α → Prop} {fails : σ → ε → Prop} (hnone : ∀ s, inv s → ok s none)
    (hattempt : ∀ b s, inv s → PlaysOr respond rule (attempt b)
      (fun s a => a.elim (inv s) fun a => ok s (some a)) fails s) :
    ∀ (bs : List β) {s : σ}, inv s → PlaysOr respond rule (firstOf attempt bs) ok fails s := by
  intro bs
  induction bs with
  | nil => exact fun hs => hnone _ hs
  | cons b bs ih =>
    intro s hs
    rw [firstOf, playsOr_bind]
    refine (hattempt b s hs).imp fun s a ha => ?_
    cases a with
    | none => exact ih ha
    | some a => exact ha

/-- Goes through numbers: `inv n` holds when those below `n` are done. -/
theorem playsOr_throughUpTo {body : Nat → γ → ExceptT ε (Program I) γ} (inv : Nat → σ → γ → Prop)
    {fails : σ → ε → Prop} (count next : Nat)
    (hbody : ∀ n c s, next ≤ n → n < next + count → inv n s c →
      PlaysOr respond rule (body n c) (inv (n + 1)) fails s) (c : γ) (hs : inv next s c) :
    PlaysOr respond rule (throughUpTo body count next c) (inv (next + count)) fails s := by
  induction count generalizing next c s with
  | zero => exact hs
  | succ count ih =>
    have hfirst := hbody next c s (Nat.le_refl _) (Nat.lt_add_of_pos_right (Nat.succ_pos _)) hs
    rw [throughUpTo, playsOr_bind]
    refine hfirst.imp fun s c hc => ?_
    have hcount : next + (count + 1) = next + 1 + count := by omega
    rw [hcount]
    refine ih (next + 1) (fun n c s hn hlt => hbody n c s ?_ ?_) c hc <;> omega

/-- Goes through numbers from the first on. -/
theorem playsOr_throughFirst {body : Nat → γ → ExceptT ε (Program I) γ} (inv : Nat → σ → γ → Prop)
    {fails : σ → ε → Prop} {count : Nat}
    (hbody : ∀ n c s, n < count → inv n s c → PlaysOr respond rule (body n c) (inv (n + 1)) fails s) (c : γ)
    (hs : inv 0 s c) : PlaysOr respond rule (throughUpTo body count 0 c) (inv count) fails s := by
  have hall := playsOr_throughUpTo inv count 0
    (fun n c s _ hn => hbody n c s (Nat.zero_add count ▸ hn)) c hs
  rwa [Nat.zero_add] at hall

/-- Goes through items: `inv bs` holds when those in `bs` are still to come. -/
theorem playsOr_through {body : β → γ → ExceptT ε (Program I) γ} (inv : List β → σ → γ → Prop)
    {fails : σ → ε → Prop}
    (hbody : ∀ b bs c s, inv (b :: bs) s c → PlaysOr respond rule (body b c) (inv bs) fails s) :
    ∀ (bs : List β) (c : γ) {s : σ}, inv bs s c →
      PlaysOr respond rule (through body bs c) (inv []) fails s := by
  intro bs
  induction bs with
  | nil => exact fun _ s hs => hs
  | cons b bs ih =>
    intro c s hs
    rw [through, playsOr_bind]
    exact (hbody b bs c s hs).imp fun s c hc => ih c hc

end ClusterKeeper.Program
