import ClusterKeeper.Program

/-!
What a program says to the world. A `Talk` is the list of the questions that were asked so far with
their answers; `Keeps` is the weakest precondition of a program over talks: whatever the answers,
every question obeys a rule that may look at the talk before it, and the result fits the talk at the
end. Programs that may fail have a condition for each of their two ends (`KeepsOr`).

    Keeps rule p fits t    p goes on from t, asks by the rule, and ends as fits says

The rules for sequencing (`keeps_bind`, `keepsOr_bind`) turn the precondition of a program into those
of its parts; a loop is done with an invariant of its own.
-/

namespace ClusterKeeper

/-- A question with its answer. -/
structure Turn (I : Interface) where
  ask : I.Ask
  answer : I.Answer ask

/-- The turns of a program so far, the latest first. -/
abbrev Talk (I : Interface) := List (Turn I)

namespace Talk

variable {I : Interface}

/-- Every question of a talk obeyed a rule when it was asked. -/
def Obeys (rule : Talk I → I.Ask → Prop) : Talk I → Prop
  | [] => True
  | e :: t => rule t e.ask ∧ Obeys rule t

theorem obeys_of_append {rule : Talk I → I.Ask → Prop} {e : Turn I} {earlier : Talk I} :
    ∀ {later : Talk I}, Obeys rule (later ++ e :: earlier) → rule earlier e.ask
  | [], h => h.1
  | _ :: _, h => obeys_of_append h.2

/-- A talk goes on from another one, by turns of some kind. -/
def Extends (fresh : Turn I → Prop) (t t' : Talk I) : Prop := ∃ said, t' = said ++ t ∧ ∀ e ∈ said, fresh e

section

variable {fresh fresh' : Turn I → Prop} {t t' t'' : Talk I}

@[simp] theorem extends_refl : Extends fresh t t := ⟨[], rfl, fun _ he => nomatch he⟩

theorem Extends.cons {e : Turn I} (h : Extends fresh t t') (he : fresh e) : Extends fresh t (e :: t') := by
  obtain ⟨said, rfl, hsaid⟩ := h
  exact ⟨e :: said, rfl, List.forall_mem_cons.2 ⟨he, hsaid⟩⟩

theorem Extends.trans (h : Extends fresh t t') (h' : Extends fresh t' t'') : Extends fresh t t'' := by
  obtain ⟨said, rfl, hsaid⟩ := h
  obtain ⟨said', rfl, hsaid'⟩ := h'
  exact ⟨said' ++ said, by simp, List.forall_mem_append.2 ⟨hsaid', hsaid⟩⟩

theorem Extends.imp (h : Extends fresh t t') (himp : ∀ e, fresh e → fresh' e) : Extends fresh' t t' := by
  obtain ⟨said, rfl, hsaid⟩ := h
  exact ⟨said, rfl, fun e he => himp e (hsaid e he)⟩

theorem Extends.suffix (h : Extends fresh t t') : t <:+ t' := by
  obtain ⟨said, rfl, _⟩ := h
  exact List.suffix_append said t

/-- What holds of a talk and is kept by each turn holds when it has gone on. -/
theorem Extends.ind (inv : Talk I → Prop) (h : Extends fresh t t') (ht : inv t)
    (hinv : ∀ t e, fresh e → inv t → inv (e :: t)) : inv t' := by
  obtain ⟨said, rfl, hsaid⟩ := h
  induction said with
  | nil => exact ht
  | cons e said ih =>
    obtain ⟨he, hsaid⟩ := List.forall_mem_cons.1 hsaid
    exact hinv _ e he (ih hsaid)

end

end Talk

namespace Program

variable {I : Interface} {α β ε σ : Type} {rule : Talk I → I.Ask → Prop} {t : Talk I}

/-- Whatever the answers, the questions of a program obey the rule and its result fits. -/
def Keeps (rule : Talk I → I.Ask → Prop) (p : Program I α) (fits : Talk I → α → Prop)
    (t : Talk I) : Prop :=
  match p with
  | done a => fits t a
  | ask q next => rule t q ∧ ∀ a, (next a).Keeps rule fits (⟨q, a⟩ :: t)

/-- The same of a program that may fail, with a condition on its failure. -/
def KeepsOr (rule : Talk I → I.Ask → Prop) (x : ExceptT ε (Program I) α)
    (ok : Talk I → α → Prop) (fails : Talk I → ε → Prop) (t : Talk I) : Prop :=
  Keeps rule x.run
    (fun t r => match r with
      | .ok a => ok t a
      | .error e => fails t e) t

/-- All questions of a program are of some kind, whatever was said before. -/
def Only (kind : I.Ask → Prop) (p : Program I α) : Prop :=
  ∀ t, Keeps (fun _ q => kind q) p (fun _ _ => True) t

/-! ### Programs that cannot fail -/

section

variable {fits : Talk I → β → Prop}

@[simp] theorem keeps_pure (b : β) : Keeps rule (pure b) fits t ↔ fits t b := Iff.rfl

@[simp] theorem keeps_bind (p : Program I α) (f : α → Program I β) :
    Keeps rule (p >>= f) fits t ↔ Keeps rule p (fun t a => Keeps rule (f a) fits t) t := by
  show Keeps rule (p.bind f) fits t ↔ _
  induction p generalizing t with
  | done a => rfl
  | ask q next ih => exact and_congr_right fun _ => forall_congr' fun a => ih a

@[simp] theorem keeps_map (p : Program I α) (f : α → β) :
    Keeps rule (f <$> p) fits t ↔ Keeps rule p (fun t a => fits t (f a)) t :=
  keeps_bind p fun a => done (f a)

@[simp] theorem keeps_ite {c : Prop} [Decidable c] (p q : Program I β) :
    Keeps rule (if c then p else q) fits t ↔
      (c → Keeps rule p fits t) ∧ (¬c → Keeps rule q fits t) := by
  split <;> simp_all

end

theorem Keeps.mono {fits fits' : Talk I → α → Prop} {p : Program I α} (h : Keeps rule p fits t)
    (hfits : ∀ t a, fits t a → fits' t a) : Keeps rule p fits' t := by
  induction p generalizing t with
  | done a => exact hfits t a h
  | ask q next ih => exact ⟨h.1, fun a => ih a (h.2 a)⟩

/-- What was said stays said. -/
theorem Keeps.suffix {fits : Talk I → α → Prop} {p : Program I α} (h : Keeps rule p fits t) :
    Keeps rule p (fun t' a => t <:+ t' ∧ fits t' a) t := by
  induction p generalizing t with
  | done a => exact ⟨List.suffix_rfl, h⟩
  | ask q next ih =>
    refine ⟨h.1, fun a => (ih a (h.2 a)).mono fun t' b hb => ⟨?_, hb.2⟩⟩
    exact (List.suffix_cons ⟨q, a⟩ t).trans hb.1

/-- Every program keeps to no rule. -/
theorem keeps_of_forall {fits : Talk I → α → Prop} (p : Program I α) (h : ∀ t a, fits t a) :
    Keeps (fun _ _ => True) p fits t := by
  induction p generalizing t with
  | done a => exact h t a
  | ask q next ih => exact ⟨trivial, fun a => ih a⟩

/-- A program that keeps to two rules keeps to both at once. -/
theorem Keeps.and {rule' : Talk I → I.Ask → Prop} {fits fits' : Talk I → α → Prop} {p : Program I α}
    (h : Keeps rule p fits t) (h' : Keeps rule' p fits' t) :
    Keeps (fun t q => rule t q ∧ rule' t q) p (fun t a => fits t a ∧ fits' t a) t := by
  induction p generalizing t with
  | done a => exact ⟨h, h'⟩
  | ask q next ih => exact ⟨⟨h.1, h'.1⟩, fun a => ih a (h.2 a) (h'.2 a)⟩

/-- A rule may be relaxed. -/
theorem Keeps.relax {rule' : Talk I → I.Ask → Prop} {fits : Talk I → α → Prop} {p : Program I α}
    (h : Keeps rule p fits t) (hrule : ∀ t q, rule t q → rule' t q) : Keeps rule' p fits t := by
  induction p generalizing t with
  | done a => exact h
  | ask q next ih => exact ⟨hrule t q h.1, fun a => ih a (h.2 a)⟩

/-- A program that asks only questions of some kind keeps what such questions keep. -/
theorem Only.keeps {kind : I.Ask → Prop} {inv : Talk I → Prop} {p : Program I α}
    (h : p.Only kind) (hrule : ∀ t q, inv t → kind q → rule t q)
    (hinv : ∀ t q a, inv t → kind q → inv (⟨q, a⟩ :: t)) (ht : inv t) :
    Keeps rule p (fun t _ => inv t) t := by
  have hp := h t
  clear h
  induction p generalizing t with
  | done a => exact ht
  | ask q next ih => exact ⟨hrule t q ht hp.1, fun a => ih a (hinv t q a ht hp.1) (hp.2 a)⟩

/-- Nothing but turns with such questions is added to the talk. -/
theorem Only.extends {kind : I.Ask → Prop} {p : Program I α} (h : p.Only kind)
    (hrule : ∀ t' q, Talk.Extends (fun e => kind e.ask) t t' → kind q → rule t' q) :
    Keeps rule p (fun t' _ => Talk.Extends (fun e => kind e.ask) t t') t :=
  h.keeps hrule (fun _ _ _ ht hq => ht.cons hq) Talk.extends_refl

theorem Only.imp {kind kind' : I.Ask → Prop} {p : Program I α} (h : p.Only kind)
    (hkind : ∀ q, kind q → kind' q) : p.Only kind' :=
  fun _ => h.keeps (fun _ q _ => hkind q) (fun _ _ _ _ _ => trivial) trivial

/-! ### Programs that may fail -/

section

variable {ok : Talk I → β → Prop} {fails : Talk I → ε → Prop}

theorem KeepsOr.mono {ok' : Talk I → β → Prop} {fails' : Talk I → ε → Prop}
    {x : ExceptT ε (Program I) β} (h : KeepsOr rule x ok fails t)
    (hok : ∀ t b, ok t b → ok' t b) (hfails : ∀ t e, fails t e → fails' t e) :
    KeepsOr rule x ok' fails' t := by
  refine Keeps.mono h fun t r hr => ?_
  cases r with
  | ok b => exact hok t b hr
  | error e => exact hfails t e hr

theorem KeepsOr.and {rule' : Talk I → I.Ask → Prop} {ok' : Talk I → β → Prop}
    {fails' : Talk I → ε → Prop} {x : ExceptT ε (Program I) β} (h : KeepsOr rule x ok fails t)
    (h' : KeepsOr rule' x ok' fails' t) :
    KeepsOr (fun t q => rule t q ∧ rule' t q) x (fun t b => ok t b ∧ ok' t b)
      (fun t e => fails t e ∧ fails' t e) t := by
  refine Keeps.mono (Keeps.and h h') fun t r hr => ?_
  cases r <;> exact hr

theorem keepsOr_of_forall (x : ExceptT ε (Program I) β) (hok : ∀ t b, ok t b) (hfails : ∀ t e, fails t e) :
    KeepsOr (fun _ _ => True) x ok fails t := by
  refine keeps_of_forall _ fun t r => ?_
  cases r
  · exact hfails _ _
  · exact hok _ _

theorem KeepsOr.relax {rule' : Talk I → I.Ask → Prop} {x : ExceptT ε (Program I) β}
    (h : KeepsOr rule x ok fails t) (hrule : ∀ t q, rule t q → rule' t q) :
    KeepsOr rule' x ok fails t := Keeps.relax h hrule

theorem KeepsOr.suffix {x : ExceptT ε (Program I) β} (h : KeepsOr rule x ok fails t) :
    KeepsOr rule x (fun t' b => t <:+ t' ∧ ok t' b) (fun t' e => t <:+ t' ∧ fails t' e) t := by
  refine Keeps.mono (Keeps.suffix h) fun t' r hr => ?_
  cases r <;> exact hr

@[simp] theorem keepsOr_pure (b : β) :
    KeepsOr rule (pure b : ExceptT ε (Program I) β) ok fails t ↔ ok t b := Iff.rfl

@[simp] theorem keepsOr_throw (e : ε) :
    KeepsOr rule (throw e : ExceptT ε (Program I) β) ok fails t ↔ fails t e := Iff.rfl

@[simp] theorem keeps_run {fits : Talk I → Except ε β → Prop} (x : ExceptT ε (Program I) β) :
    Keeps rule x.run fits t ↔
      KeepsOr rule x (fun t b => fits t (.ok b)) (fun t e => fits t (.error e)) t := by
  constructor <;>
  · intro h
    refine Keeps.mono h fun t r hr => ?_
    cases r <;> exact hr

@[simp] theorem keepsOr_bind (x : ExceptT ε (Program I) α) (f : α → ExceptT ε (Program I) β) :
    KeepsOr rule (x >>= f) ok fails t ↔
      KeepsOr rule x (fun t a => KeepsOr rule (f a) ok fails t) fails t := by
  rw [KeepsOr, ExceptT.run_bind, keeps_bind, KeepsOr]
  constructor <;>
  · intro h
    refine Keeps.mono h fun t r hr => ?_
    cases r <;> exact hr

@[simp] theorem keepsOr_map (x : ExceptT ε (Program I) α) (f : α → β) :
    KeepsOr rule (f <$> x) ok fails t ↔ KeepsOr rule x (fun t a => ok t (f a)) fails t := by
  rw [map_eq_pure_bind]
  exact keepsOr_bind x _

@[simp] theorem keepsOr_lift (p : Program I β) :
    KeepsOr rule (ExceptT.lift p) ok fails t ↔ Keeps rule p ok t := by
  rw [KeepsOr, ExceptT.run_lift, keeps_map]

@[simp] theorem keepsOr_mk (p : Program I (Except ε β)) :
    KeepsOr rule (ExceptT.mk p) ok fails t ↔
      Keeps rule p (fun t r => match r with
        | .ok b => ok t b
        | .error e => fails t e) t := Iff.rfl

theorem keepsOr_mapError {δ : Type} {fails : Talk I → δ → Prop} (x : ExceptT ε (Program I) β)
    (f : ε → δ) :
    KeepsOr rule (ExceptT.mk do return (← x.run).mapError f) ok fails t ↔
      KeepsOr rule x ok (fun t e => fails t (f e)) t := by
  rw [keepsOr_mk, bind_pure_comp, keeps_map, keeps_run]
  rfl

@[simp] theorem keepsOr_ofExcept (r : Except ε β) :
    KeepsOr rule (MonadExcept.ofExcept r : ExceptT ε (Program I) β) ok fails t ↔
      match r with
      | .ok b => ok t b
      | .error e => fails t e := by
  cases r <;> rfl

@[simp] theorem keepsOr_ite {c : Prop} [Decidable c] (x y : ExceptT ε (Program I) β) :
    KeepsOr rule (if c then x else y) ok fails t ↔
      (c → KeepsOr rule x ok fails t) ∧ (¬c → KeepsOr rule y ok fails t) := by
  split <;> simp_all

end

/-! ### Loops -/

/-- Tries in turn: `inv` holds between them. -/
theorem keepsOr_firstUpTo {attempt : Nat → ExceptT ε (Program I) (Option α)}
    {inv : Talk I → Prop} {ok : Talk I → Option α → Prop} {fails : Talk I → ε → Prop}
    (hnone : ∀ t, inv t → ok t none)
    (hattempt : ∀ n t, inv t →
      KeepsOr rule (attempt n) (fun t a => a.elim (inv t) fun a => ok t (some a)) fails t) :
    ∀ (count next : Nat) {t : Talk I}, inv t →
      KeepsOr rule (firstUpTo attempt count next) ok fails t := by
  intro count
  induction count with
  | zero => exact fun _ t ht => hnone t ht
  | succ count ih =>
    intro next t ht
    rw [firstUpTo, keepsOr_bind]
    refine (hattempt next t ht).mono (fun t a ha => ?_) (fun _ _ he => he)
    cases a with
    | none => exact ih (next + 1) ha
    | some a => exact ha

theorem keepsOr_firstOf {attempt : β → ExceptT ε (Program I) (Option α)}
    {inv : Talk I → Prop} {ok : Talk I → Option α → Prop} {fails : Talk I → ε → Prop}
    (hnone : ∀ t, inv t → ok t none)
    (hattempt : ∀ b t, inv t →
      KeepsOr rule (attempt b) (fun t a => a.elim (inv t) fun a => ok t (some a)) fails t) :
    ∀ (bs : List β) {t : Talk I}, inv t → KeepsOr rule (firstOf attempt bs) ok fails t := by
  intro bs
  induction bs with
  | nil => exact fun ht => hnone _ ht
  | cons b bs ih =>
    intro t ht
    rw [firstOf, keepsOr_bind]
    refine (hattempt b t ht).mono (fun t a ha => ?_) (fun _ _ he => he)
    cases a with
    | none => exact ih ha
    | some a => exact ha

/-- Goes through numbers with a state: `inv n` holds when those below `n` are done. -/
theorem keepsOr_throughFrom {body : Nat → σ → ExceptT ε (Program I) σ} (inv : Nat → Talk I → σ → Prop)
    {fails : Talk I → ε → Prop} (count next : Nat)
    (hbody : ∀ n s t, n < next + count → inv n t s → KeepsOr rule (body n s) (inv (n + 1)) fails t)
    (s : σ) (ht : inv next t s) :
    KeepsOr rule (throughUpTo body count next s) (inv (next + count)) fails t := by
  induction count generalizing next s t with
  | zero => exact ht
  | succ count ih =>
    have hcount : next + (count + 1) = next + 1 + count := by omega
    rw [throughUpTo, keepsOr_bind, hcount]
    refine (hbody next s t (by omega) ht).mono (fun t s hs => ?_) fun _ _ he => he
    exact ih (next + 1) (fun n s t hn => hbody n s t (by omega)) s hs

/-- Goes through numbers with a state from the first on. -/
theorem keepsOr_throughFirst {body : Nat → σ → ExceptT ε (Program I) σ} (inv : Nat → Talk I → σ → Prop)
    {fails : Talk I → ε → Prop} (count : Nat)
    (hbody : ∀ n s t, n < count → inv n t s → KeepsOr rule (body n s) (inv (n + 1)) fails t)
    (s : σ) (ht : inv 0 t s) : KeepsOr rule (throughUpTo body count 0 s) (inv count) fails t := by
  have hall := keepsOr_throughFrom inv count 0 (fun n s t hn => hbody n s t (Nat.zero_add count ▸ hn)) s ht
  rwa [Nat.zero_add] at hall

/-- Goes through numbers with a state: `inv` holds before each of them. -/
theorem keepsOr_throughUpTo {body : Nat → σ → ExceptT ε (Program I) σ}
    {inv : Talk I → σ → Prop} {fails : Talk I → ε → Prop}
    (hbody : ∀ n s t, inv t s → KeepsOr rule (body n s) inv fails t)
    (count next : Nat) (s : σ) {t : Talk I} (ht : inv t s) :
    KeepsOr rule (throughUpTo body count next s) inv fails t :=
  keepsOr_throughFrom (fun _ => inv) count next (fun n s t _ => hbody n s t) s ht

/-- Goes through items with a state: `inv bs` holds when those of `bs` are still to come. -/
theorem keepsOr_throughItems {body : β → σ → ExceptT ε (Program I) σ}
    (inv : List β → Talk I → σ → Prop) {fails : Talk I → ε → Prop}
    (hbody : ∀ b bs s t, inv (b :: bs) t s → KeepsOr rule (body b s) (inv bs) fails t) :
    ∀ (bs : List β) (s : σ) {t : Talk I}, inv bs t s →
      KeepsOr rule (through body bs s) (inv []) fails t := by
  intro bs
  induction bs with
  | nil => exact fun _ t ht => ht
  | cons b bs ih =>
    intro s t ht
    rw [through, keepsOr_bind]
    exact (hbody b bs s t ht).mono (fun t s hs => ih s hs) (fun _ _ he => he)

theorem keepsOr_through {body : β → σ → ExceptT ε (Program I) σ}
    {inv : Talk I → σ → Prop} {fails : Talk I → ε → Prop}
    (hbody : ∀ b s t, inv t s → KeepsOr rule (body b s) inv fails t)
    (bs : List β) (s : σ) {t : Talk I} (ht : inv t s) : KeepsOr rule (through body bs s) inv fails t :=
  keepsOr_throughItems (fun _ => inv) (fun b _ s t => hbody b s t) bs s ht

end Program

end ClusterKeeper
