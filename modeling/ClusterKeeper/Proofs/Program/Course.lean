import ClusterKeeper.Proofs.Program.Interleaving
import Mathlib.Data.List.Forall2

/-!
The course of a program. `Goes` says that with some answers a program goes on from one talk to another
and ends with a result. A program takes one course for every way in which it may be answered, and what
it does is told by taking its courses apart (`goes_bind`).
-/

namespace ClusterKeeper.Program

variable {I : Interface} {α β ε : Type} {t t' : Talk I}

/-- With some answers a program goes on from one talk to another and ends with a result. -/
def Goes (p : Program I α) (t t' : Talk I) (r : α) : Prop :=
  match p with
  | done a => t' = t ∧ r = a
  | ask q next => ∃ answer, (next answer).Goes (⟨q, answer⟩ :: t) t' r

@[simp] theorem goes_pure {a r : α} : Goes (pure a : Program I α) t t' r ↔ t' = t ∧ r = a := Iff.rfl

@[simp] theorem goes_question {q : I.Ask} {r : I.Answer q} :
    (question q).Goes t t' r ↔ t' = ⟨q, r⟩ :: t := by
  refine ⟨fun ⟨answer, ht, hr⟩ => hr ▸ ht, fun ht => ⟨r, ht, rfl⟩⟩

theorem goes_bind {p : Program I α} {f : α → Program I β} {r : β} :
    (p >>= f).Goes t t' r ↔ ∃ t₁ a, p.Goes t t₁ a ∧ (f a).Goes t₁ t' r := by
  show (p.bind f).Goes t t' r ↔ _
  induction p generalizing t with
  | done a =>
    refine ⟨fun h => ⟨t, a, ⟨rfl, rfl⟩, h⟩, ?_⟩
    rintro ⟨_, _, ⟨rfl, rfl⟩, h⟩
    exact h
  | ask q next ih =>
    constructor
    · rintro ⟨answer, h⟩
      obtain ⟨t₁, a, hp, hf⟩ := (ih answer).1 h
      exact ⟨t₁, a, ⟨answer, hp⟩, hf⟩
    · rintro ⟨t₁, a, ⟨answer, hp⟩, hf⟩
      exact ⟨answer, (ih answer).2 ⟨t₁, a, hp, hf⟩⟩

/-- What was said stays said. -/
theorem Goes.suffix {p : Program I α} {r : α} (h : p.Goes t t' r) : t <:+ t' := by
  induction p generalizing t with
  | done a => exact h.1 ▸ List.suffix_rfl
  | ask q next ih =>
    obtain ⟨answer, h⟩ := h
    exact (List.suffix_cons _ t).trans (ih answer h)

/-- A program does not look at what was said before. -/
theorem goes_append {p : Program I α} (said : Talk I) {r : α} :
    p.Goes (said ++ t) t' r ↔ ∃ said', t' = said' ++ t ∧ p.Goes said said' r := by
  induction p generalizing said with
  | done a =>
    constructor
    · rintro ⟨rfl, rfl⟩
      exact ⟨said, rfl, rfl, rfl⟩
    · rintro ⟨_, rfl, rfl, rfl⟩
      exact ⟨rfl, rfl⟩
  | ask q next ih =>
    constructor
    · rintro ⟨answer, h⟩
      obtain ⟨said', ht', hsaid⟩ := (ih answer (⟨q, answer⟩ :: said)).1 h
      exact ⟨said', ht', answer, hsaid⟩
    · rintro ⟨said', rfl, answer, h⟩
      exact ⟨answer, (ih answer (⟨q, answer⟩ :: said)).2 ⟨said', rfl, h⟩⟩

/-- What was said tells which course was taken. -/
theorem Goes.eq_of_suffix {p : Program I α} {t₁ t₂ : Talk I} {a b : α} (h₁ : p.Goes t t₁ a)
    (h₂ : p.Goes t t₂ b) (hs₁ : t₁ <:+ t') (hs₂ : t₂ <:+ t') : t₁ = t₂ ∧ a = b := by
  induction p generalizing t with
  | done c =>
    obtain ⟨rfl, rfl⟩ := h₁
    obtain ⟨rfl, rfl⟩ := h₂
    exact ⟨rfl, rfl⟩
  | ask q next ih =>
    obtain ⟨x, h₁⟩ := h₁
    obtain ⟨y, h₂⟩ := h₂
    have hx : ⟨q, x⟩ :: t <:+ t' := h₁.suffix.trans hs₁
    have hy : ⟨q, y⟩ :: t <:+ t' := h₂.suffix.trans hs₂
    have hsame : (⟨q, x⟩ : Turn I) :: t = ⟨q, y⟩ :: t :=
      (List.suffix_of_suffix_length_le hx hy (by simp)).eq_of_length (by simp)
    obtain rfl : x = y := by simpa using hsame
    exact ih x h₁ h₂

/-- A function that answers all questions tells one course. -/
theorem goes_hear (answer : (q : I.Ask) → I.Answer q) (p : Program I α) (t : Talk I) :
    p.Goes t (p.hear answer t) (p.run (m := Id) answer) := by
  induction p generalizing t with
  | done a => exact ⟨rfl, rfl⟩
  | ask q next ih => exact ⟨answer q, ih (answer q) _⟩

/-- All turns are answered by the function. -/
theorem answer_of_mem_hear {answer : (q : I.Ask) → I.Answer q} {p : Program I α} {e : Turn I}
    (he : e ∈ p.hear answer []) : e.answer = answer e.ask := by
  have hall : ∀ e ∈ p.hear answer [], e.answer = answer e.ask :=
    forall_mem_hear (fun _ => rfl) p (List.forall_mem_nil _)
  exact hall e he

theorem hear_bind (answer : (q : I.Ask) → I.Answer q) (p : Program I α) (f : α → Program I β) (t : Talk I) :
    (p >>= f).hear answer t = (f (p.run (m := Id) answer)).hear answer (p.hear answer t) := by
  show (p.bind f).hear answer t = _
  induction p generalizing t with
  | done a => rfl
  | ask q next ih => exact ih (answer q) _

/-! ### Programs over another interface -/

/-- Questions that are answered by programs over another interface may be answered in one go. -/
theorem run_run {J : Interface} {m : Type → Type} [Monad m] [LawfulMonad m]
    (answer : (q : I.Ask) → Program J (I.Answer q)) (answer' : (q : J.Ask) → m (J.Answer q)) (p : Program I α) :
    (p.run answer).run answer' = p.run fun q => (answer q).run answer' := by
  induction p with
  | done a => rfl
  | ask q next ih =>
    rw [run, run]
    show (bind _ _).run answer' = _
    rw [run_bind]
    exact bind_congr fun a => ih a

/-- When each question of a program is answered by one question over another interface, the courses over that
interface are courses of the program, turn by turn. -/
theorem Goes.carried {J : Interface} {answer : (q : I.Ask) → Program J (I.Answer q)}
    {carries : Turn I → Turn J → Prop}
    (hanswer : ∀ {q w w' a}, (answer q).Goes w w' a → ∃ e, w' = e :: w ∧ carries ⟨q, a⟩ e)
    {p : Program I α} {w w' : Talk J} {r : α} (h : (p.run answer).Goes w w' r) (t : Talk I) :
    ∃ said wired, w' = wired ++ w ∧ List.Forall₂ carries said wired ∧ p.Goes t (said ++ t) r := by
  induction p generalizing w t with
  | done a =>
    obtain ⟨rfl, rfl⟩ := h
    exact ⟨[], [], rfl, .nil, rfl, rfl⟩
  | ask q next ih =>
    rw [run, goes_bind] at h
    obtain ⟨w₁, a, hasked, h⟩ := h
    obtain ⟨e, rfl, he⟩ := hanswer hasked
    obtain ⟨said, wired, rfl, hcarried, hgoes⟩ := ih a h (⟨q, a⟩ :: t)
    refine ⟨said ++ [⟨q, a⟩], wired ++ [e], by simp, List.rel_append hcarried (.cons he .nil), a, ?_⟩
    rwa [List.append_assoc, List.singleton_append]

/-- Each item of a list has its partner in the other one. -/
theorem exists_of_forall₂ {γ : Type} {R : β → γ → Prop} {bs : List β} {cs : List γ} (h : List.Forall₂ R bs cs)
    {b : β} (hb : b ∈ bs) : ∃ c ∈ cs, R b c := by
  induction h with
  | nil => cases hb
  | cons hpair _ ih =>
    obtain rfl | hb := List.mem_cons.1 hb
    · exact ⟨_, List.mem_cons_self, hpair⟩
    · obtain ⟨c, hc, hpair⟩ := ih hb
      exact ⟨c, List.mem_cons_of_mem _ hc, hpair⟩

/-! ### Programs that may fail -/

section

variable {r : Except ε β}

theorem goes_run_bind {x : ExceptT ε (Program I) α} {f : α → ExceptT ε (Program I) β} :
    (x >>= f).run.Goes t t' r ↔ ∃ t₁ a, x.run.Goes t t₁ a ∧
      match a with
      | .ok a => (f a).run.Goes t₁ t' r
      | .error e => t' = t₁ ∧ r = .error e := by
  rw [ExceptT.run_bind, goes_bind]
  refine exists_congr fun t₁ => exists_congr fun a => and_congr_right fun _ => ?_
  cases a <;> exact Iff.rfl

@[simp] theorem goes_run_ofExcept {a : Except ε β} :
    (MonadExcept.ofExcept a : ExceptT ε (Program I) β).run.Goes t t' r ↔ t' = t ∧ r = a := by
  cases a <;> exact Iff.rfl

theorem Goes.run_bind {x : ExceptT ε (Program I) α} {f : α → ExceptT ε (Program I) β} {t₁ : Talk I} {a : α}
    (hx : x.run.Goes t t₁ (.ok a)) (hf : (f a).run.Goes t₁ t' r) : (x >>= f).run.Goes t t' r :=
  goes_run_bind.2 ⟨t₁, .ok a, hx, hf⟩

theorem Goes.run_lift {p : Program I β} {b : β} (h : p.Goes t t' b) :
    (ExceptT.lift p : ExceptT ε (Program I) β).run.Goes t t' (.ok b) := by
  rw [ExceptT.run_lift, map_eq_pure_bind, goes_bind]
  exact ⟨t', b, h, rfl, rfl⟩

end

/-! ### Rules along a course -/

section

variable {rule : Talk I → I.Ask → Prop} {fits : Talk I → α → Prop}

/-- Whatever holds of all courses holds of each. -/
theorem Keeps.of_goes {p : Program I α} {r : α} (h : Keeps rule p fits t) (hgoes : p.Goes t t' r) :
    fits t' r ∧ (t.Obeys rule → t'.Obeys rule) := by
  induction p generalizing t with
  | done a =>
    obtain ⟨rfl, rfl⟩ := hgoes
    exact ⟨h, id⟩
  | ask q next ih =>
    obtain ⟨answer, hgoes⟩ := hgoes
    obtain ⟨hfits, hobeys⟩ := ih answer (h.2 answer) hgoes
    exact ⟨hfits, fun ht => hobeys ⟨h.1, ht⟩⟩

/-- Nothing but turns with such questions is added along a course. -/
theorem Only.extends_of_goes {kind : I.Ask → Prop} {p : Program I α} {r : α} (h : p.Only kind)
    (hgoes : p.Goes t t' r) : Talk.Extends (fun e => kind e.ask) t t' := by
  have hfree : Keeps (fun _ _ => True) p (fun t' _ => Talk.Extends (fun e => kind e.ask) t t') t :=
    h.extends fun _ _ _ _ => trivial
  exact (hfree.of_goes hgoes).1

/-- A program that keeps to a rule takes one of its courses. -/
theorem Keeps.goes {p : Program I α} (h : Keeps rule p fits t) :
    Keeps rule p (fun t' r => p.Goes t t' r ∧ fits t' r) t := by
  induction p generalizing t with
  | done a => exact ⟨⟨rfl, rfl⟩, h⟩
  | ask q next ih =>
    refine ⟨h.1, fun a => (ih a (h.2 a)).mono fun t' r hr => ⟨⟨a, hr.1⟩, hr.2⟩⟩

end

end ClusterKeeper.Program
