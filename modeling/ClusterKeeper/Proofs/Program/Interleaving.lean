import ClusterKeeper.Proofs.Program.Talk
import Mathlib.Logic.Relation

/-!
Many programs at once. Programs share a world with a state, ask it one question at a time and in any
order, and others may change the state in between; new programs may start at any time, and any of them
may never go on.

What holds of all this is shown by an `Invariant`: a condition on the state, and for each program a
condition that ties its talk to the state. One exchange may use that its question obeys the rule of the
programs, and has to keep the ties of all the other talks. Main statement: an invariant holds in every
system that can be reached (`Invariant.sound_of_reaches`).
-/

namespace ClusterKeeper

/-- A world with states: how it may answer a question, which may change the state, and how others may
change the state. -/
structure Environment (I : Interface) (σ : Type) where
  reply : σ → (q : I.Ask) → I.Answer q → σ → Prop
  drift : σ → σ → Prop

/-- A program that has started, with its turns. -/
structure Running (I : Interface) (α : Type) where
  talk : Talk I
  rest : Program I α

/-- A state of the world with the programs that have started. -/
structure System (I : Interface) (σ α : Type) where
  state : σ
  running : List (Running I α)

namespace Program

variable {I : Interface} {α : Type}

/-- The turns of a program after some others, when a function answers its questions. -/
def hear (answer : (q : I.Ask) → I.Answer q) : Program I α → Talk I → Talk I
  | done _, t => t
  | ask q next, t => (next (answer q)).hear answer (⟨q, answer q⟩ :: t)

theorem forall_mem_hear {answer : (q : I.Ask) → I.Answer q} {holds : Turn I → Prop}
    (h : ∀ q, holds ⟨q, answer q⟩) (p : Program I α) {t : Talk I} (ht : ∀ e ∈ t, holds e) :
    ∀ e ∈ p.hear answer t, holds e := by
  induction p generalizing t with
  | done a => exact ht
  | ask q next ih => exact ih (answer q) (List.forall_mem_cons.2 ⟨h q, ht⟩)

/-- What was said stays said. -/
theorem suffix_hear (answer : (q : I.Ask) → I.Answer q) (p : Program I α) (t : Talk I) :
    t <:+ p.hear answer t := by
  induction p generalizing t with
  | done a => exact List.suffix_rfl
  | ask q next ih => exact (List.suffix_cons _ t).trans (ih (answer q) _)

end Program

namespace System

variable {I : Interface} {σ α : Type}

/-- One program starts, one program makes an exchange, or others change the state. -/
inductive Step (E : Environment I σ) (starts : Program I α → Prop) : System I σ α → System I σ α → Prop
  | start {s rs p} : starts p → Step E starts ⟨s, rs⟩ ⟨s, ⟨[], p⟩ :: rs⟩
  | exchange {s s' before after t q next a} : E.reply s q a s' →
      Step E starts ⟨s, before ++ ⟨t, .ask q next⟩ :: after⟩
        ⟨s', before ++ ⟨⟨q, a⟩ :: t, next a⟩ :: after⟩
  | drift {s s' rs} : E.drift s s' → Step E starts ⟨s, rs⟩ ⟨s', rs⟩

/-- Any number of steps. -/
def Reaches (E : Environment I σ) (starts : Program I α → Prop) :
    System I σ α → System I σ α → Prop :=
  Relation.ReflTransGen (Step E starts)

/-- A program runs to its end when the state may answer its questions and stay as it is. -/
theorem exists_reaches_hear {E : Environment I σ} {starts : Program I α → Prop} {s : σ}
    {answer : (q : I.Ask) → I.Answer q} (h : ∀ q, E.reply s q (answer q) s)
    (p : Program I α) (t : Talk I) (rs : List (Running I α)) :
    ∃ a, Reaches E starts ⟨s, ⟨t, p⟩ :: rs⟩ ⟨s, ⟨p.hear answer t, .done a⟩ :: rs⟩ := by
  induction p generalizing t with
  | done a => exact ⟨a, .refl⟩
  | ask q next ih =>
    obtain ⟨a, hreach⟩ := ih (answer q) (⟨q, answer q⟩ :: t)
    have hstep : Step E starts ⟨s, [] ++ ⟨t, .ask q next⟩ :: rs⟩
        ⟨s, [] ++ ⟨⟨q, answer q⟩ :: t, next (answer q)⟩ :: rs⟩ := .exchange (h q)
    exact ⟨a, .head hstep hreach⟩

/-- A program runs up to the first question of some kind when the state may answer all others and stay as
it is. -/
theorem exists_reaches_ask {E : Environment I σ} {starts : Program I α → Prop} {s : σ}
    {answer : (q : I.Ask) → I.Answer q} {stops : I.Ask → Prop}
    (h : ∀ q, ¬stops q → E.reply s q (answer q) s) (p : Program I α) {t : Talk I}
    (ht : ∀ e ∈ t, ¬stops e.ask) (rs : List (Running I α)) (hstops : ∃ e ∈ p.hear answer t, stops e.ask) :
    ∃ earlier q next, stops q ∧ ⟨q, answer q⟩ :: earlier <:+ p.hear answer t ∧
      Reaches E starts ⟨s, ⟨t, p⟩ :: rs⟩ ⟨s, ⟨earlier, .ask q next⟩ :: rs⟩ := by
  induction p generalizing t with
  | done a =>
    obtain ⟨e, he, hstop⟩ := hstops
    exact absurd hstop (ht e he)
  | ask q next ih =>
    by_cases hq : stops q
    · exact ⟨t, q, next, hq, Program.suffix_hear answer (next (answer q)) _, .refl⟩
    · obtain ⟨earlier, q', next', hstop, hsuffix, hreach⟩ :=
        ih (answer q) (List.forall_mem_cons.2 ⟨hq, ht⟩) hstops
      have hstep : Step E starts ⟨s, [] ++ ⟨t, .ask q next⟩ :: rs⟩
          ⟨s, [] ++ ⟨⟨q, answer q⟩ :: t, next (answer q)⟩ :: rs⟩ := .exchange (h q hq)
      exact ⟨earlier, q', next', hstop, hsuffix, .head hstep hreach⟩

/-- What a condition on states, one on a state with a talk, and a rule for questions have to satisfy
to hold of everything that is reached. -/
structure Invariant (E : Environment I σ) (starts : Program I α → Prop) (rule : Talk I → I.Ask → Prop)
    (good : σ → Prop) (ties : σ → Talk I → Prop) : Prop where
  start : ∀ p, starts p → p.Keeps rule (fun _ _ => True) []
  nil : ∀ s, good s → ties s []
  reply : ∀ {s t q a s'}, good s → ties s t → rule t q → E.reply s q a s' →
    good s' ∧ ties s' (⟨q, a⟩ :: t) ∧ ∀ t', ties s t' → ties s' t'
  drift : ∀ {s s'}, good s → E.drift s s' → good s' ∧ ∀ t', ties s t' → ties s' t'

/-- The conditions hold of a system. -/
structure Sound (rule : Talk I → I.Ask → Prop) (good : σ → Prop) (ties : σ → Talk I → Prop)
    (w : System I σ α) : Prop where
  good : good w.state
  ties : ∀ r ∈ w.running, ties w.state r.talk
  obeys : ∀ r ∈ w.running, r.talk.Obeys rule
  keeps : ∀ r ∈ w.running, r.rest.Keeps rule (fun _ _ => True) r.talk

namespace Invariant

variable {E : Environment I σ} {starts : Program I α → Prop} {rule : Talk I → I.Ask → Prop}
  {good : σ → Prop} {ties : σ → Talk I → Prop} {w w' : System I σ α}

theorem sound_of_step (inv : Invariant E starts rule good ties) (h : Sound rule good ties w)
    (hstep : Step E starts w w') : Sound rule good ties w' := by
  cases hstep with
  | start hp =>
    refine ⟨h.good, ?_, ?_, ?_⟩ <;> intro r hr <;> rcases List.mem_cons.1 hr with rfl | hr
    · exact inv.nil _ h.good
    · exact h.ties r hr
    · trivial
    · exact h.obeys r hr
    · exact inv.start _ hp
    · exact h.keeps r hr
  | @exchange s s' before after t q next a hreply =>
    have hmem : (⟨t, .ask q next⟩ : Running I α) ∈ before ++ ⟨t, .ask q next⟩ :: after :=
      List.mem_append_right _ List.mem_cons_self
    have hothers : ∀ r ∈ before ++ after, r ∈ before ++ ⟨t, .ask q next⟩ :: after := fun r hr =>
      (List.mem_append.1 hr).elim (List.mem_append_left _)
        fun hr => List.mem_append_right _ (List.mem_cons_of_mem _ hr)
    obtain ⟨hrule, hnext⟩ := h.keeps _ hmem
    obtain ⟨hgood, hties, hstays⟩ := inv.reply h.good (h.ties _ hmem) hrule hreply
    -- the program that spoke, or one of the others
    have hcases : ∀ r ∈ before ++ ⟨⟨q, a⟩ :: t, next a⟩ :: after,
        r = ⟨⟨q, a⟩ :: t, next a⟩ ∨ r ∈ before ++ after := by
      intro r hr
      rcases List.mem_append.1 hr with hr | hr
      · exact Or.inr (List.mem_append_left _ hr)
      · exact (List.mem_cons.1 hr).imp_right (List.mem_append_right _)
    refine ⟨hgood, ?_, ?_, ?_⟩ <;> intro r hr <;> rcases hcases r hr with rfl | hr
    · exact hties
    · exact hstays _ (h.ties r (hothers r hr))
    · exact ⟨hrule, h.obeys _ hmem⟩
    · exact h.obeys r (hothers r hr)
    · exact hnext a
    · exact h.keeps r (hothers r hr)
  | drift hdrift =>
    obtain ⟨hgood, hstays⟩ := inv.drift h.good hdrift
    exact ⟨hgood, fun r hr => hstays _ (h.ties r hr), h.obeys, h.keeps⟩

/-- An invariant that holds of a system holds of every system that it reaches. -/
theorem sound_of_reaches (inv : Invariant E starts rule good ties) (h : Sound rule good ties w)
    (hreach : Reaches E starts w w') : Sound rule good ties w' := by
  induction hreach with
  | refl => exact h
  | tail _ hstep ih => exact inv.sound_of_step ih hstep

/-- A state alone is sound when it is good. -/
theorem sound_of_good {s : σ} (hs : good s) :
    Sound rule good ties (⟨s, []⟩ : System I σ α) :=
  ⟨hs, fun _ hr => absurd hr List.not_mem_nil, fun _ hr => absurd hr List.not_mem_nil,
    fun _ hr => absurd hr List.not_mem_nil⟩

end Invariant

end System

end ClusterKeeper
