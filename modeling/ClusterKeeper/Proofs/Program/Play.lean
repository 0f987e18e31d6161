import ClusterKeeper.Proofs.Program.Interleaving

/-!
Programs in a world that answers in one way only. `play` runs a program against a state that answers its
questions and changes as they are asked; what it gives is the result, the turns and the state at the end.
-/

namespace ClusterKeeper

/-- What is left of a program that was run: its result, its turns and the state of the world. -/
structure Played (I : Interface) (σ α : Type) where
  result : α
  talk : Talk I
  state : σ

namespace Program

variable {I : Interface} {σ α : Type}

/-- Runs a program in a world, after some turns. -/
def play (respond : σ → (q : I.Ask) → I.Answer q × σ) : Program I α → Talk I → σ → Played I σ α
  | done a, t, s => ⟨a, t, s⟩
  | ask q next, t, s =>
    (next (respond s q).1).play respond (⟨q, (respond s q).1⟩ :: t) (respond s q).2

theorem play_bind {β : Type} {respond : σ → (q : I.Ask) → I.Answer q × σ} (p : Program I α)
    (f : α → Program I β) (t : Talk I) (s : σ) :
    (p >>= f).play respond t s =
      (f (p.play respond t s).result).play respond (p.play respond t s).talk (p.play respond t s).state := by
  show (p.bind f).play respond t s = _
  induction p generalizing t s with
  | done a => rfl
  | ask q next ih => exact ih _ _ _

end Program

/-- A program runs to its end in a system whose world may answer it, as long as nobody else does
anything. -/
theorem System.exists_reaches_play {I : Interface} {σ α : Type} {E : Environment I σ}
    {starts : Program I α → Prop} {respond : σ → (q : I.Ask) → I.Answer q × σ} {inv : σ → Prop}
    (h : ∀ s q, inv s → E.reply s q (respond s q).1 (respond s q).2 ∧ inv (respond s q).2)
    (p : Program I α) (t : Talk I) (rs : List (Running I α)) {s : σ} (hs : inv s) :
    inv (p.play respond t s).state ∧
      Reaches E starts ⟨s, ⟨t, p⟩ :: rs⟩
        ⟨(p.play respond t s).state,
          ⟨(p.play respond t s).talk, .done (p.play respond t s).result⟩ :: rs⟩ := by
  induction p generalizing t s with
  | done a => exact ⟨hs, .refl⟩
  | ask q next ih =>
    obtain ⟨hreply, hnext⟩ := h s q hs
    obtain ⟨hinv, hreach⟩ := ih (respond s q).1 (⟨q, (respond s q).1⟩ :: t) hnext
    have hstep : Step E starts ⟨s, [] ++ ⟨t, .ask q next⟩ :: rs⟩
        ⟨(respond s q).2, [] ++ ⟨⟨q, (respond s q).1⟩ :: t, next (respond s q).1⟩ :: rs⟩ :=
      .exchange hreply
    exact ⟨hinv, .head hstep hreach⟩

end ClusterKeeper
