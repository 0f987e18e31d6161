import ClusterKeeper.Proofs.Program.Course

/-!
Loops round by round. The talk of a loop over numbers falls into rounds, one after the other for each number in
order, up to the first one that halts it (`Program.Rounds`); so what is said for a number can be told from what is
said for the others, even where the questions are the same.

Many loops carry a flag only, which a round may lower and none raises again. Such a loop ends well if it took all
of its rounds and none of them lowered the flag (`Program.Rounds.length_eq_of_ok`, `Program.Rounds.flag_iff`).

Main statement: `Program.throughUpTo_rounds`.
-/

namespace ClusterKeeper

/-- A round of a loop: what was said in it, the latest turn first, and what it came to. -/
structure Round (I : Interface) (α : Type) where
  said : Talk I
  came : α

/-- What was said in rounds, the latest one first. -/
def Round.heard {I : Interface} {α : Type} (rounds : List (Round I α)) : Talk I :=
  rounds.reverse.flatMap Round.said

namespace Program

variable {I : Interface} {α ε σ : Type} {tells : Nat → Talk I → α → Prop} {judge : α → σ → Except ε σ}
  {count next : Nat} {s : σ} {rounds : List (Round I α)} {r : Except ε σ}

/-- What holds of each course of a program holds however it is answered. -/
theorem keeps_of_goes {p : Program I α} {fits : Talk I → α → Prop} {t : Talk I}
    (h : ∀ t' a, p.Goes t t' a → fits t' a) : Keeps (fun _ _ => True) p fits t := by
  have hany : Keeps (fun _ _ => True) p (fun _ _ => True) t := keeps_of_forall p fun _ _ => trivial
  exact hany.goes.mono fun t' a ha => h t' a ha.1

@[simp] theorem heard_nil : Round.heard ([] : List (Round I α)) = [] := rfl

@[simp] theorem heard_cons (v : Round I α) (rounds : List (Round I α)) :
    Round.heard (v :: rounds) = Round.heard rounds ++ v.said := by
  simp [Round.heard]

/-- The rounds of a loop for some numbers, the first one first. What a round comes to is judged by the state: the
loop goes on with another state, or it halts with an error. -/
inductive Rounds (tells : Nat → Talk I → α → Prop) (judge : α → σ → Except ε σ) :
    (count next : Nat) → σ → List (Round I α) → Except ε σ → Prop
  | done {next : Nat} {s : σ} : Rounds tells judge 0 next s [] (.ok s)
  | on {count next : Nat} {s s' : σ} {v : Round I α} {rounds : List (Round I α)} {r : Except ε σ} :
      tells next v.said v.came → judge v.came s = .ok s' → Rounds tells judge count (next + 1) s' rounds r →
      Rounds tells judge (count + 1) next s (v :: rounds) r
  | halt {count next : Nat} {s : σ} {v : Round I α} {e : ε} :
      tells next v.said v.came → judge v.came s = .error e →
      Rounds tells judge (count + 1) next s [v] (.error e)

/-- When what is said for each number is told, whatever the state, the talk of the loop falls into rounds. -/
theorem throughUpTo_rounds {body : Nat → σ → ExceptT ε (Program I) σ}
    (hbody : ∀ n s, Keeps (fun _ _ => True) (body n s).run (fun said r => ∃ a, tells n said a ∧ r = judge a s) [])
    (count next : Nat) (s : σ) (t : Talk I) :
    Keeps (fun _ _ => True) (throughUpTo body count next s).run
      (fun t' r => ∃ rounds, t' = Round.heard rounds ++ t ∧ Rounds tells judge count next s rounds r) t := by
  refine keeps_of_goes fun t' r h => ?_
  induction count generalizing next s t with
  | zero =>
    obtain ⟨rfl, rfl⟩ := h
    exact ⟨[], rfl, .done⟩
  | succ count ih =>
    rw [throughUpTo, goes_run_bind] at h
    obtain ⟨t₁, came, hround, hrest⟩ := h
    -- the round does not look at what was said before it
    obtain ⟨said, rfl, hsaid⟩ := (goes_append []).1 hround
    obtain ⟨a, htells, hcame⟩ := ((hbody next s).of_goes hsaid).1
    cases came with
    | ok s' =>
      obtain ⟨rounds, rfl, hrounds⟩ := ih (next + 1) s' _ hrest
      exact ⟨⟨said, a⟩ :: rounds, by simp, .on htells hcame.symm hrounds⟩
    | error e =>
      obtain ⟨rfl, rfl⟩ := hrest
      exact ⟨[⟨said, a⟩], by simp, .halt htells hcame.symm⟩

namespace Rounds

/-- The rounds go by the numbers in order. -/
theorem tells_of_getElem? (h : Rounds tells judge count next s rounds r) {i : Nat} {v : Round I α}
    (hv : rounds[i]? = some v) : tells (next + i) v.said v.came := by
  induction h generalizing i with
  | done => cases hv
  | on htells _ _ ih =>
    cases i with
    | zero => exact Option.some.inj hv ▸ htells
    | succ i =>
      rw [Nat.add_succ, ← Nat.succ_add]
      exact ih hv
  | halt htells _ =>
    cases i with
    | zero => exact Option.some.inj hv ▸ htells
    | succ i => cases hv

/-- A loop that does not halt takes all of its rounds. -/
theorem length_eq_of_ok (h : Rounds tells judge count next s rounds r) (hr : r.isOk = true) :
    rounds.length = count := by
  induction h with
  | done => rfl
  | on _ _ _ ih => rw [List.length_cons, ih hr]
  | halt _ _ => cases hr

/-! ### Flags -/

/-- The flag of a loop, which stays up as long as its rounds do well. -/
def flag (verdict : α → Except ε Bool) (a : α) (up : Bool) : Except ε Bool := (verdict a).map (up && ·)

section

variable {verdict : α → Except ε Bool} {up : Bool} {flagged : Except ε Bool}

/-- A round that did well leaves the flag. -/
theorem flag_of_well {a : α} (h : verdict a = .ok true) : flag verdict a up = .ok up := by
  rw [flag, h, Except.map, Bool.and_true]

/-- A round that did not lowers it. -/
theorem flag_of_not_well {a : α} (h : verdict a = .ok false) : flag verdict a up = .ok false := by
  rw [flag, h, Except.map, Bool.and_false]

theorem flag_eq_ok {a : α} {up' : Bool} :
    flag verdict a up = .ok up' ↔ ∃ well, verdict a = .ok well ∧ (up && well) = up' := by
  rw [flag]
  cases verdict a <;> simp [Except.map]

theorem flag_eq_error {a : α} {e : ε} : flag verdict a up = .error e ↔ verdict a = .error e := by
  rw [flag]
  cases verdict a <;> simp [Except.map]

/-- At the end the flag is up if it was before and all rounds did well. -/
theorem flag_iff (h : Rounds tells (flag verdict) count next up rounds flagged) {up' : Bool}
    (hflagged : flagged = .ok up') :
    (∀ v ∈ rounds, ∃ well, verdict v.came = .ok well) ∧
      (up' = true ↔ up = true ∧ ∀ v ∈ rounds, verdict v.came = .ok true) := by
  induction h with
  | done =>
    obtain rfl := Except.ok.inj hflagged
    simp
  | @on _ _ up₁ up₂ v rounds _ _ hjudged _ ih =>
    obtain ⟨well, hwell, rfl⟩ := flag_eq_ok.1 hjudged
    obtain ⟨hall, hup⟩ := ih hflagged
    refine ⟨List.forall_mem_cons.2 ⟨⟨well, hwell⟩, hall⟩, ?_⟩
    rw [hup, List.forall_mem_cons, hwell]
    simp [and_assoc]
  | halt _ _ => cases hflagged

/-- A loop that halts took rounds that did well or not, and then the one that halted it. -/
theorem exists_last (h : Rounds tells (flag verdict) count next up rounds flagged) {e : ε}
    (hflagged : flagged = .error e) :
    ∃ earlier last, rounds = earlier ++ [last] ∧ earlier.length < count ∧ verdict last.came = .error e ∧
      ∀ v ∈ earlier, ∃ well, verdict v.came = .ok well := by
  induction h with
  | done => cases hflagged
  | @on _ _ _ _ v _ _ _ hjudged _ ih =>
    obtain ⟨earlier, last, rfl, hlt, hlast, hall⟩ := ih hflagged
    obtain ⟨well, hwell, _⟩ := flag_eq_ok.1 hjudged
    exact ⟨v :: earlier, last, rfl, Nat.succ_lt_succ hlt, hlast, List.forall_mem_cons.2 ⟨⟨well, hwell⟩, hall⟩⟩
  | @halt _ _ _ v e' _ hjudged =>
    obtain rfl := Except.error.inj hflagged
    exact ⟨[], v, rfl, Nat.succ_pos _, flag_eq_error.1 hjudged, fun _ hv => nomatch hv⟩

end

end Rounds

end Program

end ClusterKeeper
