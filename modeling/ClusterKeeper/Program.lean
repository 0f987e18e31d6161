/-!
Programs that act on the world by asking it questions. A program is either done, with a result, or
asks a question and goes on with the answer; so it can be run against any world, stopped between any
two questions, and reasoned about for all answers at once.

Main statements: programs form a lawful monad, and a run follows it (`run_bind`).
-/

namespace ClusterKeeper

/-- The questions that may be asked, and the type of each one's answers. -/
structure Interface where
  Ask : Type
  Answer : Ask → Type

/-- A program over an interface. -/
inductive Program (I : Interface) (α : Type) where
  | done (a : α)
  | ask (q : I.Ask) (next : I.Answer q → Program I α)

namespace Program

variable {I J : Interface} {α β γ ε σ : Type}

/-- Goes on with the result of a program. -/
def bind (p : Program I α) (f : α → Program I β) : Program I β :=
  match p with
  | done a => f a
  | ask q next => ask q fun answer => (next answer).bind f

instance : Monad (Program I) where
  pure := done
  bind := bind

theorem bind_done (p : Program I α) : p.bind done = p := by
  induction p with
  | done => rfl
  | ask q next ih => exact congrArg (ask q) (funext ih)

theorem bind_assoc (p : Program I α) (f : α → Program I β) (g : β → Program I γ) :
    (p.bind f).bind g = p.bind fun a => (f a).bind g := by
  induction p with
  | done => rfl
  | ask q next ih => exact congrArg (ask q) (funext ih)

instance : LawfulMonad (Program I) :=
  LawfulMonad.mk' (Program I) (fun p => bind_done p) (fun _ _ => rfl) (fun p f g => bind_assoc p f g)

/-- Asks one question. -/
def question (q : I.Ask) : Program I (I.Answer q) := ask q done

/-- Runs a program in a monad that can answer its questions. -/
def run {m : Type → Type} [Monad m] (answer : (q : I.Ask) → m (I.Answer q)) : Program I α → m α
  | done a => pure a
  | ask q next => do run answer (next (← answer q))

theorem run_bind {m : Type → Type} [Monad m] [LawfulMonad m]
    (answer : (q : I.Ask) → m (I.Answer q)) (p : Program I α) (f : α → Program I β) :
    (p.bind f).run answer = p.run answer >>= fun a => (f a).run answer := by
  induction p with
  | done => simp [bind, run]
  | ask q next ih => simp [bind, run, ih]

/-- Tries 0, 1, … up to a count in turn until one try has a result; `next` is the first number and
`count` says how many there are. -/
def firstUpTo (attempt : Nat → ExceptT ε (Program I) (Option α)) :
    (count next : Nat) → ExceptT ε (Program I) (Option α)
  | 0, _ => pure none
  | count + 1, next => do
    match ← attempt next with
    | some a => pure (some a)
    | none => firstUpTo attempt count (next + 1)

/-- Tries the items of a list in turn until one try has a result. -/
def firstOf (attempt : β → ExceptT ε (Program I) (Option α)) :
    List β → ExceptT ε (Program I) (Option α)
  | [] => pure none
  | b :: bs => do
    match ← attempt b with
    | some a => pure (some a)
    | none => firstOf attempt bs

/-- Goes through 0, 1, … up to a count with a state; `next` is the first number and `count` says how
many there are. -/
def throughUpTo (body : Nat → σ → ExceptT ε (Program I) σ) :
    (count next : Nat) → σ → ExceptT ε (Program I) σ
  | 0, _, s => pure s
  | count + 1, next, s => do throughUpTo body count (next + 1) (← body next s)

/-- Goes through the items of a list with a state. -/
def through (body : β → σ → ExceptT ε (Program I) σ) : List β → σ → ExceptT ε (Program I) σ
  | [], s => pure s
  | b :: bs, s => do through body bs (← body b s)

end Program

end ClusterKeeper
