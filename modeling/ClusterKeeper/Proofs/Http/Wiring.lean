import ClusterKeeper.Http.Live
import ClusterKeeper.Proofs.Program.Course

/-!
Passes whose instances are reached through consoles. A request to an instance is one process that runs a script,
and its result is read from what comes back. `Wiring` is what a pass asks when these processes stand in the place
of the requests, so that what a console wrote can be told from what a pass made of it.

Main statements: a live pass is a wired one whose processes are started through the API server
(`Deployment.run_eq_wired`), and every course of a wired pass is, turn by turn, a course of the pass
(`ConsoleAccess.goes_of_wired`).
-/

namespace ClusterKeeper

open Program

/-- What a pass asks of its surroundings when instances are reached through consoles. -/
inductive Wiring.Ask where
  | store (q : StoreRequest)
  | exec (e : Exec)
  | record (about : ObjectReference) (event : Event)
  | log (level : LogLevel) (message : String)

/-- What it is answered with. A process that could not be started has no reply. -/
@[reducible] def Wiring.Answer : Wiring.Ask → Type
  | .store q => Except OperatorError q.Result
  | .exec _ => Option Http.Reply
  | .record .. | .log .. => Unit

/-- The surroundings of a pass when instances are reached through consoles. -/
@[reducible] def Wiring : Interface := ⟨Wiring.Ask, Wiring.Answer⟩

/-- A script is run. -/
def Wiring.Ask.Runs (script : String) (q : Wiring.Ask) : Prop := ∃ e, q = .exec e ∧ e.script = script

namespace ConsoleAccess

variable {α : Type} {access : ConsoleAccess}

/-- Answers a request of a pass, through the console if it is one to an instance. -/
def wire (access : ConsoleAccess) : (q : Request) → Program Wiring q.Answer
  | .store q => question (I := Wiring) (.store q)
  | .admin q => q.perform.run fun e => do return access.outcome (← question (I := Wiring) (.exec e))
  | .record about event => question (I := Wiring) (.record about event)
  | .log level message => question (I := Wiring) (.log level message)

/-- A part of a pass, through consoles. -/
def wired (access : ConsoleAccess) (act : Act α) : Program Wiring α := Program.run (I := Surroundings) access.wire act

/-- What comes back of a process. -/
def reach (access : ConsoleAccess) (e : Exec) : Program ApiServer (Option Http.Reply) :=
  if e.pod.name = "" then return none
  else Http.send .get (Http.Target.text (Kind.pod.path e.pod.metadata.nsText e.pod.name ++ "/exec")
    (access.query (ConsoleCommand.ofCall e.script e.args))) none

theorem exec_eq (access : ConsoleAccess) (e : Exec) :
    access.exec e = do return access.outcome (← access.reach e) := by
  rw [exec, reach]
  split <;> rfl

/-- The turn of a pass is the one that the console shows. -/
inductive Carries (access : ConsoleAccess) : Turn Surroundings → Turn Wiring → Prop
  | store {q : StoreRequest} {a : Except OperatorError q.Result} :
      Carries access ⟨Request.store q, a⟩ ⟨Wiring.Ask.store q, a⟩
  | admin {q : AdminRequest} {reply : Option Http.Reply} :
      Carries access ⟨Request.admin q, q.outcome (access.outcome reply)⟩ ⟨Wiring.Ask.exec q.exec, reply⟩
  | record {about : ObjectReference} {event : Event} :
      Carries access ⟨Request.record about event, ()⟩ ⟨Wiring.Ask.record about event, ()⟩
  | log {level : LogLevel} {message : String} :
      Carries access ⟨Request.log level message, ()⟩ ⟨Wiring.Ask.log level message, ()⟩

theorem carries_of_goes {q : Request} {w w' : Talk Wiring} {a : q.Answer} (h : (access.wire q).Goes w w' a) :
    ∃ e, w' = e :: w ∧ access.Carries ⟨q, a⟩ e := by
  cases q with
  | store q => exact ⟨_, goes_question.1 h, .store⟩
  | admin q =>
    obtain ⟨reply, rfl, rfl⟩ := h
    exact ⟨_, rfl, .admin⟩
  | record about event => exact ⟨_, goes_question.1 h, .record⟩
  | log level message => exact ⟨_, goes_question.1 h, .log⟩

/-- The courses of a wired pass are those of the pass, turn by turn. -/
theorem goes_of_wired {act : Act α} {w : Talk Wiring} {r : α} (h : (access.wired act).Goes [] w r) :
    ∃ t, List.Forall₂ access.Carries t w ∧ act.Goes [] t r := by
  obtain ⟨t, w, rfl, hcarried, hgoes⟩ := Goes.carried carries_of_goes h []
  rw [List.append_nil] at hgoes ⊢
  exact ⟨t, hcarried, hgoes⟩

section

variable {t : Talk Surroundings} {w : Talk Wiring}

/-- The console shows every turn of the pass. -/
theorem exists_shown (h : List.Forall₂ access.Carries t w) {e : Turn Surroundings} (he : e ∈ t) :
    ∃ e' ∈ w, access.Carries e e' := exists_of_forall₂ h he

/-- Every turn that the console shows is one of the pass. -/
theorem exists_meant (h : List.Forall₂ access.Carries t w) {e' : Turn Wiring} (he' : e' ∈ w) :
    ∃ e ∈ t, access.Carries e e' := by
  have hflipped : List.Forall₂ (flip access.Carries) w t := List.Forall₂.flip h
  exact exists_of_forall₂ hflipped he'

/-- What is asked of the store is asked openly. -/
theorem store_mem_iff (h : List.Forall₂ access.Carries t w) {q : StoreRequest} {a : Except OperatorError q.Result} :
    (⟨Request.store q, a⟩ : Turn Surroundings) ∈ t ↔ (⟨Wiring.Ask.store q, a⟩ : Turn Wiring) ∈ w := by
  constructor
  · intro hturn
    obtain ⟨e, he, hcarries⟩ := exists_shown h hturn
    cases hcarries
    exact he
  · intro hturn
    obtain ⟨e, he, hcarries⟩ := exists_meant h hturn
    cases hcarries
    exact he

/-- A process stands for a request. -/
theorem exists_admin (h : List.Forall₂ access.Carries t w) {e : Exec} {reply : Option Http.Reply}
    (he : (⟨Wiring.Ask.exec e, reply⟩ : Turn Wiring) ∈ w) :
    ∃ q : AdminRequest, e = q.exec ∧
      (⟨Request.admin q, q.outcome (access.outcome reply)⟩ : Turn Surroundings) ∈ t := by
  obtain ⟨_, hturn, hcarries⟩ := exists_meant h he
  cases hcarries
  exact ⟨_, rfl, hturn⟩

/-- A request is made by a process. -/
theorem exists_exec (h : List.Forall₂ access.Carries t w) {q : AdminRequest} {a : Except AdminError q.Result}
    (hturn : (⟨Request.admin q, a⟩ : Turn Surroundings) ∈ t) :
    ∃ reply, a = q.outcome (access.outcome reply) ∧ (⟨Wiring.Ask.exec q.exec, reply⟩ : Turn Wiring) ∈ w := by
  obtain ⟨_, he, hcarries⟩ := exists_shown h hturn
  cases hcarries
  exact ⟨_, rfl, he⟩

end

end ConsoleAccess

namespace Deployment

variable {α : Type}

/-- Answers what a wired pass asks, through the API server. -/
def reach (d : Deployment) : (q : Wiring.Ask) → StateT Published (Program ApiServer) (Wiring.Answer q)
  | .store q => StateT.lift q.perform
  | .exec e => StateT.lift (d.console.reach e)
  | .record about event => fun p => do return ((), ← p.record d.reporter about event)
  | .log .. => return ()

theorem answer_eq_wire (d : Deployment) (q : Request) :
    d.answer q = Program.run (I := Wiring) d.reach (d.console.wire q) := by
  cases q with
  | store q => exact (bind_pure (StateT.lift q.perform)).symm
  | admin q =>
    show StateT.lift (d.console.exec q.exec >>= fun a => pure (q.outcome a)) =
      StateT.lift (d.console.reach q.exec) >>= fun reply => pure (q.outcome (d.console.outcome reply))
    rw [ConsoleAccess.exec_eq]
    refine StateT.ext fun p => ?_
    simp
  | record about event => exact (bind_pure (m := StateT Published (Program ApiServer)) _).symm
  | log level message => rfl

/-- A live pass is a wired one. -/
theorem run_eq_wired (d : Deployment) (act : Act α) :
    d.run act = Program.run (I := Wiring) d.reach (d.console.wired act) := by
  rw [run, ConsoleAccess.wired, run_run]
  congr 1
  exact funext d.answer_eq_wire

end Deployment

end ClusterKeeper
