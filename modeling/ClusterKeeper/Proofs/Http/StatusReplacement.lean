import ClusterKeeper.Http.Store
import ClusterKeeper.Proofs.Program.Course

/-!
What replaces a status: one message with the object as it is on the wire, unless there is nowhere to send it
(`StoreRequest.asked_replaceStatus`).
-/

namespace ClusterKeeper

open Program

namespace Exchange

variable {α : Type} {holds : Talk ApiServer → Prop} {t : Talk ApiServer}

/-- A request is one message, if its target is one. -/
theorem keepsOr_call (method : Http.Method) (target : String) (body : Option Json)
    (hunsent : Http.Target.ofText? target = none → holds t)
    (hsent : ∀ m, Http.Target.ofText? target = some m → ∀ reply : Http.Reply,
      holds (⟨(⟨method, m, body⟩ : Http.Message), reply⟩ :: t)) :
    KeepsOr (fun _ _ => True) (call method target body) (fun t' _ => holds t') (fun t' _ => holds t') t := by
  rw [call, keepsOr_mk, keeps_bind, Http.send]
  cases htarget : Http.Target.ofText? target with
  | none => exact hunsent htarget
  | some m =>
    dsimp only
    rw [keeps_bind]
    refine ⟨trivial, fun reply => (keeps_pure _).2 ((keeps_pure _).2 ((keeps_pure _).2 ?_))⟩
    cases Http.Reply.content reply <;> exact hsent m htarget reply

/-- To read an answer takes no message. -/
theorem keepsOr_typed (read : Json → Option α) (answer : Json) (h : holds t) :
    KeepsOr (fun _ _ => True) (typed read answer) (fun t' _ => holds t') (fun t' _ => holds t') t := by
  rw [typed]
  cases read answer <;> exact h

end Exchange

/-- What was asked of the API server, the latest first. -/
def Http.asked (w : Talk ApiServer) : List Http.Message := w.map fun e => e.ask

namespace StoreRequest

/-- Where the status of an object is replaced, if it can be. -/
def statusTarget? (k : Kind) (o : k.Object) : Option Http.Target :=
  if KubeObject.name o = "" then none
  else Http.Target.ofText? (Http.Target.text (k.path (KubeObject.nsOf o) (KubeObject.name o) ++ "/status") [])

/-- The messages that replace the status of an object are one, with the object as it is on the wire. -/
theorem asked_replaceStatus {k : Kind} {o : k.Object} {w : Talk ApiServer} {r : Except OperatorError k.Object}
    (h : (replaceStatus k o).perform.Goes [] w r) :
    Http.asked w = (statusTarget? k o).toList.map fun target => ⟨.put, target, some (Wire.write o)⟩ := by
  have hkeeps : Keeps (fun _ _ => True) (replaceStatus k o).perform (fun w _ => Http.asked w =
      (statusTarget? k o).toList.map fun target => ⟨.put, target, some (Wire.write o)⟩) [] := by
    rw [perform, keeps_bind, keeps_run, put, keepsOr_bind, statusTarget?, Exchange.named, keepsOr_ite]
    constructor
    · intro hname
      rw [if_pos hname]
      rfl
    · intro hname
      rw [if_neg hname]
      dsimp only
      rw [keepsOr_pure, keepsOr_bind]
      refine (Exchange.keepsOr_call .put _ _ (fun htarget => ?_) fun target htarget reply => ?_).mono
        (fun t' body ht' => Exchange.keepsOr_typed _ _ ht') fun t' _ ht' => ht'
      · rw [htarget]
        rfl
      · rw [htarget]
        rfl
  exact (hkeeps.of_goes h).1

end StoreRequest

end ClusterKeeper
