import ClusterKeeper.Pass.Step

/-!
The engine of passes: it runs steps in order up to the first that does not go on, then writes the status
of the object once, however the steps ended.
-/

namespace ClusterKeeper

/-- What a controller is to do after a pass. -/
inductive Action where
  /-- Make a pass again after a while. -/
  | requeue (after : Duration)
  /-- Wait for a change. -/
  | done
  deriving DecidableEq

/-- How a pass ended. -/
structure PassResult where
  action : Action
  error : Option OperatorError
  /-- The step that the pass ended at, empty when there are no steps. -/
  lastStep : String
  deriving DecidableEq

/-- The action, or the error if there is one. -/
def PassResult.toExcept (r : PassResult) : Except OperatorError Action :=
  match r.error with
  | some e => .error e
  | none => .ok r.action

namespace Pass

variable {C α : Type}

/-- Runs steps up to the first that does not go on. The result is the last step that ran, how it ended,
and the state that it left. -/
def walk : List (Step C) → (last : String) → C → Act (String × Outcome × C)
  | [], last, c => pure (last, .next, c)
  | step :: steps, _, c => do
    Act.log .debug "Running step"
    match ← step.run c with
    | (.next, c) => walk steps step.name c
    | (outcome, c) => return (step.name, outcome, c)

variable [PassState C α] [CustomResource α]

/-- Writes the status of the object, unless there is none or nothing holds it while it is deleted. -/
def persist (c : C) : Attempt C :=
  match PassState.object c with
  | none => pure c
  | some (o : α) => do
    let m := KubeObject.metadata o
    if m.isDeleting && !m.hasFinalizers then return c
    return PassState.withObject (← CustomResource.replaceStatus o) c

/-- What follows from how the steps ended. -/
def verdict : Outcome → Action × Option OperatorError
  | .next | .complete => (.done, none)
  | .requeue after => (.requeue after, none)
  | .fail e => (.requeue retryDelay, some e)

/-- The line of the log about the end of a pass. -/
def report (last : String) : Action × Option OperatorError → Act Unit
  | (_, some _) => Act.log .error "Reconcile failed"
  | (.requeue _, none) => Act.log .info ("Requeue at " ++ last)
  | (.done, none) => Act.log .info ("Finish cycle at " ++ last)

/-- Makes a pass. -/
def run (steps : List (Step C)) (c : C) : Act (PassResult × C) := do
  let (last, outcome, c) ← walk steps "" c
  match ← (persist c).run with
  | .error e =>
    let ending := (.requeue retryDelay, some e)
    report last ending
    return (⟨ending.1, ending.2, last⟩, c)
  | .ok c =>
    let ending := verdict outcome
    report last ending
    return (⟨ending.1, ending.2, last⟩, c)

end Pass

end ClusterKeeper
