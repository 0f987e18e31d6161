import ClusterKeeper.Http.Target
import ClusterKeeper.OperatorError
import ClusterKeeper.Program

/-!
Exchanges with the API server: a request and its reply. A reply with a status from 400 to 599 refuses the
request, and its body says why if it can be read; of every other reply the body is the answer.
-/

namespace ClusterKeeper

namespace Http

/-- The methods of requests. -/
inductive Method where
  | get
  | post
  | put
  | patch
  deriving DecidableEq

/-- The name of a method. -/
def Method.name : Method → String
  | get => "GET"
  | post => "POST"
  | put => "PUT"
  | patch => "PATCH"

/-- A request to the API server. -/
structure Message where
  method : Method
  target : Target
  body : Option Json

/-- What comes back. -/
inductive Reply where
  /-- A status, with the body when it is JSON. -/
  | answer (status : Nat) (body : Option Json)
  /-- The connection became a console session, which wrote a transcript. -/
  | session (transcript : String)
  /-- Nothing, ever. -/
  | silence

end Http

/-- The API server. -/
def ApiServer : Interface := ⟨Http.Message, fun _ => Http.Reply⟩

/-- An exchange that may be refused, or fail without a refusal. -/
abbrev Exchange := ExceptT (Option ApiRefusal) (Program ApiServer)

namespace ApiRefusal

/-- What a body says about a refusal. -/
def ofBody? (body : Json) : Option ApiRefusal := do
  let ms ← body.record? ["status", "message", "reason", "code"]
  let _ : String ← ms.required "status"
  let _ : String ← ms.defaulted "message" ""
  let reason ← ms.defaulted "reason" ""
  let code : Int32 ← ms.required "code"
  if 0 ≤ code ∧ code < 0x10000 then some ⟨code.toInt.toNat, reason⟩ else none

/-- A refusal by its status and body. -/
def ofReply (status : Nat) (body : Option Json) : ApiRefusal :=
  (body.bind ofBody?).getD ⟨status, "Failed to parse error data"⟩

end ApiRefusal

namespace Http

/-- Whether a status refuses a request. -/
def refuses (status : Nat) : Bool := 400 ≤ status && status < 600

/-- The body of a reply, unless it is a refusal. -/
def Reply.content : Reply → Except (Option ApiRefusal) Json
  | answer status body =>
    if refuses status then .error (some (.ofReply status body))
    else match body with
      | some j => .ok j
      | none => .error none
  | session _ | silence => .error none

/-- Sends a request whose target is given as text; a text that is no target is not sent. -/
def send (method : Method) (target : String) (body : Option Json) :
    Program ApiServer (Option Reply) :=
  match Target.ofText? target with
  | none => return none
  | some t => do return some (← Program.question (I := ApiServer) ⟨method, t, body⟩)

end Http

namespace Exchange

variable {α : Type}

/-- The answer to a request. -/
def call (method : Http.Method) (target : String) (body : Option Json) : Exchange Json :=
  ExceptT.mk do
    match ← Http.send method target body with
    | none => return .error none
    | some reply => return reply.content

/-- An answer of a type. -/
def typed (read : Json → Option α) (answer : Json) : Exchange α :=
  match read answer with
  | some a => return a
  | none => throw none

/-- Objects are asked for by name, and a name is not empty. -/
def named (name : String) : Exchange Unit := if name = "" then throw none else return ()

end Exchange

end ClusterKeeper
