import ClusterKeeper.Cartridge.AdminError
import ClusterKeeper.Kubernetes.Meta

/-!
What can end a pass with an error: a refusal or failure of the Kubernetes API, a failed administration
call, an object or a setting that is missing, or the lack of a leader. `OperatorError.message` has the
texts; a detail that is not of this library's making is shown as an asterisk.
-/

namespace ClusterKeeper

/-- An answer of the Kubernetes API that refuses a request. -/
structure ApiRefusal where
  code : Nat
  reason : String
  deriving DecidableEq

/-- An error of a pass. -/
inductive OperatorError where
  /-- The Kubernetes API refused a request, or could not be talked to. -/
  | kube (refusal : Option ApiRefusal)
  /-- An administration call failed. -/
  | admin (e : AdminError)
  /-- An object does not exist. -/
  | notFound (kind ns name : String)
  /-- An object was modified since it was read. -/
  | conflict (kind name : String)
  /-- An object lacks a label. -/
  | missingLabel (label : String)
  /-- A setting is wrong. -/
  | invalidConfig (text : String)
  /-- A text could not be read. -/
  | serialization
  /-- No pod can lead the topology. -/
  | noAvailableLeader
  /-- Another pass recorded a leader first. -/
  | leaderElectionConflict
  /-- The recorded leader cannot serve. -/
  | leaderNotReady (leader : String)
  deriving DecidableEq

namespace OperatorError

/-- The wording of an error. -/
def message : OperatorError → String
  | kube _ => "Kubernetes API error: " ++ foreignDetail
  | admin e => "Topology error: " ++ e.message
  | notFound kind ns name => "Resource not found: " ++ kind ++ "/" ++ name ++ " in namespace " ++ ns
  | conflict kind name => "Conflict while updating " ++ kind ++ "/" ++ name
  | missingLabel label => label ++ " label is required"
  | invalidConfig text => "Invalid configuration: " ++ text
  | serialization => "Serialization error: " ++ foreignDetail
  | noAvailableLeader => "no available leader"
  | leaderElectionConflict => "leader election conflict"
  | leaderNotReady leader => "leader " ++ leader ++ " is not ready"

/-- The name of an error's kind. -/
def kind : OperatorError → String
  | kube _ => "KubeError"
  | admin _ => "Topology"
  | notFound .. => "NotFound"
  | conflict .. => "Conflict"
  | missingLabel _ => "MissingLabel"
  | invalidConfig _ => "InvalidConfig"
  | serialization => "SerializationError"
  | noAvailableLeader => "NoAvailableLeader"
  | leaderElectionConflict => "LeaderElectionConflict"
  | leaderNotReady _ => "LeaderNotReady"

/-- The code by which the API says that an object was modified since it was read. -/
def conflictCode : Nat := 409

/-- Whether an object was modified since it was read. -/
def isConflict : OperatorError → Bool
  | conflict .. => true
  | kube (some refusal) => refusal.code == conflictCode
  | _ => false

instance : Wire ApiRefusal where
  read j := do
    let ms ← j.members?
    let code : Int32 ← ms.required "code"
    if code < 0 then none
    else return { code := code.toInt.toNat, reason := ← ms.defaulted "reason" "" }
  write r := .object [("code", .int r.code), ("reason", .str r.reason)]

/-- An error with its kind, its wording and its cause. -/
def toJson (e : OperatorError) : Json :=
  let (api, cause) : Option ApiRefusal × Option String := match e with
    | kube refusal => (refusal, none)
    | admin e => (none, some e.kind)
    | _ => (none, none)
  .present [
    .always "error" e.kind,
    .always "message" e.message,
    .always "is_conflict" e.isConflict,
    .ifSome "api" api,
    .ifSome "cause" cause]

end OperatorError

end ClusterKeeper
