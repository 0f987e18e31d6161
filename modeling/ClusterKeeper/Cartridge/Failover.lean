import ClusterKeeper.Json.Wire

/-!
Failover parameters of a cluster: how they are read from an instance's report, how they are written
as the argument of a call, and when a report satisfies what is wanted. Written are the mode and
every member that differs from its default. Compared is only what the wanted mode and state provider
make use of, since an instance reports defaults for everything else.
-/

namespace ClusterKeeper

/-- The wire form of an enumeration: the name of each value. -/
def Wire.named {α : Type} (values : List α) (name : α → String) (j : Json) : Option α :=
  match j with
  | .str s => values.find? (name · = s)
  | .obj [(s, .null)] => values.find? (name · = s)
  | _ => none

/-- How a failed leader is replaced. -/
inductive FailoverMode where
  | disabled
  | eventual
  | stateful
  | raft
  deriving DecidableEq

namespace FailoverMode

/-- All modes. -/
def all : List FailoverMode := [disabled, eventual, stateful, raft]

/-- The name that Cartridge uses. -/
def name : FailoverMode → String
  | disabled => "disabled"
  | eventual => "eventual"
  | stateful => "stateful"
  | raft => "raft"

instance : Inhabited FailoverMode := ⟨disabled⟩
instance : Wire FailoverMode := ⟨Wire.named all name, fun m => .str m.name⟩

end FailoverMode

/-- Where stateful failover keeps its state. -/
inductive StateProvider where
  | etcd2
  | stateboard
  deriving DecidableEq

namespace StateProvider

/-- All providers. -/
def all : List StateProvider := [etcd2, stateboard]

/-- The name that Cartridge uses. -/
def name : StateProvider → String
  | etcd2 => "etcd2"
  | stateboard => "stateboard"

instance : Wire StateProvider := ⟨Wire.named all name, fun p => .str p.name⟩

end StateProvider

/-- How to reach an etcd2 state provider. -/
structure Etcd2Params where
  endpoints : List String
  username : String
  password : String
  lockDelay : Int32
  keyPrefix : String
  deriving DecidableEq

namespace Etcd2Params

instance : Wire Etcd2Params where
  read j := do
    let ms ← j.record? ["endpoints", "username", "password", "lock_delay", "prefix"]
    return {
      endpoints := ← ms.defaulted "endpoints" []
      username := ← ms.defaulted "username" ""
      password := ← ms.defaulted "password" ""
      lockDelay := ← ms.defaulted "lock_delay" 0
      keyPrefix := ← ms.defaulted "prefix" "" }
  write p := .present [
    .always "endpoints" p.endpoints,
    .always "username" p.username,
    .always "password" p.password,
    .always "lock_delay" p.lockDelay,
    .always "prefix" p.keyPrefix]

end Etcd2Params

/-- How to reach a stateboard. -/
structure StateboardParams where
  uri : String
  password : String
  deriving DecidableEq

namespace StateboardParams

instance : Wire StateboardParams where
  read j := do
    let ms ← j.record? ["uri", "password"]
    return { uri := ← ms.defaulted "uri" "", password := ← ms.defaulted "password" "" }
  write p := .present [.always "uri" p.uri, .always "password" p.password]

end StateboardParams

/-- The failover parameters of a cluster. -/
structure FailoverParams where
  mode : FailoverMode
  timeout : Int32
  stateProvider : Option StateProvider
  fencingEnabled : Bool
  fencingTimeout : Int32
  fencingPause : Int32
  etcd2 : Option Etcd2Params
  stateboard : Option StateboardParams
  deriving DecidableEq

namespace FailoverParams

/-- A mode with a timeout and nothing else. -/
def plain (mode : FailoverMode) (timeout : Int32) : FailoverParams :=
  { mode, timeout, stateProvider := none, fencingEnabled := false, fencingTimeout := 0,
    fencingPause := 0, etcd2 := none, stateboard := none }

instance : Inhabited FailoverParams := ⟨plain .disabled 0⟩

/-- The members in their declared order. -/
def memberNames : List String :=
  ["mode", "failover_timeout", "state_provider", "fencing_enabled", "fencing_timeout",
    "fencing_pause", "etcd2_params", "stateboard_params"]

instance : Wire FailoverParams where
  read j := do
    let ms ← j.record? memberNames
    return {
      mode := ← ms.required "mode"
      timeout := ← ms.defaulted "failover_timeout" 0
      stateProvider := ← ms.optional "state_provider"
      fencingEnabled := ← ms.defaulted "fencing_enabled" false
      fencingTimeout := ← ms.defaulted "fencing_timeout" 0
      fencingPause := ← ms.defaulted "fencing_pause" 0
      etcd2 := ← ms.optional "etcd2_params"
      stateboard := ← ms.optional "stateboard_params" }
  write p := .present [
    .always "mode" p.mode,
    .unlessDefault 0 "failover_timeout" p.timeout,
    .ifSome "state_provider" p.stateProvider,
    .unlessDefault false "fencing_enabled" p.fencingEnabled,
    .unlessDefault 0 "fencing_timeout" p.fencingTimeout,
    .unlessDefault 0 "fencing_pause" p.fencingPause,
    .ifSome "etcd2_params" p.etcd2,
    .ifSome "stateboard_params" p.stateboard]

/-- The settings of the named provider agree. -/
def ProviderSatisfied (wanted actual : FailoverParams) : Prop :=
  match wanted.stateProvider with
  | some .etcd2 => wanted.etcd2 = actual.etcd2
  | some .stateboard => wanted.stateboard = actual.stateboard
  | none => True

instance (wanted actual : FailoverParams) : Decidable (ProviderSatisfied wanted actual) := by
  unfold ProviderSatisfied
  split <;> infer_instance

/-- Whether the actual parameters are as wanted, in all that the wanted mode makes use of. -/
def SatisfiedBy (wanted actual : FailoverParams) : Prop :=
  wanted.mode = actual.mode ∧ wanted.timeout = actual.timeout ∧
    (wanted.mode = .stateful →
      wanted.stateProvider = actual.stateProvider ∧
      wanted.fencingEnabled = actual.fencingEnabled ∧
      wanted.fencingTimeout = actual.fencingTimeout ∧
      wanted.fencingPause = actual.fencingPause ∧
      ProviderSatisfied wanted actual)

instance (wanted actual : FailoverParams) : Decidable (SatisfiedBy wanted actual) :=
  inferInstanceAs (Decidable (_ ∧ _ ∧ (_ → _)))

end FailoverParams

end ClusterKeeper
