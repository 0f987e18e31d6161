import ClusterKeeper.OperatorError

/-!
Errors as a scenario describes them: an object with the kind of the error and its details. Texts that
are left out are empty.
-/

namespace ClusterKeeper

/-- The text of a detail. -/
def Json.detail (j : Json) (k : String) : String :=
  ((j.get? k).bind Wire.read).getD ""

namespace AdminError

/-- The error object of a description. -/
def describedFault (j : Json) : LuaFault := ((j.get? "lua").bind Wire.read).getD .blank

/-- The span of time of a description, in milliseconds. -/
def describedLimit (j : Json) : Duration :=
  match j.get? "ms" with
  | some (.int ms) => ⟨ms.toNat⟩
  | _ => ⟨0⟩

/-- The failure of an administration call that is described. -/
def described? (j : Json) : Option AdminError :=
  match j.detail "kind" with
  | "Transport" => some (.transport (some (j.detail "text")))
  | "Timeout" => some (.timeout (describedLimit j))
  | "Transcript" => some (.transcript (.described (j.detail "text")))
  | "Remote" => some (.remote (j.detail "text"))
  | "Decode" => some .decode
  | "Lua" => some (.lua (j.detail "context") (describedFault j))
  | "UnknownRole" => some (.unknownRole (describedFault j))
  | "TopologyIsDown" => some .topologyIsDown
  | "NotInConfig" => some .notInConfig
  | "LastStorageWeight" => some .lastStorageWeight
  | "ConfigRejected" => some .configRejected
  | _ => none

end AdminError

namespace OperatorError

/-- The code of a described refusal. -/
def describedCode (j : Json) : Nat :=
  match j.get? "code" with
  | some (.int code) => code.toNat
  | _ => 0

/-- The error of a pass that is described; the failure of an administration call counts as one. -/
def described? (j : Json) : Option OperatorError :=
  match j.detail "kind" with
  | "NotFound" => some (.notFound (j.detail "object") (j.detail "namespace") (j.detail "name"))
  | "Conflict" => some (.conflict (j.detail "object") (j.detail "name"))
  | "MissingLabel" => some (.missingLabel (j.detail "text"))
  | "InvalidConfig" => some (.invalidConfig (j.detail "text"))
  | "SerializationError" => some .serialization
  | "NoAvailableLeader" => some .noAvailableLeader
  | "LeaderElectionConflict" => some .leaderElectionConflict
  | "LeaderNotReady" => some (.leaderNotReady (j.detail "leader"))
  | "KubeApi" => some (.kube (some ⟨describedCode j, j.detail "reason"⟩))
  | _ => (AdminError.described? j).map .admin

end OperatorError

end ClusterKeeper
