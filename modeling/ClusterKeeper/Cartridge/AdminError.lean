import ClusterKeeper.Cartridge.LuaFault
import ClusterKeeper.Duration
import ClusterKeeper.Text.Quoted

/-!
What can go wrong with an administration call: the channel to the instance fails, the instance's
answer cannot be used, or Cartridge refuses. `AdminError.message` has the texts; a detail that is
not of this library's making is shown as an asterisk.
-/

namespace ClusterKeeper

/-- What is wrong with the transcript of a console session. -/
inductive TranscriptFault where
  /-- There is no record; the transcript is kept. -/
  | empty (transcript : String)
  /-- The record cannot be read. -/
  | unreadable (transcript : String)
  /-- The record has no payload. -/
  | noResult (transcript : String)
  /-- The payload is not base64. -/
  | badBase64
  /-- The payload is not hexadecimal. -/
  | badHex
  /-- A fault described in words. -/
  | described (text : String)
  deriving DecidableEq

/-- The text for a detail that another party words. -/
def foreignDetail : String := "*"

/-- The wording of a transcript's fault. -/
def TranscriptFault.message : TranscriptFault → String
  | .empty t => t
  | .unreadable t => foreignDetail ++ ": " ++ Text.quoted t
  | .noResult t => "no result in output: " ++ Text.quoted t
  | .badBase64 => "invalid base64 payload: " ++ foreignDetail
  | .badHex => "invalid hex payload: " ++ foreignDetail
  | .described t => t

/-- The failure of an administration call. -/
inductive AdminError where
  /-- The channel could not run the script; the reason is another party's when absent. -/
  | transport (reason : Option String)
  /-- The call did not finish in time. -/
  | timeout (limit : Duration)
  /-- The console's transcript could not be understood. -/
  | transcript (fault : TranscriptFault)
  /-- The script ran and raised an error. -/
  | remote (text : String)
  /-- The payload is not of the expected type. -/
  | decode
  /-- A call of Cartridge returned an error object. -/
  | lua (context : String) (fault : LuaFault)
  /-- The topology could not be edited. -/
  | topologyIsDown
  /-- The replicaset is not in the clusterwide config. -/
  | notInConfig
  /-- The last storage would be left without weight. -/
  | lastStorageWeight
  /-- A requested role is not known. -/
  | unknownRole (fault : LuaFault)
  /-- A patch of the clusterwide config was refused. -/
  | configRejected
  deriving DecidableEq

namespace AdminError

/-- The wording of an error. -/
def message : AdminError → String
  | transport reason => "Transport error: " ++ reason.getD foreignDetail
  | timeout limit => "Exec timed out after " ++ limit.toText
  | transcript fault => "Unable to parse tarantool output: " ++ fault.message
  | remote text => "Remote script failed: " ++ text
  | decode => "Failed to decode payload: " ++ foreignDetail
  | lua context fault => context ++ ": " ++ fault.message
  | topologyIsDown => "topology service is down"
  | notInConfig => "not in config"
  | lastStorageWeight => "at least one vshard-storage (default) must have weight > 0"
  | unknownRole fault => "unknown role: " ++ fault.message
  | configRejected => "failed to upload cartridge config"

/-- The name of an error's kind. -/
def kind : AdminError → String
  | transport _ => "Transport"
  | timeout _ => "Timeout"
  | transcript _ => "Transcript"
  | remote _ => "Remote"
  | decode => "Decode"
  | lua _ _ => "Lua"
  | topologyIsDown => "TopologyIsDown"
  | notInConfig => "NotInConfig"
  | lastStorageWeight => "LastStorageWeight"
  | unknownRole _ => "UnknownRole"
  | configRejected => "ConfigRejected"

/-- Whether the script could not be run at all, as opposed to running and failing. -/
def isTransport : AdminError → Bool
  | transport _ | timeout _ | transcript _ => true
  | _ => false

/-- The error object of Cartridge, when there is one. -/
def fault? : AdminError → Option LuaFault
  | lua _ fault | unknownRole fault => some fault
  | _ => none

/-- An error with its kind, its wording and its error object. -/
def toJson (e : AdminError) : Json :=
  .present [
    .always "error" e.kind,
    .always "message" e.message,
    .always "is_transport" e.isTransport,
    .ifSome "lua" e.fault?]

end AdminError

end ClusterKeeper
