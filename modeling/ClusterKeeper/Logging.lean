/-!
The settings of the log: the format of its lines and the filter that chooses them. They come from the
environment, and the command line overrides them.
-/

namespace ClusterKeeper

/-- The formats of log lines. -/
inductive LogFormat where
  /-- One JSON object a line. -/
  | json
  /-- Several lines, for people. -/
  | pretty
  /-- One line. -/
  | compact
  deriving DecidableEq

namespace LogFormat

/-- The name of a format. -/
def name : LogFormat → String
  | json => "Json"
  | pretty => "Pretty"
  | compact => "Compact"

/-- The format that a text names, whatever the case of its letters. Every text that names no other one
stands for compact lines. (No letter outside ASCII has a letter of these names as its lower case.) -/
def ofText (s : String) : LogFormat :=
  let lower := s.toLower
  if lower = "json" then json
  else if lower = "pretty" then pretty
  else compact

end LogFormat

/-- The settings of the log. -/
structure LogSettings where
  format : LogFormat
  filter : String
  deriving DecidableEq

namespace LogSettings

/-- The filter when none is given. -/
def defaultFilter : String := "tarantool_operator=info,tarantool_topology=info,kube=info"

/-- The settings when none are given. -/
def default : LogSettings := ⟨.compact, defaultFilter⟩

/-- The variable with the format. -/
def formatVariable : String := "TARANTOOL_OPERATOR_LOG_FORMAT"

/-- The variables with the filter; the first that is set counts. -/
def filterVariables : List String := ["TARANTOOL_OPERATOR_LOG_LEVEL", "RUST_LOG"]

/-- The settings of an environment. Without a format the lines are for people when they go to a
terminal, and JSON otherwise. -/
def ofEnvironment (env : String → Option String) (terminal : Bool) : LogSettings where
  format := match env formatVariable with
    | some s => .ofText s
    | none => if terminal then .pretty else .json
  filter := (filterVariables.findSome? env).getD defaultFilter

/-- The settings with those that are given replaced. -/
def overridden (s : LogSettings) (format : Option LogFormat) (filter : Option String) : LogSettings :=
  ⟨format.getD s.format, filter.getD s.filter⟩

end LogSettings

end ClusterKeeper
