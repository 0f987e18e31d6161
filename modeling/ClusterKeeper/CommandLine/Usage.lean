import ClusterKeeper.CommandLine.Settings

/-!
What the command line says about itself: its help, its version, and the wording of its errors.
-/

namespace ClusterKeeper.CommandLine

/-- The name of the program. -/
def programName : String := "tarantool-operator"

/-- The version of the program. -/
def versionText : String := programName ++ " 0.1.0"

/-- What the value of an option is called. -/
def ValueOption.valueName : ValueOption → String
  | .ns => "NAMESPACE"
  | .containerName => "CONTAINER_NAME"
  | .execTimeout => "EXEC_TIMEOUT_SECS"
  | .logFormat => "LOG_FORMAT"
  | .logLevel => "LOG_LEVEL"

/-- An option with its value. -/
def ValueOption.shown (o : ValueOption) : String := "--" ++ o.name ++ " <" ++ o.valueName ++ ">"

/-- What an option does. -/
def ValueOption.purpose : ValueOption → String
  | .ns => "Namespace to watch. All namespaces when unset [env: " ++ Settings.nsVariable ++ "]"
  | .containerName => "Container running Tarantool in every instance pod [env: " ++
      Settings.containerVariable ++ "] [default: " ++ Settings.defaultContainer ++ "]"
  | .execTimeout => "Time budget of a single admin call, in seconds [env: " ++
      Settings.execVariable ++ "] [default: 2]"
  | .logFormat => "Log format: json, pretty or compact"
  | .logLevel => "Log filter directives"

/-- What a flag does. -/
def Flag.purpose : Flag → String
  | .generateCrds => "Print the CRD manifests and exit"
  | .help => "Print help"
  | .version => "Print version"

/-- A flag with its letter, if it has one. -/
def Flag.shown (f : Flag) : String :=
  let letter := match f with
    | .generateCrds => "    "
    | .help => "-h, "
    | .version => "-V, "
  letter ++ "--" ++ f.name

/-- How the program is called. -/
def usageLine : String := "Usage: " ++ programName ++ " [OPTIONS]"

/-- The help. -/
def helpText : String :=
  let option (shown purpose : String) : List String := ["  " ++ shown, "          " ++ purpose]
  let options := ValueOption.all.flatMap fun o => option ("    " ++ o.shown) o.purpose
  let flags := Flag.all.flatMap fun f => option f.shown f.purpose
  "\n".intercalate (["Kubernetes operator for Tarantool Cartridge", "", usageLine, "", "Options:"] ++
    options ++ flags)

namespace UsageError

/-- The wording of an error. What is asked for is no error, and its wording is the answer. -/
def message : UsageError → String
  | unknown word => "error: unexpected argument '" ++ word ++ "' found"
  | badValue o value => "error: invalid value '" ++ value ++ "' for '" ++ o.shown ++ "'"
  | noValue o => "error: a value is required for '" ++ o.shown ++ "' but none was supplied"
  | unneededValue f => "error: unexpected value for '--" ++ f.name ++ "' found; no more were expected"
  | repeated name => "error: the argument '--" ++ name ++ "' cannot be used multiple times"
  | helpWanted => helpText
  | versionWanted => versionText

/-- Whether something was asked for, and nothing is wrong. -/
def isAnswer : UsageError → Bool
  | helpWanted | versionWanted => true
  | _ => false

end UsageError

end ClusterKeeper.CommandLine
