/-!
The events that are recorded about objects while they are brought in line.
-/

namespace ClusterKeeper

/-- How serious an event is. -/
inductive Severity where
  /-- Progress worth telling. -/
  | normal
  /-- Something that somebody has to act on. -/
  | warning
  deriving DecidableEq

/-- The name of a severity. -/
def Severity.name : Severity → String
  | normal => "Normal"
  | warning => "Warning"

/-- The severity of a name. -/
def Severity.ofName? (s : String) : Option Severity :=
  [Severity.normal, Severity.warning].find? (·.name = s)

/-- An event about an object. -/
structure Event where
  severity : Severity
  /-- Why it happened, in one word. -/
  reason : String
  /-- What happened, in words. -/
  note : String
  deriving DecidableEq

/-- How serious a line of the log is. -/
inductive LogLevel where
  | debug
  | info
  | warn
  | error
  deriving DecidableEq

/-- The name of a level. -/
def LogLevel.name : LogLevel → String
  | debug => "DEBUG"
  | info => "INFO"
  | warn => "WARN"
  | error => "ERROR"

end ClusterKeeper
