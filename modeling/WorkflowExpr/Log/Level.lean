import WorkflowExpr.Text.Case

/-!
# Log levels

Levels are numbers, and some of them have names. A record is kept when its level is not below that of
the log.
-/

namespace WorkflowExpr.Log

/-- The level of a record. -/
inductive Level where
  | debug
  | info
  | warning
  | error
  | critical
deriving DecidableEq

namespace Level

/-- The number of a level. -/
def number : Level → Int
  | debug => 10
  | info => 20
  | warning => 30
  | error => 40
  | critical => 50

/-- The name of a level. -/
def name : Level → String
  | debug => "debug"
  | info => "info"
  | warning => "warning"
  | error => "error"
  | critical => "critical"

/-- The level that a name of a way to log stands for. -/
def ofName? : String → Option Level
  | "debug" => some debug
  | "info" => some info
  | "warning" => some warning
  | "warn" => some warning
  | "error" => some error
  | "exception" => some error
  | "critical" => some critical
  | "fatal" => some critical
  | _ => none

end Level

/-- Why a name gives no level: it is kept for something else. -/
inductive ReservedName where
  | layout
  | styles
deriving DecidableEq

/-- The wording of a refusal of a name. -/
def ReservedName.message : ReservedName → String
  | layout => "Unknown level: '%(levelname)s:%(name)s:%(message)s'"
  | styles => "Level not an integer or a valid string"

/-- The level of a log from which records are kept, by name; an unknown name counts as a warning. Case
does not matter. -/
def threshold (name : String) : Except ReservedName Int :=
  match Text.asciiUpper name with
  | "NOTSET" => .ok 0
  | "DEBUG" => .ok Level.debug.number
  | "INFO" => .ok Level.info.number
  | "ERROR" => .ok Level.error.number
  | "CRITICAL" => .ok Level.critical.number
  | "FATAL" => .ok Level.critical.number
  | "BASIC_FORMAT" => .error .layout
  | "_STYLES" => .error .styles
  | _ => .ok Level.warning.number

end WorkflowExpr.Log
