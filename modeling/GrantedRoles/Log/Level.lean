import GrantedRoles.Failure
import GrantedRoles.Text.Casing

/-!
# Log levels

The levels at which a line can be logged, and the level texts that a configuration may name. A
text is compared in upper case; any text that names nothing stands for `INFO`. Two texts name
something other than a level and are refused.
-/

set_option autoImplicit false

namespace GrantedRoles.Log

open Text

/-- The level of a line. -/
inductive Level where
  | debug
  | info
  | warning
  | error
  | critical
  deriving DecidableEq, Repr

namespace Level

/-- Lines below the threshold of the configuration are not written. -/
def severity : Level → Int
  | debug => 10
  | info => 20
  | warning => 30
  | error => 40
  | critical => 50

/-- The word for a level in a line. -/
def word : Level → String
  | debug => "debug"
  | info => "info"
  | warning => "warning"
  | error => "error"
  | critical => "critical"

/-- The level of a logging method; some levels have two. -/
def ofMethod? : String → Option Level
  | "debug" => some debug
  | "info" => some info
  | "warning" => some warning
  | "warn" => some warning
  | "error" => some error
  | "exception" => some error
  | "critical" => some critical
  | "fatal" => some critical
  | _ => none

/-- The level that a number stands for. -/
def ofSeverity? (severity : Int) : Option Level :=
  [debug, info, warning, error, critical].find? (·.severity == severity)

end Level

/-- The thresholds with a name. -/
def namedThresholds : List (String × Int) :=
  [("CRITICAL", 50), ("FATAL", 50), ("ERROR", 40), ("WARN", 30), ("WARNING", 30), ("INFO", 20),
    ("DEBUG", 10), ("NOTSET", 0)]

/-- The threshold while nothing is configured. -/
def initialThreshold : Int := 30

/-- The format of a line without fields, which the text `BASIC_FORMAT` stands for. -/
def lineFormat : String := "%(levelname)s:%(name)s:%(message)s"

/-- The threshold that a level text names. `BASIC_FORMAT` names the line format, which is no
level, and `_STYLES` the list of format styles, which is not even a text. -/
def threshold (level : String) : Except Failure Int :=
  let name := upper level
  match namedThresholds.lookup name with
  | some severity => .ok severity
  | none =>
      if name = "BASIC_FORMAT" then .error (.value (.notLevel lineFormat))
      else if name = "_STYLES" then .error .illTyped
      else .ok Level.info.severity

/-- The threshold that a caller sets for one logger: a number, or one that a text names exactly;
zero leaves the choice to the loggers above. -/
def ownThreshold (level : Value) : Except Failure Int :=
  match level with
  | .int n => .ok n
  | .bool b => .ok (if b then 1 else 0)
  | other =>
      match other.asText? with
      | none => .error .illTyped
      | some name =>
          match namedThresholds.lookup name with
          | some severity => .ok severity
          | none => .error (.value (.notLevel name))

end GrantedRoles.Log
