import LedgerWatch.Host.Environment

/-!
# Telemetry

How a host logs and counts. A log filter is a list of directives; it is looked at only when logging
is installed, which happens once in the life of a process.
-/

namespace LedgerWatch

/-- How a host logs. -/
structure Telemetry where
  logFilter : String
  /-- Whether log lines name their origin. -/
  withTarget : Bool
deriving DecidableEq

namespace Telemetry

/-- The filter of a host that names none. -/
def defaultFilter : String := "info"

/-- How a host logs whose variables begin with the given word, in upper case. -/
def ofEnvironment (word : String) (env : Environment) : Telemetry :=
  let upper := (Text.trimmed word).map Char.toUpper
  { logFilter :=
      match env.text? (upper ++ "_LOG_FILTER") with
      | some value => if (Text.trimmed value).isEmpty then defaultFilter else value
      | none => defaultFilter
    withTarget :=
      match env.text? (upper ++ "_LOG_TARGET") with
      | some value => !Text.alike (Text.trim value.toList) "false".toList
      | none => true }

/-- The names of the levels of a log, from none to all. -/
def levelNames : List String :=
  ["off", "error", "warn", "info", "debug", "trace"]

/-- A text names a level, by its name in any letter case or by its number. -/
def isLevel (cs : List Char) : Bool :=
  levelNames.any (fun name => Text.alike cs name.toList)
    || (match cs with
      | [c] => '0' ≤ c && c ≤ '5'
      | _ => false)

/-- A directive is a target, or a target, an equals sign and a level. -/
def isDirective (cs : List Char) : Bool :=
  match Text.splitAt '=' cs with
  | [_] => true
  | [_, level] => level.isEmpty || isLevel level
  | _ => false

/-- A filter can be installed when each of its directives between commas is one. -/
def isFilter (filter : String) : Bool :=
  (Text.splitAt ',' filter.toList).all isDirective

/-- Whether a process accepts a filter: where logging is installed, the installed filter stays. -/
def accepts (installed : Bool) (filter : String) : Bool :=
  installed || isFilter filter

end Telemetry

end LedgerWatch
