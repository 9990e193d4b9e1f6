import LedgerWatch.Host.VariableFile
import LedgerWatch.Text.Integer

/-!
# Configuration of a host

What a host process reads from its environment before it watches a ledger: where the offset and the
properties are kept, how often the ledger is polled, and the database, if there is one. The
variables may be supplied by a file.
-/

namespace LedgerWatch

/-- Why the configuration of a host cannot be read. -/
inductive BootstrapError where
  | invalidNumber (name : String) (fault : Text.IntegerFault)
  | zeroInterval (name : String)
  /-- The file of variables is malformed. -/
  | malformedVariables
deriving DecidableEq

/-- The wording of each error. -/
def BootstrapError.message : BootstrapError → String
  | .invalidNumber name fault => "invalid integer in `" ++ name ++ "`: " ++ fault.message
  | .zeroInterval name => "`" ++ name ++ "` must be greater than zero"
  | .malformedVariables => "failed to load .env file"

/-- The configuration of a host. -/
structure Bootstrap where
  offsetPath : String := "sentinel.log"
  propertiesPath : String := "sentinels.properties"
  /-- Milliseconds between two polls. -/
  pollMillis : Nat := 1000
  databaseUrl : Option String := none
deriving DecidableEq

namespace Bootstrap

/-- The variable whose presence keeps the file of variables from being read. -/
def skipName : String := "LEDGER_SENTINEL_SKIP_DOTENV"

/-- The variable of the poll interval. -/
def intervalName : String := "SENTINEL_POLL_MILLIS"

/-- Supplies an environment with the variables of the file, if there is one and it is wanted. -/
def hydrate (file : Option String) (env : Environment) : Except BootstrapError Environment :=
  if env.isSet skipName then .ok env
  else
    match file with
    | none => .ok env
    | some text =>
      match VariableFile.load? text env with
      | some env => .ok env
      | none => .error .malformedVariables

/-- The poll interval that a text writes. -/
def readInterval (raw : String) : Except BootstrapError Nat :=
  match Text.readInteger 0 Text.maxWord raw.toList with
  | .error fault => .error (.invalidNumber intervalName fault)
  | .ok n => if n = 0 then .error (.zeroInterval intervalName) else .ok n.toNat

/-- The configuration that an environment gives. -/
def ofEnvironment (env : Environment) : Except BootstrapError Bootstrap := do
  let defaults : Bootstrap := {}
  let pollMillis ← match env.setting? intervalName with
    | some raw => readInterval raw
    | none => .ok defaults.pollMillis
  return {
    offsetPath := (env.setting? "SENTINEL_OFFSET_PATH").getD defaults.offsetPath
    propertiesPath := (env.setting? "SENTINEL_PROPERTIES_PATH").getD defaults.propertiesPath
    pollMillis
    databaseUrl := env.setting? "SENTINEL_DATABASE_URL" }

/-- The configuration that an environment gives together with a file of variables. -/
def load (file : Option String) (env : Environment) : Except BootstrapError Bootstrap :=
  hydrate file env >>= ofEnvironment

end Bootstrap

end LedgerWatch
