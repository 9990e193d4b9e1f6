import LedgerWatch.Settings.Properties
import LedgerWatch.Settings.Value
import LedgerWatch.Storage.Files
import LedgerWatch.Text.Integer

/-!
# Schemas

A schema declares the keys of a watcher's settings, with their types and defaults. The settings of
the watcher with some name are resolved from the properties `sentinel.<name>.<key>`, which may be
read from a file.
-/

namespace LedgerWatch

/-- Why settings cannot be declared or resolved. -/
inductive SettingsError where
  | keyContainsSpace (key : String)
  | missingProperty (name : String)
  | invalidValue (key value message : String)
  | unknownKind (name kind : String)
  /-- The properties cannot be read. -/
  | unreadable (path cause : String)
deriving DecidableEq

/-- The wording of each error. -/
def SettingsError.message : SettingsError → String
  | .keyContainsSpace key => "Configuration keys must not contain spaces: \"" ++ key ++ "\""
  | .missingProperty name => "Missing required configuration property: " ++ name
  | .invalidValue key value message =>
    "Invalid value " ++ value ++ " for configuration " ++ key ++ ": " ++ message
  | .unknownKind name kind =>
    "unknown sentinel kind `" ++ kind ++ "` for configuration " ++ name
  | .unreadable path cause => "failed to read properties from " ++ path ++ ": " ++ cause

/-- The properties of a file. -/
def Properties.load (files : Files) (path : String) : Except SettingsError Properties :=
  match files.readText path with
  | .ok text => .ok (Properties.parse text)
  | .error fault => .error (.unreadable path fault.message)

namespace SettingValue

/-- What is wrong with a text that has no value of a type. -/
def expectation : SettingType → String
  | .boolean => "Expected value to be either true or false"
  | .int => "Expected value to be a 32-bit integer"
  | .short => "Expected value to be a 16-bit integer (short)"
  | .long => "Expected value to be a 64-bit integer (long)"
  | .double => "Expected value to be a double"
  | .kind => "Expected the name of a registered sentinel kind"
  | .string | .list => ""

/-- The truth value that a text names in any letter case. -/
def boolOf? (cs : List Char) : Option Bool :=
  if Text.alike cs "true".toList then some true
  else if Text.alike cs "false".toList then some false
  else none

/-- The integer between `low` and `high` that a text writes. -/
def integerOf? (low high : Int) (cs : List Char) : Option Int :=
  (Text.readInteger low high cs).toOption

/-- The items between the commas of a text, without the blanks around them. -/
def itemsOf (cs : List Char) : List String :=
  if cs.isEmpty then []
  else (Text.splitAt ',' cs).map fun item => String.ofList (Text.trim item)

/-- The name that a text is: not empty, and without blanks. -/
def kindOf? (cs : List Char) : Option String :=
  if cs.isEmpty || cs.any Text.isBlank then none else some (String.ofList cs)

/-- The value of a type that a text without outer blanks writes. -/
def ofText? (type : SettingType) (cs : List Char) : Option SettingValue :=
  match type with
  | .string => some (.string (String.ofList cs))
  | .boolean => (boolOf? cs).map .boolean
  | .int =>
    (integerOf? Int32.minValue.toInt Int32.maxValue.toInt cs).map fun n => .int (Int32.ofInt n)
  | .short =>
    (integerOf? Int16.minValue.toInt Int16.maxValue.toInt cs).map fun n => .short (Int16.ofInt n)
  | .long =>
    (integerOf? Int64.minValue.toInt Int64.maxValue.toInt cs).map fun n => .long (Int64.ofInt n)
  | .double => (DecimalText.read? cs).map .double
  | .list => some (.list (itemsOf cs))
  | .kind => (kindOf? cs).map .kind

/-- The value of a key that a property holds. -/
def parse (key raw : String) (type : SettingType) : Except SettingsError SettingValue :=
  match ofText? type (Text.trim raw.toList) with
  | some value => .ok value
  | none => .error (.invalidValue key raw (expectation type))

end SettingValue

/-- A declared key. -/
structure SchemaEntry where
  key : String
  type : SettingType
  /-- The value of the key when its property is absent; without one the property is required. -/
  default? : Option SettingValue
deriving DecidableEq

/-- The declared keys of a watcher, in the order of declaration. -/
structure Schema where
  entries : List SchemaEntry := []
deriving DecidableEq, Inhabited

namespace Schema

/-- The schema of the given entries; no key may contain a space. -/
def build (entries : List SchemaEntry) : Except SettingsError Schema :=
  match entries.find? fun e => e.key.toList.contains ' ' with
  | some e => .error (.keyContainsSpace e.key)
  | none => .ok ⟨entries⟩

/-- The property that holds a key of the watcher with a name. -/
def propertyName (watcher key : String) : String :=
  "sentinel." ++ watcher ++ "." ++ key

/-- The value of a declared key. -/
def resolveEntry (watcher : String) (properties : Properties) (e : SchemaEntry) :
    Except SettingsError SettingValue :=
  match properties.get? (propertyName watcher e.key) with
  | some raw => SettingValue.parse e.key raw e.type
  | none =>
    match e.default? with
    | some value => .ok value
    | none => .error (.missingProperty (propertyName watcher e.key))

/-- Resolves entries one after another into settings; the first failure ends it. -/
def resolveFrom (watcher : String) (properties : Properties) :
    Settings → List SchemaEntry → Except SettingsError Settings
  | settings, [] => .ok settings
  | settings, e :: rest =>
    match resolveEntry watcher properties e with
    | .ok value => resolveFrom watcher properties (settings.insert e.key value) rest
    | .error err => .error err

/-- The settings of the watcher with a name. -/
def resolve (s : Schema) (watcher : String) (properties : Properties) :
    Except SettingsError Settings :=
  resolveFrom watcher properties .empty s.entries

end Schema

end LedgerWatch
