import LedgerWatch.Number.DecimalText
import LedgerWatch.Table

/-!
# Settings

Typed values that a watcher is configured with, under their keys.
-/

namespace LedgerWatch

/-- The type of a setting. -/
inductive SettingType where
  | string
  | boolean
  | int
  | short
  | long
  | double
  | list
  /-- The name of a kind of watchers. -/
  | kind
deriving DecidableEq

/-- The value of a setting. -/
inductive SettingValue where
  | string (value : String)
  | boolean (value : Bool)
  | int (value : Int32)
  | short (value : Int16)
  | long (value : Int64)
  | double (value : Binary64)
  | list (values : List String)
  | kind (name : String)
deriving DecidableEq

namespace SettingValue

/-- The type of a value. -/
def type : SettingValue → SettingType
  | .string _ => .string
  | .boolean _ => .boolean
  | .int _ => .int
  | .short _ => .short
  | .long _ => .long
  | .double _ => .double
  | .list _ => .list
  | .kind _ => .kind

/-- The text of a string or of the name of a kind. -/
def text? : SettingValue → Option String
  | .string value => some value
  | .kind name => some name
  | _ => none

/-- The truth value of a boolean. -/
def bool? : SettingValue → Option Bool
  | .boolean value => some value
  | _ => none

/-- The number of an integer of any width. -/
def integer? : SettingValue → Option Int
  | .short value => some value.toInt
  | .int value => some value.toInt
  | .long value => some value.toInt
  | _ => none

/-- The number of a floating-point value. -/
def double? : SettingValue → Option Binary64
  | .double value => some value
  | _ => none

/-- The items of a list. -/
def list? : SettingValue → Option (List String)
  | .list values => some values
  | _ => none

end SettingValue

/-- Settings under their keys. -/
abbrev Settings := Table SettingValue

end LedgerWatch
