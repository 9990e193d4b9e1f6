import LedgerWatch.Text.Hex
import LedgerWatch.Text.Integer

/-!
# JSON values

JSON values and their compact text. Numbers keep their literals and records the order of their
fields. A text in which half of a surrogate pair is escaped names no sequence of characters, so it
is a text without content.
-/

namespace LedgerWatch

/-- A JSON value. -/
inductive Json where
  | null
  | bool (value : Bool)
  /-- A number, as it is written. -/
  | number (literal : List Char)
  /-- A text, or `none` for one that names no sequence of characters. -/
  | text (content : Option String)
  | array (items : List Json)
  /-- A record, as names and values in the order of writing. -/
  | object (fields : List (Option String × Json))

namespace Json

/-- The JSON number of an integer. -/
def ofInt (n : Int) : Json :=
  .number (Text.intText n)

/-- The JSON number of a natural number. -/
def ofNat (n : Nat) : Json :=
  .number (Text.natText n)

/-- The JSON text of a string. -/
def ofString (s : String) : Json :=
  .text (some s)

/-- A record with named fields. -/
def record (fields : List (String × Json)) : Json :=
  .object (fields.map fun f => (some f.1, f.2))

/-- How one character is written inside a text. -/
def escape (c : Char) : List Char :=
  if c = '"' then ['\\', '"']
  else if c = '\\' then ['\\', '\\']
  else if c = '\x08' then ['\\', 'b']
  else if c = '\x0c' then ['\\', 'f']
  else if c = '\n' then ['\\', 'n']
  else if c = '\r' then ['\\', 'r']
  else if c = '\t' then ['\\', 't']
  else if c.toNat < 0x20 then '\\' :: 'u' :: Text.hexText 4 c.toNat
  else [c]

/-- A text in quotation marks. A text without content is written as half of a surrogate pair. -/
def quoted : Option String → List Char
  | some s => '"' :: s.toList.flatMap escape ++ ['"']
  | none => "\"\\ud800\"".toList

mutual

/-- The compact text of a value. -/
def compact : Json → List Char
  | .null => "null".toList
  | .bool true => "true".toList
  | .bool false => "false".toList
  | .number literal => literal
  | .text content => quoted content
  | .array items => '[' :: compactItems items ++ [']']
  | .object fields => '\x7b' :: compactFields fields ++ ['\x7d']

/-- The items of an array, with commas between them. -/
def compactItems : List Json → List Char
  | [] => []
  | [item] => compact item
  | item :: items => compact item ++ ',' :: compactItems items

/-- The fields of a record, with commas between them. -/
def compactFields : List (Option String × Json) → List Char
  | [] => []
  | [(name, value)] => quoted name ++ ':' :: compact value
  | (name, value) :: fields => quoted name ++ ':' :: compact value ++ ',' :: compactFields fields

end

/-- The compact text of a value as a string. -/
def render (j : Json) : String :=
  String.ofList j.compact

end Json

end LedgerWatch
