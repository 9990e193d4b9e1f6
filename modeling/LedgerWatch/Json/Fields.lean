import LedgerWatch.Identity.Text
import LedgerWatch.Json.Value

/-!
# Fields of records

How typed values are taken out of JSON. A record is written as an object, whose unknown fields are
ignored and whose known fields stand at most once, or as an array of the values of its fields in
order.
-/

namespace LedgerWatch.Json

/-- The names of a record's fields, if every one of them has content. -/
def named? (fields : List (Option String × Json)) : Option (List (String × Json)) :=
  fields.mapM fun f => f.1.map fun name => (name, f.2)

/-- The value of the field with a name: absent, present once, or an error when it stands twice. -/
def field? (fields : List (String × Json)) (name : String) : Option (Option Json) :=
  match fields.filter fun f => f.1 = name with
  | [] => some none
  | [f] => some (some f.2)
  | _ => none

/--
The values of a record's fields in the order of their names; `none` for an absent one. In an array
at least the first `least` fields are present.
-/
def fields? (names : List String) (least : Nat) : Json → Option (List (Option Json))
  | .object fields => (named? fields).bind fun fields => names.mapM (field? fields)
  | .array items =>
    if least ≤ items.length ∧ items.length ≤ names.length then
      some (items.map some ++ List.replicate (names.length - items.length) none)
    else none
  | _ => none

/-- A field that has to be there. -/
def required {α : Type} (decode : Json → Option α) (value : Option Json) : Option α :=
  value.bind decode

/-- A field that may be absent or null. -/
def optional {α : Type} (decode : Json → Option α) : Option Json → Option (Option α)
  | none => some none
  | some .null => some none
  | some value => (decode value).map some

/-- An integer between `low` and `high`, written as an integer and not as minus zero. -/
def integer? (low high : Int) : Json → Option Int
  | .number literal =>
    if literal = ['-', '0'] then none else (Text.readInteger low high literal).toOption
  | _ => none

/-- A number of 64 bits. -/
def word? (j : Json) : Option Nat :=
  (integer? 0 Text.maxWord j).map Int.toNat

/-- A signed number of 32 bits. -/
def int32? (j : Json) : Option Int32 :=
  (integer? Int32.minValue.toInt Int32.maxValue.toInt j).map Int32.ofInt

/-- An identifier. -/
def identifier? {subject : Subject} : Json → Option (Identifier subject)
  | .text (some s) => Identifier.ofText? s
  | _ => none

/-- An array, item by item. -/
def list? {α : Type} (decode : Json → Option α) : Json → Option (List α)
  | .array items => items.mapM decode
  | _ => none

/-- The JSON text of an identifier. -/
def ofIdentifier {subject : Subject} (id : Identifier subject) : Json :=
  .ofString id.text

/-- The JSON number of a 32-bit integer. -/
def ofInt32 (n : Int32) : Json :=
  .ofInt n.toInt

/-- A value that may be absent, as null when it is. -/
def ofOption {α : Type} (encode : α → Json) : Option α → Json
  | none => .null
  | some value => encode value

end LedgerWatch.Json
