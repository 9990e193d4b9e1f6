import LedgerWatch.Settings.Schema
import LedgerWatch.Text.Quoted

/-!
# Catalogs

The kinds of watchers that a host can make, under their names.
-/

namespace LedgerWatch

/-- A kind of watchers: the settings that it needs, and the state of a new one. -/
structure Kind (σ : Type) where
  schema : Schema
  fresh : σ

/-- Kinds of watchers under their names. -/
abbrev Catalog (σ : Type) := Table (Kind σ)

namespace Catalog

variable {σ : Type}

/-- The names of the kinds, quoted, in ascending order. -/
def listing (catalog : Catalog σ) : String :=
  Text.quotedSet catalog.keys

/-- The first setting, in the order of keys, that names a kind which is not in the catalog. -/
def danglingKind? (catalog : Catalog σ) (settings : Settings) : Option (String × String) :=
  settings.entries.findSome? fun (key, value) =>
    match value with
    | .kind name => if catalog.contains name then none else some (key, name)
    | _ => none

/-- The property that names the kind of the watcher with a name. -/
def kindProperty (name : String) : String :=
  "sentinel." ++ name

/-- The kind of the watcher with a name, which its property names. -/
def kindOf (catalog : Catalog σ) (name : String) (properties : Properties) :
    Except SettingsError (Kind σ) :=
  match (properties.get? (kindProperty name)).map Text.trimmed with
  | none => .error (.missingProperty (kindProperty name))
  | some kind =>
    if kind.isEmpty then .error (.missingProperty (kindProperty name))
    else
      match catalog.get? kind with
      | some found => .ok found
      | none => .error (.unknownKind (kindProperty name) kind)

/-- The kind and the settings of the watcher with a name. -/
def configure (catalog : Catalog σ) (name : String) (properties : Properties) :
    Except SettingsError (Kind σ × Settings) := do
  let kind ← catalog.kindOf name properties
  let settings ← kind.schema.resolve name properties
  match catalog.danglingKind? settings with
  | some (key, missing) =>
    .error (.unknownKind (Schema.propertyName name key) missing)
  | none => return (kind, settings)

/-- The characters of a name that a property can give to a watcher. -/
def isNameChar (c : Char) : Bool :=
  c.isAlphanum || c = '_' || c = '-'

/-- The name of the watcher whose kind a property names, if it is a property of that form. -/
def watcherName? (property : String) : Option String :=
  let mark := "sentinel.".toList
  let cs := property.toList
  if mark.isPrefixOf cs then
    let name := cs.drop mark.length
    if !name.isEmpty && name.all isNameChar then some (String.ofList name) else none
  else none

/-- The names of the watchers whose kinds are named by properties, in ascending order. -/
def watcherNames (properties : Properties) : List String :=
  properties.keys.filterMap watcherName?

end Catalog

end LedgerWatch
