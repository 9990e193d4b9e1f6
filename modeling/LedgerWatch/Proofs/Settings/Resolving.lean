import LedgerWatch.Proofs.Settings.Denoting

/-!
# What settings are resolved to

The entries of a schema are resolved one after another from the properties of a watcher. An entry is
filled by its property, or by its default where there is no property; it fails if the text of its
property denotes no value, and if there is neither property nor default. All entries filled, each
key has what its last entry is filled with; otherwise the first entry that fails says why
(`resolves_or_fails_first`).
-/

namespace LedgerWatch.Schema

open SettingValue (Denotes expectation)

variable {watcher key raw : String} {properties : Properties} {settings settings' : Settings}
  {entry other : SchemaEntry} {entries : List SchemaEntry} {value value' : SettingValue}
  {err err' : SettingsError}

/-- A value fills an entry: that of its property, or its default if there is no property. -/
inductive Fills (watcher : String) (properties : Properties) (entry : SchemaEntry) :
    SettingValue → Prop where
  | property {raw : String} {value : SettingValue} :
    properties.get? (propertyName watcher entry.key) = some raw →
    Denotes entry.type (Text.trim raw.toList) value →
    Fills watcher properties entry value
  | default {value : SettingValue} :
    properties.get? (propertyName watcher entry.key) = none →
    entry.default? = some value →
    Fills watcher properties entry value

/-- Why nothing fills an entry. -/
inductive Fails (watcher : String) (properties : Properties) (entry : SchemaEntry) :
    SettingsError → Prop where
  | missing :
    properties.get? (propertyName watcher entry.key) = none →
    entry.default? = none →
    Fails watcher properties entry (.missingProperty (propertyName watcher entry.key))
  | invalid {raw : String} :
    properties.get? (propertyName watcher entry.key) = some raw →
    (∀ value, ¬Denotes entry.type (Text.trim raw.toList) value) →
    Fails watcher properties entry (.invalidValue entry.key raw (expectation entry.type))

/-- The first entry that nothing fills. -/
inductive FailsFirst (watcher : String) (properties : Properties) :
    List SchemaEntry → SettingsError → Prop where
  | here {entry : SchemaEntry} {entries : List SchemaEntry} {err : SettingsError} :
    Fails watcher properties entry err →
    FailsFirst watcher properties (entry :: entries) err
  | later {entry : SchemaEntry} {entries : List SchemaEntry} {value : SettingValue}
      {err : SettingsError} :
    Fills watcher properties entry value →
    FailsFirst watcher properties entries err →
    FailsFirst watcher properties (entry :: entries) err

/-- The last entry that declares a key. -/
inductive Last (key : String) : List SchemaEntry → SchemaEntry → Prop where
  | here {entry : SchemaEntry} {entries : List SchemaEntry} :
    entry.key = key →
    key ∉ entries.map SchemaEntry.key →
    Last key (entry :: entries) entry
  | later {entry other : SchemaEntry} {entries : List SchemaEntry} :
    Last key entries entry →
    Last key (other :: entries) entry

/-! ### One entry -/

/-- An entry is resolved to the value that fills it. -/
lemma resolveEntry_eq_ok_iff :
    resolveEntry watcher properties entry = .ok value ↔ Fills watcher properties entry value := by
  rw [resolveEntry]
  constructor
  case mp =>
    intro resolved
    split at resolved
    case h_1 raw found => exact .property found (SettingValue.parse_eq_ok_iff.1 resolved)
    case h_2 absent =>
      split at resolved
      case h_1 value given =>
        cases resolved
        exact .default absent given
      case h_2 => cases resolved
  case mpr =>
    intro fills
    cases fills with
    | property found denotes =>
      rw [found]
      exact SettingValue.parse_eq_ok_iff.2 denotes
    | default absent given => rw [absent, given]

/-- An entry fails with what is wrong with its property. -/
lemma resolveEntry_eq_error_iff :
    resolveEntry watcher properties entry = .error err ↔ Fails watcher properties entry err := by
  rw [resolveEntry]
  constructor
  case mp =>
    intro resolved
    split at resolved
    case h_1 raw found =>
      obtain ⟨rfl, none⟩ := SettingValue.parse_eq_error_iff.1 resolved
      exact .invalid found none
    case h_2 absent =>
      split at resolved
      case h_1 => cases resolved
      case h_2 none =>
        cases resolved
        exact .missing absent none
  case mpr =>
    intro fails
    cases fails with
    | missing absent none => rw [absent, none]
    | invalid found none =>
      rw [found]
      exact SettingValue.parse_eq_error_iff.2 ⟨rfl, none⟩

/-- An entry is filled with one value. -/
lemma Fills.unique (fills : Fills watcher properties entry value)
    (fills' : Fills watcher properties entry value') : value' = value := by
  rw [← resolveEntry_eq_ok_iff] at fills fills'
  exact Except.ok.inj (fills'.symm.trans fills)

/-- A value has the type of the entry that it fills, if the default does. -/
lemma Fills.type_eq (fills : Fills watcher properties entry value)
    (typed : ∀ value, entry.default? = some value → value.type = entry.type) :
    value.type = entry.type := by
  cases fills with
  | property _ denotes => exact denotes.type_eq
  | default _ given => exact typed _ given

/-- Something fills an entry, or it fails. -/
lemma fills_or_fails (watcher : String) (properties : Properties) (entry : SchemaEntry) :
    (∃ value, Fills watcher properties entry value) ∨
      ∃ err, Fails watcher properties entry err := by
  cases resolved : resolveEntry watcher properties entry with
  | ok value => exact .inl ⟨value, resolveEntry_eq_ok_iff.1 resolved⟩
  | error err => exact .inr ⟨err, resolveEntry_eq_error_iff.1 resolved⟩

/-- An entry that fails is not filled. -/
lemma Fails.not_fills (fails : Fails watcher properties entry err) :
    ¬Fills watcher properties entry value := by
  intro fills
  rw [← resolveEntry_eq_ok_iff, resolveEntry_eq_error_iff.2 fails] at fills
  cases fills

/-- There is one thing that is wrong with an entry. -/
lemma Fails.unique (fails : Fails watcher properties entry err)
    (fails' : Fails watcher properties entry err') : err' = err := by
  rw [← resolveEntry_eq_error_iff] at fails fails'
  exact Except.error.inj (fails'.symm.trans fails)

/-! ### The last entry of a key -/

/-- Every key that is declared has a last entry. -/
lemma exists_last (declared : key ∈ entries.map SchemaEntry.key) :
    ∃ entry, Last key entries entry := by
  induction entries with
  | nil => cases declared
  | cons entry entries ih =>
    by_cases again : key ∈ entries.map SchemaEntry.key
    · obtain ⟨last, found⟩ := ih again
      exact ⟨last, .later found⟩
    · rcases List.mem_cons.1 declared with rfl | later
      · exact ⟨entry, .here rfl again⟩
      · exact absurd later again

/-- The last entry of a key is one of the entries. -/
lemma Last.mem (last : Last key entries entry) : entry ∈ entries := by
  induction last with
  | here => exact List.mem_cons_self
  | later _ ih => exact List.mem_cons_of_mem _ ih

/-! ### All entries -/

/-- What fills the first entry is put under its key, and the others follow. -/
lemma resolveFrom_of_fills (settings : Settings) (fills : Fills watcher properties entry value) :
    resolveFrom watcher properties settings (entry :: entries)
      = resolveFrom watcher properties (settings.insert entry.key value) entries := by
  rw [resolveFrom, resolveEntry_eq_ok_iff.2 fills]

/-- The first entry that fails is what is told. -/
lemma resolveFrom_of_fails (settings : Settings) (fails : Fails watcher properties entry err) :
    resolveFrom watcher properties settings (entry :: entries) = .error err := by
  rw [resolveFrom, resolveEntry_eq_error_iff.2 fails]

/-- Settings are resolved exactly if every entry is filled. -/
lemma exists_resolveFrom_iff (settings : Settings) :
    (∃ settings', resolveFrom watcher properties settings entries = .ok settings') ↔
      ∀ entry ∈ entries, ∃ value, Fills watcher properties entry value := by
  induction entries generalizing settings with
  | nil => exact ⟨fun _ => nofun, fun _ => ⟨settings, rfl⟩⟩
  | cons entry entries ih =>
    rw [List.forall_mem_cons]
    rcases fills_or_fails watcher properties entry with ⟨value, fills⟩ | ⟨err, fails⟩
    · rw [resolveFrom_of_fills settings fills, ih]
      exact ⟨fun others => ⟨⟨value, fills⟩, others⟩, And.right⟩
    · rw [resolveFrom_of_fails settings fails]
      constructor
      · rintro ⟨settings', resolved⟩
        cases resolved
      · rintro ⟨⟨value, fills⟩, -⟩
        exact absurd fills fails.not_fills

/-- Resolving ends with the first entry that fails. -/
lemma resolveFrom_eq_error_iff (settings : Settings) :
    resolveFrom watcher properties settings entries = .error err ↔
      FailsFirst watcher properties entries err := by
  induction entries generalizing settings with
  | nil =>
    constructor
    · intro failed
      cases failed
    · intro first
      cases first
  | cons entry entries ih =>
    rcases fills_or_fails watcher properties entry with ⟨value, fills⟩ | ⟨err', fails⟩
    · rw [resolveFrom_of_fills settings fills, ih]
      constructor
      · exact .later fills
      · intro first
        cases first with
        | here fails => exact absurd fills fails.not_fills
        | later _ first => exact first
    · rw [resolveFrom_of_fails settings fails, Except.error.injEq]
      constructor
      · rintro rfl
        exact .here fails
      · intro first
        cases first with
        | here fails' => exact fails'.unique fails
        | later fills _ => exact absurd fills fails.not_fills

/-- A key that is declared has what its last entry is filled with, any other key what it had. -/
lemma get?_resolveFrom
    (resolved : resolveFrom watcher properties settings entries = .ok settings') (key : String) :
    (∀ entry, Last key entries entry →
      ∃ value, settings'.get? key = some value ∧ Fills watcher properties entry value) ∧
    (key ∉ entries.map SchemaEntry.key → settings'.get? key = settings.get? key) := by
  induction entries generalizing settings with
  | nil =>
    cases resolved
    exact ⟨nofun, fun _ => rfl⟩
  | cons entry entries ih =>
    rcases fills_or_fails watcher properties entry with ⟨value, fills⟩ | ⟨err, fails⟩
    · rw [resolveFrom_of_fills settings fills] at resolved
      obtain ⟨declared, undeclared⟩ := ih resolved
      constructor
      · intro last found
        cases found with
        | here same none =>
          subst same
          exact ⟨value, (undeclared none).trans (settings.get?_insert_self _ value), fills⟩
        | later found => exact declared last found
      · intro absent
        rw [List.map_cons, List.mem_cons, not_or] at absent
        rw [undeclared absent.2, settings.get?_insert, if_neg absent.1]
    · rw [resolveFrom_of_fails settings fails] at resolved
      cases resolved

/-- Every default has the type that its entry declares. -/
def Typed (schema : Schema) : Prop :=
  ∀ entry ∈ schema.entries, ∀ value, entry.default? = some value → value.type = entry.type

/--
Settings are resolved exactly if every entry of the schema is filled. The keys of the settings are
then the keys of the schema; each has what fills its last entry, and this is of the type of the
entry if the defaults are of theirs. Otherwise the first entry that fails says why.
-/
theorem resolves_or_fails_first (schema : Schema) (watcher : String) (properties : Properties) :
    ((∃ settings, schema.resolve watcher properties = .ok settings) ↔
      ∀ entry ∈ schema.entries, ∃ value, Fills watcher properties entry value) ∧
    (∀ settings, schema.resolve watcher properties = .ok settings →
      (∀ key, settings.contains key = true ↔ key ∈ schema.entries.map SchemaEntry.key) ∧
      ∀ key entry, Last key schema.entries entry → ∀ value,
        (settings.get? key = some value ↔ Fills watcher properties entry value) ∧
        (settings.get? key = some value → schema.Typed → value.type = entry.type)) ∧
    (∀ err, schema.resolve watcher properties = .error err ↔
      FailsFirst watcher properties schema.entries err) := by
  refine ⟨exists_resolveFrom_iff .empty, fun settings resolved => ⟨fun key => ?_, ?_⟩,
    fun err => resolveFrom_eq_error_iff .empty⟩
  · obtain ⟨declared, undeclared⟩ := get?_resolveFrom resolved key
    rw [Table.contains, Option.isSome_iff_exists]
    constructor
    · rintro ⟨value, found⟩
      by_contra absent
      rw [undeclared absent] at found
      cases found
    · intro there
      obtain ⟨entry, last⟩ := exists_last there
      obtain ⟨value, found, -⟩ := declared entry last
      exact ⟨value, found⟩
  · intro key entry last value
    obtain ⟨held, found, fills⟩ := (get?_resolveFrom resolved key).1 entry last
    have same : settings.get? key = some value ↔ Fills watcher properties entry value := by
      rw [found, Option.some.injEq]
      constructor
      · rintro rfl
        exact fills
      · exact fun fills' => fills'.unique fills
    exact ⟨same, fun there typed => (same.1 there).type_eq (typed entry last.mem)⟩

/-- A key that is declared twice is read as its last entry says. -/
example : ((Schema.mk [⟨"key", .long, some (.long 7)⟩, ⟨"key", .string, none⟩]).resolve "north"
    (Properties.parse "sentinel.north.key = 1 ")).toOption
      = some (Table.ofList [("key", .string "1")]) := by
  decide +kernel

end LedgerWatch.Schema
