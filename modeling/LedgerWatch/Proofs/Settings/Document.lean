import LedgerWatch.Proofs.Settings.Reading
import LedgerWatch.Proofs.Settings.Writing

/-!
# Settings survive a properties text

A value is chosen for every key of a schema and written on a line of its own, in any order and among
other lines. From the properties of the text the settings of the schema are resolved that have the
chosen values, and no others (`Holds.resolves_choices`).

Two lines cannot give the same property, because the keys differ; and whether its line ends with the
text, at a line feed or at a carriage return and a line feed, a value is the same up to the blanks
around it, which are ignored when it is read.
-/

namespace LedgerWatch

namespace Schema

variable {watcher key key' : String}

/-- The property of a setting is made of the names of the watcher and the setting. -/
lemma toList_propertyName (watcher key : String) : (propertyName watcher key).toList
    = "sentinel.".toList ++ (watcher.toList ++ '.' :: key.toList) := by
  simp [propertyName]

/-- Different keys have different properties. -/
lemma propertyName_inj (same : propertyName watcher key = propertyName watcher key') :
    key = key' := by
  have texts := congrArg String.toList same
  rw [toList_propertyName, toList_propertyName] at texts
  have behind := List.append_cancel_left (List.append_cancel_left texts)
  exact String.toList_inj.1 (List.cons.inj behind).2

/-- A property can be a key when its parts can. -/
lemma plain_propertyName (named : Properties.Plain watcher.toList)
    (plain : Properties.Plain key.toList) :
    Properties.Plain (propertyName watcher key).toList := by
  have first : Properties.Plain "sentinel.".toList := by decide
  rw [toList_propertyName]
  intro c mem
  rcases List.mem_append.1 mem with mem | mem
  · exact first c mem
  · rcases List.mem_append.1 mem with mem | mem
    · exact named c mem
    · rcases List.mem_cons.1 mem with rfl | mem
      · decide
      · exact plain c mem

end Schema

namespace Settings

open Properties (Plain Opens Gives entry? gist?)
open Text (Lays)

/-- A value that is chosen for a declared key, and a text that writes it. -/
structure Choice where
  entry : SchemaEntry
  value : SettingValue
  text : List Char
  plain : Plain entry.key.toList
  typed : value.type = entry.type
  writes : value.Writes text

namespace Choice

/-- The property that a choice is written for. -/
def property (watcher : String) (choice : Choice) : String :=
  Schema.propertyName watcher choice.entry.key

/-- The line of a choice. -/
def line (watcher : String) (choice : Choice) : List Char :=
  (choice.property watcher).toList ++ '=' :: choice.text

end Choice

/-- A line is blank, is a comment, or gives another key than the names. -/
inductive Aside (names : List String) (line : List Char) : Prop where
  | silent :
    Gives line none →
    Aside names line
  | other {key rest : List Char} :
    Gives line (some (key, rest)) →
    String.ofList key ∉ names →
    Aside names line

/-- What stands on a line. -/
inductive Row where
  | setting (choice : Choice)
  | aside (line : List Char)

namespace Row

/-- The line itself. -/
def line (watcher : String) : Row → List Char
  | .setting choice => choice.line watcher
  | .aside line => line

/-- The choice on a line. -/
def choice? : Row → Option Choice
  | .setting choice => some choice
  | .aside _ => none

end Row

/-- A text holds choices: each stands on one line, and the other lines do not touch them. -/
structure Holds (watcher : String) (choices : List Choice) (rows : List Row) (text : String) :
    Prop where
  once : (rows.filterMap Row.choice?).Perm choices
  others : ∀ line, Row.aside line ∈ rows → Aside (choices.map (Choice.property watcher)) line
  inline : ∀ line, Row.aside line ∈ rows → '\n' ∉ line
  laid : Lays (rows.map (Row.line watcher)) text.toList

variable {watcher text : String} {choice other : Choice} {choices : List Choice} {rows : List Row}
  {names : List String} {line : List Char} {e : String × String}

/-! ### Lines -/

/-- The line of a choice gives its property, and its text after the equals sign. -/
lemma Choice.gives (named : Plain watcher.toList) (choice : Choice) :
    Gives (choice.line watcher)
      (some ((choice.property watcher).toList, '=' :: choice.text)) := by
  have opens : Opens ((choice.property watcher).toList ++ '=' :: choice.text) := by
    rw [Choice.property, Schema.toList_propertyName]
    exact ⟨'s', _, rfl, by decide, by decide, by decide⟩
  exact .entry Text.blanks_nil (Schema.plain_propertyName named choice.plain)
    (Properties.follows_equals choice.text) opens

/-- The line of a choice gives the text of its value under its property. -/
lemma Choice.gist?_line (named : Plain watcher.toList) (choice : Choice) :
    gist? (choice.line watcher)
      = some (choice.property watcher, String.ofList (Text.trim choice.text)) := by
  have value : Properties.valueAfter ('=' :: choice.text) = Text.trimStart choice.text :=
    Properties.valueAfter_append Text.blanks_nil (by decide)
  rw [(choice.gives named).gist, Option.map_some, value, Text.trim_trimStart, String.ofList_toList]

/-- A choice is written on one line. -/
lemma Choice.inline (named : Plain watcher.toList) (choice : Choice) :
    '\n' ∉ choice.line watcher := by
  have name : '\n' ∉ (choice.property watcher).toList := fun mem =>
    absurd (Schema.plain_propertyName named choice.plain '\n' mem) (by decide)
  simp [Choice.line, name, choice.writes.inline]

/-- A line aside gives none of the properties. -/
lemma Aside.not_mem (aside : Aside names line) (given : gist? line = some e) : e.1 ∉ names := by
  cases aside with
  | silent silent =>
    rw [silent.gist] at given
    cases given
  | other other apart =>
    rw [other.gist] at given
    cases given
    exact apart

/-! ### Properties -/

/-- A row with a choice on it stands for the choice. -/
lemma Holds.mem_rows_iff (holds : Holds watcher choices rows text) :
    Row.setting choice ∈ rows ↔ choice ∈ choices := by
  rw [← holds.once.mem_iff, List.mem_filterMap]
  constructor
  · exact fun mem => ⟨.setting choice, mem, rfl⟩
  · rintro ⟨row, mem, found⟩
    cases row with
    | setting _ =>
      cases found
      exact mem
    | aside _ => cases found

/-- No row reaches beyond its line. -/
lemma Holds.inline_rows (holds : Holds watcher choices rows text) (named : Plain watcher.toList) :
    ∀ line ∈ rows.map (Row.line watcher), '\n' ∉ line := by
  intro line mem
  obtain ⟨row, among, rfl⟩ := List.mem_map.1 mem
  cases row with
  | setting choice => exact choice.inline named
  | aside line => exact holds.inline line among

/-- What the lines of the text give for the properties of choices are the texts of the choices. -/
lemma Holds.mem_entries_iff (holds : Holds watcher choices rows text)
    (named : Plain watcher.toList) (there : e.1 ∈ choices.map (Choice.property watcher)) :
    e ∈ (Text.lines text.toList).filterMap gist? ↔
      ∃ choice ∈ choices, e = (choice.property watcher, String.ofList (Text.trim choice.text)) := by
  rw [Properties.filterMap_gist?_lines holds.laid (holds.inline_rows named)]
  simp only [List.mem_filterMap, List.mem_map, exists_exists_and_eq_and]
  constructor
  case mp =>
    rintro ⟨row, mem, given⟩
    cases row with
    | setting choice =>
      have line : some _ = some e := (choice.gist?_line named).symm.trans given
      exact ⟨choice, holds.mem_rows_iff.1 mem, (Option.some.inj line).symm⟩
    | aside line => exact absurd there ((holds.others line mem).not_mem given)
  case mpr =>
    rintro ⟨choice, mem, rfl⟩
    exact ⟨.setting choice, holds.mem_rows_iff.2 mem, choice.gist?_line named⟩

/-- Under the property of a choice stands its text, perhaps with other blanks around it. -/
lemma Holds.get?_property (holds : Holds watcher choices rows text) (named : Plain watcher.toList)
    (distinct : (choices.map (·.entry.key)).Nodup) (mem : choice ∈ choices) :
    ∃ raw, (Properties.parse text).get? (choice.property watcher) = some raw ∧
      Text.trimmed raw = String.ofList (Text.trim choice.text) := by
  have among : choice.property watcher ∈ choices.map (Choice.property watcher) :=
    List.mem_map_of_mem mem
  have entries : (Text.lines text.toList).filterMap gist?
      = ((Text.lines text.toList).filterMap entry?).map fun e => (e.1, Text.trimmed e.2) :=
    List.map_filterMap.symm
  refine Table.exists_get?_ofList ?_ ?_
  · have given := (holds.mem_entries_iff named among).2 ⟨choice, mem, rfl⟩
    rw [entries] at given
    obtain ⟨e, there, same⟩ := List.mem_map.1 given
    exact ⟨e, there, congrArg Prod.fst same⟩
  · intro e there key
    have given : (e.1, Text.trimmed e.2) ∈ (Text.lines text.toList).filterMap gist? := by
      rw [entries]
      exact List.mem_map_of_mem there
    obtain ⟨other, mem', same⟩ := (holds.mem_entries_iff named (key ▸ among)).1 given
    -- Another line with this property would be that of a choice for the same key.
    have key' := Schema.propertyName_inj (key.symm.trans (congrArg Prod.fst same))
    obtain rfl := List.inj_on_of_nodup_map distinct mem mem' key'
    exact congrArg Prod.snd same

/-! ### Settings -/

/-- The value of a choice is resolved for its key. -/
lemma Holds.resolveEntry (holds : Holds watcher choices rows text) (named : Plain watcher.toList)
    (distinct : (choices.map (·.entry.key)).Nodup) (mem : choice ∈ choices) :
    Schema.resolveEntry watcher (Properties.parse text) choice.entry = .ok choice.value := by
  obtain ⟨raw, found, written⟩ := holds.get?_property named distinct mem
  rw [Choice.property] at found
  have read : SettingValue.ofText? choice.entry.type (Text.trim raw.toList)
      = some choice.value := by
    rw [Text.trimmed, String.ofList_inj] at written
    rw [written, ← choice.typed]
    exact choice.writes.ofText?_trim
  simp only [Schema.resolveEntry, found, SettingValue.parse, read]

/-- Entries that are each resolved are resolved one after another. -/
lemma resolveFrom_of_forall {properties : Properties} (settings : Settings)
    (each : ∀ choice ∈ choices,
      Schema.resolveEntry watcher properties choice.entry = .ok choice.value) :
    Schema.resolveFrom watcher properties settings (choices.map Choice.entry)
      = .ok (choices.foldl (fun t choice => t.insert choice.entry.key choice.value) settings) := by
  induction choices generalizing settings with
  | nil => rfl
  | cons choice choices ih =>
    obtain ⟨first, others⟩ := List.forall_mem_cons.1 each
    rw [List.map_cons, Schema.resolveFrom, first, List.foldl_cons]
    exact ih _ others

/--
Whatever is chosen for the keys of a schema, and however it is laid out in a text of properties,
exactly these settings are resolved from the text.
-/
theorem Holds.resolves_choices {schema : Schema} (holds : Holds watcher choices rows text)
    (declared : schema.entries = choices.map Choice.entry)
    (distinct : (schema.entries.map SchemaEntry.key).Nodup) (named : Plain watcher.toList) :
    ∃ settings, schema.resolve watcher (Properties.parse text) = .ok settings ∧
      ∀ key value, settings.get? key = some value ↔
        ∃ choice ∈ choices, choice.entry.key = key ∧ choice.value = value := by
  rw [declared, List.map_map] at distinct
  have each (choice : Choice) (mem : choice ∈ choices) := holds.resolveEntry named distinct mem
  let entries := choices.map fun choice => (choice.entry.key, choice.value)
  have distinct' : (entries.map Prod.fst).Nodup := by
    rwa [List.map_map]
  refine ⟨Table.ofList entries, ?_, ?_⟩
  · rw [Schema.resolve, declared, resolveFrom_of_forall .empty each, Table.ofList, List.foldl_map]
  · intro key value
    rw [Table.get?_ofList_eq_some_iff distinct']
    simp only [entries, List.mem_map, Prod.mk.injEq]

namespace Harbour

def title : Choice where
  entry := ⟨"title", .string, none⟩
  value := .string "=x"
  text := "=x".toList
  plain := by decide
  typed := rfl
  writes := .string (by decide) (by decide)

def limit : Choice where
  entry := ⟨"limit", .long, some (.long 7)⟩
  value := .long (-300)
  text := Text.intText (-300 : Int64).toInt
  plain := by decide
  typed := rfl
  writes := .long (Text.decimal_intText _)

/-- A text may join an item and an empty one. -/
lemma joins_tags : SettingValue.Joins ["a", ""] " a ,".toList := by
  have space : Text.Padding [' '] := by decide
  have none : Text.Padding [] := by decide
  exact .cons space space (.last none none)

def tags : Choice where
  entry := ⟨"tags", .list, none⟩
  value := .list ["a", ""]
  text := " a ,".toList
  plain := by decide
  typed := rfl
  writes := .list (by decide) (by decide) joins_tags

def schema : Schema where
  entries := [title.entry, limit.entry, tags.entry]

def layout : List Row :=
  [.aside "# sentinel.north.limit=8".toList, .setting tags, .setting title, .aside "  ".toList,
    .aside "sentinel.south.limit=9".toList, .setting limit]

def sheet : List Char :=
  "# sentinel.north.limit=8".toList ++ '\n' ::
    (tags.line "north" ++ '\r' :: '\n' ::
      (title.line "north" ++ '\n' ::
        ("  ".toList ++ '\n' :: ("sentinel.south.limit=9".toList ++ '\n' :: limit.line "north"))))

/-- The lines are laid out in the sheet. -/
lemma lays_sheet : Lays (layout.map (Row.line "north")) sheet :=
  .feed (.returnFeed (.feed (.feed (.feed (.last (by decide))))))

/-- A comment gives nothing. -/
lemma aside_comment : Gives "# sentinel.north.limit=8".toList none :=
  .comment Text.blanks_nil (.inl rfl)

/-- The setting of another watcher gives a property of that watcher. -/
lemma aside_south :
    Gives "sentinel.south.limit=9".toList (some ("sentinel.south.limit".toList, "=9".toList)) := by
  have opens : Opens ("sentinel.south.limit".toList ++ "=9".toList) :=
    ⟨'s', _, rfl, by decide, by decide, by decide⟩
  exact .entry Text.blanks_nil (by decide) (Properties.follows_equals ['9']) opens

/-- The lines aside are a comment, a blank line and the setting of another watcher. -/
lemma eq_of_aside {line : List Char} (mem : Row.aside line ∈ layout) :
    line = "# sentinel.north.limit=8".toList ∨ line = "  ".toList ∨
      line = "sentinel.south.limit=9".toList := by
  simpa only [layout, List.mem_cons, List.not_mem_nil, reduceCtorEq, Row.aside.injEq, false_or,
    or_false] using mem

/-- The sheet holds the choices for the watcher. -/
lemma holds : Holds "north" [title, limit, tags] layout (String.ofList sheet) where
  once := (List.perm_append_comm : ([tags] ++ [title, limit]).Perm ([title, limit] ++ [tags]))
  others := by
    intro line mem
    rcases eq_of_aside mem with rfl | rfl | rfl
    · exact .silent aside_comment
    · exact .silent (.blank (by decide))
    · exact .other aside_south (by decide)
  inline := by
    intro line mem
    rcases eq_of_aside mem with rfl | rfl | rfl <;> decide
  laid := by
    rw [String.toList_ofList]
    exact lays_sheet

/-- The order of the keys does not matter, nor does the line of another watcher. -/
theorem resolves_choices_in_harbour :
    ∃ settings, schema.resolve "north" (Properties.parse (String.ofList sheet)) = .ok settings ∧
      settings.get? "title" = some (.string "=x") ∧
      settings.get? "limit" = some (.long (-300)) ∧
      settings.get? "tags" = some (.list ["a", ""]) := by
  have declared : schema.entries = [title, limit, tags].map Choice.entry := rfl
  obtain ⟨settings, resolved, iff⟩ := holds.resolves_choices declared (by decide) (by decide)
  refine ⟨settings, resolved, ?_, ?_, ?_⟩
  · exact (iff _ _).2 ⟨title, by simp, rfl, rfl⟩
  · exact (iff _ _).2 ⟨limit, by simp, rfl, rfl⟩
  · exact (iff _ _).2 ⟨tags, by simp, rfl, rfl⟩

end Harbour

end Settings

end LedgerWatch
