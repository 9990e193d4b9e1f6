import LedgerWatch.Proofs.Settings.Denoting

/-!
# Writing the values of settings

The texts that write a value, said without reading: for every type but the floating-point numbers.
Whatever blanks stand around such a text, it is read as the value that it writes.
-/

namespace LedgerWatch

namespace Text

/-- Blanks that stay on a line. -/
structure Padding (cs : List Char) : Prop where
  blank : Blanks cs
  inline : '\n' ∉ cs

instance (cs : List Char) : Decidable (Padding cs) :=
  decidable_of_iff (Blanks cs ∧ '\n' ∉ cs) ⟨fun h => ⟨h.1, h.2⟩, fun h => ⟨h.blank, h.inline⟩⟩

/-- Nothing visible stands in padding. -/
lemma Padding.notMem {cs : List Char} {c : Char} (padding : Padding cs)
    (visible : isBlank c = false) : c ∉ cs := by
  intro mem
  rw [padding.blank c mem] at visible
  cases visible

lemma padding_nil : Padding [] :=
  ⟨blanks_nil, List.not_mem_nil⟩

/-- Padding without its carriage return is padding. -/
lemma Padding.dropReturn {cs : List Char} (padding : Padding cs) : Padding (dropReturn cs) where
  blank c mem := padding.blank c (mem_of_mem_dropReturn mem)
  inline mem := padding.inline (mem_of_mem_dropReturn mem)

/-- There is no line feed where nothing is blank. -/
lemma notMem_of_not_blank {cs : List Char} (inside : ∀ c ∈ cs, isBlank c = false) : '\n' ∉ cs :=
  fun mem => absurd (inside '\n' mem) (by decide)

end Text

namespace SettingValue

open Text (Decimal Padding Trimmed)

/-- A text that can be an item of a list: without commas, line feeds and outer blanks. -/
structure Listable (item : String) : Prop where
  trimmed : Trimmed item.toList
  whole : ',' ∉ item.toList
  inline : '\n' ∉ item.toList

instance (item : String) : Decidable (Listable item) :=
  decidable_of_iff (Trimmed item.toList ∧ ',' ∉ item.toList ∧ '\n' ∉ item.toList)
    ⟨fun h => ⟨h.1, h.2.1, h.2.2⟩, fun h => ⟨h.trimmed, h.whole, h.inline⟩⟩

/-- A text joins items by commas, with blanks around them. -/
inductive Joins : List String → List Char → Prop where
  | nil {blanks : List Char} :
    Padding blanks →
    Joins [] blanks
  | last {item : String} {front back : List Char} :
    Padding front →
    Padding back →
    Joins [item] (front ++ (item.toList ++ back))
  | cons {item next : String} {items : List String} {front back text : List Char} :
    Padding front →
    Padding back →
    Joins (next :: items) text →
    Joins (item :: next :: items) (front ++ (item.toList ++ back) ++ ',' :: text)

/-- A text writes a value. -/
inductive Writes : SettingValue → List Char → Prop where
  | string {value : String} :
    Trimmed value.toList →
    '\n' ∉ value.toList →
    Writes (.string value) value.toList
  | boolean {value : Bool} {text : List Char} :
    Text.alike text (if value then "true" else "false").toList = true →
    Writes (.boolean value) text
  | int {value : Int32} {text : List Char} :
    Decimal value.toInt text →
    Writes (.int value) text
  | short {value : Int16} {text : List Char} :
    Decimal value.toInt text →
    Writes (.short value) text
  | long {value : Int64} {text : List Char} :
    Decimal value.toInt text →
    Writes (.long value) text
  | list {items : List String} {text : List Char} :
    items ≠ [""] →
    (∀ item ∈ items, Listable item) →
    Joins items text →
    Writes (.list items) text
  | kind {name : String} :
    name ≠ "" →
    (∀ c ∈ name.toList, Text.isBlank c = false) →
    Writes (.kind name) name.toList

variable {items : List String} {text cs front back : List Char} {value : SettingValue}

/-! ### Lists -/

/-- An item is what is left of its part of the text. -/
lemma Listable.trim_padded {item : String} (listable : Listable item) (before : Padding front)
    (behind : Padding back) : Text.trim (front ++ (item.toList ++ back)) = item.toList := by
  rw [Text.trim_append_left before.blank, Text.trim_append_right behind.blank]
  exact listable.trimmed

/-- Padding around an item brings no comma. -/
lemma Listable.comma_notMem {item : String} (listable : Listable item) (before : Padding front)
    (behind : Padding back) : ',' ∉ front ++ (item.toList ++ back) := by
  have visible : Text.isBlank ',' = false := by decide
  simp [before.notMem visible, behind.notMem visible, listable.whole]

/-- The items are found between the commas. -/
lemma Joins.map_trim_splitAt (joins : Joins items text) (listable : ∀ item ∈ items, Listable item)
    (some : items ≠ []) : (Text.splitAt ',' text).map Text.trim = items.map String.toList := by
  induction joins with
  | nil => exact absurd rfl some
  | last before behind =>
    have item := listable _ List.mem_cons_self
    rw [Text.splitAt_of_notMem (item.comma_notMem before behind), List.map_singleton,
      item.trim_padded before behind, List.map_singleton]
  | cons before behind _ ih =>
    obtain ⟨item, others⟩ := List.forall_mem_cons.1 listable
    rw [Text.splitAt_separator (item.comma_notMem before behind), List.map_cons,
      item.trim_padded before behind, ih others (List.cons_ne_nil _ _)]
    rfl

/-- The items that a text joins are read back, unless there is only an empty one. -/
lemma itemsOf_trim_of_joins (joins : Joins items text) (listable : ∀ item ∈ items, Listable item)
    (other : items ≠ [""]) : itemsOf (Text.trim text) = items := by
  by_cases none : items = []
  · subst none
    cases joins with
    | nil padding =>
      rw [Text.trim_of_blanks padding.blank]
      rfl
  · have parts : (Text.splitAt ',' (Text.trim text)).map Text.trim = items.map String.toList := by
      rw [Text.map_trim_splitAt_trim (by decide), joins.map_trim_splitAt listable none]
    have read : (Text.splitAt ',' (Text.trim text)).map (fun part => String.ofList (Text.trim part))
        = items := by
      have back := congrArg (List.map String.ofList) parts
      simpa [Function.comp_def] using back
    -- Only the list of one empty item is written like the list without items.
    have filled : Text.trim text ≠ [] := by
      intro empty
      rw [empty] at read
      exact other read.symm
    rw [itemsOf, if_neg (by rwa [List.isEmpty_iff]), read]

/-- Items that are joined stay on the line. -/
lemma Joins.inline (joins : Joins items text) (listable : ∀ item ∈ items, Listable item) :
    '\n' ∉ text := by
  induction joins with
  | nil padding => exact padding.inline
  | last before behind =>
    have item := listable _ List.mem_cons_self
    simp [before.inline, item.inline, behind.inline]
  | cons before behind _ ih =>
    obtain ⟨item, others⟩ := List.forall_mem_cons.1 listable
    simp [before.inline, item.inline, behind.inline, ih others]

/-! ### Values -/

/-- There are no blanks in a truth value. -/
lemma not_blank_of_alike_bool {value : Bool}
    (alike : Text.alike cs (if value then "true" else "false").toList = true) :
    ∀ c ∈ cs, Text.isBlank c = false :=
  Text.not_blank_of_alike alike (by cases value <;> decide)

/-- What writes a value denotes it, whatever blanks stand around it. -/
lemma Writes.denotes (writes : Writes value text) :
    Denotes value.type (Text.trim text) value := by
  cases writes with
  | @string value trimmed _ =>
    have same : Text.trim value.toList = value.toList := trimmed
    have denotes := @Denotes.string value.toList
    rw [String.ofList_toList] at denotes
    rwa [same]
  | boolean alike =>
    rw [Text.trim_eq_self (not_blank_of_alike_bool alike)]
    exact .boolean alike
  | int written =>
    rw [Text.trim_eq_self written.not_blank]
    exact .int written
  | short written =>
    rw [Text.trim_eq_self written.not_blank]
    exact .short written
  | long written =>
    rw [Text.trim_eq_self written.not_blank]
    exact .long written
  | list other listable joins =>
    have denotes := denotes_itemsOf (Text.trim text)
    rwa [itemsOf_trim_of_joins joins listable other] at denotes
  | @kind name some inside =>
    have filled : name.toList ≠ [] := by simpa using some
    have denotes := Denotes.kind filled inside
    rw [String.ofList_toList] at denotes
    rwa [Text.trim_eq_self inside]

/-- A text that writes a value is read as the value. -/
theorem Writes.ofText?_trim (writes : Writes value text) :
    ofText? value.type (Text.trim text) = some value :=
  ofText?_eq_some_iff.2 writes.denotes

/-- A text that writes a value stays on its line. -/
lemma Writes.inline (writes : Writes value text) : '\n' ∉ text := by
  cases writes with
  | string _ inline => exact inline
  | boolean alike => exact Text.notMem_of_not_blank (not_blank_of_alike_bool alike)
  | int written | short written | long written => exact Text.notMem_of_not_blank written.not_blank
  | list _ listable joins => exact joins.inline listable
  | kind _ inside => exact Text.notMem_of_not_blank inside

end SettingValue

end LedgerWatch
