import LedgerWatch.Proofs.Text.Decimal
import LedgerWatch.Proofs.Text.Layout
import LedgerWatch.Settings.Schema

/-!
# What a text denotes as a value of a type

For each type of settings, the values that texts denote, said without reading; a text without outer
blanks is read as the value that it denotes, and refused if there is none (`ofText?_eq_some_iff`).
Only for floating-point numbers is the notation that of their reader.

A text denotes an integer of one width exactly if it denotes the same integer of every other width
that the integer fits into (`integers_keep_their_value`): no reader wraps around or stops at a
bound, because each looks at the integer that is written and compares it with its bounds.
-/

namespace LedgerWatch

namespace Text

variable {separator : Char} {cs digits part : List Char} {parts : List (List Char)} {i j : Int}

/-- The parts of a text, with separators between them and not in them. -/
inductive Parts (separator : Char) : List (List Char) → List Char → Prop where
  | last {part : List Char} :
    separator ∉ part →
    Parts separator [part] part
  | cons {part text : List Char} {parts : List (List Char)} :
    separator ∉ part →
    Parts separator parts text →
    Parts separator (part :: parts) (part ++ separator :: text)

/-- A text has the parts that it is split into. -/
lemma parts_splitAt (separator : Char) (cs : List Char) :
    Parts separator (splitAt separator cs) cs := by
  induction cs with
  | nil => exact .last List.not_mem_nil
  | cons c cs ih =>
    obtain ⟨part, parts, split⟩ := List.exists_cons_of_ne_nil (splitAt_ne_nil separator cs)
    rw [splitAt, split]
    rw [split] at ih
    by_cases same : c = separator
    · subst same
      simp only [if_true]
      exact .cons List.not_mem_nil ih
    · have apart {ds : List Char} (plain : separator ∉ ds) : separator ∉ c :: ds :=
        List.not_mem_cons_of_ne_of_not_mem (Ne.symm same) plain
      simp only [same, if_false]
      cases ih with
      | last plain => exact .last (apart plain)
      | cons plain rest => exact .cons (apart plain) rest

/-- There is one way to split a text. -/
lemma Parts.splitAt_eq (split : Parts separator parts cs) : splitAt separator cs = parts := by
  induction split with
  | last plain => exact splitAt_of_notMem plain
  | cons plain _ ih => rw [splitAt_separator plain, ih]

/-- A text writes at most one integer. -/
lemma Decimal.unique (written : Decimal i cs) (other : Decimal j cs) : i = j := by
  cases written with
  | @bare digits all =>
    cases other with
    | bare => rfl
    | plus => exact absurd rfl all.head_ne.1
    | minus => exact absurd rfl all.head_ne.2
  | plus =>
    cases other with
    | bare all => exact absurd rfl all.head_ne.1
    | plus => rfl
  | minus =>
    cases other with
    | bare all => exact absurd rfl all.head_ne.2
    | minus => rfl

/-- A text writes an integer in decimal, with blanks around it. -/
def Amounts (text : List Char) (i : Int) : Prop :=
  ∃ front digits back, text = front ++ (digits ++ back) ∧ Blanks front ∧ Blanks back ∧
    Decimal i digits

/-- A text amounts to an integer just if it is the decimal of it without outer blanks. -/
lemma amounts_iff : Amounts cs i ↔ Decimal i (trim cs) := by
  constructor
  · rintro ⟨front, digits, back, rfl, before, behind, written⟩
    rwa [trim_append before written.not_blank behind]
  · intro written
    obtain ⟨front, back, whole, before, behind⟩ := exists_append_trim cs
    exact ⟨front, trim cs, back, whole, before, behind, written⟩

end Text

namespace SettingValue

open Text (Amounts Decimal Parts)

/-- A text without outer blanks denotes a value of a type. -/
inductive Denotes : SettingType → List Char → SettingValue → Prop where
  | string {text : List Char} :
    Denotes .string text (.string (String.ofList text))
  | boolean {value : Bool} {text : List Char} :
    Text.alike text (if value then "true" else "false").toList = true →
    Denotes .boolean text (.boolean value)
  | int {value : Int32} {text : List Char} :
    Decimal value.toInt text →
    Denotes .int text (.int value)
  | short {value : Int16} {text : List Char} :
    Decimal value.toInt text →
    Denotes .short text (.short value)
  | long {value : Int64} {text : List Char} :
    Decimal value.toInt text →
    Denotes .long text (.long value)
  | double {value : Binary64} {text : List Char} :
    DecimalText.read? text = some value →
    Denotes .double text (.double value)
  | nothing :
    Denotes .list [] (.list [])
  | items {text : List Char} {parts : List (List Char)} :
    text ≠ [] →
    Parts ',' parts text →
    Denotes .list text (.list (parts.map fun part => String.ofList (Text.trim part)))
  | kind {text : List Char} :
    text ≠ [] →
    (∀ c ∈ text, Text.isBlank c = false) →
    Denotes .kind text (.kind (String.ofList text))

/-- The least and the greatest integer of a type of integers. -/
inductive Bounds : SettingType → Int → Int → Prop where
  | short : Bounds .short (-2 ^ 15) (2 ^ 15 - 1)
  | int : Bounds .int (-2 ^ 31) (2 ^ 31 - 1)
  | long : Bounds .long (-2 ^ 63) (2 ^ 63 - 1)

variable {type type' : SettingType} {cs : List Char} {value value' : SettingValue}
  {low high low' high' i : Int} {b : Bool} {key raw name : String}

/-! ### Reading -/

/-- A text is a truth value just if it spells it, in whatever case. -/
lemma boolOf?_eq_some_iff : boolOf? cs = some b ↔
    Text.alike cs (if b then "true" else "false").toList = true := by
  constructor
  · intro read
    rw [boolOf?] at read
    split at read
    case isTrue alike =>
      cases read
      exact alike
    case isFalse =>
      split at read
      case isTrue alike =>
        cases read
        exact alike
      case isFalse => cases read
  · intro alike
    cases b with
    | true => exact if_pos alike
    | false =>
      have other : Text.alike cs "true".toList ≠ true := by
        intro same
        rw [Text.alike, beq_iff_eq] at alike same
        exact absurd (same.symm.trans alike) (by decide)
      rw [boolOf?, if_neg other]
      exact if_pos alike

/-- A text is an integer between bounds just if it is the decimal of one. -/
lemma integerOf?_eq_some_iff (below : low < 0) (above : 0 ≤ high) :
    integerOf? low high cs = some i ↔ Decimal i cs ∧ low ≤ i ∧ i ≤ high := by
  rw [← Text.readInteger_eq_ok_iff below above, integerOf?]
  cases Text.readInteger low high cs <;> simp [Except.toOption]

/-- The words of a width hold the integers between two bounds. -/
structure Width {α : Type} (low high : Int) (toInt : α → Int) (ofInt : Int → α) : Prop where
  below : low < 0
  above : 0 ≤ high
  least : ∀ a, low ≤ toInt a
  most : ∀ a, toInt a ≤ high
  back : ∀ a, ofInt (toInt a) = a
  exact : ∀ i, low ≤ i → i ≤ high → toInt (ofInt i) = i

lemma width_short :
    Width Int16.minValue.toInt Int16.maxValue.toInt Int16.toInt Int16.ofInt where
  below := by decide
  above := by decide
  least := Int16.minValue_le_toInt
  most := Int16.toInt_le
  back := Int16.ofInt_toInt
  exact _ least most := Int16.toInt_ofInt_of_le least (Int.lt_of_le_sub_one most)

lemma width_int :
    Width Int32.minValue.toInt Int32.maxValue.toInt Int32.toInt Int32.ofInt where
  below := by decide
  above := by decide
  least := Int32.minValue_le_toInt
  most := Int32.toInt_le
  back := Int32.ofInt_toInt
  exact _ least most := Int32.toInt_ofInt_of_le least (Int.lt_of_le_sub_one most)

lemma width_long :
    Width Int64.minValue.toInt Int64.maxValue.toInt Int64.toInt Int64.ofInt where
  below := by decide
  above := by decide
  least := Int64.minValue_le_toInt
  most := Int64.toInt_le
  back := Int64.ofInt_toInt
  exact _ least most := Int64.toInt_ofInt_of_le least (Int.lt_of_le_sub_one most)

/-- A text of an integer within the bounds of a width is read as a word of this width. -/
lemma Width.map_integerOf? {α : Type} {toInt : α → Int} {ofInt : Int → α}
    (width : Width low high toInt ofInt) (wrap : α → SettingValue) :
    (integerOf? low high cs).map (fun i => wrap (ofInt i)) = some value ↔
      ∃ a, Decimal (toInt a) cs ∧ wrap a = value := by
  rw [Option.map_eq_some_iff]
  constructor
  · rintro ⟨i, read, rfl⟩
    obtain ⟨written, least, most⟩ := (integerOf?_eq_some_iff width.below width.above).1 read
    refine ⟨ofInt i, ?_, rfl⟩
    rwa [width.exact i least most]
  · rintro ⟨a, written, rfl⟩
    refine ⟨toInt a, (integerOf?_eq_some_iff width.below width.above).2 ?_, ?_⟩
    · exact ⟨written, width.least a, width.most a⟩
    · rw [width.back]

/-- A text is a kind just if there is one and no blank in it. -/
lemma kindOf?_eq_some_iff : kindOf? cs = some name ↔
    (cs ≠ [] ∧ ∀ c ∈ cs, Text.isBlank c = false) ∧ String.ofList cs = name := by
  have refused : (cs.isEmpty || cs.any Text.isBlank) = true ↔
      ¬(cs ≠ [] ∧ ∀ c ∈ cs, Text.isBlank c = false) := by
    simp [imp_iff_not_or]
  rw [kindOf?]
  by_cases named : cs ≠ [] ∧ ∀ c ∈ cs, Text.isBlank c = false
  · simp [refused, named]
  · simp [refused, named]

/-- The items of a text are its parts without outer blanks. -/
lemma itemsOf_of_parts {parts : List (List Char)} (some : cs ≠ []) (split : Parts ',' parts cs) :
    itemsOf cs = parts.map fun part => String.ofList (Text.trim part) := by
  rw [itemsOf, if_neg (by rwa [List.isEmpty_iff]), split.splitAt_eq]

/-- A list is denoted by every text. -/
lemma denotes_itemsOf (cs : List Char) : Denotes .list cs (.list (itemsOf cs)) := by
  by_cases none : cs = []
  · subst none
    exact .nothing
  · have split := Text.parts_splitAt ',' cs
    rw [itemsOf_of_parts none split]
    exact .items none split

/-- A text is read as the value that it denotes, and as no other. -/
theorem ofText?_eq_some_iff : ofText? type cs = some value ↔ Denotes type cs value := by
  constructor
  case mp =>
    intro read
    cases type with
    | string =>
      cases read
      exact .string
    | boolean =>
      obtain ⟨b, named, rfl⟩ := Option.map_eq_some_iff.1 read
      exact .boolean (boolOf?_eq_some_iff.1 named)
    | int =>
      obtain ⟨a, written, rfl⟩ := (width_int.map_integerOf? .int).1 read
      exact .int written
    | short =>
      obtain ⟨a, written, rfl⟩ := (width_short.map_integerOf? .short).1 read
      exact .short written
    | long =>
      obtain ⟨a, written, rfl⟩ := (width_long.map_integerOf? .long).1 read
      exact .long written
    | double =>
      obtain ⟨d, written, rfl⟩ := Option.map_eq_some_iff.1 read
      exact .double written
    | list =>
      cases read
      exact denotes_itemsOf cs
    | kind =>
      obtain ⟨name, named, rfl⟩ := Option.map_eq_some_iff.1 read
      obtain ⟨⟨some, inside⟩, rfl⟩ := kindOf?_eq_some_iff.1 named
      exact .kind some inside
  case mpr =>
    intro denotes
    cases denotes with
    | string => rfl
    | boolean alike => exact Option.map_eq_some_iff.2 ⟨_, boolOf?_eq_some_iff.2 alike, rfl⟩
    | int written => exact (width_int.map_integerOf? .int).2 ⟨_, written, rfl⟩
    | short written => exact (width_short.map_integerOf? .short).2 ⟨_, written, rfl⟩
    | long written => exact (width_long.map_integerOf? .long).2 ⟨_, written, rfl⟩
    | double written => exact Option.map_eq_some_iff.2 ⟨_, written, rfl⟩
    | nothing => rfl
    | items filled split =>
      exact congrArg (some ∘ SettingValue.list) (itemsOf_of_parts filled split)
    | kind filled inside =>
      exact Option.map_eq_some_iff.2 ⟨_, kindOf?_eq_some_iff.2 ⟨⟨filled, inside⟩, rfl⟩, rfl⟩

/-- A text denotes values of the type that it is read for. -/
lemma Denotes.type_eq (denotes : Denotes type cs value) : value.type = type := by
  cases denotes <;> rfl

/-- A raw text is accepted just if it denotes a value, and gives that value. -/
lemma parse_eq_ok_iff :
    parse key raw type = .ok value ↔ Denotes type (Text.trim raw.toList) value := by
  rw [parse, ← ofText?_eq_some_iff]
  cases ofText? type (Text.trim raw.toList) <;> simp

/-- A raw text is refused just if it denotes no value, and the error says what is expected. -/
lemma parse_eq_error_iff {err : SettingsError} : parse key raw type = .error err ↔
    err = .invalidValue key raw (expectation type) ∧
      ∀ value, ¬Denotes type (Text.trim raw.toList) value := by
  simp only [parse, ← ofText?_eq_some_iff]
  cases ofText? type (Text.trim raw.toList) <;> simp [eq_comm]

/-! ### Integers -/

/-- A text denotes the integer that it writes, in every type whose bounds allow it. -/
lemma Bounds.denotes_iff (bounds : Bounds type low high) : Denotes type cs value ↔
    value.type = type ∧ ∃ i, Decimal i cs ∧ low ≤ i ∧ i ≤ high ∧ value.integer? = some i := by
  constructor
  case mp =>
    intro denotes
    refine ⟨denotes.type_eq, ?_⟩
    cases bounds with
    | short =>
      cases denotes with
      | short written => exact ⟨_, written, width_short.least _, width_short.most _, rfl⟩
    | int =>
      cases denotes with
      | int written => exact ⟨_, written, width_int.least _, width_int.most _, rfl⟩
    | long =>
      cases denotes with
      | long written => exact ⟨_, written, width_long.least _, width_long.most _, rfl⟩
  case mpr =>
    rintro ⟨typed, i, written, -, -, same⟩
    cases value with
    | short a =>
      cases typed
      cases same
      exact .short written
    | int a =>
      cases typed
      cases same
      exact .int written
    | long a =>
      cases typed
      cases same
      exact .long written
    | string | boolean | double | list | kind => cases same

/-- Every integer within the bounds is held exactly. -/
lemma Bounds.exists_value (bounds : Bounds type low high) (least : low ≤ i) (most : i ≤ high) :
    ∃ value : SettingValue, value.type = type ∧ value.integer? = some i := by
  cases bounds with
  | short => exact ⟨.short (Int16.ofInt i), rfl, congrArg some (width_short.exact i least most)⟩
  | int => exact ⟨.int (Int32.ofInt i), rfl, congrArg some (width_int.exact i least most)⟩
  | long => exact ⟨.long (Int64.ofInt i), rfl, congrArg some (width_long.exact i least most)⟩

/-- A raw text is accepted as an integer just if it amounts to one within the bounds. -/
lemma Bounds.parse_iff (bounds : Bounds type low high) : parse key raw type = .ok value ↔
    value.type = type ∧
      ∃ i, Amounts raw.toList i ∧ low ≤ i ∧ i ≤ high ∧ value.integer? = some i := by
  simp only [parse_eq_ok_iff, bounds.denotes_iff, Text.amounts_iff]

/-- In every type of integers a text is read as the same integer. -/
lemma Bounds.integer?_eq (bounds : Bounds type low high) (bounds' : Bounds type' low' high')
    (read : parse key raw type = .ok value) (read' : parse key raw type' = .ok value') :
    value'.integer? = value.integer? := by
  obtain ⟨-, i, amounts, -, -, same⟩ := bounds.parse_iff.1 read
  obtain ⟨-, j, amounts', -, -, same'⟩ := bounds'.parse_iff.1 read'
  rw [Text.amounts_iff] at amounts amounts'
  rw [same, same', amounts.unique amounts']

/-- What is read of an integer in one type is read in every other type whose bounds allow it. -/
lemma Bounds.exists_parse_iff (bounds : Bounds type low high) (bounds' : Bounds type' low' high')
    (read : parse key raw type = .ok value) (same : value.integer? = some i) :
    (∃ value', parse key raw type' = .ok value') ↔ low' ≤ i ∧ i ≤ high' := by
  constructor
  · rintro ⟨value', read'⟩
    obtain ⟨-, j, -, least, most, same'⟩ := bounds'.parse_iff.1 read'
    rw [bounds.integer?_eq bounds' read read', same] at same'
    obtain rfl := Option.some.inj same'
    exact ⟨least, most⟩
  · rintro ⟨least, most⟩
    obtain ⟨-, j, amounts, -, -, same'⟩ := bounds.parse_iff.1 read
    obtain rfl := Option.some.inj (same.symm.trans same')
    obtain ⟨value', typed, held⟩ := bounds'.exists_value least most
    exact ⟨value', bounds'.parse_iff.2 ⟨typed, i, amounts, least, most, held⟩⟩

/--
The texts of a type of integers are those that write, with any blanks around it, an integer within
its bounds, and the value is that integer. In another type the text is read as the same integer if
this lies within the bounds of that type, and refused if not; so it always is in a wider type.
-/
theorem integers_keep_their_value (bounds : Bounds type low high)
    (bounds' : Bounds type' low' high') (key raw : String) :
    (∀ value, parse key raw type = .ok value ↔ value.type = type ∧
      ∃ i, Amounts raw.toList i ∧ low ≤ i ∧ i ≤ high ∧ value.integer? = some i) ∧
    (∀ value i, parse key raw type = .ok value → value.integer? = some i →
      ((∃ value', parse key raw type' = .ok value') ↔ low' ≤ i ∧ i ≤ high') ∧
      ∀ value', parse key raw type' = .ok value' → value'.integer? = some i) ∧
    (low' ≤ low → high ≤ high' → ∀ value, parse key raw type = .ok value →
      ∃ value', parse key raw type' = .ok value' ∧ value'.integer? = value.integer?) := by
  refine ⟨fun _ => bounds.parse_iff, fun value i read same => ?_, fun below above value read => ?_⟩
  · refine ⟨bounds.exists_parse_iff bounds' read same, fun value' read' => ?_⟩
    rw [bounds.integer?_eq bounds' read read', same]
  · obtain ⟨-, i, -, least, most, same⟩ := bounds.parse_iff.1 read
    obtain ⟨value', read'⟩ := (bounds.exists_parse_iff bounds' read same).2
      ⟨below.trans least, most.trans above⟩
    exact ⟨value', read', bounds.integer?_eq bounds' read read'⟩

/-- The least integer of 16 bits is read in 16 bits and in 64, the one above the greatest in 64. -/
theorem integers_keep_their_value_at_bounds :
    Bounds .short (-2 ^ 15) (2 ^ 15 - 1) ∧ Bounds .long (-2 ^ 63) (2 ^ 63 - 1) ∧
    parse "limit" " -0032768\t" .short = .ok (.short (-32768)) ∧
    (∃ value, parse "limit" " -0032768\t" .long = .ok value ∧ value.integer? = some (-32768)) ∧
    parse "limit" "+32768" .long = .ok (.long 32768) ∧
    ¬∃ value, parse "limit" "+32768" .short = .ok value := by
  have least : Amounts " -0032768\t".toList (-32768) := by
    have written : Decimal (-Text.numeral "0032768".toList) ('-' :: "0032768".toList) :=
      .minus (by decide)
    exact ⟨[' '], '-' :: "0032768".toList, ['\t'], rfl, by decide, by decide, written⟩
  have beyond : Amounts "+32768".toList 32768 := by
    have written : Decimal (Text.numeral "32768".toList) ('+' :: "32768".toList) :=
      .plus (by decide)
    exact ⟨[], '+' :: "32768".toList, [], rfl, by decide, by decide, written⟩
  have low := integers_keep_their_value .short .long "limit" " -0032768\t"
  have high := integers_keep_their_value .long .short "limit" "+32768"
  have short := (low.1 (.short (-32768))).2 ⟨rfl, _, least, by decide, by decide, rfl⟩
  have long := (high.1 (.long 32768)).2 ⟨rfl, _, beyond, by decide, by decide, rfl⟩
  refine ⟨.short, .long, short, low.2.2 (by decide) (by decide) _ short, long, fun accepted => ?_⟩
  have within := (high.2.1 _ _ long rfl).1.1 accepted
  exact absurd within.2 (by decide)

end SettingValue

end LedgerWatch
