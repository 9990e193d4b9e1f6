import LedgerWatch.Json.Reader
import LedgerWatch.Proofs.Identity.Text
import Mathlib.Tactic.Lemma

/-!
# JSON values survive being written

The compact text of a plain value is read as that value: every character of a text is escaped so
that the reader finds it again, an integer ends where its digits end, and no item of an array or
field of a record begins like the mark that closes it.
-/

namespace LedgerWatch

namespace Text

/-- A number is written with digits. -/
lemma isDigit_of_mem_natText {n : Nat} {c : Char} (mem : c ∈ natText n) : c.isDigit = true :=
  Nat.isDigit_of_mem_toDigits (by omega) (by omega) mem

lemma natText_ne_nil (n : Nat) : natText n ≠ [] :=
  Nat.toDigits_ne_nil

/-- No number above zero begins with a zero. -/
lemma natText_head {n : Nat} (pos : 0 < n) : ∃ c cs, natText n = c :: cs ∧ c ≠ '0' := by
  induction n using Nat.strongRecOn with
  | ind n ih =>
    rcases Nat.lt_or_ge n 10 with small | large
    · have each : ∀ d : Fin 10, 0 < d.val → Nat.digitChar d ≠ '0' := by decide
      rw [natText, Nat.toDigits_of_lt_base small]
      exact ⟨_, [], rfl, each ⟨n, small⟩ pos⟩
    · obtain ⟨c, cs, digits, other⟩ := ih (n / 10) (by omega) (by omega)
      rw [natText] at digits
      rw [natText, Nat.toDigits_of_base_le (by omega) large, digits]
      exact ⟨c, _, rfl, other⟩

end Text

namespace Json

variable {rest : List Char}

/-- What follows a value: nothing, or a mark after it. -/
def Ended (rest : List Char) : Prop :=
  ∀ c ∈ rest.head?, c = ',' ∨ c = ']' ∨ c = '\x7d'

lemma ended_nil : Ended [] :=
  nofun

lemma ended_comma : Ended (',' :: rest) := by
  rintro c ⟨⟩
  exact .inl rfl

lemma ended_bracket : Ended (']' :: rest) := by
  rintro c ⟨⟩
  exact .inr (.inl rfl)

lemma ended_brace : Ended ('\x7d' :: rest) := by
  rintro c ⟨⟩
  exact .inr (.inr rfl)

/-- The first character after a value is none that a number could go on with. -/
lemma Ended.cases (h : Ended rest) : rest = [] ∨
    ∃ c cs, rest = c :: cs ∧ c.isDigit = false ∧ c ≠ '.' ∧ c ≠ 'e' ∧ c ≠ 'E' := by
  cases rest with
  | nil => exact .inl rfl
  | cons c cs =>
    refine .inr ⟨c, cs, rfl, ?_⟩
    rcases h c rfl with rfl | rfl | rfl
    all_goals decide

section Numbers

variable {digits : List Char} {n : Nat}

/-- All digits are taken up to whatever ends a number. -/
lemma takeDigits_append (all : ∀ c ∈ digits, c.isDigit = true) (h : Ended rest) :
    takeDigits (digits ++ rest) = (digits, rest) := by
  have stop : rest.takeWhile Char.isDigit = [] ∧ rest.dropWhile Char.isDigit = rest := by
    rcases h.cases with rfl | ⟨c, cs, rfl, other, -⟩
    · exact ⟨rfl, rfl⟩
    · simp [other]
  rw [takeDigits, List.takeWhile_append_of_pos all, List.dropWhile_append_of_pos all, stop.1,
    stop.2, List.append_nil]

/-- The digits of a number are taken as a whole part. -/
lemma takeWhole_natText (n : Nat) (h : Ended rest) :
    takeWhole (Text.natText n ++ rest) = some (Text.natText n, rest) := by
  rcases Nat.eq_zero_or_pos n with rfl | pos
  · change takeWhole ('0' :: rest) = some (['0'], rest)
    rcases h.cases with rfl | ⟨c, cs, rfl, other, -⟩
    · rfl
    · simp [takeWhole, other]
  · have taken := takeDigits_append (fun _ => Text.isDigit_of_mem_natText (n := n)) h
    obtain ⟨c, cs, digits, other⟩ := Text.natText_head pos
    rw [digits] at taken ⊢
    rw [List.cons_append] at taken ⊢
    unfold takeWhole
    split
    · rename_i start
      exact absurd (List.cons.inj start).1 other
    · rw [taken]

/-- There is no fraction where a number ends. -/
lemma takeFraction_of_ended (h : Ended rest) : takeFraction rest = some ([], rest) := by
  rcases h.cases with rfl | ⟨c, cs, rfl, -, other, -⟩
  · rfl
  · unfold takeFraction
    split
    · rename_i start
      exact absurd (List.cons.inj start).1 other
    · rfl

/-- There is no exponent where a number ends. -/
lemma takeExponent_of_ended (h : Ended rest) : takeExponent rest = some ([], rest) := by
  rcases h.cases with rfl | ⟨c, cs, rfl, -, -, lower, upper⟩
  · rfl
  · rw [takeExponent, if_neg (not_or.2 ⟨lower, upper⟩)]

/-- A number that is written without a sign is read back. -/
lemma readNumber_natText (n : Nat) (h : Ended rest) :
    readNumber (Text.natText n ++ rest) = some (.number (Text.natText n), rest) := by
  have whole := takeWhole_natText n h
  obtain ⟨c, cs, digits⟩ := List.exists_cons_of_ne_nil (Text.natText_ne_nil n)
  have digit := Text.isDigit_of_mem_natText (n := n) (digits ▸ List.mem_cons_self)
  have unsigned : c ≠ '-' := by
    rintro rfl
    cases digit
  rw [digits, List.cons_append] at whole ⊢
  simp [readNumber, unsigned, whole, takeFraction_of_ended h, takeExponent_of_ended h]

/-- Any number that is written is read back. -/
lemma readNumber_intText (n : Int) (h : Ended rest) :
    readNumber (Text.intText n ++ rest) = some (.number (Text.intText n), rest) := by
  rw [Text.intText]
  split
  · have whole := takeWhole_natText n.natAbs h
    simp [readNumber, whole, takeFraction_of_ended h, takeExponent_of_ended h]
  · exact readNumber_natText n.natAbs h

end Numbers

section Texts

/-- An escaped character is read as that character. -/
lemma readElements_escape (c : Char) (rest : List Char) :
    readElements (escape c ++ rest)
      = (readElements rest).map fun (us, after) => (.char c :: us, after) := by
  unfold escape
  split
  · subst_vars; rfl
  split
  · subst_vars; rfl
  split
  · subst_vars; rfl
  split
  · subst_vars; rfl
  split
  · subst_vars; rfl
  split
  · subst_vars; rfl
  split
  · subst_vars; rfl
  split
  case isTrue control =>
    have code : Text.readHex (Text.hexText 4 c.toNat) = some c.toNat := by
      rw [Text.readHex, Text.readHexFrom_hexText, Nat.mod_eq_of_lt (by omega), Nat.zero_mul,
        Nat.zero_add]
    have whole : Element.ofCode c.toNat = .char c := by
      have high : isHighHalf c.toNat = false := by simp [isHighHalf]; omega
      have low : isLowHalf c.toNat = false := by simp [isLowHalf]; omega
      rw [Element.ofCode, high, low, Char.ofNat_toNat]
      rfl
    simp only [Text.hexText, List.nil_append, List.cons_append] at code ⊢
    rw [readElements, code]
    simp only [whole]
  case isFalse quote backslash _ _ _ _ _ control =>
    rw [List.cons_append, List.nil_append]
    have plain := readElements.eq_5 c rest quote (fun _ _ _ _ _ e => absurd e backslash)
      (fun _ _ e => absurd e backslash)
    rw [plain, if_neg (not_or.2 ⟨control, backslash⟩)]

/-- Escaped characters are read back one by one. -/
lemma readElements_escaped (cs rest : List Char) :
    readElements (cs.flatMap escape ++ '"' :: rest) = some (cs.map .char, rest) := by
  induction cs with
  | nil => rfl
  | cons c cs ih =>
    rw [List.flatMap_cons, List.append_assoc, readElements_escape, ih]
    rfl

/-- Characters that need no pairing are a text as they are. -/
lemma joinElements_chars (cs : List Char) : joinElements (cs.map .char) = some cs := by
  induction cs with
  | nil => rfl
  | cons c cs ih => rw [List.map_cons, joinElements, ih, Option.map_some]

/-- A text that is written with escapes is read back. -/
lemma readText_escaped (s : String) (rest : List Char) :
    readText (s.toList.flatMap escape ++ '"' :: rest) = some (some s, rest) := by
  have joined := joinElements_chars s.toList
  simp only [readText, readElements_escaped, Option.map_some, joined, String.ofList_toList]

end Texts

mutual

/-- Numbers are integers, and texts and the names of fields have content. -/
def Plain : Json → Prop
  | .null => True
  | .bool _ => True
  | .number literal => ∃ n : Int, literal = Text.intText n
  | .text content => content.isSome
  | .array items => PlainItems items
  | .object fields => PlainFields fields

/-- All the items are plain. -/
def PlainItems : List Json → Prop
  | [] => True
  | item :: items => item.Plain ∧ PlainItems items

/-- All the fields have names and plain values. -/
def PlainFields : List (Option String × Json) → Prop
  | [] => True
  | (name, value) :: fields => name.isSome ∧ value.Plain ∧ PlainFields fields

end

/-- What the written form of a value begins with: no blank, and no mark that closes a value. -/
def Opens (c : Char) : Prop :=
  isSpace c = false ∧ c ≠ ']' ∧ c ≠ '\x7d'

instance (c : Char) : Decidable (Opens c) :=
  inferInstanceAs (Decidable (_ ∧ _))

/-- Nothing is skipped before what opens a value. -/
lemma skipSpaces_of_opens {c : Char} (h : Opens c) (cs : List Char) :
    skipSpaces (c :: cs) = c :: cs := by
  rw [skipSpaces, List.dropWhile_cons, h.1]
  rfl

/-- A digit opens a value. -/
lemma opens_of_isDigit {c : Char} (digit : c.isDigit = true) : Opens c := by
  refine ⟨?_, ?_, ?_⟩
  · by_contra blank
    simp only [isSpace, Bool.not_eq_false, Bool.or_eq_true, decide_eq_true_eq] at blank
    rcases blank with ((rfl | rfl) | rfl) | rfl
    all_goals cases digit
  · rintro rfl
    cases digit
  · rintro rfl
    cases digit

/-- A number opens with a sign or a digit. -/
lemma intText_opens (n : Int) :
    ∃ c cs, Text.intText n = c :: cs ∧ Opens c ∧ (c = '-' ∨ c.isDigit = true) := by
  rw [Text.intText]
  split
  · exact ⟨'-', _, rfl, by decide, .inl rfl⟩
  · obtain ⟨c, cs, digits⟩ := List.exists_cons_of_ne_nil (Text.natText_ne_nil n.natAbs)
    have digit := Text.isDigit_of_mem_natText (n := n.natAbs) (digits ▸ List.mem_cons_self)
    exact ⟨c, cs, digits, opens_of_isDigit digit, .inr digit⟩

/-- What is written for a value opens one. -/
lemma compact_opens {j : Json} (h : j.Plain) : ∃ c cs, compact j = c :: cs ∧ Opens c := by
  cases j with
  | null => exact ⟨_, _, rfl, by decide⟩
  | bool value => cases value with
    | true => exact ⟨_, _, rfl, by decide⟩
    | false => exact ⟨_, _, rfl, by decide⟩
  | number literal =>
    obtain ⟨n, rfl⟩ := h
    obtain ⟨c, cs, digits, opens, -⟩ := intText_opens n
    exact ⟨c, cs, digits, opens⟩
  | text content =>
    obtain ⟨s, rfl⟩ := Option.isSome_iff_exists.1 h
    exact ⟨_, _, rfl, by decide⟩
  | array items => exact ⟨_, _, rfl, by decide⟩
  | object fields => exact ⟨_, _, rfl, by decide⟩

/-- A list of values is written with a comma after the first. -/
lemma compactItems_cons (item next : Json) (items : List Json) :
    compactItems (item :: next :: items) = compact item ++ ',' :: compactItems (next :: items) :=
  rfl

/-- What is written for a list of values opens the first of them. -/
lemma compactItems_opens {items : List Json} (h : PlainItems items) (filled : items ≠ []) :
    ∃ c cs, compactItems items = c :: cs ∧ Opens c := by
  match items with
  | [] => exact absurd rfl filled
  | [item] => exact compact_opens h.1
  | item :: next :: items =>
    obtain ⟨c, cs, start, opens⟩ := compact_opens h.1
    refine ⟨c, cs ++ ',' :: compactItems (next :: items), ?_, opens⟩
    rw [compactItems_cons, start]
    rfl

/-- A list of fields is written with a comma after the first. -/
lemma compactFields_cons (name : Option String) (value : Json) (next : Option String × Json)
    (fields : List (Option String × Json)) :
    compactFields ((name, value) :: next :: fields)
      = quoted name ++ ':' :: compact value ++ ',' :: compactFields (next :: fields) :=
  rfl

/-- What is written for a list of fields begins with the quotation mark of a name. -/
lemma compactFields_opens {fields : List (Option String × Json)} (h : PlainFields fields)
    (filled : fields ≠ []) : ∃ cs, compactFields fields = '"' :: cs := by
  match fields with
  | [] => exact absurd rfl filled
  | [(name, value)] =>
    obtain ⟨s, rfl⟩ := Option.isSome_iff_exists.1 h.1
    exact ⟨_, rfl⟩
  | (name, value) :: next :: fields =>
    obtain ⟨s, rfl⟩ := Option.isSome_iff_exists.1 h.1
    exact ⟨_, rfl⟩

/-- A number is read as a value. -/
lemma readValue_number (fuel : Nat) (n : Int) (h : Ended rest) :
    readValue (fuel + 1) (Text.intText n ++ rest) = some (.number (Text.intText n), rest) := by
  have number := readNumber_intText n h
  obtain ⟨c, cs, digits, opens, digit⟩ := intText_opens n
  rw [digits, List.cons_append] at number ⊢
  rw [readValue, skipSpaces_of_opens opens]
  split
  case h_7 => exact number
  all_goals
    rename_i e
    obtain ⟨rfl, -⟩ := List.cons.inj e
    rcases digit with digit | digit
    all_goals cases digit

/-- A text stands between quotation marks. -/
lemma quoted_append (s : String) (rest : List Char) :
    quoted (some s) ++ rest = '"' :: (s.toList.flatMap escape ++ '"' :: rest) :=
  List.append_assoc ('"' :: s.toList.flatMap escape) ['"'] rest

/-- A text is read as a value. -/
lemma readValue_text (fuel : Nat) (s : String) (rest : List Char) :
    readValue (fuel + 1) (quoted (some s) ++ rest) = some (.text (some s), rest) := by
  have read := readText_escaped s rest
  have start : Opens '"' := by decide
  rw [quoted_append, readValue, skipSpaces_of_opens start]
  simp only [read, Option.map_some]

/-- An array is read if its items are. -/
lemma readValue_array {fuel : Nat} {items : List Json} (h : PlainItems items)
    (each : items ≠ [] →
      readItems fuel (compactItems items ++ ']' :: rest) = some (items, rest)) :
    readValue (fuel + 1) (compact (.array items) ++ rest) = some (.array items, rest) := by
  have start : Opens '[' := by decide
  have whole : compact (.array items) ++ rest = '[' :: (compactItems items ++ ']' :: rest) :=
    List.append_assoc ('[' :: compactItems items) [']'] rest
  rw [whole, readValue, skipSpaces_of_opens start]
  cases items with
  | nil => rfl
  | cons item items =>
    obtain ⟨c, cs, first, opens⟩ := compactItems_opens h (List.cons_ne_nil item items)
    have read := each (List.cons_ne_nil item items)
    rw [first, List.cons_append] at read ⊢
    simp only [skipSpaces_of_opens opens]
    split
    · rename_i e
      exact absurd (List.cons.inj e).1 opens.2.1
    · rw [read]
      rfl

/-- An object is read if its fields are. -/
lemma readValue_object {fuel : Nat} {fields : List (Option String × Json)} (h : PlainFields fields)
    (each : fields ≠ [] →
      readFields fuel (compactFields fields ++ '\x7d' :: rest) = some (fields, rest)) :
    readValue (fuel + 1) (compact (.object fields) ++ rest) = some (.object fields, rest) := by
  have start : Opens '\x7b' := by decide
  have whole : compact (.object fields) ++ rest
      = '\x7b' :: (compactFields fields ++ '\x7d' :: rest) :=
    List.append_assoc ('\x7b' :: compactFields fields) ['\x7d'] rest
  rw [whole, readValue, skipSpaces_of_opens start]
  cases fields with
  | nil => rfl
  | cons field fields =>
    obtain ⟨cs, first⟩ := compactFields_opens h (List.cons_ne_nil field fields)
    have read := each (List.cons_ne_nil field fields)
    have opens : Opens '"' := by decide
    rw [first, List.cons_append] at read ⊢
    simp only [skipSpaces_of_opens opens]
    split
    · rename_i e
      exact absurd (List.cons.inj e).1 opens.2.2
    · rw [read]
      rfl

/-- The last item of an array ends at the bracket. -/
lemma readItems_last {fuel : Nat} {cs : List Char} {item : Json}
    (value : readValue fuel cs = some (item, ']' :: rest)) :
    readItems (fuel + 1) cs = some ([item], rest) := by
  rw [readItems, value]
  rfl

/-- An item before others ends at the comma. -/
lemma readItems_cons {fuel : Nat} {cs after : List Char} {item : Json} {items : List Json}
    (value : readValue fuel cs = some (item, ',' :: after))
    (others : readItems fuel after = some (items, rest)) :
    readItems (fuel + 1) cs = some (item :: items, rest) := by
  have next : skipSpaces (',' :: after) = ',' :: after := skipSpaces_of_opens (by decide) after
  rw [readItems, value]
  simp only [next, others, Option.map_some]

/-- The last field of an object ends at the brace. -/
lemma readFields_last {fuel : Nat} {name : String} {cs : List Char} {value : Json}
    (read : readValue fuel cs = some (value, '\x7d' :: rest)) :
    readFields (fuel + 1) (quoted (some name) ++ ':' :: cs)
      = some ([(some name, value)], rest) := by
  have mark : skipSpaces ('"' :: (name.toList.flatMap escape ++ '"' :: ':' :: cs)) = _ :=
    skipSpaces_of_opens (by decide) _
  have colon : skipSpaces (':' :: cs) = ':' :: cs := skipSpaces_of_opens (by decide) cs
  have last : skipSpaces ('\x7d' :: rest) = '\x7d' :: rest := rfl
  rw [quoted_append, readFields, mark]
  simp only [readText_escaped, colon, read, last]

/-- A field before others ends at the comma. -/
lemma readFields_cons {fuel : Nat} {name : String} {cs after : List Char} {value : Json}
    {fields : List (Option String × Json)}
    (read : readValue fuel cs = some (value, ',' :: after))
    (others : readFields fuel after = some (fields, rest)) :
    readFields (fuel + 1) (quoted (some name) ++ ':' :: cs)
      = some ((some name, value) :: fields, rest) := by
  have mark : skipSpaces ('"' :: (name.toList.flatMap escape ++ '"' :: ':' :: cs)) = _ :=
    skipSpaces_of_opens (by decide) _
  have colon : skipSpaces (':' :: cs) = ':' :: cs := skipSpaces_of_opens (by decide) cs
  have next : skipSpaces (',' :: after) = ',' :: after := skipSpaces_of_opens (by decide) after
  rw [quoted_append, readFields, mark]
  simp only [readText_escaped, colon, read, next, others, Option.map_some]

mutual

/-- Twice the length of its text are enough steps to read a value. -/
theorem readValue_compact {j : Json} {rest : List Char} {fuel : Nat} (h : j.Plain)
    (ended : Ended rest) (enough : 2 * (compact j).length ≤ fuel) :
    readValue fuel (compact j ++ rest) = some (j, rest) := by
  obtain ⟨c, cs, start, -⟩ := compact_opens h
  obtain ⟨fuel, rfl⟩ : ∃ n, fuel = n + 1 := ⟨fuel - 1, by simp [start] at enough; omega⟩
  match j with
  | .null => rfl
  | .bool true => rfl
  | .bool false => rfl
  | .number literal =>
    obtain ⟨n, rfl⟩ := h
    exact readValue_number fuel n ended
  | .text content =>
    obtain ⟨s, rfl⟩ := Option.isSome_iff_exists.1 h
    exact readValue_text fuel s rest
  | .array items =>
    refine readValue_array h fun filled => readItems_compact h filled ?_
    simp only [compact, List.length_append, List.length_cons] at enough
    omega
  | .object fields =>
    refine readValue_object h fun filled => readFields_compact h filled ?_
    simp only [compact, List.length_append, List.length_cons] at enough
    omega

/-- Items that are written are read back, up to the bracket. -/
theorem readItems_compact {items : List Json} {rest : List Char} {fuel : Nat}
    (h : PlainItems items) (filled : items ≠ [])
    (enough : 2 * (compactItems items).length + 1 ≤ fuel) :
    readItems fuel (compactItems items ++ ']' :: rest) = some (items, rest) := by
  obtain ⟨fuel, rfl⟩ : ∃ n, fuel = n + 1 := ⟨fuel - 1, by omega⟩
  match items with
  | [] => exact absurd rfl filled
  | [item] =>
    have enough' : 2 * item.compact.length ≤ fuel := by simpa [compactItems] using enough
    exact readItems_last (readValue_compact h.1 ended_bracket enough')
  | item :: next :: items =>
    rw [compactItems_cons] at enough ⊢
    simp only [List.length_append, List.length_cons] at enough
    rw [List.append_assoc, List.cons_append]
    exact readItems_cons (readValue_compact h.1 ended_comma (by omega))
      (readItems_compact h.2 (List.cons_ne_nil _ _) (by omega))

/-- Fields that are written are read back, up to the brace. -/
theorem readFields_compact {fields : List (Option String × Json)} {rest : List Char} {fuel : Nat}
    (h : PlainFields fields) (filled : fields ≠ [])
    (enough : 2 * (compactFields fields).length + 1 ≤ fuel) :
    readFields fuel (compactFields fields ++ '\x7d' :: rest) = some (fields, rest) := by
  obtain ⟨fuel, rfl⟩ : ∃ n, fuel = n + 1 := ⟨fuel - 1, by omega⟩
  match fields with
  | [] => exact absurd rfl filled
  | [(name, value)] =>
    obtain ⟨s, rfl⟩ := Option.isSome_iff_exists.1 h.1
    simp only [compactFields, List.length_append, List.length_cons] at enough
    rw [compactFields, List.append_assoc, List.cons_append]
    exact readFields_last (readValue_compact h.2.1 ended_brace (by omega))
  | (name, value) :: next :: fields =>
    obtain ⟨s, rfl⟩ := Option.isSome_iff_exists.1 h.1
    rw [compactFields_cons] at enough ⊢
    simp only [List.length_append, List.length_cons] at enough
    rw [List.append_assoc, List.append_assoc, List.cons_append, List.cons_append]
    exact readFields_cons (readValue_compact h.2.1 ended_comma (by omega))
      (readFields_compact h.2.2 (List.cons_ne_nil _ _) (by omega))

end

/-- The text of a plain value is read as that value. -/
theorem read?_render {j : Json} (h : j.Plain) : read? j.render = some j := by
  have enough : 2 * (compact j).length ≤ 2 * (String.ofList (compact j)).length + 2 := by
    rw [String.length_ofList]
    omega
  have value := readValue_compact h ended_nil enough
  rw [List.append_nil] at value
  rw [read?, render, String.toList_ofList, value]
  rfl

end Json

end LedgerWatch
