import LedgerWatch.Proofs.Settings.Reading
import LedgerWatch.Proofs.Settings.Writing
import Mathlib.Data.List.ReduceOption

/-!
# Sheets of properties

The texts that lay out pairs of a key and a value, said without reading: each pair on a line of its
own, with an equals sign, a colon or only blanks between key and value, and among comments and blank
lines. From such a text exactly these pairs are read, and of the pairs with one key the last one
counts (`Sheet.last_pair_counts`).

A carriage return before a line feed belongs to the end of the line, also when it was meant as one
of the blanks before an empty value. A line is therefore looked at together with the line that is
left of it without its carriage return, which lays out the same pair.
-/

namespace LedgerWatch

namespace Properties

open Text (Blanks Lays Padding ReadAs dropReturn)

/-- A text that can be a key: no character ends it, and it does not begin as a comment does. -/
structure Keyable (key : String) : Prop where
  plain : Plain key.toList
  opens : ∀ c ∈ key.toList.head?, c ≠ '#' ∧ c ≠ '!'

instance (key : String) : Decidable (Keyable key) :=
  decidable_of_iff (Plain key.toList ∧ key.toList.head?.all (fun c => c ≠ '#' ∧ c ≠ '!') = true)
    ⟨fun h => ⟨h.1, fun c first => of_decide_eq_true ((Option.all_eq_true _ _).1 h.2 c first)⟩,
      fun h => ⟨h.plain,
        (Option.all_eq_true _ _).2 fun c first => decide_eq_true (h.opens c first)⟩⟩

/--
A text that can be a value as it stands: without line feeds, without blanks in front, and without a
carriage return at its end.
-/
structure Storable (value : String) : Prop where
  inline : '\n' ∉ value.toList
  flush : ∀ c ∈ value.toList.head?, Text.isBlank c = false
  whole : value.toList.getLast? ≠ some '\r'

instance (value : String) : Decidable (Storable value) :=
  decidable_of_iff ('\n' ∉ value.toList ∧
      value.toList.head?.all (fun c => Text.isBlank c = false) = true ∧
      value.toList.getLast? ≠ some '\r')
    ⟨fun h => ⟨h.1, fun c first => of_decide_eq_true ((Option.all_eq_true _ _).1 h.2.1 c first),
      h.2.2⟩, fun h => ⟨h.inline,
      (Option.all_eq_true _ _).2 fun c first => decide_eq_true (h.flush c first), h.whole⟩⟩

/--
What stands between a key and its value: a sign with blanks around it, or blanks alone where there
is a key and the value does not begin with a sign. Before an empty value there may be nothing.
-/
inductive Separates (key value : String) : List Char → Prop where
  | sign {front back : List Char} {c : Char} :
    Padding front →
    c = '=' ∨ c = ':' →
    Padding back →
    Separates key value (front ++ c :: back)
  | blanks {between : List Char} :
    Padding between →
    (between = [] → value = "") →
    key ≠ "" →
    (∀ c ∈ value.toList.head?, c ≠ '=' ∧ c ≠ ':') →
    Separates key value between

/-- A line lays out a pair, or none when it is blank or a comment. -/
inductive Row : Option (String × String) → List Char → Prop where
  | pair {key value : String} {front between : List Char} :
    Keyable key →
    Storable value →
    Padding front →
    Separates key value between →
    Row (some (key, value)) (front ++ (key.toList ++ (between ++ value.toList)))
  | comment {front rest : List Char} {c : Char} :
    Padding front →
    c = '#' ∨ c = '!' →
    '\n' ∉ rest →
    Row none (front ++ c :: rest)
  | blank {line : List Char} :
    Padding line →
    Row none line

/-- A text lays out pairs, one after another. -/
inductive Sheet : List (String × String) → String → Prop where
  | of {rows : List (Option (String × String))} {lines : List (List Char)} {text : String} :
    List.Forall₂ Row rows lines →
    Lays lines text.toList →
    Sheet rows.reduceOption text

variable {key value text : String} {between line read : List Char} {c : Char}
  {row : Option (String × String)} {rows : List (Option (String × String))}
  {pairs : List (String × String)} {lines : List (List Char)}

/-! ### One line -/

/-- A value has no blanks in front to lose. -/
lemma Storable.trimStart (storable : Storable value) :
    Text.trimStart value.toList = value.toList := by
  have flush := storable.flush
  cases whole : value.toList with
  | nil => rfl
  | cons c cs =>
    rw [whole] at flush
    exact Text.trimStart_cons_of_not_blank cs (flush c rfl)

/-- A sign ends a key. -/
lemma endsKey_of_sign (sign : c = '=' ∨ c = ':') : endsKey c = true := by
  rcases sign with rfl | rfl <;> rfl

/-- A sign is not blank. -/
lemma not_blank_of_sign (sign : c = '=' ∨ c = ':') : Text.isBlank c = false := by
  rcases sign with rfl | rfl <;> decide

/-- The value is found behind what separates it from its key. -/
lemma Separates.valueAfter (separates : Separates key value between) (storable : Storable value) :
    valueAfter (between ++ value.toList) = value.toList := by
  cases separates with
  | sign before sign behind =>
    rw [List.append_assoc, List.cons_append,
      valueAfter_append before.blank (not_blank_of_sign sign), if_pos (by simpa using sign),
      Text.trimStart_append behind.blank, storable.trimStart]
  | blanks padding _ _ plain =>
    rw [Properties.valueAfter, Text.trimStart_append padding.blank, storable.trimStart]
    cases whole : value.toList with
    | nil => rfl
    | cons c cs =>
      rw [whole] at plain
      obtain ⟨equals, colon⟩ := plain c rfl
      simp [equals, colon]

/-- What separates a value from a key ends the key. -/
lemma Separates.follows (separates : Separates key value between) :
    Follows (between ++ value.toList) := by
  intro d first
  cases separates with
  | @sign front back c before sign _ =>
    cases front with
    | nil =>
      obtain rfl := Option.some.inj first
      exact endsKey_of_sign sign
    | cons e front =>
      obtain rfl := Option.some.inj first
      exact endsKey_of_blank (before.blank e List.mem_cons_self)
  | blanks padding short _ _ =>
    cases between with
    | nil =>
      rw [short rfl] at first
      cases first
    | cons e between =>
      obtain rfl := Option.some.inj first
      exact endsKey_of_blank (padding.blank e List.mem_cons_self)

/-- Behind a key that is not empty a line does not begin as a comment does. -/
lemma Keyable.opens_append (keyable : Keyable key) (some : key ≠ "") (rest : List Char) :
    Opens (key.toList ++ rest) := by
  obtain ⟨plain, opens⟩ := keyable
  obtain ⟨c, cs, whole⟩ := List.exists_cons_of_ne_nil (mt String.toList_eq_nil_iff.1 some)
  rw [whole] at plain opens ⊢
  obtain ⟨hash, bang⟩ := opens c rfl
  have visible : Text.isBlank c = false := by
    have inside := plain c List.mem_cons_self
    rw [endsKey, Bool.or_eq_false_iff] at inside
    exact inside.2
  exact ⟨c, cs ++ rest, rfl, visible, hash, bang⟩

/-- Before an empty key there are only blanks, and behind it there is a sign. -/
lemma entry_of_empty_key (storable : Storable value) (separates : Separates "" value between) :
    entry? (between ++ value.toList) = some ("", value) := by
  cases separates with
  | @sign front back c before sign behind =>
    have bare : Separates "" value ([] ++ c :: back) := .sign Text.padding_nil sign behind
    have plain : Plain [] := nofun
    have opens : Opens ([] ++ ([] ++ c :: back ++ value.toList)) := by
      refine ⟨c, back ++ value.toList, rfl, not_blank_of_sign sign, ?_⟩
      rcases sign with rfl | rfl <;> decide
    have given := entry_append plain bare.follows opens
    rw [bare.valueAfter storable, String.ofList_toList] at given
    rw [List.append_assoc, entry_append_left before.blank]
    exact given
  | blanks _ _ some _ => exact absurd rfl some

/-- The pair that is laid out on a line is read from it. -/
lemma Row.entry_eq (laid : Row row line) : entry? line = row := by
  cases laid with
  | @pair key value front between keyable storable before separates =>
    rw [entry_append_left before.blank]
    by_cases none : key = ""
    · subst none
      exact entry_of_empty_key storable separates
    · rw [entry_append keyable.plain separates.follows (keyable.opens_append none _),
        separates.valueAfter storable, String.ofList_toList, String.ofList_toList]
  | comment before comment _ => exact (Gives.comment before.blank comment).entry_eq
  | blank padding => exact (Gives.blank padding.blank).entry_eq

/-! ### The end of a line -/

/-- A text in which nothing ends a key has no carriage return to lose. -/
lemma Plain.dropReturn_eq {cs : List Char} (plain : Plain cs) : dropReturn cs = cs := by
  refine Text.dropReturn_eq_self fun last => ?_
  exact absurd (plain '\r' (List.mem_of_getLast? last)) (by decide)

/-- Something stands behind an empty key. -/
lemma Separates.key_ne (separates : Separates key value []) : key ≠ "" := by
  generalize none : ([] : List Char) = between at separates
  cases separates with
  | sign => simp at none
  | blanks _ _ some _ => exact some

/-- Before an empty value a carriage return may be taken off. -/
lemma Separates.dropReturn (separates : Separates key "" between) :
    Separates key "" (dropReturn between) := by
  cases separates with
  | @sign front back c before sign behind =>
    have other : c ≠ '\r' := by
      rcases sign with rfl | rfl <;> decide
    rw [Text.dropReturn_append_cons front back other]
    exact .sign before sign behind.dropReturn
  | blanks padding _ some plain => exact .blanks padding.dropReturn (fun _ => rfl) some plain

/-- Without a carriage return at its end a line lays out the same. -/
lemma Row.dropReturn (laid : Row row line) : Row row (dropReturn line) := by
  cases laid with
  | @pair key value front between keyable storable before separates =>
    by_cases filled : value = ""
    case neg =>
      have last : dropReturn value.toList = value.toList :=
        Text.dropReturn_eq_self storable.whole
      have some : value.toList ≠ [] := mt String.toList_eq_nil_iff.1 filled
      have whole : dropReturn (front ++ (key.toList ++ (between ++ value.toList)))
          = front ++ (key.toList ++ (between ++ value.toList)) := by
        simp only [← List.append_assoc]
        rw [Text.dropReturn_append _ some, last]
      rw [whole]
      exact .pair keyable storable before separates
    case pos =>
      subst filled
      have shorter : dropReturn (front ++ (key.toList ++ between))
          = front ++ (key.toList ++ dropReturn between) := by
        rw [← List.append_assoc, ← List.append_assoc]
        by_cases none : between = []
        · subst none
          have some : key.toList ≠ [] := mt String.toList_eq_nil_iff.1 separates.key_ne
          have nothing : dropReturn [] = [] := rfl
          rw [nothing, List.append_nil, Text.dropReturn_append front some,
            keyable.plain.dropReturn_eq]
        · exact Text.dropReturn_append _ none
      have laid := Row.pair keyable storable before separates.dropReturn
      rw [String.toList_empty, List.append_nil] at laid ⊢
      rwa [shorter]
  | @comment front rest c before comment inline =>
    have other : c ≠ '\r' := by
      rcases comment with rfl | rfl <;> decide
    rw [Text.dropReturn_append_cons front rest other]
    exact .comment before comment fun mem => inline (Text.mem_of_mem_dropReturn mem)
  | blank padding => exact .blank padding.dropReturn

/-- A line lays out the same whether its carriage return is read or not. -/
lemma Row.readAs (laid : Row row line) (as : ReadAs line read) : Row row read := by
  rcases as with rfl | rfl
  · exact laid
  · exact laid.dropReturn

/-- What stands between a key and its value stays on the line. -/
lemma Separates.inline (separates : Separates key value between) : '\n' ∉ between := by
  cases separates with
  | sign before sign behind =>
    rcases sign with rfl | rfl <;> simp [before.inline, behind.inline]
  | blanks padding _ _ _ => exact padding.inline

/-- A row stays on its line. -/
lemma Row.inline (laid : Row row line) : '\n' ∉ line := by
  cases laid with
  | @pair key value front between keyable storable before separates =>
    have name : '\n' ∉ key.toList := fun mem => absurd (keyable.plain '\n' mem) (by decide)
    simp [before.inline, name, separates.inline, storable.inline]
  | comment before comment inline =>
    rcases comment with rfl | rfl <;> simp [before.inline, inline]
  | blank padding => exact padding.inline

/-! ### All lines -/

/-- Lines lay out the same pairs as they are read. -/
lemma rows_readAs {reads : List (List Char)} (laid : List.Forall₂ Row rows lines)
    (as : List.Forall₂ ReadAs lines reads) : List.Forall₂ Row rows reads := by
  induction as generalizing rows with
  | nil => exact laid
  | cons as _ ih =>
    cases laid with
    | cons first others => exact .cons (first.readAs as) (ih others)

/-- What lays out a pair stays on its line. -/
lemma rows_inline (laid : List.Forall₂ Row rows lines) : ∀ line ∈ lines, '\n' ∉ line := by
  induction laid with
  | nil => nofun
  | cons first _ ih => exact List.forall_mem_cons.2 ⟨first.inline, ih⟩

/-- The pairs that are laid out are what the lines give. -/
lemma filterMap_entry_of_rows (laid : List.Forall₂ Row rows lines) :
    lines.filterMap entry? = rows.reduceOption := by
  induction laid with
  | nil => rfl
  | @cons row line rows lines first _ ih =>
    cases row with
    | none => rw [List.filterMap_cons_none first.entry_eq, ih, List.reduceOption_cons_of_none]
    | some e => rw [List.filterMap_cons_some first.entry_eq, ih, List.reduceOption_cons_of_some]

/-- The lines of a sheet give its pairs. -/
theorem Sheet.filterMap_entry (sheet : Sheet pairs text) :
    (Text.lines text.toList).filterMap entry? = pairs := by
  cases sheet with
  | of laid lays =>
    exact filterMap_entry_of_rows (rows_readAs laid (lays.forall₂_lines (rows_inline laid)))

/--
From a text that lays out pairs of a key and a value exactly these are read, however they are laid
out: each key has the value of its last pair, and a key without a pair has none.
-/
theorem Sheet.last_pair_counts (sheet : Sheet pairs text) (key value : String) :
    (parse text).get? key = some value ↔
      ∃ before behind, pairs = before ++ (key, value) :: behind ∧ key ∉ behind.map Prod.fst := by
  rw [parse, sheet.filterMap_entry]
  exact Table.get?_ofList_eq_some_iff_last

namespace Quay

def notices : List (String × String) :=
  [("a", "=x"), ("b", ""), ("", "1"), ("a", ":y ")]

/-- A value that begins with a sign, behind another sign and blanks. -/
def first : List Char :=
  ['\u2003'] ++ ("a".toList ++ ([' '] ++ [':'] ++ "=x".toList))

/-- An empty value behind a carriage return. -/
def second : List Char :=
  [] ++ ("b".toList ++ (['\r'] ++ "".toList))

/-- An empty key. -/
def third : List Char :=
  [] ++ ("".toList ++ ([] ++ ['='] ++ "1".toList))

/-- The first key again. -/
def fourth : List Char :=
  [] ++ ("a".toList ++ (['\t'] ++ ['='] ++ ":y ".toList))

def board : List Char :=
  [] ++ '!' :: " a=0".toList ++ '\n' :: (first ++ '\r' :: '\n' ::
    ([' '] ++ '\n' :: (second ++ '\n' :: (third ++ '\r' :: '\n' :: (fourth ++ ['\n'])))))

lemma row_first : Row (some ("a", "=x")) first :=
  .pair (by decide) (by decide) (by decide) (.sign (by decide) (.inr rfl) Text.padding_nil)

lemma row_second : Row (some ("b", "")) second :=
  .pair (by decide) (by decide) Text.padding_nil (.blanks (by decide) nofun (by decide) nofun)

lemma row_third : Row (some ("", "1")) third :=
  .pair (by decide) (by decide) Text.padding_nil
    (.sign Text.padding_nil (.inl rfl) Text.padding_nil)

lemma row_fourth : Row (some ("a", ":y ")) fourth :=
  .pair (by decide) (by decide) Text.padding_nil (.sign (by decide) (.inl rfl) Text.padding_nil)

/-- The board lays out the notices. -/
lemma sheet : Sheet notices (String.ofList board) := by
  have comment : Row none ([] ++ '!' :: " a=0".toList) :=
    .comment Text.padding_nil (.inr rfl) (by decide)
  have blank : Row none [' '] := .blank (by decide)
  refine .of (.cons comment (.cons row_first (.cons blank (.cons row_second (.cons row_third
    (.cons row_fourth .nil)))))) ?_
  rw [String.toList_ofList]
  exact .feed (.returnFeed (.feed (.feed (.returnFeed (.feed .nil)))))

/-- The first pair of a key that comes again does not count, and a value may begin with a sign. -/
theorem last_pair_counts_on_quay : Sheet notices (String.ofList board) ∧
    (parse (String.ofList board)).get? "a" = some ":y " ∧
    (parse (String.ofList board)).get? "b" = some "" ∧
    (parse (String.ofList board)).get? "" = some "1" := by
  refine ⟨sheet, ?_, ?_, ?_⟩
  · exact (sheet.last_pair_counts _ _).2 ⟨[("a", "=x"), ("b", ""), ("", "1")], [], rfl, nofun⟩
  · exact (sheet.last_pair_counts _ _).2
      ⟨[("a", "=x")], [("", "1"), ("a", ":y ")], rfl, by decide⟩
  · exact (sheet.last_pair_counts _ _).2 ⟨[("a", "=x"), ("b", "")], [("a", ":y ")], rfl, by decide⟩

end Quay

end Properties

end LedgerWatch
