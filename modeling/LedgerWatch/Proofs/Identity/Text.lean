import LedgerWatch.Identity.Text
import Mathlib.Algebra.Ring.Nat
import Mathlib.Tactic.Lemma
import Mathlib.Tactic.Ring

/-!
# Identifiers survive being written

The text of an identifier is read as that identifier: hexadecimal digits give their number back, the
hyphens are found where they were put, and there are no blanks around to be ignored.
-/

namespace LedgerWatch

namespace Text

/-- The characters of hexadecimal texts. -/
def Hexadecimal (c : Char) : Prop :=
  ∃ n, n < 16 ∧ c = hexDigit n

/-- The digit of a number below sixteen has that value. -/
lemma hexValue?_hexDigit {n : Nat} (h : n < 16) : hexValue? (hexDigit n) = some n := by
  have each : ∀ n : Fin 16, hexValue? (hexDigit n) = some n.val := by decide
  exact each ⟨n, h⟩

/-- A hexadecimal digit is not blank. -/
lemma Hexadecimal.not_blank {c : Char} (h : Hexadecimal c) : isBlank c = false := by
  obtain ⟨n, lt, rfl⟩ := h
  have each : ∀ n : Fin 16, isBlank (hexDigit n) = false := by decide
  exact each ⟨n, lt⟩

/-- A number is written with hexadecimal digits. -/
lemma hexadecimal_hexText (width n : Nat) : ∀ c ∈ hexText width n, Hexadecimal c := by
  induction width generalizing n with
  | zero => exact nofun
  | succ width ih =>
    intro c mem
    rw [hexText, List.mem_append] at mem
    rcases mem with mem | mem
    · exact ih _ c mem
    · exact ⟨n % 16, Nat.mod_lt n (by omega), List.mem_singleton.1 mem⟩

/-- Digits are read one part after another. -/
lemma readHexFrom_append (value : Nat) (cs ds : List Char) :
    readHexFrom value (cs ++ ds) = (readHexFrom value cs).bind fun v => readHexFrom v ds := by
  induction cs generalizing value with
  | nil => rfl
  | cons c rest ih =>
    rw [List.cons_append, readHexFrom, readHexFrom]
    cases hexValue? c with
    | none => rfl
    | some d => exact ih _

/-- A number of a fixed width is read as far as the width reaches. -/
lemma readHexFrom_hexText (value width n : Nat) :
    readHexFrom value (hexText width n) = some (value * 16 ^ width + n % 16 ^ width) := by
  induction width generalizing n with
  | zero => simp [hexText, readHexFrom, Nat.mod_one]
  | succ width ih =>
    have digit := hexValue?_hexDigit (Nat.mod_lt n (by omega : 16 > 0))
    rw [hexText, readHexFrom_append, ih, Option.bind_some, readHexFrom, digit]
    simp only [readHexFrom]
    congr 1
    rw [pow_succ', Nat.mod_mul]
    ring

/-- A text without blanks at its two ends stays as it is. -/
lemma trim_eq_self {cs : List Char} (h : ∀ c ∈ cs, isBlank c = false) : trim cs = cs := by
  have start (ds : List Char) (h : ∀ c ∈ ds, isBlank c = false) : ds.dropWhile isBlank = ds := by
    cases ds with
    | nil => rfl
    | cons c rest => exact trimStart_cons_of_not_blank rest (h c List.mem_cons_self)
  rw [trim, trimStart, start cs h, trimEnd, start, List.reverse_reverse]
  intro c mem
  exact h c (List.mem_reverse.1 mem)

end Text

namespace Identifier

variable {subject : Subject}

/-- There is one hyphen between any two groups. -/
lemma length_hyphenate {lengths : List Nat} {cs : List Char} (h : cs.length = lengths.sum) :
    (hyphenate lengths cs).length = lengths.sum + (lengths.length - 1) := by
  induction lengths generalizing cs with
  | nil => rfl
  | cons n rest ih =>
    rw [List.sum_cons] at h
    have front : (cs.take n).length = n := List.length_take_of_le (by omega)
    cases rest with
    | nil => exact front
    | cons m lengths =>
      have left : (cs.drop n).length = (m :: lengths).sum := by
        rw [List.length_drop]
        omega
      have back := ih left
      simp only [hyphenate, List.length_append, List.length_cons, front, back, List.sum_cons]
      omega

/-- Nothing but hyphens comes between the digits. -/
lemma mem_hyphenate {lengths : List Nat} {cs : List Char} {c : Char}
    (h : c ∈ hyphenate lengths cs) : c = '-' ∨ c ∈ cs := by
  induction lengths generalizing cs with
  | nil => cases h
  | cons n rest ih =>
    cases rest with
    | nil => exact .inr (List.mem_of_mem_take h)
    | cons m lengths =>
      rw [hyphenate, List.mem_append, List.mem_cons] at h
      · rcases h with h | h | h
        · exact .inr (List.mem_of_mem_take h)
        · exact .inl h
        · exact (ih h).imp_right List.mem_of_mem_drop
      · exact nofun

/-- Hyphens are found where they were put. -/
lemma unhyphenate?_hyphenate {lengths : List Nat} {cs : List Char} (h : cs.length = lengths.sum) :
    unhyphenate? lengths (hyphenate lengths cs) = some cs := by
  induction lengths generalizing cs with
  | nil =>
    obtain rfl := List.eq_nil_of_length_eq_zero h
    rfl
  | cons n rest ih =>
    rw [List.sum_cons] at h
    have front : (cs.take n).length = n := List.length_take_of_le (by omega)
    cases rest with
    | nil =>
      have whole : cs.length = n := by simpa using h
      rw [hyphenate, unhyphenate?, if_pos front, List.take_of_length_le whole.le]
    | cons m lengths =>
      have left : (cs.drop n).length = (m :: lengths).sum := by
        rw [List.length_drop]
        omega
      have back := ih left
      have cut : (hyphenate (n :: m :: lengths) cs).drop n
          = '-' :: hyphenate (m :: lengths) (cs.drop n) := List.drop_left' front
      have kept : (hyphenate (n :: m :: lengths) cs).take n = cs.take n := List.take_left' front
      simp only [unhyphenate?]
      rw [cut, kept]
      simp only
      rw [back, Option.map_some, List.take_append_drop]

/-- An identifier has as many digits as its groups hold. -/
lemma length_digits (id : Identifier subject) : id.digits.length = groupLengths.sum :=
  Text.length_hexText 32 id.toNat

/-- The digits of an identifier are read back. -/
lemma readHex_digits (id : Identifier subject) : Text.readHex id.digits = some id.toNat := by
  have bound : id.toNat < 16 ^ 32 := id.bits.isLt
  rw [Text.readHex, digits, Text.readHexFrom_hexText, Nat.mod_eq_of_lt bound, Nat.zero_mul,
    Nat.zero_add]

/-- There are no blanks in the text of an identifier. -/
lemma text_not_blank (id : Identifier subject) : ∀ c ∈ id.text.toList, Text.isBlank c = false := by
  intro c mem
  rw [text, String.toList_ofList] at mem
  rcases mem_hyphenate mem with rfl | mem
  · decide
  · exact (Text.hexadecimal_hexText _ _ c mem).not_blank

/-- The text of an identifier is read as that identifier. -/
@[simp] theorem ofText?_text (id : Identifier subject) : ofText? id.text = some id := by
  have long : (hyphenate groupLengths id.digits).length = 36 := length_hyphenate id.length_digits
  have bare : bareDigits? id.text.toList = some id.digits := by
    rw [text, String.toList_ofList, bareDigits?, if_neg (by rw [long]; decide), if_pos long]
    exact unhyphenate?_hyphenate id.length_digits
  rw [ofText?, bare, Option.bind_some, readHex_digits, Option.map_some, ofNat_toNat]

/-- The text of an identifier is read back. -/
@[simp] theorem read?_text (id : Identifier subject) : read? id.text = some id := by
  have trimmed : Text.trimmed id.text = id.text := by
    rw [Text.trimmed, Text.trim_eq_self id.text_not_blank, String.ofList_toList]
  rw [read?, trimmed, ofText?_text]

end Identifier

end LedgerWatch
