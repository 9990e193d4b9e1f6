import LedgerWatch.Proofs.Identity.Spelling
import LedgerWatch.Proofs.Json.Roundtrip
import LedgerWatch.Text.Integer

/-!
# Decimal texts of integers

The texts that write an integer, said without reading: a sign or none, and one or more digits, with
any number of zeros in front. An integer between two bounds is read from these texts, and from
nothing else (`readInteger_eq_ok_iff`).
-/

namespace LedgerWatch.Text

variable {c : Char} {cs digits : List Char} {limit value n : Nat} {overflow : IntegerFault}
  {low high i : Int}

/-- One or more decimal digits. -/
structure Digits (cs : List Char) : Prop where
  some : cs ≠ []
  each : ∀ c ∈ cs, c.isDigit = true

instance (cs : List Char) : Decidable (Digits cs) :=
  decidable_of_iff (cs ≠ [] ∧ cs.all Char.isDigit = true)
    ⟨fun h => ⟨h.1, List.all_eq_true.1 h.2⟩, fun h => ⟨h.some, List.all_eq_true.2 h.each⟩⟩

/-- The number that decimal digits write. -/
def numeral (cs : List Char) : Nat :=
  Nat.ofDigitChars 10 cs 0

/-- A text writes an integer in decimal. -/
inductive Decimal : Int → List Char → Prop where
  | bare {digits : List Char} :
    Digits digits →
    Decimal (numeral digits) digits
  | plus {digits : List Char} :
    Digits digits →
    Decimal (numeral digits) ('+' :: digits)
  | minus {digits : List Char} :
    Digits digits →
    Decimal (-numeral digits) ('-' :: digits)

/-- A digit has the value of its place among the digits. -/
lemma digit?_of_isDigit (digit : c.isDigit = true) : digit? c = some (c.toNat - '0'.toNat) :=
  if_pos digit

/-- Further digits make a number no smaller. -/
lemma le_ofDigitChars (cs : List Char) (value : Nat) : value ≤ Nat.ofDigitChars 10 cs value := by
  rw [Nat.ofDigitChars_eq_ofDigitChars_zero]
  have shifted : value ≤ 10 ^ cs.length * value :=
    Nat.le_mul_of_pos_left value (Nat.pow_pos (by decide))
  exact shifted.trans (Nat.le_add_right _ _)

/--
Digits are read unless the number is too great: the numbers on the way there are not greater than
the last one.
-/
lemma readDigits_eq_ok_iff (small : value ≤ limit) : readDigits limit overflow value cs = .ok n ↔
    (∀ c ∈ cs, c.isDigit = true) ∧ n = Nat.ofDigitChars 10 cs value ∧ n ≤ limit := by
  induction cs generalizing value with
  | nil =>
    rw [readDigits, Nat.ofDigitChars_nil, Except.ok.injEq]
    constructor
    · rintro rfl
      exact ⟨fun _ mem => absurd mem List.not_mem_nil, rfl, small⟩
    · rintro ⟨-, rfl, -⟩
      rfl
  | cons c cs ih =>
    rw [readDigits, Nat.ofDigitChars_cons, List.forall_mem_cons]
    by_cases digit : c.isDigit = true
    · simp only [digit?_of_isDigit digit, digit, true_and]
      rw [Nat.mul_comm]
      split
      case isTrue within => exact ih within
      case isFalse beyond =>
        constructor
        · intro read
          cases read
        · rintro ⟨-, rfl, within⟩
          exact absurd ((le_ofDigitChars cs _).trans within) beyond
    · have none : digit? c = none := if_neg digit
      rw [none]
      constructor
      · intro read
        cases read
      · rintro ⟨⟨first, -⟩, -⟩
        exact absurd first digit

/-- A magnitude is read from digits that write a number up to the limit. -/
lemma readMagnitude_eq_ok_iff :
    readMagnitude limit overflow cs = .ok n ↔ Digits cs ∧ n = numeral cs ∧ n ≤ limit := by
  cases cs with
  | nil =>
    constructor
    · intro read
      cases read
    · rintro ⟨digits, -⟩
      exact absurd rfl digits.some
  | cons c cs =>
    rw [readMagnitude, readDigits_eq_ok_iff (Nat.zero_le limit)]
    exact and_congr_left' ⟨fun each => ⟨List.cons_ne_nil c cs, each⟩, Digits.each⟩

/-- What becomes of a result is found if the result was. -/
lemma map_eq_ok_iff {ε α β : Type} {x : Except ε α} {f : α → β} {b : β} :
    x.map f = .ok b ↔ ∃ a, x = .ok a ∧ f a = b := by
  cases x <;> simp [Except.map]

/-! What is read behind a plus sign, behind a minus sign, and without a sign. -/

/-- An integer after a plus sign is as large as its digits say. -/
lemma readInteger_plus : readInteger low high ('+' :: cs) = .ok i ↔
    ∃ n, readMagnitude high.toNat .tooLarge cs = .ok n ∧ (n : Int) = i :=
  map_eq_ok_iff

/-- An integer after a minus sign is below zero by what its digits say. -/
lemma readInteger_minus (below : low < 0) : readInteger low high ('-' :: cs) = .ok i ↔
    ∃ n, readMagnitude low.natAbs .tooSmall cs = .ok n ∧ -(n : Int) = i := by
  have other : '-' ≠ '+' := by decide
  have negated : readInteger low high ('-' :: cs)
      = (readMagnitude low.natAbs .tooSmall cs).map fun n : Nat => -(n : Int) := by
    rw [readInteger.eq_3 _ _ '-' cs other, if_pos ⟨rfl, below⟩]
    cases readMagnitude low.natAbs .tooSmall cs <;> rfl
  rw [negated]
  exact map_eq_ok_iff

/-- An integer without a sign is as large as its digits say. -/
lemma readInteger_bare (plus : c ≠ '+') (minus : c ≠ '-') :
    readInteger low high (c :: cs) = .ok i ↔
      ∃ n, readMagnitude high.toNat .tooLarge (c :: cs) = .ok n ∧ (n : Int) = i := by
  rw [readInteger.eq_3 _ _ c cs plus, if_neg fun sign => minus sign.1]
  exact map_eq_ok_iff

/-- A text that begins with a digit begins with no sign. -/
lemma Digits.head_ne (digits : Digits (c :: cs)) : c ≠ '+' ∧ c ≠ '-' := by
  have digit := digits.each c List.mem_cons_self
  constructor <;> rintro rfl <;> cases digit

/-- An integer between two bounds is read from its decimal texts. -/
theorem readInteger_eq_ok_iff (below : low < 0) (above : 0 ≤ high) :
    readInteger low high cs = .ok i ↔ Decimal i cs ∧ low ≤ i ∧ i ≤ high := by
  constructor
  case mp =>
    intro read
    cases cs with
    | nil => cases read
    | cons c cs =>
      by_cases plus : c = '+'
      · subst plus
        obtain ⟨n, magnitude, rfl⟩ := readInteger_plus.1 read
        obtain ⟨all, rfl, within⟩ := readMagnitude_eq_ok_iff.1 magnitude
        exact ⟨.plus all, by omega, by omega⟩
      · by_cases minus : c = '-'
        · subst minus
          obtain ⟨n, magnitude, rfl⟩ := (readInteger_minus below).1 read
          obtain ⟨all, rfl, within⟩ := readMagnitude_eq_ok_iff.1 magnitude
          exact ⟨.minus all, by omega, by omega⟩
        · obtain ⟨n, magnitude, rfl⟩ := (readInteger_bare plus minus).1 read
          obtain ⟨all, rfl, within⟩ := readMagnitude_eq_ok_iff.1 magnitude
          exact ⟨.bare all, by omega, by omega⟩
  case mpr =>
    rintro ⟨written, least, most⟩
    cases written with
    | @bare digits all =>
      obtain ⟨c, cs, rfl⟩ := List.exists_cons_of_ne_nil all.some
      obtain ⟨plus, minus⟩ := all.head_ne
      have within : numeral (c :: cs) ≤ high.toNat := by omega
      exact (readInteger_bare plus minus).2 ⟨_, readMagnitude_eq_ok_iff.2 ⟨all, rfl, within⟩, rfl⟩
    | @plus digits all =>
      have within : numeral digits ≤ high.toNat := by omega
      exact readInteger_plus.2 ⟨_, readMagnitude_eq_ok_iff.2 ⟨all, rfl, within⟩, rfl⟩
    | @minus digits all =>
      have within : numeral digits ≤ low.natAbs := by omega
      exact (readInteger_minus below).2 ⟨_, readMagnitude_eq_ok_iff.2 ⟨all, rfl, within⟩, rfl⟩

/-- A digit is not blank. -/
lemma not_blank_of_isDigit (digit : c.isDigit = true) : isBlank c = false := by
  obtain ⟨low, high⟩ : 48 ≤ c.toNat ∧ c.toNat ≤ 57 := by
    simpa [Char.isDigit, UInt32.le_iff_toNat_le] using digit
  exact not_blank_of_ascii (by omega) (by omega)

/-- There are no blanks in a decimal text. -/
lemma Decimal.not_blank (written : Decimal i cs) : ∀ c ∈ cs, isBlank c = false := by
  cases written with
  | bare all => exact fun c mem => not_blank_of_isDigit (all.each c mem)
  | plus all | minus all =>
    intro c mem
    rcases List.mem_cons.1 mem with rfl | mem
    · decide
    · exact not_blank_of_isDigit (all.each c mem)

/-- A number is written with digits. -/
lemma digits_natText (n : Nat) : Digits (natText n) :=
  ⟨natText_ne_nil n, fun _ mem => isDigit_of_mem_natText mem⟩

/-- The digits of a number write that number. -/
lemma numeral_natText (n : Nat) : numeral (natText n) = n :=
  Nat.ofDigitChars_toDigits (by omega) (by omega)

/-- The digits of a number are read as the number unless it is too great. -/
lemma readInteger_natText (h : n ≤ high.toNat) : readInteger low high (natText n) = .ok n := by
  have digits := digits_natText n
  have read : readMagnitude high.toNat .tooLarge (natText n) = .ok n :=
    readMagnitude_eq_ok_iff.2 ⟨digits, (numeral_natText n).symm, h⟩
  obtain ⟨c, cs, written⟩ := List.exists_cons_of_ne_nil digits.some
  rw [written] at digits read ⊢
  exact (readInteger_bare digits.head_ne.1 digits.head_ne.2).2 ⟨n, read, rfl⟩

/-- The decimal text of an integer, without zeros in front, writes it. -/
lemma decimal_intText (i : Int) : Decimal i (intText i) := by
  rw [intText]
  split
  case isTrue negative =>
    have written := Decimal.minus (digits_natText i.natAbs)
    rwa [numeral_natText, ← Int.eq_neg_natAbs_of_nonpos negative.le] at written
  case isFalse nonneg =>
    have written := Decimal.bare (digits_natText i.natAbs)
    rwa [numeral_natText, Int.natAbs_of_nonneg (not_lt.1 nonneg)] at written

/-- Zero is written without a sign. -/
lemma intText_ne_minus_zero (i : Int) : intText i ≠ ['-', '0'] := by
  rw [intText]
  split
  case isTrue negative =>
    obtain ⟨c, cs, digits, other⟩ := natText_head (n := i.natAbs) (by omega)
    rw [digits]
    rintro ⟨⟩
    exact other rfl
  case isFalse =>
    intro e
    have digit := isDigit_of_mem_natText (n := i.natAbs) (e ▸ List.mem_cons_self)
    cases digit

/-! Zeros in front change the width of a number and nothing else. -/

/-- A number is padded with digits. -/
lemma digits_paddedNat (width n : Nat) : Digits (paddedNat width n) := by
  refine ⟨List.append_ne_nil_of_right_ne_nil _ (natText_ne_nil n), fun c mem => ?_⟩
  rcases List.mem_append.1 mem with zero | digit
  · rw [List.eq_of_mem_replicate zero]
    rfl
  · exact isDigit_of_mem_natText digit

/-- Padding does not change what digits write. -/
lemma numeral_paddedNat (width n : Nat) : numeral (paddedNat width n) = n := by
  rw [numeral, paddedNat, Nat.ofDigitChars_append, Nat.ofDigitChars_replicate_zero, Nat.mul_zero]
  exact numeral_natText n

/-- A small number is padded to its width. -/
lemma length_paddedNat {width : Nat} (pos : 0 < width) (small : n < 10 ^ width) :
    (paddedNat width n).length = width := by
  have short : (natText n).length ≤ width :=
    (Nat.length_toDigits_le_iff (by decide) pos).2 small
  rw [paddedNat, List.length_append, List.length_replicate]
  exact Nat.sub_add_cancel short

end LedgerWatch.Text
