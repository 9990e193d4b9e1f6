import LedgerWatch.Proofs.Identity.Text
import Mathlib.Data.List.TakeWhile

/-!
# Spellings of identifiers

The texts from which an identifier is read, said without reading: 32 hexadecimal digits that write
its number, alone or in groups with hyphens between them, the groups also in braces or after
`urn:uuid:` in either letter case, and any blanks around them.
-/

namespace LedgerWatch

namespace Text

variable {cs ds front back : List Char} {value n : Nat}

/-- Nothing is dropped where nothing is blank. -/
lemma dropWhile_eq_self (h : ∀ c ∈ cs, isBlank c = false) : cs.dropWhile isBlank = cs := by
  cases cs with
  | nil => rfl
  | cons c rest => exact trimStart_cons_of_not_blank rest (h c List.mem_cons_self)

/-- Blanks around a text without blanks are taken off. -/
lemma trim_append (before : ∀ c ∈ front, isBlank c = true) (inside : ∀ c ∈ cs, isBlank c = false)
    (behind : ∀ c ∈ back, isBlank c = true) : trim (front ++ (cs ++ back)) = cs := by
  rw [trim, trimStart, List.dropWhile_append_of_pos before]
  cases cs with
  | nil =>
    rw [List.nil_append, List.dropWhile_eq_nil_iff.2 behind]
    rfl
  | cons c rest =>
    have first : isBlank c = false := inside c List.mem_cons_self
    have behind' : ∀ d ∈ back.reverse, isBlank d = true :=
      fun d mem => behind d (List.mem_reverse.1 mem)
    have inside' : ∀ d ∈ (c :: rest).reverse, isBlank d = false :=
      fun d mem => inside d (List.mem_reverse.1 mem)
    have start : (c :: rest ++ back).dropWhile isBlank = c :: rest ++ back :=
      trimStart_cons_of_not_blank (rest ++ back) first
    rw [start, trimEnd, List.reverse_append, List.dropWhile_append_of_pos behind',
      dropWhile_eq_self inside', List.reverse_reverse]

/-- Only blanks are taken off. -/
lemma exists_append_trim (cs : List Char) :
    ∃ front back, cs = front ++ (trim cs ++ back) ∧ (∀ c ∈ front, isBlank c = true) ∧
      ∀ c ∈ back, isBlank c = true := by
  let started := trimStart cs
  refine ⟨cs.takeWhile isBlank, (started.reverse.takeWhile isBlank).reverse, ?_, ?_, ?_⟩
  · have ended : trimEnd started ++ (started.reverse.takeWhile isBlank).reverse = started := by
      rw [trimEnd, ← List.reverse_append, List.takeWhile_append_dropWhile, List.reverse_reverse]
    rw [trim, ended]
    exact (List.takeWhile_append_dropWhile (p := isBlank) (l := cs)).symm
  · exact fun c mem => List.mem_takeWhile_imp mem
  · exact fun c mem => List.mem_takeWhile_imp (List.mem_reverse.1 mem)

/-- The characters that have a value as digits. -/
lemma hexValue?_eq_some {c : Char} {d : Nat} (h : hexValue? c = some d) :
    (48 ≤ c.toNat ∧ c.toNat ≤ 57 ∧ d = c.toNat - 48) ∨
      (97 ≤ c.toNat ∧ c.toNat ≤ 102 ∧ d = c.toNat - 97 + 10) ∨
      (65 ≤ c.toNat ∧ c.toNat ≤ 70 ∧ d = c.toNat - 65 + 10) := by
  have le (a b : Char) : a ≤ b ↔ a.toNat ≤ b.toNat := Iff.rfl
  simp only [hexValue?, le] at h
  split at h
  case isTrue range => exact .inl ⟨range.1, range.2, (Option.some.inj h).symm⟩
  case isFalse =>
    split at h
    case isTrue range => exact .inr (.inl ⟨range.1, range.2, (Option.some.inj h).symm⟩)
    case isFalse =>
      split at h
      case isTrue range => exact .inr (.inr ⟨range.1, range.2, (Option.some.inj h).symm⟩)
      case isFalse => cases h

/-- The value of a hexadecimal digit is below sixteen. -/
lemma hexValue?_lt {c : Char} {d : Nat} (h : hexValue? c = some d) : d < 16 := by
  rcases hexValue?_eq_some h with ⟨_, _, _⟩ | ⟨_, _, _⟩ | ⟨_, _, _⟩ <;> omega

/-- A number that is read is within the width of its digits. -/
lemma readHexFrom_lt {cs : List Char} {value n : Nat} (h : readHexFrom value cs = some n) :
    n < (value + 1) * 16 ^ cs.length := by
  induction cs generalizing value with
  | nil =>
    obtain rfl := Option.some.inj h
    simp
  | cons c rest ih =>
    rw [readHexFrom] at h
    split at h
    case h_1 => cases h
    case h_2 d digit =>
      have small : d < 16 := hexValue?_lt digit
      calc
        n < (value * 16 + d + 1) * 16 ^ rest.length := ih h
        _ ≤ ((value + 1) * 16) * 16 ^ rest.length := Nat.mul_le_mul_right _ (by omega)
        _ = (value + 1) * 16 ^ (c :: rest).length := by
          rw [List.length_cons, pow_succ', mul_assoc]

/-- Between the tabulators and the blanks beyond ASCII, only the space is blank. -/
lemma not_blank_of_ascii {c : Char} (low : 33 ≤ c.toNat) (high : c.toNat < 133) :
    isBlank c = false := by
  simp only [isBlank, blankRanges, List.any_cons, List.any_nil, Bool.or_false, Bool.or_eq_false_iff,
    Bool.and_eq_false_iff, decide_eq_false_iff_not]
  omega

/-- A character with the value of a digit is not blank. -/
lemma not_blank_of_hexValue? {c : Char} {d : Nat} (h : hexValue? c = some d) :
    isBlank c = false := by
  rcases hexValue?_eq_some h with ⟨_, _, _⟩ | ⟨_, _, _⟩ | ⟨_, _, _⟩ <;>
    exact not_blank_of_ascii (by omega) (by omega)

/-- A character of which there is a lower case is not blank. -/
lemma not_blank_of_toLower_ne {c : Char} (h : c.toLower ≠ c) : isBlank c = false := by
  delta Char.toLower at h
  split at h
  case isTrue range =>
    have low : 65 ≤ c.toNat := range.1
    have high : c.toNat ≤ 90 := range.2
    exact not_blank_of_ascii (by omega) (by omega)
  case isFalse => exact absurd rfl h

/-- A text in another letter case has no blanks either. -/
lemma not_blank_of_alike (h : alike cs ds = true)
    (visible : (ds.map Char.toLower).any isBlank = false) : ∀ c ∈ cs, isBlank c = false := by
  rw [alike, beq_iff_eq] at h
  intro c mem
  by_cases same : c.toLower = c
  · have there : c.toLower ∈ cs.map Char.toLower := List.mem_map_of_mem mem
    rw [h, same] at there
    exact Bool.eq_false_iff.2 (List.any_eq_false.1 visible c there)
  · exact not_blank_of_toLower_ne same

/-- Hexadecimal digits that are read are not blank. -/
lemma not_blank_of_readHexFrom (h : readHexFrom value cs = some n) :
    ∀ c ∈ cs, isBlank c = false := by
  induction cs generalizing value with
  | nil => exact nofun
  | cons c rest ih =>
    rw [readHexFrom] at h
    split at h
    case h_1 => cases h
    case h_2 d digit =>
      intro e mem
      rcases List.mem_cons.1 mem with rfl | mem
      · exact not_blank_of_hexValue? digit
      · exact ih h e mem

end Text

namespace Identifier

variable {subject : Subject} {id : Identifier subject} {lengths : List Nat}
  {cs ds front back : List Char} {text : String}

/-- Hyphens are taken out of a text exactly when they were put between the groups. -/
lemma unhyphenate?_eq_some_iff :
    unhyphenate? lengths cs = some ds ↔ ds.length = lengths.sum ∧ cs = hyphenate lengths ds := by
  constructor
  case mpr =>
    rintro ⟨long, rfl⟩
    exact unhyphenate?_hyphenate long
  case mp =>
    intro h
    induction lengths generalizing cs ds with
    | nil =>
      cases cs with
      | nil =>
        obtain rfl := Option.some.inj h
        exact ⟨rfl, rfl⟩
      | cons c rest => cases h
    | cons n rest ih =>
      cases rest with
      | nil =>
        rw [unhyphenate?] at h
        split at h
        case isTrue whole =>
          obtain rfl := Option.some.inj h
          refine ⟨by simpa using whole, ?_⟩
          rw [hyphenate, List.take_of_length_le whole.le]
        case isFalse => cases h
      | cons m lengths =>
        simp only [unhyphenate?] at h
        split at h
        case h_1 left cut =>
          obtain ⟨others, read, rfl⟩ := Option.map_eq_some_iff.1 h
          obtain ⟨long, rfl⟩ := ih read
          have front : (cs.take n).length = n := by
            have : 0 < (cs.drop n).length := by
              rw [cut]
              exact Nat.succ_pos _
            rw [List.length_drop] at this
            exact List.length_take_of_le (by omega)
          refine ⟨?_, ?_⟩
          · rw [List.length_append, front, long]
            exact List.sum_cons.symm
          simp only [hyphenate]
          rw [List.take_left' front, List.drop_left' front, ← cut, List.take_append_drop]
        case h_2 => cases h

/-- The ways in which digits are spelled. -/
inductive Spelling (ds : List Char) : List Char → Prop where
  | plain : Spelling ds ds
  | hyphenated : Spelling ds (hyphenate groupLengths ds)
  | braced : Spelling ds ('{' :: (hyphenate groupLengths ds ++ ['}']))
  | marked {mark : List Char} (alike : Text.alike mark urnMark = true) :
    Spelling ds (mark ++ hyphenate groupLengths ds)

/-- The mark in front of a name has nine characters, in whatever case. -/
lemma length_of_alike (h : Text.alike cs urnMark = true) : cs.length = 9 := by
  rw [Text.alike, beq_iff_eq] at h
  have same : cs.length = urnMark.length := by simpa using congrArg List.length h
  exact same.trans (by decide)

/-- Digits with hyphens between their groups have 36 characters. -/
lemma length_hyphenated (long : ds.length = groupLengths.sum) :
    (hyphenate groupLengths ds).length = 36 :=
  length_hyphenate long

/-- A text between braces. -/
lemma eq_braced (long : cs.length = 38) (first : cs.head? = some '{')
    (last : cs.getLast? = some '}') : cs = '{' :: ((cs.drop 1).dropLast ++ ['}']) := by
  obtain ⟨rest, rfl⟩ := List.head?_eq_some_iff.1 first
  rw [List.length_cons] at long
  have some' : rest ≠ [] := List.ne_nil_of_length_pos (by omega)
  have last' : rest.getLast? = some '}' := by
    rwa [List.getLast?_cons_of_ne_nil some'] at last
  obtain ⟨inside, rfl⟩ := List.getLast?_eq_some_iff.1 last'
  simp

/-- The digits that are found are those that are spelled. -/
lemma bareDigits?_eq_some_iff :
    bareDigits? cs = some ds ↔ ds.length = groupLengths.sum ∧ Spelling ds cs := by
  constructor
  case mp =>
    intro h
    rw [bareDigits?] at h
    split at h
    case isTrue long =>
      obtain rfl := Option.some.inj h
      exact ⟨long, .plain⟩
    case isFalse =>
      split at h
      case isTrue =>
        obtain ⟨long, rfl⟩ := unhyphenate?_eq_some_iff.1 h
        exact ⟨long, .hyphenated⟩
      case isFalse =>
        split at h
        case isTrue form =>
          obtain ⟨long, first, last⟩ := form
          obtain ⟨few, inside⟩ := unhyphenate?_eq_some_iff.1 h
          rw [eq_braced long first last, inside]
          exact ⟨few, .braced⟩
        case isFalse =>
          split at h
          case isTrue form =>
            obtain ⟨few, rest⟩ := unhyphenate?_eq_some_iff.1 h
            rw [← List.take_append_drop 9 cs, rest]
            exact ⟨few, .marked form.2⟩
          case isFalse => cases h
  case mpr =>
    rintro ⟨long, spelled⟩
    have width := length_hyphenated long
    have found := unhyphenate?_hyphenate long
    cases spelled with
    | plain => exact if_pos long
    | hyphenated => rw [bareDigits?, if_neg (by omega), if_pos width, found]
    | braced =>
      have whole : ('{' :: (hyphenate groupLengths ds ++ ['}'])).length = 38 := by
        rw [List.length_cons, List.length_append, width]
        rfl
      have last : ('{' :: (hyphenate groupLengths ds ++ ['}'])).getLast? = some '}' := by
        rw [← List.cons_append, List.getLast?_concat]
      rw [bareDigits?, if_neg (by omega), if_neg (by omega), if_pos ⟨whole, rfl, last⟩,
        List.drop_one, List.tail_cons,
        List.dropLast_concat, found]
    | @marked mark alike =>
      have nine := length_of_alike alike
      have whole : (mark ++ hyphenate groupLengths ds).length = 45 := by
        rw [List.length_append, nine, width]
      have front : (mark ++ hyphenate groupLengths ds).take 9 = mark := List.take_left' nine
      have back : (mark ++ hyphenate groupLengths ds).drop 9 = hyphenate groupLengths ds :=
        List.drop_left' nine
      rw [bareDigits?, if_neg (by omega), if_neg (by omega),
        if_neg (fun form => absurd form.1 (by omega)), front, back, if_pos ⟨whole, alike⟩, found]

/-- The mark has no blanks in either letter case. -/
lemma not_blank_of_alike (h : Text.alike cs urnMark = true) : ∀ c ∈ cs, Text.isBlank c = false :=
  Text.not_blank_of_alike h (by decide)

/-- A spelling has no blanks. -/
lemma Spelling.not_blank (h : Spelling ds cs) (digits : ∀ c ∈ ds, Text.isBlank c = false) :
    ∀ c ∈ cs, Text.isBlank c = false := by
  have groups : ∀ c ∈ hyphenate groupLengths ds, Text.isBlank c = false := by
    intro c mem
    rcases mem_hyphenate mem with rfl | mem
    · decide
    · exact digits c mem
  cases h with
  | plain => exact digits
  | hyphenated => exact groups
  | braced =>
    intro c mem
    rcases List.mem_cons.1 mem with rfl | mem
    · decide
    · rcases List.mem_append.1 mem with mem | mem
      · exact groups c mem
      · rw [List.mem_singleton.1 mem]
        decide
  | marked alike =>
    intro c mem
    rcases List.mem_append.1 mem with mem | mem
    · exact not_blank_of_alike alike c mem
    · exact groups c mem

/-- A text spells an identifier, with blanks around the spelling. -/
def Spells (text : String) (id : Identifier subject) : Prop :=
  ∃ front ds cs back, text.toList = front ++ (cs ++ back) ∧
    (∀ c ∈ front, Text.isBlank c = true) ∧ (∀ c ∈ back, Text.isBlank c = true) ∧
    Spelling ds cs ∧ ds.length = groupLengths.sum ∧ Text.readHex ds = some id.toNat

/-- A text is read as an identifier just if it spells its digits. -/
lemma ofText?_eq_some_iff : ofText? text = some id ↔
    ∃ ds, Spelling ds text.toList ∧ ds.length = groupLengths.sum ∧
      Text.readHex ds = some id.toNat := by
  rw [ofText?, Option.bind_eq_some_iff]
  constructor
  case mp =>
    rintro ⟨ds, found, read⟩
    obtain ⟨long, spelled⟩ := bareDigits?_eq_some_iff.1 found
    obtain ⟨n, number, rfl⟩ := Option.map_eq_some_iff.1 read
    refine ⟨ds, spelled, long, ?_⟩
    have fits : n < 2 ^ 128 := by
      have bound := Text.readHexFrom_lt number
      rwa [long, Nat.zero_add, Nat.one_mul] at bound
    rw [number, toNat, ofNat, BitVec.toNat_ofNat, Nat.mod_eq_of_lt fits]
  case mpr =>
    rintro ⟨ds, spelled, long, read⟩
    refine ⟨ds, bareDigits?_eq_some_iff.2 ⟨long, spelled⟩, ?_⟩
    rw [read, Option.map_some, ofNat_toNat]

/-- An identifier is read from its spellings, and from nothing else. -/
theorem read?_eq_some_iff : read? text = some id ↔ Spells text id := by
  rw [read?, ofText?_eq_some_iff, Text.trimmed, String.toList_ofList]
  constructor
  case mp =>
    rintro ⟨ds, spelled, long, read⟩
    obtain ⟨front, back, whole, before, behind⟩ := Text.exists_append_trim text.toList
    exact ⟨front, ds, _, back, whole, before, behind, spelled, long, read⟩
  case mpr =>
    rintro ⟨front, ds, cs, back, whole, before, behind, spelled, long, read⟩
    have inside := spelled.not_blank (Text.not_blank_of_readHexFrom read)
    refine ⟨ds, ?_, long, read⟩
    rwa [whole, Text.trim_append before inside behind]

end Identifier

end LedgerWatch
