import LedgerWatch.Proofs.Text.Decimal
import LedgerWatch.Proofs.Time.Calendar
import LedgerWatch.Time.Rfc3339

/-!
# Timestamps survive being written

The text of an instant of the years 0 to 9999 is read as that instant (`read?_text`). Every number
in it is written with as many digits as its reader takes, but for the digits after the point, which
the zone ends.
-/

namespace LedgerWatch

namespace Rfc3339

variable {digits rest : List Char} {width n : Nat}

/-- Digits are taken up to the width, or up to the first character that is none. -/
lemma takeNumber_append (value count : Nat) (all : ∀ c ∈ digits, c.isDigit = true)
    (fits : digits.length ≤ width)
    (stop : digits.length = width ∨ ∀ c ∈ rest.head?, c.isDigit = false) :
    takeNumber width value count (digits ++ rest)
      = ((Nat.ofDigitChars 10 digits value, count + digits.length), rest) := by
  induction digits generalizing width value count with
  | nil =>
    cases width with
    | zero => rfl
    | succ width =>
      cases rest with
      | nil => rfl
      | cons c rest =>
        have other := (stop.resolve_left (Nat.succ_ne_zero width).symm) c rfl
        have none : Text.digit? c = none := if_neg (by simp [other])
        rw [List.nil_append, takeNumber, none]
        rfl
  | cons c digits ih =>
    obtain ⟨width, rfl⟩ : ∃ n, width = n + 1 := by
      cases width with
      | zero => cases fits
      | succ width => exact ⟨width, rfl⟩
    obtain ⟨digit, all⟩ := List.forall_mem_cons.1 all
    rw [List.length_cons] at fits stop
    have later := ih (value * 10 + (c.toNat - '0'.toNat)) (count + 1) all
      (Nat.le_of_succ_le_succ fits) (stop.imp_left Nat.succ.inj)
    rw [List.cons_append, takeNumber, Text.digit?_of_isDigit digit]
    dsimp only
    rw [later, Nat.ofDigitChars_cons, Nat.mul_comm, List.length_cons, Nat.add_right_comm,
      Nat.add_assoc]

/-- A padded number has no blanks in front. -/
lemma trimStart_paddedNat :
    Text.trimStart (Text.paddedNat width n ++ rest) = Text.paddedNat width n ++ rest := by
  have digits := Text.digits_paddedNat width n
  obtain ⟨c, cs, written⟩ := List.exists_cons_of_ne_nil digits.some
  have digit := digits.each c (written ▸ List.mem_cons_self)
  rw [written, List.cons_append]
  exact Text.trimStart_cons_of_not_blank _ (Text.not_blank_of_isDigit digit)

/-- A padded number is taken with its width. -/
lemma takeNumber_paddedNat (pos : 0 < width) (small : n < 10 ^ width) :
    takeNumber width 0 0 (Text.paddedNat width n ++ rest) = ((n, width), rest) := by
  have length := Text.length_paddedNat pos small
  rw [takeNumber_append 0 0 (Text.digits_paddedNat width n).each length.le (.inl length), length,
    Nat.zero_add, ← Text.numeral, Text.numeral_paddedNat]

/-- A padded number of the right width is read. -/
lemma number?_paddedNat (pos : 0 < width) (small : n < 10 ^ width) :
    number? width (Text.paddedNat width n ++ rest) = some (n, rest) := by
  obtain ⟨width, rfl⟩ := Nat.exists_eq_succ_of_ne_zero pos.ne'
  rw [number?, trimStart_paddedNat, takeNumber_paddedNat pos small]

/-- A year of four digits is written without a sign. -/
lemma year?_yearText {year : Int} (four : 0 ≤ year ∧ year ≤ 9999) :
    year? (Timestamp.yearText year ++ rest) = some (year, rest) := by
  have small : year.toNat < 10 ^ 4 := by omega
  have digits := Text.digits_paddedNat 4 year.toNat
  have number : number? 4 (Text.paddedNat 4 year.toNat ++ rest) = some (year.toNat, rest) :=
    number?_paddedNat (by decide) small
  obtain ⟨c, cs, written⟩ := List.exists_cons_of_ne_nil digits.some
  obtain ⟨plus, minus⟩ := (written ▸ digits : Text.Digits (c :: cs)).head_ne
  rw [Timestamp.yearText, if_pos four, year?, trimStart_paddedNat]
  rw [written] at number ⊢
  split
  case h_1 start => exact absurd (List.cons.inj start).1 minus
  case h_2 start => exact absurd (List.cons.inj start).1 plus
  case h_3 =>
    have year : ((year.toNat : Int), rest) = (year, rest) := by rw [Int.toNat_of_nonneg four.1]
    rw [number, Option.map_some]
    exact congrArg some year

/-- A separator is read where it stands. -/
lemma separator?_cons {mark : Char} (seen : Text.isBlank mark = false) :
    separator? mark (mark :: rest) = some rest := by
  rw [separator?, Text.trimStart_cons_of_not_blank _ seen]
  exact if_pos rfl

/-- Digits after the point are read as nanoseconds, as if zeros followed up to the ninth. -/
lemma fraction?_paddedNat (pos : 0 < width) (fits : width ≤ 9) (small : n < 10 ^ width) :
    fraction? ('.' :: Text.paddedNat width n ++ ['Z']) = some (n * 10 ^ (9 - width), ['Z']) := by
  have length := Text.length_paddedNat pos small
  have zone : ∀ c ∈ ['Z'].head?, c.isDigit = false := by
    rintro c ⟨⟩
    rfl
  obtain ⟨width, rfl⟩ := Nat.exists_eq_succ_of_ne_zero pos.ne'
  have taken := takeNumber_append 0 0 (Text.digits_paddedNat _ n).each
    (length ▸ fits) (.inr zone)
  rw [length, ← Text.numeral, Text.numeral_paddedNat, Nat.zero_add] at taken
  rw [List.cons_append, fraction?, taken]
  rfl

/-- The fraction of a second is read to the nanosecond. -/
lemma fraction?_fractionText (small : n < 1000000000) :
    fraction? (Timestamp.fractionText n ++ ['Z']) = some (n, ['Z']) := by
  rw [Timestamp.fractionText]
  split
  case isTrue none =>
    rw [none]
    rfl
  split
  case isTrue millis =>
    rw [fraction?_paddedNat (by decide) (by decide) (by omega)]
    congr 2
    omega
  split
  case isTrue micros =>
    rw [fraction?_paddedNat (by decide) (by decide) (by omega)]
    congr 2
    omega
  case isFalse =>
    rw [fraction?_paddedNat (by decide) (by decide) small]
    congr 2
    omega

/-- A valid date of a year with four digits is in the calendar. -/
lemma inCalendar_of_year {d : Date} (valid : d.isValid = true)
    (four : 0 ≤ d.year ∧ d.year ≤ 9999) : inCalendar d = true := by
  have first : yearRange.1 ≤ d.year := by
    rw [yearRange]
    omega
  have last : d.year ≤ yearRange.2 := by
    rw [yearRange]
    omega
  rw [inCalendar, valid, decide_eq_true first, decide_eq_true last]
  rfl

/-- The text of a date and a time of day, in the order in which it is read. -/
def written (d : Date) (hour minute second nanos : Nat) : List Char :=
  Timestamp.yearText d.year ++ '-' :: (Text.paddedNat 2 d.month
    ++ '-' :: (Text.paddedNat 2 d.day ++ 'T' :: (Text.paddedNat 2 hour
    ++ ':' :: (Text.paddedNat 2 minute ++ ':' :: (Text.paddedNat 2 second
    ++ (Timestamp.fractionText nanos ++ ['Z']))))))

/-- A date and a time of day are read, one number after the other. -/
lemma read?_written {d : Date} {hour minute second nanos : Nat} (valid : d.isValid = true)
    (four : 0 ≤ d.year ∧ d.year ≤ 9999) (own : Date.ofDays d.toDays = d) (hours : hour < 24)
    (minutes : minute < 60) (seconds : second < 60) (small : nanos < 1000000000) :
    read? (String.ofList (written d hour minute second nanos))
      = some ⟨d.toDays * 86400 + (hour * 3600 + minute * 60 + second : Nat), nanos⟩ := by
  obtain ⟨month, day⟩ := Date.lt_hundred_of_isValid valid
  have calendar := inCalendar_of_year valid four
  have two {n : Nat} (small : n < 100) (rest : List Char) :
      number? 2 (Text.paddedNat 2 n ++ rest) = some (n, rest) :=
    number?_paddedNat (by decide) small
  have dash (rest : List Char) : separator? '-' ('-' :: rest) = some rest :=
    separator?_cons (by decide)
  have colon (rest : List Char) : separator? ':' (':' :: rest) = some rest :=
    separator?_cons (by decide)
  have zone : offset? (Text.trimStart ['Z']) = some (0, []) := rfl
  rw [read?, String.toList_ofList, written]
  refine Option.bind_eq_some_iff.2 ⟨_, year?_yearText four, ?_⟩
  refine Option.bind_eq_some_iff.2 ⟨_, dash _, ?_⟩
  refine Option.bind_eq_some_iff.2 ⟨_, two month _, ?_⟩
  refine Option.bind_eq_some_iff.2 ⟨_, dash _, ?_⟩
  refine Option.bind_eq_some_iff.2 ⟨_, two day _, ?_⟩
  refine Option.bind_eq_some_iff.2 ⟨_, two (by omega) _, ?_⟩
  refine Option.bind_eq_some_iff.2 ⟨_, colon _, ?_⟩
  refine Option.bind_eq_some_iff.2 ⟨_, two (by omega) _, ?_⟩
  refine Option.bind_eq_some_iff.2 ⟨_, colon _, ?_⟩
  refine Option.bind_eq_some_iff.2 ⟨_, two (by omega) _, ?_⟩
  refine Option.bind_eq_some_iff.2 ⟨_, fraction?_fractionText small, ?_⟩
  refine Option.bind_eq_some_iff.2 ⟨_, zone, ?_⟩
  -- what is left is the check of the numbers that were read
  have common : second ≠ 60 := seconds.ne
  have whole : (d.toDays * 86400 + (hour * 3600 + minute * 60 + second : Nat) - 0).fdiv 86400
      = d.toDays := by
    rw [Int.fdiv_eq_ediv_of_nonneg _ (by decide)]
    omega
  have accepted : (inCalendar d && decide (hour < 24) && decide (minute < 60)
      && decide (second ≤ 60) && decide (Int.natAbs 0 < 86400) && (Text.trimStart []).isEmpty
      && inCalendar (Date.ofDays
        ((d.toDays * 86400 + (hour * 3600 + minute * 60 + second : Nat) - 0).fdiv 86400)))
      = true := by
    rw [whole, own, calendar, decide_eq_true hours, decide_eq_true minutes,
      decide_eq_true seconds.le]
    rfl
  dsimp only
  rw [if_neg common, if_neg common, if_pos accepted, Int.sub_zero]
  rfl

end Rfc3339

namespace Timestamp

/-- An instant of the years 0 to 9999, outside of leap seconds. -/
structure Common (t : Timestamp) : Prop where
  since : Date.toDays ⟨0, 1, 1⟩ * 86400 ≤ t.seconds
  before : t.seconds < Date.toDays ⟨10000, 1, 1⟩ * 86400
  nanos : t.nanos < 1000000000

/-- A common instant falls on a date that is written with four digits of a year. -/
lemma Common.year {t : Timestamp} (h : t.Common) :
    0 ≤ (Date.ofDays (t.seconds.fdiv 86400)).year ∧
      (Date.ofDays (t.seconds.fdiv 86400)).year ≤ 9999 := by
  obtain ⟨since, before, -⟩ := h
  apply Date.year_ofDays
  all_goals
    rw [Int.fdiv_eq_ediv_of_nonneg _ (by decide)]
    omega

/-- The text of a common instant is that of its date and its time of day. -/
lemma Common.text_eq {t : Timestamp} (h : t.Common) {second : Nat}
    (part : (t.seconds.fmod 86400).toNat = second) :
    t.text = String.ofList (Rfc3339.written (Date.ofDays (t.seconds.fdiv 86400)) (second / 3600)
      (second / 60 % 60) (second % 60) t.nanos) := by
  have nanos : t.nanos / 1000000000 = 0 ∧ t.nanos % 1000000000 = t.nanos :=
    ⟨Nat.div_eq_of_lt h.nanos, Nat.mod_eq_of_lt h.nanos⟩
  simp only [text, dateText, Rfc3339.written, part, nanos, Nat.add_zero, List.append_assoc,
    List.cons_append]

/-- The text of a common instant is read as that instant. -/
theorem read?_text {t : Timestamp} (h : t.Common) : Rfc3339.read? t.text = some t := by
  have days := Date.toDays_ofDays (t.seconds.fdiv 86400)
  obtain ⟨second, part⟩ : ∃ second, (t.seconds.fmod 86400).toNat = second := ⟨_, rfl⟩
  have sum : (Date.ofDays (t.seconds.fdiv 86400)).toDays * 86400 + second = t.seconds
      ∧ second < 86400 := by
    rw [Int.fmod_eq_emod_of_nonneg _ (by decide)] at part
    rw [days, Int.fdiv_eq_ediv_of_nonneg _ (by decide)]
    omega
  have hours : second / 3600 < 24 := by omega
  have minutes : second / 60 % 60 < 60 := Nat.mod_lt _ (by decide)
  have seconds : second % 60 < 60 := Nat.mod_lt _ (by decide)
  have whole : second / 3600 * 3600 + second / 60 % 60 * 60 + second % 60 = second := by omega
  rw [h.text_eq part, Rfc3339.read?_written (Date.isValid_ofDays _) h.year
    (congrArg Date.ofDays days) hours minutes seconds h.nanos, whole, sum.1]

end Timestamp

end LedgerWatch
