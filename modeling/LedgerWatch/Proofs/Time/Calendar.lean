import LedgerWatch.Time.Calendar
import Mathlib.Tactic.IntervalCases
import Mathlib.Tactic.Lemma

/-!
# Days and dates

Every day has a date of the calendar, and the day of this date is the day itself
(`toDays_ofDays`, `isValid_ofDays`).

An era of 400 years consists of four centuries, a century of 25 spans of four years, and the last
year of a span has a day more than the others, except at the end of the first three centuries. The
place of a day in this scheme gives its year and its day in the year, which is what the divisions by
1460, 36524 and 146096 amount to.
-/

namespace LedgerWatch.Date

/-- Every fourth year is a leap year, of the hundredth ones every fourth. -/
lemma isLeap_iff {year : Int} :
    isLeap year = true ↔ year % 4 = 0 ∧ (year % 100 ≠ 0 ∨ year % 400 = 0) := by
  simp only [isLeap, Bool.and_eq_true, Bool.or_eq_true, decide_eq_true_iff]

/-- No month has more than 31 days. -/
lemma daysInMonth_le (year : Int) (month : Nat) : daysInMonth year month ≤ 31 := by
  unfold daysInMonth
  split
  case h_1 => split <;> decide
  all_goals decide

/-- Two digits are enough for the month and the day of a date. -/
lemma lt_hundred_of_isValid {d : Date} (valid : d.isValid = true) :
    d.month < 100 ∧ d.day < 100 := by
  have short := daysInMonth_le d.year d.month
  simp only [isValid, Bool.and_eq_true, decide_eq_true_iff] at valid
  omega

/-- The place of a day in an era: its century, its span of four years, its year and its day. -/
structure Place where
  century : Nat
  span : Nat
  year : Nat
  day : Nat
  century_le : century ≤ 3
  span_le : span ≤ 24
  year_le : year ≤ 3
  day_le : day ≤ 364 ∨ day = 365 ∧ year = 3 ∧ (span < 24 ∨ century = 3)

namespace Place

/-- The days of the era before the day at a place. -/
def dayOfEra (p : Place) : Nat :=
  36524 * p.century + 1461 * p.span + 365 * p.year + p.day

/-- The years of the era before the year of a place. -/
def yearOfEra (p : Place) : Nat :=
  100 * p.century + 4 * p.span + p.year

variable (p : Place)

/-- A year that is reckoned from March has at most 366 days. -/
lemma day_within : p.day ≤ 365 := by
  have day := p.day_le
  omega

/-- An era has 400 years. -/
lemma yearOfEra_lt : p.yearOfEra < 400 := by
  obtain ⟨c, s, y, d, century, span, year, day⟩ := p
  simp only [yearOfEra]
  omega

/-- An era has 146097 days. -/
lemma dayOfEra_lt : p.dayOfEra < 146097 := by
  obtain ⟨c, s, y, d, century, span, year, day⟩ := p
  simp only [dayOfEra]
  omega

/-- A year of an era begins after 365 days for every year before it and the leap days of these. -/
lemma dayOfEra_eq :
    p.dayOfEra = p.yearOfEra * 365 + p.yearOfEra / 4 - p.yearOfEra / 100 + p.day := by
  obtain ⟨c, s, y, d, century, span, year, day⟩ := p
  simp only [dayOfEra, yearOfEra]
  omega

/-- The year of a day is found by leaving out the leap days before it. -/
lemma yearOfEra_eq : p.yearOfEra
    = (p.dayOfEra - p.dayOfEra / 1460 + p.dayOfEra / 36524 - p.dayOfEra / 146096) / 365 := by
  generalize whole : p.dayOfEra = n
  obtain ⟨c, s, y, d, century, span, year, day⟩ := p
  simp only [dayOfEra, yearOfEra] at whole ⊢
  by_cases last : n = 146096
  · subst last
    omega
  · have centuries : n / 36524 = c := by omega
    have eras : n / 146096 = 0 := by omega
    rw [centuries, eras]
    -- the leap day of its own span counts from the day on that has the number 1460 in it
    rcases Nat.lt_or_ge (24 * c + s + 365 * y + d) 1460 with early | late
    · have spans : n / 1460 = 25 * c + s := by omega
      rw [spans]
      omega
    · have spans : n / 1460 = 25 * c + s + 1 := by omega
      rw [spans]
      omega

/-- Only a leap year has a day more than 365. -/
lemma isLeap_of_day (era : Int) (long : p.day = 365) :
    isLeap (p.yearOfEra + era * 400 + 1) = true := by
  obtain ⟨c, s, y, d, century, span, year, day⟩ := p
  simp only [yearOfEra, isLeap_iff] at long ⊢
  obtain ⟨-, rfl, last⟩ : d = 365 ∧ y = 3 ∧ (s < 24 ∨ c = 3) := by omega
  refine ⟨by omega, ?_⟩
  rcases last with early | rfl
  · exact .inl (by omega)
  · by_cases s = 24
    · exact .inr (by omega)
    · exact .inl (by omega)

end Place

/-- Every day of an era has a place in it. -/
lemma exists_place (day : Nat) (within : day < 146097) : ∃ p : Place, p.dayOfEra = day := by
  let century := min (day / 36524) 3
  let span := (day - 36524 * century) / 1461
  let year := min ((day - 36524 * century - 1461 * span) / 365) 3
  refine ⟨⟨century, span, year, day - 36524 * century - 1461 * span - 365 * year,
    ?_, ?_, ?_, ?_⟩, ?_⟩
  all_goals
    simp only [Place.dayOfEra, year, span, century]
    omega

/-- The date of a day in a year that is reckoned from March. -/
def ofMarch (year : Int) (day : Nat) : Date :=
  let monthFromMarch := (5 * day + 2) / 153
  let month := if monthFromMarch < 10 then monthFromMarch + 3 else monthFromMarch - 9
  ⟨if month ≤ 2 then year + 1 else year, month, day - (153 * monthFromMarch + 2) / 5 + 1⟩

variable {p : Place} {era days : Int}

/-- The date of a day is found from its place in its era. -/
lemma ofDays_eq (place : days + 719468 = era * 146097 + p.dayOfEra) :
    ofDays days = ofMarch (p.yearOfEra + era * 400) p.day := by
  have within := p.dayOfEra_lt
  have eras : (days + 719468).fdiv 146097 = era := by
    rw [Int.fdiv_eq_ediv_of_nonneg _ (by decide)]
    omega
  have day : ((days + 719468).fmod 146097).toNat = p.dayOfEra := by
    rw [Int.fmod_eq_emod_of_nonneg _ (by decide)]
    omega
  have dayOfYear :
      p.dayOfEra - (365 * p.yearOfEra + p.yearOfEra / 4 - p.yearOfEra / 100) = p.day := by
    rw [p.dayOfEra_eq]
    omega
  simp only [ofDays, eras, day, ← p.yearOfEra_eq, dayOfYear]
  rfl

/-- The months from March on begin at the days that are subtracted for them. -/
lemma toDays_ofMarch {year : Int} {day yearOfEra : Nat} (eras : year.fdiv 400 = era)
    (years : (year.fmod 400).toNat = yearOfEra) (within : day ≤ 365) :
    toDays (ofMarch year day)
      = era * 146097 + (yearOfEra * 365 + yearOfEra / 4 - yearOfEra / 100 + day : Nat)
        - 719468 := by
  obtain ⟨m, months⟩ : ∃ m, (5 * day + 2) / 153 = m := ⟨_, rfl⟩
  have own : (if (ofMarch year day).month ≤ 2 then (ofMarch year day).year - 1
      else (ofMarch year day).year) = year := by
    simp only [ofMarch]
    split <;> omega
  have month : (if 2 < (ofMarch year day).month then (ofMarch year day).month - 3
      else (ofMarch year day).month + 9) = m := by
    simp only [ofMarch, months]
    split <;> split <;> omega
  have days : (153 * m + 2) / 5 + (ofMarch year day).day - 1 = day := by
    simp only [ofMarch, months]
    omega
  simp only [toDays, own, month, days, eras, years]

/-- Every month is as long as the distance to the next one, February as long as its year allows. -/
lemma isValid_ofMarch {year : Int} {day : Nat} (within : day ≤ 365)
    (leap : day = 365 → isLeap (year + 1) = true) : (ofMarch year day).isValid = true := by
  obtain ⟨m, months⟩ : ∃ m, (5 * day + 2) / 153 = m := ⟨_, rfl⟩
  have last : m ≤ 11 := by omega
  simp only [isValid, ofMarch, months, Bool.and_eq_true, decide_eq_true_iff]
  rcases Nat.lt_or_ge m 11 with early | late
  · have long (year : Int) : daysInMonth year (if m < 10 then m + 3 else m - 9)
        = (153 * (m + 1) + 2) / 5 - (153 * m + 2) / 5 := by
      interval_cases m <;> rfl
    rw [long]
    refine ⟨⟨⟨?_, ?_⟩, Nat.le_add_left 1 _⟩, ?_⟩
    · split <;> omega
    · split <;> omega
    · omega
  · obtain rfl : m = 11 := by omega
    simp only [daysInMonth, reduceIte, Nat.reduceLT, Nat.reduceSub, Nat.reduceLeDiff, true_and,
      Nat.le_add_left]
    split
    case isTrue => omega
    case isFalse common =>
      have short : day ≠ 365 := fun long => common (leap long)
      omega

/-- January and February belong to the year that begins after the one they are reckoned to. -/
lemma ofMarch_year {year : Int} {day : Nat} (within : day ≤ 365) :
    (ofMarch year day).year = if 306 ≤ day then year + 1 else year := by
  obtain ⟨m, months⟩ : ∃ m, (5 * day + 2) / 153 = m := ⟨_, rfl⟩
  simp only [ofMarch, months]
  split <;> split <;> split <;> omega

/-- Every day has a place in an era. -/
lemma exists_era (days : Int) :
    ∃ (p : Place) (era : Int), days + 719468 = era * 146097 + p.dayOfEra := by
  obtain ⟨p, place⟩ := exists_place ((days + 719468) % 146097).toNat (by omega)
  exact ⟨p, (days + 719468) / 146097, by omega⟩

/-- The day of the date of a day is that day. -/
theorem toDays_ofDays (days : Int) : (ofDays days).toDays = days := by
  obtain ⟨p, era, place⟩ := exists_era days
  have within := p.yearOfEra_lt
  have eras : (p.yearOfEra + era * 400 : Int).fdiv 400 = era := by
    rw [Int.fdiv_eq_ediv_of_nonneg _ (by decide)]
    omega
  have years : ((p.yearOfEra + era * 400 : Int).fmod 400).toNat = p.yearOfEra := by
    rw [Int.fmod_eq_emod_of_nonneg _ (by decide)]
    omega
  rw [ofDays_eq place, toDays_ofMarch eras years p.day_within, ← p.dayOfEra_eq, ← place]
  exact Int.add_sub_cancel days 719468

/-- The date of a day exists. -/
theorem isValid_ofDays (days : Int) : (ofDays days).isValid = true := by
  obtain ⟨p, era, place⟩ := exists_era days
  rw [ofDays_eq place]
  exact isValid_ofMarch p.day_within (p.isLeap_of_day era)

/-- The dates between the beginnings of the years 0 and 10000 fall into the years 0 to 9999. -/
lemma year_ofDays {days : Int} (since : toDays ⟨0, 1, 1⟩ ≤ days)
    (before : days < toDays ⟨10000, 1, 1⟩) :
    0 ≤ (ofDays days).year ∧ (ofDays days).year ≤ 9999 := by
  obtain ⟨p, era, place⟩ := exists_era days
  have first : toDays ⟨0, 1, 1⟩ = -719528 := by decide
  have last : toDays ⟨10000, 1, 1⟩ = 2932897 := by decide
  have within := p.dayOfEra_lt
  have years := p.yearOfEra_lt
  have reckoned := p.dayOfEra_eq
  have short := p.day_within
  have eras : -1 ≤ era ∧ era ≤ 24 := by omega
  have leaps : p.yearOfEra / 4 - p.yearOfEra / 100 ≤ 96 := by omega
  have whole : p.dayOfEra ≤ p.yearOfEra * 365 + 96 + p.day := by omega
  rw [ofDays_eq place, ofMarch_year short]
  split <;> omega

end LedgerWatch.Date
