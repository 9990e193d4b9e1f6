import LedgerWatch.Text.Integer
import LedgerWatch.Time.Calendar

/-!
# Timestamps

An instant of universal time to the nanosecond, and its written form: date, the letter T, time of
day and the letter Z, with as few of 0, 3, 6 or 9 digits of a second as are exact.
-/

namespace LedgerWatch

/--
An instant: whole seconds since the beginning of 1970, and nanoseconds within the second. Within a
leap second, which is written as second 60, the nanoseconds run on from 10⁹ in the second before.
-/
structure Timestamp where
  seconds : Int
  nanos : Nat
deriving DecidableEq, Repr

instance : Inhabited Timestamp :=
  ⟨⟨0, 0⟩⟩

namespace Timestamp

/-- A year is written with four digits from 0 to 9999, and with a sign and at least four beyond. -/
def yearText (year : Int) : List Char :=
  if 0 ≤ year ∧ year ≤ 9999 then Text.paddedNat 4 year.toNat
  else (if year < 0 then '-' else '+') :: Text.paddedNat 4 year.natAbs

/-- The digits of a second after its point, as few as are exact, with the point in front. -/
def fractionText (nanos : Nat) : List Char :=
  if nanos = 0 then []
  else if nanos % 1000000 = 0 then '.' :: Text.paddedNat 3 (nanos / 1000000)
  else if nanos % 1000 = 0 then '.' :: Text.paddedNat 6 (nanos / 1000)
  else '.' :: Text.paddedNat 9 nanos

/-- The written form of a date. -/
def dateText (d : Date) : List Char :=
  yearText d.year ++ '-' :: Text.paddedNat 2 d.month ++ '-' :: Text.paddedNat 2 d.day

/-- The written form of a timestamp. -/
def text (t : Timestamp) : String :=
  let secondOfDay := (t.seconds.fmod 86400).toNat
  let leap := t.nanos / 1000000000
  String.ofList <|
    dateText (Date.ofDays (t.seconds.fdiv 86400)) ++ 'T' :: Text.paddedNat 2 (secondOfDay / 3600)
      ++ ':' :: Text.paddedNat 2 (secondOfDay / 60 % 60)
      ++ ':' :: Text.paddedNat 2 (secondOfDay % 60 + leap)
      ++ fractionText (t.nanos % 1000000000) ++ ['Z']

end Timestamp

end LedgerWatch
