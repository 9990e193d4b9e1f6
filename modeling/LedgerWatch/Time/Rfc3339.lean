import LedgerWatch.Text.Blank
import LedgerWatch.Time.Timestamp

/-!
# Reading timestamps

The date and time notation of RFC 3339, read generously: a blank may stand for the letter T, blanks
may stand before numbers and separators, numbers may have fewer digits, and the zone may be written
as Z, as UTC, or as a signed offset of hours and minutes.
-/

namespace LedgerWatch.Rfc3339

/-- One to `width` digits at the front of a text, as a number and the digits' count. -/
def takeNumber : Nat → Nat → Nat → List Char → (Nat × Nat) × List Char
  | 0, value, count, cs => ((value, count), cs)
  | _ + 1, value, count, [] => ((value, count), [])
  | width + 1, value, count, c :: rest =>
    match Text.digit? c with
    | some d => takeNumber width (value * 10 + d) (count + 1) rest
    | none => ((value, count), c :: rest)

/-- A number of one to `width` digits, with blanks before it. -/
def number? (width : Nat) (cs : List Char) : Option (Nat × List Char) :=
  match takeNumber width 0 0 (Text.trimStart cs) with
  | ((_, 0), _) => none
  | ((value, _ + 1), rest) => some (value, rest)

/-- A year: up to four digits, or a sign and any number of digits. -/
def year? (cs : List Char) : Option (Int × List Char) :=
  match Text.trimStart cs with
  | '-' :: rest => signed? rest fun n => -(n : Int)
  | '+' :: rest => signed? rest fun n => n
  | cs => (number? 4 cs).map fun (n, rest) => ((n : Int), rest)
where
  /-- The digits after the sign of a year. -/
  signed? (cs : List Char) (f : Nat → Int) : Option (Int × List Char) :=
    match takeNumber cs.length 0 0 cs with
    | ((_, 0), _) => none
    | ((value, _ + 1), rest) => some (f value, rest)

/-- A separator, with blanks before it. -/
def separator? (mark : Char) (cs : List Char) : Option (List Char) :=
  match Text.trimStart cs with
  | c :: rest => if c = mark then some rest else none
  | [] => none

/-- The digits of a second after its point, as nanoseconds; digits beyond the ninth are dropped. -/
def fraction? (cs : List Char) : Option (Nat × List Char) :=
  match cs with
  | '.' :: rest =>
    match takeNumber 9 0 0 rest with
    | ((_, 0), _) => none
    | ((value, count + 1), rest) =>
      some (value * Nat.pow 10 (9 - (count + 1)), rest.dropWhile Char.isDigit)
  | _ => some (0, cs)

/-- Two digits at the front of a text. -/
def twoDigits? : List Char → Option (Nat × List Char)
  | a :: b :: rest => do
    let a ← Text.digit? a
    let b ← Text.digit? b
    return (a * 10 + b, rest)
  | _ => none

/-- The sign of an offset: plus, hyphen or the minus sign proper. True when it is negative. -/
def offsetSign? : List Char → Option (Bool × List Char)
  | '+' :: rest => some (false, rest)
  | '-' :: rest => some (true, rest)
  | '\u2212' :: rest => some (true, rest)
  | _ => none

/-- The offset from universal time, in seconds. -/
def offset? (cs : List Char) : Option (Int × List Char) :=
  match cs with
  | 'Z' :: rest => some (0, rest)
  | 'z' :: rest => some (0, rest)
  | _ =>
    if Text.alike (cs.take 3) "utc".toList then some (0, cs.drop 3)
    else do
      let (negative, rest) ← offsetSign? cs
      let (hours, rest) ← twoDigits? rest
      let (minutes, rest) ← twoDigits? (rest.dropWhile fun c => c = ':' || Text.isBlank c)
      if minutes < 60 then
        let seconds : Int := ((hours * 3600 + minutes * 60 : Nat) : Int)
        return (if negative then -seconds else seconds, rest)
      else none

/-- The first and the last year that a timestamp may fall into. -/
def yearRange : Int × Int :=
  (-262143, 262142)

/-- A date lies in the calendar when it is valid and its year is in range. -/
def inCalendar (d : Date) : Bool :=
  d.isValid && yearRange.1 ≤ d.year && d.year ≤ yearRange.2

/-- The timestamp that a text writes. -/
def read? (s : String) : Option Timestamp := do
  let (year, cs) ← year? s.toList
  let cs ← separator? '-' cs
  let (month, cs) ← number? 2 cs
  let cs ← separator? '-' cs
  let (day, cs) ← number? 2 cs
  let cs ← match cs with
    | c :: rest => if c = 'T' || c = 't' || c = ' ' then some rest else none
    | [] => none
  let (hour, cs) ← number? 2 cs
  let cs ← separator? ':' cs
  let (minute, cs) ← number? 2 cs
  let cs ← separator? ':' cs
  let (second, cs) ← number? 2 cs
  let (nanos, cs) ← fraction? cs
  let (offset, cs) ← offset? (Text.trimStart cs)
  let date : Date := ⟨year, month, day⟩
  let leap := second = 60
  let secondOfDay : Int := ((hour * 3600 + minute * 60 + (if leap then 59 else second) : Nat) : Int)
  let seconds := date.toDays * 86400 + secondOfDay - offset
  if inCalendar date && hour < 24 && minute < 60 && second ≤ 60 && offset.natAbs < 86400
      && (Text.trimStart cs).isEmpty && inCalendar (Date.ofDays (seconds.fdiv 86400)) then
    return ⟨seconds, if leap then nanos + 1000000000 else nanos⟩
  else none

end LedgerWatch.Rfc3339
