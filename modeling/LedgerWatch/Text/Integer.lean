/-!
# Decimal integers

Reading an integer of a limited range from decimal digits. A reader goes from left to right and
reports the first character at which the text stops being a number of the range.
-/

namespace LedgerWatch.Text

/-- Why a text is not an integer of the range that is asked for. -/
inductive IntegerFault where
  /-- The text is empty. -/
  | empty
  /-- A character is not a digit, or a sign stands alone. -/
  | invalidDigit
  /-- The number lies above the range. -/
  | tooLarge
  /-- The number lies below the range. -/
  | tooSmall
deriving DecidableEq, Repr

/-- The wording of each fault. -/
def IntegerFault.message : IntegerFault → String
  | .empty => "cannot parse integer from empty string"
  | .invalidDigit => "invalid digit found in string"
  | .tooLarge => "number too large to fit in target type"
  | .tooSmall => "number too small to fit in target type"

/-- The value of an ASCII digit. -/
def digit? (c : Char) : Option Nat :=
  if c.isDigit then some (c.toNat - '0'.toNat) else none

/--
Reads digits after a number that is already read. No intermediate number may exceed the limit;
the fault for that is the caller's.
-/
def readDigits (limit : Nat) (overflow : IntegerFault) : Nat → List Char → Except IntegerFault Nat
  | value, [] => .ok value
  | value, c :: rest =>
    match digit? c with
    | none => .error .invalidDigit
    | some d =>
      if value * 10 + d ≤ limit then readDigits limit overflow (value * 10 + d) rest
      else .error overflow

/-- Reads one or more digits as a number up to the limit. -/
def readMagnitude (limit : Nat) (overflow : IntegerFault) : List Char → Except IntegerFault Nat
  | [] => .error .invalidDigit
  | c :: rest => readDigits limit overflow 0 (c :: rest)

/--
Reads an integer between `low` and `high`: an optional plus sign and digits, or, where the range
reaches below zero, a minus sign and digits.
-/
def readInteger (low high : Int) : List Char → Except IntegerFault Int
  | [] => .error .empty
  | '+' :: rest => (readMagnitude high.toNat .tooLarge rest).map Int.ofNat
  | c :: rest =>
    if c = '-' ∧ low < 0 then
      (readMagnitude low.natAbs .tooSmall rest).map fun magnitude => -(magnitude : Int)
    else (readMagnitude high.toNat .tooLarge (c :: rest)).map Int.ofNat

/-- The greatest number of 64 bits. -/
def maxWord : Nat := 0xFFFFFFFFFFFFFFFF

/-- The decimal digits of a natural number. -/
def natText (n : Nat) : List Char :=
  Nat.toDigits 10 n

/-- The decimal text of an integer, with a minus sign below zero and no plus sign. -/
def intText (n : Int) : List Char :=
  if n < 0 then '-' :: natText n.natAbs else natText n.natAbs

/-- Decimal digits of a number, with zeros in front up to the given width. -/
def paddedNat (width n : Nat) : List Char :=
  List.replicate (width - (natText n).length) '0' ++ natText n

end LedgerWatch.Text
