import LedgerWatch.Text.Hex

/-!
# Binary floating-point numbers of 64 bits

A number is its bit pattern. Decimal numbers become bit patterns by exact arithmetic: the quotient
is rounded to the nearest representable value, and a half goes to the even neighbour.
-/

namespace LedgerWatch

/-- A floating-point number, given by its bits: sign, eleven of exponent, fifty-two of fraction. -/
structure Binary64 where
  /-- The bit pattern. -/
  bits : BitVec 64
deriving DecidableEq, Repr

namespace Binary64

/-- The bit of the sign. -/
def signBit : Nat := 0x8000000000000000

/-- The bits of the exponent. -/
def exponentMask : Nat := 0x7FF0000000000000

/-- How many fractions there are for each exponent. -/
def fractionRange : Nat := 0x10000000000000

/-- A bit pattern with the sign that is asked for and the given lower bits. -/
def signed (negative : Bool) (lower : Nat) : Binary64 :=
  ⟨BitVec.ofNat 64 (if negative then signBit + lower else lower)⟩

/-- Zero of either sign. -/
def zero (negative : Bool) : Binary64 :=
  signed negative 0

/-- Infinity of either sign. -/
def infinity (negative : Bool) : Binary64 :=
  signed negative exponentMask

/-- A quiet not-a-number. -/
def nan : Binary64 :=
  ⟨0x7FF8000000000000⟩

/-- A bit pattern is not a number when the exponent is all ones and the fraction is not zero. -/
def isNaN (x : Binary64) : Bool :=
  x.bits.toNat % signBit > exponentMask

/-- The quotient rounded to the nearest integer; a half goes to the even neighbour. -/
def roundQuotient (num den : Nat) : Nat :=
  let quotient := num / den
  let twice := 2 * (num % den)
  if twice < den then quotient
  else if den < twice then quotient + 1
  else quotient + quotient % 2

/-- A fraction times a power of two, as a fraction. -/
def scale (num den : Nat) (power : Int) : Nat × Nat :=
  if 0 ≤ power then (num * Nat.pow 2 power.toNat, den) else (num, den * Nat.pow 2 (-power).toNat)

/-- The greatest power of two that a positive fraction reaches. -/
def floorLog2 (num den : Nat) : Int :=
  let guess : Int := (Nat.log2 num : Int) - (Nat.log2 den : Int)
  let (n, d) := scale num den (-guess)
  if d ≤ n then guess else guess - 1

/--
The nearest number to a positive fraction. The fraction is measured in units of the last place,
whose power of two is at least the smallest one there is; beyond the largest finite number the
result is infinite.
-/
def ofFraction (negative : Bool) (num den : Nat) : Binary64 :=
  let unit : Int := max (floorLog2 num den - 52) (-1074)
  let (n, d) := scale num den (-unit)
  let lower := (unit + 1074).toNat * fractionRange + roundQuotient n d
  if exponentMask ≤ lower then infinity negative else signed negative lower

/--
The nearest number to `digits` times ten to the given power. Numbers of more than 400 places before
the point are infinite and numbers that begin more than 400 places after it are zero.
-/
def ofDecimal (negative : Bool) (digits : Nat) (power : Int) : Binary64 :=
  let reach : Int := (Nat.toDigits 10 digits).length + power
  if digits = 0 then zero negative
  else if 400 < reach then infinity negative
  else if reach < -400 then zero negative
  else if 0 ≤ power then ofFraction negative (digits * Nat.pow 10 power.toNat) 1
  else ofFraction negative digits (Nat.pow 10 (-power).toNat)

/-- The bit pattern as sixteen hexadecimal digits. -/
def hex (x : Binary64) : String :=
  String.ofList (Text.hexText 16 x.bits.toNat)

end Binary64

end LedgerWatch
