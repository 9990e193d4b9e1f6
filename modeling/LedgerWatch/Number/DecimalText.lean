import LedgerWatch.Number.Binary64
import LedgerWatch.Text.Blank
import LedgerWatch.Text.Integer

/-!
# Decimal texts of floating-point numbers

The grammar of a floating-point text: an optional sign, then a name of infinity or of not-a-number
in any letter case, or digits with at most one point among or around them and an optional exponent.
-/

namespace LedgerWatch.DecimalText

/-- Digits that were read, as a number and the count of digits. -/
structure Digits where
  /-- The number that the digits write. -/
  value : Nat
  /-- How many digits there are. -/
  count : Nat

/-- The run of digits at the front of a text, continuing digits that were read before it. -/
def takeDigits : Digits → List Char → Digits × List Char
  | sofar, [] => (sofar, [])
  | sofar, c :: rest =>
    match Text.digit? c with
    | some d => takeDigits ⟨sofar.value * 10 + d, sofar.count + 1⟩ rest
    | none => (sofar, c :: rest)

/-- Takes a sign off the front of a text; true for a minus sign. -/
def takeSign : List Char → Bool × List Char
  | '-' :: rest => (true, rest)
  | '+' :: rest => (false, rest)
  | cs => (false, cs)

/-- The exponent that the whole text writes: nothing, or a letter e, an optional sign and digits. -/
def exponent? : List Char → Option Int
  | [] => some 0
  | c :: rest =>
    if c = 'e' ∨ c = 'E' then
      let (negative, rest) := takeSign rest
      match takeDigits ⟨0, 0⟩ rest with
      | (digits, []) =>
        if digits.count = 0 then none
        else some (if negative then -(digits.value : Int) else digits.value)
      | _ => none
    else none

/-- The number that an unsigned text writes. -/
def unsigned? (negative : Bool) (cs : List Char) : Option Binary64 :=
  if Text.alike cs "inf".toList || Text.alike cs "infinity".toList then
    some (.infinity negative)
  else if Text.alike cs "nan".toList then some .nan
  else
    let (whole, rest) := takeDigits ⟨0, 0⟩ cs
    let (all, rest) := match rest with
      | '.' :: rest => takeDigits whole rest
      | _ => (whole, rest)
    if all.count = 0 then none
    else
      (exponent? rest).map fun e =>
        Binary64.ofDecimal negative all.value (e - ((all.count - whole.count : Nat) : Int))

/-- The number that a text writes, if it is a floating-point text. -/
def read? (cs : List Char) : Option Binary64 :=
  let (negative, rest) := takeSign cs
  unsigned? negative rest

end LedgerWatch.DecimalText
