import LedgerWatch.Identity.Basic
import LedgerWatch.Text.Blank
import LedgerWatch.Text.Hex

/-!
# Texts of identifiers

An identifier is written as 32 lower-case hexadecimal digits in groups of 8, 4, 4, 4 and 12 with
hyphens between them. It is read in that form, without hyphens, in braces, or after `urn:uuid:`, in
either letter case.
-/

namespace LedgerWatch.Identifier

variable {subject : Subject}

/-- The lengths of the groups of digits. -/
def groupLengths : List Nat :=
  [8, 4, 4, 4, 12]

/-- Cuts digits into groups of the given lengths, with hyphens between the groups. -/
def hyphenate : List Nat → List Char → List Char
  | [], _ => []
  | [n], digits => digits.take n
  | n :: lengths, digits => digits.take n ++ '-' :: hyphenate lengths (digits.drop n)

/-- Takes the hyphens out that stand between groups of the given lengths, and nowhere else. -/
def unhyphenate? : List Nat → List Char → Option (List Char)
  | [], cs => if cs.isEmpty then some [] else none
  | [n], cs => if cs.length = n then some cs else none
  | n :: lengths, cs =>
    match cs.drop n with
    | '-' :: rest => (unhyphenate? lengths rest).map (cs.take n ++ ·)
    | _ => none

/-- The digits of an identifier without hyphens. -/
def digits (id : Identifier subject) : List Char :=
  Text.hexText 32 id.toNat

/-- The written form of an identifier. -/
def text (id : Identifier subject) : String :=
  String.ofList (hyphenate groupLengths id.digits)

/-- The characters that may stand before a hyphenated identifier, in either letter case. -/
def urnMark : List Char :=
  "urn:uuid:".toList

/--
The digits of an identifier in one of the accepted forms. The length of the text decides which form
it can have.
-/
def bareDigits? (cs : List Char) : Option (List Char) :=
  if cs.length = 32 then some cs
  else if cs.length = 36 then unhyphenate? groupLengths cs
  else if cs.length = 38 ∧ cs.head? = some '{' ∧ cs.getLast? = some '}' then
    unhyphenate? groupLengths (cs.drop 1).dropLast
  else if cs.length = 45 ∧ Text.alike (cs.take 9) urnMark then
    unhyphenate? groupLengths (cs.drop 9)
  else none

/-- The identifier that a text writes, if it has one of the accepted forms. -/
def ofText? (s : String) : Option (Identifier subject) :=
  (bareDigits? s.toList).bind fun ds => (Text.readHex ds).map ofNat

/-- The identifier that a text writes when blanks around it are ignored. -/
def read? (s : String) : Option (Identifier subject) :=
  ofText? (Text.trimmed s)

end LedgerWatch.Identifier
