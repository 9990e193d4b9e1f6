import LedgerWatch.Identity.Text
import LedgerWatch.Text.Integer

/-!
# References and aliases

In a rehearsal the blocks and transactions that the ledger makes have no identifiers that anyone
knows beforehand. They are referred to by aliases: `b1`, `b2`, … are the blocks in the order of
their making, `t1`, `t2`, … the transactions. Every text that a rehearsal shows has the aliases in
place of the identifiers.
-/

namespace LedgerWatch.Rehearsal

/-- How an identifier is referred to. -/
inductive Reference where
  /-- The identifier whose bits are all zero. -/
  | root
  /-- The block of a number, counted from 1. -/
  | block (number : Nat)
  /-- The transaction of a number, counted from 1. -/
  | transaction (number : Nat)
  /-- The block that a watcher is being told about. -/
  | here
  /-- An identifier by its 128-bit value. -/
  | value (bits : Nat)
deriving DecidableEq, Inhabited

/-- What blocks and transactions have in common here: their identifiers come with a number. -/
inductive Made where
  | block
  | transaction
deriving DecidableEq

/-- The identifiers of numbered blocks and transactions begin here. -/
def Made.base : Made → Nat
  | .block => 0xB10CB10CFACE4ACEAFEE000000000000
  | .transaction => 0x7A4B7A4BFACE4ACEAFEE000000000000

/-- The letter of an alias. -/
def Made.letter : Made → Char
  | .block => 'b'
  | .transaction => 't'

/-- How many identifiers of each kind there can be. -/
def maxMade : Nat := 0x1000000000000

/-- The value of the identifier with a number. -/
def Made.bits (made : Made) (number : Nat) : Nat :=
  made.base + number % maxMade

/-- The number of the identifier with a value, if it is one of this kind. -/
def Made.number? (made : Made) (bits : Nat) : Option Nat :=
  if made.base ≤ bits ∧ bits < made.base + maxMade then some (bits - made.base) else none

namespace Reference

/-- The number that digits write. -/
def number? (cs : List Char) : Option Nat :=
  match Text.readMagnitude 0xFFFFFFFFFFFFFFFFFFFFFFFFFFFFFFFF .tooLarge cs with
  | .ok n => some n
  | .error _ => none

/-- The reference that a text writes. -/
def read? (s : String) : Option Reference :=
  let uuid := (Identifier.read? s : Option BlockId).map fun id => .value id.toNat
  match s.toList with
  | ['r', 'o', 'o', 't'] => some .root
  | ['@'] => some .here
  | 'b' :: rest => ((number? rest).map .block).or uuid
  | 't' :: rest => ((number? rest).map .transaction).or uuid
  | '#' :: rest => (number? rest).map .value
  | _ => uuid

/-- The identifier that is referred to, where a watcher is being told about a block. -/
def resolve {subject : Subject} (here : BlockId) : Reference → Identifier subject
  | .root => .zero
  | .block number => .ofNat (Made.block.bits number)
  | .transaction number => .ofNat (Made.transaction.bits number)
  | .here => ⟨here.bits⟩
  | .value bits => .ofNat bits

end Reference

/-- The length of the written form of an identifier. -/
def textLength : Nat := 36

/-- The alias of an identifier, if it has one. -/
def alias? (bits : Nat) : Option (Char × Nat) :=
  match Made.block.number? bits with
  | some number => some (Made.block.letter, number)
  | none => (Made.transaction.number? bits).map fun number => (Made.transaction.letter, number)

/--
The alias of the identifier at the front of a text, if there is one, in the letter case of the
identifier.
-/
def aliasAt? (cs : List Char) : Option (List Char) := do
  let front := cs.take textLength
  let digits ← Identifier.unhyphenate? Identifier.groupLengths front
  let bits ← Text.readHex digits
  let (letter, number) ← alias? bits
  if front.all fun c => !c.isUpper then return letter :: Text.natText number
  else if front.all fun c => !c.isLower then return letter.toUpper :: Text.natText number
  else none

/-- Puts aliases in the place of identifiers; `skip` characters belong to one that was replaced. -/
def veilFrom : Nat → List Char → List Char
  | _, [] => []
  | skip + 1, _ :: rest => veilFrom skip rest
  | 0, c :: rest =>
    match aliasAt? (c :: rest) with
    | some name => name ++ veilFrom (textLength - 1) rest
    | none => c :: veilFrom 0 rest

/-- A text with aliases in the place of identifiers. -/
def veil (s : String) : String :=
  if s.length < textLength then s else String.ofList (veilFrom 0 s.toList)

/-- The written form of the identifier that stands between dollar signs. -/
def expansion? (cs : List Char) : Option (List Char) :=
  match cs with
  | 'b' :: rest => (Reference.number? rest).map (form Made.block)
  | 't' :: rest => (Reference.number? rest).map (form Made.transaction)
  | 'B' :: rest => (Reference.number? rest).map fun n => (form Made.block n).map Char.toUpper
  | 'T' :: rest => (Reference.number? rest).map fun n => (form Made.transaction n).map Char.toUpper
  | _ => none
where
  /-- The written form of the identifier with a number. -/
  form (made : Made) (number : Nat) : List Char :=
    (.ofNat (made.bits number) : BlockId).text.toList

/-- Puts identifiers in the place of aliases; all parts but the first stand after a dollar sign. -/
def unveilParts : List (List Char) → List Char
  | [] => []
  | [part] => part
  | [part, name] => part ++ '$' :: name
  | part :: name :: after :: rest =>
    match expansion? name with
    | some form => part ++ form ++ unveilParts (after :: rest)
    | none => part ++ '$' :: unveilParts (name :: after :: rest)

/-- A text with identifiers in the place of aliases between dollar signs. -/
def unveil (s : String) : String :=
  String.ofList (unveilParts (Text.splitAt '$' s.toList))

end LedgerWatch.Rehearsal
