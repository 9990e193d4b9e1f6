import LedgerWatch.Text.Blank
import LedgerWatch.Text.Hex

/-!
# Addresses of databases

Only databases in a file or in memory can be addressed: `sqlite:` with the path of a file or
`:memory:`, and options after a question mark. Without a path the database is in memory.
-/

namespace LedgerWatch

/-- The address of a database. -/
structure DatabaseUrl where
  /-- The file of the database, or none for one in memory. -/
  path : Option String
  /-- Whether a missing file is made. -/
  creates : Bool := false
  /-- Whether the database may be changed. -/
  writable : Bool := true
deriving DecidableEq

namespace DatabaseUrl

/-- The text after a mark that it begins with. -/
def after? (mark cs : List Char) : Option (List Char) :=
  if mark.isPrefixOf cs then some (cs.drop mark.length) else none

/-- The text after all the repetitions of a mark at its front. -/
def afterAll (mark : List Char) : Nat → List Char → List Char
  | 0, cs => cs
  | fuel + 1, cs =>
    match after? mark cs with
    | some rest => afterAll mark fuel rest
    | none => cs

/-- The characters that no host of an address may have. -/
def forbiddenInHost : List Char :=
  [' ', '<', '>', '[', ']', '^', '|', '\\']

/-- The host at the front of an address, and the number after it, are well formed or absent. -/
def hasHost (cs : List Char) : Bool :=
  match after? "//".toList cs with
  | none => true
  | some rest =>
    let authority := rest.takeWhile fun c => c ≠ '/' && c ≠ '?' && c ≠ '#'
    match Text.splitAt ':' authority with
    | [host] => !host.any forbiddenInHost.contains
    | [host, number] =>
      !host.isEmpty && !host.any forbiddenInHost.contains && number.all Char.isDigit
    | _ => false

/-- The bytes of a text in which a percent sign and two hexadecimal digits stand for a byte. -/
def percentBytes : List Char → List UInt8
  | '%' :: a :: b :: rest =>
    match Text.readHex [a, b] with
    | some n => UInt8.ofNat n :: percentBytes rest
    | none => '%'.toNat.toUInt8 :: percentBytes (a :: b :: rest)
  | c :: rest => (String.singleton c).toUTF8.toList ++ percentBytes rest
  | [] => []

/-- The text that percent signs stand for, if it is one. -/
def percentDecoded? (cs : List Char) : Option String :=
  String.fromUTF8? ⟨(percentBytes cs).toArray⟩

/-- Applies an option; nothing when it is not known. -/
def withOption? (url : DatabaseUrl) (option : List Char) : Option DatabaseUrl :=
  match (Text.splitAt '=' option).map String.ofList with
  | [""] => some url
  | ["mode", "ro"] => some { url with writable := false }
  | ["mode", "rw"] => some url
  | ["mode", "rwc"] => some { url with creates := true }
  | ["mode", "memory"] => some { url with path := none }
  | ["cache", "private"] | ["cache", "shared"] => some url
  | ["immutable", "true"] | ["immutable", "1"] | ["immutable", "false"] | ["immutable", "0"] =>
    some url
  | ["vfs", _] => some url
  | _ => none

/-- The address that a text writes, if it addresses a database of a kind that is supported. -/
def read? (text : String) : Option DatabaseUrl := do
  let cs := text.toList
  let rest ← after? "sqlite:".toList cs
  if hasHost rest then
    let bare := afterAll "sqlite:".toList cs.length (afterAll "sqlite://".toList cs.length cs)
    let name := bare.takeWhile (· ≠ '?')
    let url : DatabaseUrl ←
      if name.isEmpty || name = ":memory:".toList then some ⟨none, false, true⟩
      else (percentDecoded? name).map fun path => ⟨some path, false, true⟩
    match bare.dropWhile (· ≠ '?') with
    | _ :: options => (Text.splitAt '&' options).foldlM withOption? url
    | [] => return url
  else none

end DatabaseUrl

end LedgerWatch
