import LedgerWatch.Text.Hex
import LedgerWatch.Text.Unseen

/-!
# Quoted texts

A text in quotation marks for a reader of diagnostics: what cannot be seen is escaped.
-/

namespace LedgerWatch.Text

/-- The hexadecimal digits of a number, without zeros in front. -/
def shortHex (n : Nat) : List Char :=
  match (hexText 8 n).dropWhile (· = '0') with
  | [] => ['0']
  | digits => digits

/-- How a character is written between quotation marks. -/
def escapeSeen (c : Char) : List Char :=
  if c = '\x00' then ['\\', '0']
  else if c = '\t' then ['\\', 't']
  else if c = '\n' then ['\\', 'n']
  else if c = '\r' then ['\\', 'r']
  else if c = '"' then ['\\', '"']
  else if c = '\\' then ['\\', '\\']
  else if isUnseen c then '\\' :: 'u' :: '\x7b' :: shortHex c.toNat ++ ['\x7d']
  else [c]

/-- A text in quotation marks. -/
def quoted (s : String) : String :=
  String.ofList ('"' :: s.toList.flatMap escapeSeen ++ ['"'])

/-- Quoted texts in braces, with commas between them. -/
def quotedSet (texts : List String) : String :=
  "\x7b" ++ String.intercalate ", " (texts.map quoted) ++ "\x7d"

end LedgerWatch.Text
