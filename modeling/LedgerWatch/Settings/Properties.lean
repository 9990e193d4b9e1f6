import LedgerWatch.Table
import LedgerWatch.Text.Blank

/-!
# Properties

Texts under their keys, read line by line from a properties text. A line is a key, a separator and a
value; the separator is an equals sign, a colon or blanks.
-/

namespace LedgerWatch

/-- Texts under their keys. -/
abbrev Properties := Table String

namespace Properties

/-- The characters that end a key. -/
def endsKey (c : Char) : Bool :=
  c = '=' || c = ':' || Text.isBlank c

/-- The value that follows a key: one separator and the blanks around it do not belong to it. -/
def valueAfter (cs : List Char) : List Char :=
  match Text.trimStart cs with
  | c :: rest => if c = '=' || c = ':' then Text.trimStart rest else c :: rest
  | [] => []

/-- The key and the value of a line; nothing for a blank line and for a comment. -/
def entry? (line : List Char) : Option (String × String) :=
  match Text.trimStart line with
  | [] => none
  | c :: rest =>
    if c = '#' || c = '!' then none
    else
      let cs := c :: rest
      some (String.ofList (cs.takeWhile fun c => !endsKey c),
        String.ofList (valueAfter (cs.dropWhile fun c => !endsKey c)))

/-- The properties of a text; of lines with the same key the last one counts. -/
def parse (text : String) : Properties :=
  Table.ofList ((Text.lines text.toList).filterMap entry?)

end Properties

end LedgerWatch
