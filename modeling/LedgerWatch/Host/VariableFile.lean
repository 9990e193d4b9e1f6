import LedgerWatch.Host.Environment

/-!
# Files of variables

A text with one variable a line, `NAME=value`, optionally after the word `export`. A value may be
quoted by single or double quotation marks and ends at a blank; after that only a comment may
follow.
-/

namespace LedgerWatch.VariableFile

/-- A name begins with an ASCII letter or an underscore. -/
def startsName (c : Char) : Bool :=
  c.isAlpha || c = '_'

/-- A name goes on with ASCII letters, digits, underscores and points. -/
def continuesName (c : Char) : Bool :=
  c.isAlphanum || c = '_' || c = '.'

/-- The name at the front of a text. -/
def takeName : List Char → Option (String × List Char)
  | [] => none
  | c :: rest =>
    if startsName c then
      some (String.ofList (c :: rest.takeWhile continuesName), rest.dropWhile continuesName)
    else none

/-- Where the reader of a value is. -/
inductive Place where
  /-- Outside quotation marks. -/
  | plain
  /-- Within single quotation marks, where every character stands for itself. -/
  | strong
  /-- Within double quotation marks. -/
  | weak
  /-- After the value, where only blanks and a comment may stand. -/
  | finished
deriving DecidableEq

/-- The character that stands for an escaped one. -/
def escaped? (c : Char) : Option Char :=
  if c = 'n' then some '\n'
  else if c = '\\' || c = '\'' || c = '"' || c = '$' || c = ' ' then some c
  else none

/-- Reads the rest of a value from some place; nothing when the value is malformed. -/
def readValueFrom : Place → List Char → Option (List Char)
  | .plain, [] => some []
  | .finished, [] => some []
  | .strong, [] => none
  | .weak, [] => none
  | .finished, c :: rest =>
    if c = ' ' || c = '\t' then readValueFrom .finished rest
    else if c = '#' then some []
    else none
  | .strong, c :: rest =>
    if c = '\'' then readValueFrom .plain rest else (readValueFrom .strong rest).map (c :: ·)
  | place, '\\' :: c :: rest =>
    (escaped? c).bind fun e => (readValueFrom place rest).map (e :: ·)
  | .weak, c :: rest =>
    if c = '"' then readValueFrom .plain rest
    else if c = '\\' then none
    else (readValueFrom .weak rest).map (c :: ·)
  | .plain, c :: rest =>
    if c = '\'' then readValueFrom .strong rest
    else if c = '"' then readValueFrom .weak rest
    else if c = '\\' then some []
    else if c = ' ' || c = '\t' then readValueFrom .finished rest
    else (readValueFrom .plain rest).map (c :: ·)

/-- The value that stands after an equals sign; a comment alone is the empty value. -/
def readValue (cs : List Char) : Option String :=
  match Text.trimStart cs with
  | [] => some ""
  | '#' :: _ => some ""
  | cs => (readValueFrom .plain cs).map String.ofList

/-- The name before the equals sign of a line, and the text after the sign. -/
def splitLine (cs : List Char) : Option (String × List Char) := do
  let (name, rest) ← takeName cs
  match Text.trimStart rest with
  | '=' :: rest => return (name, rest)
  | rest =>
    if name = "export" then
      let (name, rest) ← takeName rest
      match Text.trimStart rest with
      | '=' :: rest => return (name, rest)
      | _ => none
    else none

/-- What one line sets: nothing for a blank line or a comment, and `none` for a malformed line. -/
def readLine (line : List Char) : Option (Option (String × String)) :=
  match Text.trim line with
  | [] => some none
  | '#' :: _ => some none
  | cs => do
    let (name, rest) ← splitLine cs
    let value ← readValue rest
    return some (name, value)

/-- Supplies an environment with the variables of a text; nothing when a line is malformed. -/
def load? (text : String) (env : Environment) : Option Environment :=
  (Text.lines text.toList).foldlM (fun env line => do
    match ← readLine line with
    | some (name, value) => return env.supply name value
    | none => return env) env

end LedgerWatch.VariableFile
