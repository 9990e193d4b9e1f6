import LedgerWatch.Json.Value

/-!
# Reading JSON

The JSON grammar of RFC 8259. A text is read as one value with blanks around it, or not at all.
-/

namespace LedgerWatch.Json

/-- The four characters that may stand between the marks of a JSON text. -/
def isSpace (c : Char) : Bool :=
  c = ' ' || c = '\t' || c = '\n' || c = '\r'

/-- The text from its first character that is not a space. -/
def skipSpaces (cs : List Char) : List Char :=
  cs.dropWhile isSpace

/-- The run of digits at the front of a text. -/
def takeDigits (cs : List Char) : List Char × List Char :=
  (cs.takeWhile Char.isDigit, cs.dropWhile Char.isDigit)

/-- The digits of a whole part: a zero alone, or digits that begin with another digit. -/
def takeWhole : List Char → Option (List Char × List Char)
  | '0' :: rest =>
    match rest with
    | c :: _ => if c.isDigit then none else some (['0'], rest)
    | [] => some (['0'], rest)
  | cs =>
    match takeDigits cs with
    | ([], _) => none
    | (digits, rest) => some (digits, rest)

/-- A point with digits after it, or nothing. -/
def takeFraction : List Char → Option (List Char × List Char)
  | '.' :: rest =>
    match takeDigits rest with
    | ([], _) => none
    | (digits, rest) => some ('.' :: digits, rest)
  | cs => some ([], cs)

/-- A sign, or nothing. -/
def takeSign : List Char → List Char × List Char
  | '+' :: rest => (['+'], rest)
  | '-' :: rest => (['-'], rest)
  | cs => ([], cs)

/-- The letter e with an optional sign and digits after it, or nothing. -/
def takeExponent : List Char → Option (List Char × List Char)
  | c :: rest =>
    if c = 'e' ∨ c = 'E' then
      match takeDigits (takeSign rest).2 with
      | ([], _) => none
      | (digits, after) => some (c :: (takeSign rest).1 ++ digits, after)
    else some ([], c :: rest)
  | [] => some ([], [])

/-- The number at the front of a text. -/
def readNumber (cs : List Char) : Option (Json × List Char) := do
  let (sign, rest) := match cs with
    | '-' :: rest => (['-'], rest)
    | cs => ([], cs)
  let (whole, rest) ← takeWhole rest
  let (fraction, rest) ← takeFraction rest
  let (exponent, rest) ← takeExponent rest
  return (.number (sign ++ whole ++ fraction ++ exponent), rest)

/-- One element of a text: a character, or half of a surrogate pair. -/
inductive Element where
  | char (c : Char)
  | half (code : Nat)
deriving DecidableEq

/-- The first half of a surrogate pair. -/
def isHighHalf (code : Nat) : Bool :=
  0xD800 ≤ code && code < 0xDC00

/-- The second half of a surrogate pair. -/
def isLowHalf (code : Nat) : Bool :=
  0xDC00 ≤ code && code < 0xE000

/-- The element that a four-digit escape names. -/
def Element.ofCode (code : Nat) : Element :=
  if isHighHalf code || isLowHalf code then .half code else .char (Char.ofNat code)

/-- The character that a letter names after a backslash. -/
def shortEscape? : Char → Option Char
  | '"' => some '"'
  | '\\' => some '\\'
  | '/' => some '/'
  | 'b' => some '\x08'
  | 'f' => some '\x0c'
  | 'n' => some '\n'
  | 'r' => some '\r'
  | 't' => some '\t'
  | _ => none

/-- The elements of a text up to its closing quotation mark, and what follows the mark. -/
def readElements : List Char → Option (List Element × List Char)
  | [] => none
  | '"' :: rest => some ([], rest)
  | '\\' :: 'u' :: a :: b :: c :: d :: rest =>
    match Text.readHex [a, b, c, d] with
    | none => none
    | some code => (readElements rest).map fun (us, after) => (Element.ofCode code :: us, after)
  | '\\' :: c :: rest =>
    match shortEscape? c with
    | none => none
    | some e => (readElements rest).map fun (us, after) => (.char e :: us, after)
  | c :: rest =>
    if c.toNat < 0x20 ∨ c = '\\' then none
    else (readElements rest).map fun (us, after) => (.char c :: us, after)

/-- The characters that elements name, if every half of a pair meets its other half. -/
def joinElements : List Element → Option (List Char)
  | [] => some []
  | .char c :: rest => (joinElements rest).map (c :: ·)
  | .half high :: .half low :: rest =>
    if isHighHalf high && isLowHalf low then
      (joinElements rest).map
        (Char.ofNat (0x10000 + (high - 0xD800) * 0x400 + (low - 0xDC00)) :: ·)
    else none
  | .half _ :: _ => none

/-- The content of a text after its opening quotation mark, and what follows the text. -/
def readText (cs : List Char) : Option (Option String × List Char) :=
  (readElements cs).map fun (us, rest) => ((joinElements us).map String.ofList, rest)

mutual

/-- The value at the front of a text, with spaces before it. -/
def readValue : Nat → List Char → Option (Json × List Char)
  | 0, _ => none
  | fuel + 1, cs =>
    match skipSpaces cs with
    | '"' :: rest => (readText rest).map fun (s, rest) => (.text s, rest)
    | '[' :: rest =>
      match skipSpaces rest with
      | ']' :: rest => some (.array [], rest)
      | rest => (readItems fuel rest).map fun (items, rest) => (.array items, rest)
    | '\x7b' :: rest =>
      match skipSpaces rest with
      | '\x7d' :: rest => some (.object [], rest)
      | rest => (readFields fuel rest).map fun (fields, rest) => (.object fields, rest)
    | 'n' :: 'u' :: 'l' :: 'l' :: rest => some (.null, rest)
    | 't' :: 'r' :: 'u' :: 'e' :: rest => some (.bool true, rest)
    | 'f' :: 'a' :: 'l' :: 's' :: 'e' :: rest => some (.bool false, rest)
    | cs => readNumber cs

/-- The items of an array up to its closing bracket; at least one. -/
def readItems : Nat → List Char → Option (List Json × List Char)
  | 0, _ => none
  | fuel + 1, cs =>
    match readValue fuel cs with
    | none => none
    | some (item, rest) =>
      match skipSpaces rest with
      | ',' :: rest => (readItems fuel rest).map fun (items, rest) => (item :: items, rest)
      | ']' :: rest => some ([item], rest)
      | _ => none

/-- The fields of a record up to its closing brace; at least one. -/
def readFields : Nat → List Char → Option (List (Option String × Json) × List Char)
  | 0, _ => none
  | fuel + 1, cs =>
    match skipSpaces cs with
    | '"' :: rest =>
      match readText rest with
      | none => none
      | some (name, rest) =>
        match skipSpaces rest with
        | ':' :: rest =>
          match readValue fuel rest with
          | none => none
          | some (value, rest) =>
            match skipSpaces rest with
            | ',' :: rest =>
              (readFields fuel rest).map fun (fields, rest) => ((name, value) :: fields, rest)
            | '\x7d' :: rest => some ([(name, value)], rest)
            | _ => none
        | _ => none
    | _ => none

end

/--
The value that a whole text writes. Every two steps of the reader use up a character, so twice the
length of the text bounds the steps.
-/
def read? (s : String) : Option Json :=
  match readValue (2 * s.length + 2) s.toList with
  | some (value, rest) => if (skipSpaces rest).isEmpty then some value else none
  | none => none

end LedgerWatch.Json
