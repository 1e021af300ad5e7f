import ShipReport.Json.Document

/-!
# Writing JSON

Documents as text, on one line or with two blanks of indentation for each level. Quotes, backslashes
and control characters are escaped, everything else is written as it is.
-/

namespace ShipReport.Json

/-- A digit of a hexadecimal number. -/
def hexDigit (n : Nat) : Char :=
  (Nat.toDigits 16 n).headD '0'

/-- A character inside a quoted text. -/
def escapedChar (c : Char) : String :=
  if c = '"' then "\\\""
  else if c = '\\' then "\\\\"
  else if c = '\n' then "\\n"
  else if c = '\r' then "\\r"
  else if c = '\t' then "\\t"
  else if c.toNat = 8 then "\\b"
  else if c.toNat = 12 then "\\f"
  else if c.toNat < 32 then
    "\\u00" ++ String.ofList [hexDigit (c.toNat / 16), hexDigit (c.toNat % 16)]
  else String.singleton c

/-- A text in quotes. -/
def quoted (s : String) : String :=
  "\"" ++ s.foldl (fun out c => out ++ escapedChar c) "" ++ "\""

/-- Texts in brackets, separated by commas. -/
def bracketed (opening closing : String) (parts : List String) : String :=
  opening ++ ",".intercalate parts ++ closing

/-- A line break followed by the indentation of a level. -/
def lineBreak (level : Nat) : String :=
  "\n" ++ String.ofList (List.replicate (2 * level) ' ')

/-- Texts in brackets, each on a line of its own one level deeper. -/
def indented (level : Nat) (opening closing : String) (parts : List String) : String :=
  if parts.isEmpty then opening ++ closing
  else
    opening ++ ",".intercalate (parts.map (lineBreak (level + 1) ++ ·)) ++ lineBreak level ++ closing

namespace Document

mutual

/-- The document on one line. -/
def compact : Document → String
  | .null => "null"
  | .bool b => if b then "true" else "false"
  | .number digits => digits
  | .text s => quoted s
  | .list items => bracketed "[" "]" (compactItems items)
  | .object members => bracketed "\x7b" "\x7d" (compactMembers members)

/-- The items of a list, each on one line. -/
def compactItems : List Document → List String
  | [] => []
  | d :: ds => d.compact :: compactItems ds

/-- The members of an object, each on one line. -/
def compactMembers : List (String × Document) → List String
  | [] => []
  | (name, d) :: rest => (quoted name ++ ":" ++ d.compact) :: compactMembers rest

end

mutual

/-- The document over several lines, starting at a level of indentation. -/
def prettyFrom (level : Nat) : Document → String
  | .null => "null"
  | .bool b => if b then "true" else "false"
  | .number digits => digits
  | .text s => quoted s
  | .list items => indented level "[" "]" (prettyItems (level + 1) items)
  | .object members => indented level "\x7b" "\x7d" (prettyMembers (level + 1) members)

/-- The items of a list over several lines. -/
def prettyItems (level : Nat) : List Document → List String
  | [] => []
  | d :: ds => d.prettyFrom level :: prettyItems level ds

/-- The members of an object over several lines. -/
def prettyMembers (level : Nat) : List (String × Document) → List String
  | [] => []
  | (name, d) :: rest => (quoted name ++ ": " ++ d.prettyFrom level) :: prettyMembers level rest

end

/-- The document over several lines. -/
def pretty (d : Document) : String :=
  d.prettyFrom 0

end Document

end ShipReport.Json
