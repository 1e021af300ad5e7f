import ShipReport.Json.Document

/-!
# Reading JSON

A text is read from the front; what is left after the document must be blank. Texts must not hold
control characters, and codes for characters beyond the first plane come in pairs. Every value takes
at least one character, so the length of the text bounds the nesting.
-/

namespace ShipReport.Json

/-- Blanks between the parts of a document. -/
def isBlank (c : Char) : Bool :=
  c == ' ' || c == '\n' || c == '\t' || c == '\r'

/-- The text after the blanks at its front. -/
def skipBlanks (cs : List Char) : List Char :=
  cs.dropWhile isBlank

/-- The value of a hexadecimal digit. -/
def hexValue? (c : Char) : Option Nat :=
  if c.isDigit then some (c.toNat - '0'.toNat)
  else if 'a' ≤ c ∧ c ≤ 'f' then some (c.toNat - 'a'.toNat + 10)
  else if 'A' ≤ c ∧ c ≤ 'F' then some (c.toNat - 'A'.toNat + 10)
  else none

/-- The number of four hexadecimal digits. -/
def code? (a b c d : Char) : Option Nat := do
  return (((← hexValue? a) * 16 + (← hexValue? b)) * 16 + (← hexValue? c)) * 16 + (← hexValue? d)

/-- The first half of a pair. -/
def isHighHalf (n : Nat) : Bool :=
  decide (0xD800 ≤ n ∧ n < 0xDC00)

/-- The second half of a pair. -/
def isLowHalf (n : Nat) : Bool :=
  decide (0xDC00 ≤ n ∧ n < 0xE000)

/-- The character of a pair of halves. -/
def joinedHalves (high low : Nat) : Char :=
  Char.ofNat (0x10000 + (high - 0xD800) * 0x400 + (low - 0xDC00))

/-- The character that a letter after a backslash stands for. -/
def escape? (c : Char) : Option Char :=
  match c with
  | '"' => some '"'
  | '\\' => some '\\'
  | '/' => some '/'
  | 'b' => some (Char.ofNat 8)
  | 'f' => some (Char.ofNat 12)
  | 'n' => some '\n'
  | 'r' => some '\r'
  | 't' => some '\t'
  | _ => none

/-- Reads a text after its opening quote. The half of a pair that has been read waits for the other
one. -/
def readText (acc : List Char) (half : Option Nat) : List Char → Option (String × List Char)
  | '\\' :: 'u' :: a :: b :: c :: d :: cs =>
    match code? a b c d, half with
    | some n, some high =>
      if isLowHalf n then readText (joinedHalves high n :: acc) none cs else none
    | some n, none =>
      if isHighHalf n then readText acc (some n) cs
      else if isLowHalf n then none
      else readText (Char.ofNat n :: acc) none cs
    | none, _ => none
  | '\\' :: e :: cs =>
    match escape? e, half with
    | some c, none => readText (c :: acc) none cs
    | _, _ => none
  | c :: cs =>
    if half.isSome then none
    else if c = '"' then some (String.ofList acc.reverse, cs)
    else if c.toNat < 32 then none
    else readText (c :: acc) none cs
  | [] => none

/-- Digits at the front of a text: at least one. -/
def readDigits (cs : List Char) : Option (List Char × List Char) :=
  let ds := cs.takeWhile Char.isDigit
  if ds.isEmpty then none else some (ds, cs.dropWhile Char.isDigit)

/-- The whole part of a number: it starts with a zero only if it is one. -/
def readWhole : List Char → Option (List Char × List Char)
  | '0' :: cs => some (['0'], cs)
  | cs => readDigits cs

/-- The fraction of a number, if there is one. -/
def readFraction : List Char → Option (List Char × List Char)
  | '.' :: cs => (readDigits cs).map fun (ds, cs) => ('.' :: ds, cs)
  | cs => some ([], cs)

/-- The sign at the front of an exponent. -/
def readSign : List Char → List Char × List Char
  | '+' :: cs => (['+'], cs)
  | '-' :: cs => (['-'], cs)
  | cs => ([], cs)

/-- The exponent of a number, if there is one. -/
def readExponent : List Char → Option (List Char × List Char)
  | [] => some ([], [])
  | c :: cs =>
    if c = 'e' ∨ c = 'E' then
      let (sign, cs) := readSign cs
      (readDigits cs).map fun (ds, cs) => (c :: sign ++ ds, cs)
    else some ([], c :: cs)

/-- Reads a number; its text is kept. -/
def readNumber (cs : List Char) : Option (Document × List Char) := do
  let (minus, cs) := match cs with
    | '-' :: cs => (['-'], cs)
    | cs => ([], cs)
  let (whole, cs) ← readWhole cs
  let (part, cs) ← readFraction cs
  let (exponent, cs) ← readExponent cs
  return (.number (String.ofList (minus ++ whole ++ part ++ exponent)), cs)

mutual

/-- Reads a value with at most `fuel` values nested or listed in one another. -/
def readValue : Nat → List Char → Option (Document × List Char)
  | 0, _ => none
  | fuel + 1, cs =>
    match skipBlanks cs with
    | 'n' :: 'u' :: 'l' :: 'l' :: cs => some (.null, cs)
    | 't' :: 'r' :: 'u' :: 'e' :: cs => some (.bool true, cs)
    | 'f' :: 'a' :: 'l' :: 's' :: 'e' :: cs => some (.bool false, cs)
    | '"' :: cs => (readText [] none cs).map fun (s, cs) => (.text s, cs)
    | '[' :: cs =>
      match skipBlanks cs with
      | ']' :: cs => some (.list [], cs)
      | cs => (readItems fuel cs).map fun (items, cs) => (.list items, cs)
    | '\x7b' :: cs =>
      match skipBlanks cs with
      | '\x7d' :: cs => some (.object [], cs)
      | cs => (readMembers fuel cs).map fun (members, cs) => (.object members, cs)
    | cs => readNumber cs

/-- Reads the items of a list up to its end. -/
def readItems : Nat → List Char → Option (List Document × List Char)
  | 0, _ => none
  | fuel + 1, cs => do
    let (d, cs) ← readValue fuel cs
    match skipBlanks cs with
    | ',' :: cs => (readItems fuel cs).map fun (ds, cs) => (d :: ds, cs)
    | ']' :: cs => some ([d], cs)
    | _ => none

/-- Reads the members of an object up to its end. -/
def readMembers : Nat → List Char → Option (List (String × Document) × List Char)
  | 0, _ => none
  | fuel + 1, cs =>
    match skipBlanks cs with
    | '"' :: cs => do
      let (name, cs) ← readText [] none cs
      match skipBlanks cs with
      | ':' :: cs =>
        let (d, cs) ← readValue fuel cs
        match skipBlanks cs with
        | ',' :: cs => (readMembers fuel cs).map fun (rest, cs) => ((name, d) :: rest, cs)
        | '\x7d' :: cs => some ([(name, d)], cs)
        | _ => none
      | _ => none
    | _ => none

end

/-- The document of a text, if it is one. -/
def read? (s : String) : Option Document :=
  let cs := s.toList
  match readValue (cs.length + 1) cs with
  | some (d, rest) => if (skipBlanks rest).isEmpty then some d else none
  | none => none

end ShipReport.Json
