/-!
# Reading numbers

The grammar of decimal numbers: an optional sign, digits with an optional point and at least one
digit on either side of it, and an optional exponent; or one of the words `inf`, `infinity` and
`nan` in any case. Nothing else is a number: no blanks, no separators, no other base. The value is
the nearest representable one.
-/

namespace ShipReport.Number

/-- The digits a text starts with, and the rest. -/
def spanDigits (cs : List Char) : List Char × List Char :=
  cs.span Char.isDigit

/-- The number that a list of decimal digits denotes. -/
def ofDigits (cs : List Char) : Nat :=
  cs.foldl (fun n c => 10 * n + (c.toNat - '0'.toNat)) 0

/-- Digits up to the end of the text, at least one. -/
def readDigits? (cs : List Char) : Option Nat :=
  if !cs.isEmpty && cs.all Char.isDigit then some (ofDigits cs) else none

/-- Splits off a leading sign; the answer tells whether it was a minus. -/
def splitSign : List Char → Bool × List Char
  | '-' :: cs => (true, cs)
  | '+' :: cs => (false, cs)
  | cs => (false, cs)

/-- What follows the mantissa: nothing, or `e` with an optional sign and digits. -/
def readExponent? : List Char → Option Int
  | [] => some 0
  | c :: cs =>
    if c = 'e' ∨ c = 'E' then
      let (negative, digits) := splitSign cs
      (readDigits? digits).map fun n => if negative then -(n : Int) else n
    else none

/-- The number `mantissa * 10 ^ exponent`, rounded to nearest. -/
def ofDecimal (mantissa : Nat) (exponent : Int) : Float :=
  Float.ofScientific mantissa (exponent < 0) exponent.natAbs

/-- A decimal number without its sign. -/
def readUnsigned? (cs : List Char) : Option Float :=
  let (whole, afterWhole) := spanDigits cs
  let (fraction, afterFraction) :=
    match afterWhole with
    | '.' :: r => spanDigits r
    | r => ([], r)
  if whole.isEmpty && fraction.isEmpty then none
  else
    (readExponent? afterFraction).map fun e =>
      ofDecimal (ofDigits (whole ++ fraction)) (e - fraction.length)

/-- The words for the values that are not finite. -/
def readWord? (cs : List Char) : Option Float :=
  let word := String.ofList (cs.map Char.toLower)
  if word = "inf" ∨ word = "infinity" then some (1 / 0)
  else if word = "nan" then some (0 / 0)
  else none

/-- The number that a text denotes, if it denotes one. -/
def read? (s : String) : Option Float :=
  let (negative, cs) := splitSign s.toList
  let magnitude := (readUnsigned? cs).or (readWord? cs)
  magnitude.map fun x => if negative then -x else x

end ShipReport.Number
