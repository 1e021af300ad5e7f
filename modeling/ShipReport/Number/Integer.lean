import ShipReport.Number.Reader

/-!
# Reading integers

Integers of 64 bits: an optional sign and digits. Digits are taken one after the other, so of a
character that is no digit and a number that grows too large, the one that comes first is reported.
-/

namespace ShipReport.Number

/-- Decides whether an integer takes no more than 64 bits. -/
def isInt64 (n : Int) : Bool :=
  decide (-0x8000000000000000 ≤ n) && decide (n < 0x8000000000000000)

/-- Why a text is not an integer of 64 bits. -/
inductive IntegerFault where
  | empty
  | invalidDigit
  | tooLarge
  | tooSmall
deriving Repr, DecidableEq

def IntegerFault.message : IntegerFault → String
  | .empty => "cannot parse integer from empty string"
  | .invalidDigit => "invalid digit found in string"
  | .tooLarge => "number too large to fit in target type"
  | .tooSmall => "number too small to fit in target type"

/-- The integer of digits after those that gave `n`, each taken away for a negative number. -/
def readInt64From (negative : Bool) (n : Int) : List Char → Except IntegerFault Int
  | [] => .ok n
  | c :: cs =>
    if !c.isDigit then .error .invalidDigit
    else
      let digit : Int := ofDigits [c]
      let next := if negative then n * 10 - digit else n * 10 + digit
      if isInt64 next then readInt64From negative next cs
      else .error (if negative then .tooSmall else .tooLarge)

/-- The integer of 64 bits that a text gives. -/
def readInt64 (s : String) : Except IntegerFault Int :=
  match s.toList with
  | [] => .error .empty
  | cs =>
    let (negative, digits) := splitSign cs
    if digits.isEmpty then .error .invalidDigit else readInt64From negative 0 digits

end ShipReport.Number
