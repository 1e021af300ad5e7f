import ShipReport.Calendar.Instant

/-!
# Loosely written dates and instants

Dates and points in time as people and other programs write them: numbers may be short of digits and
have blanks before them, a year may have a sign and then any number of digits, and the offset of a
point in time may be set apart from its minutes in several ways. A year has to be one that the
calendar covers.
-/

namespace ShipReport.Calendar

/-- The years that the calendar covers. -/
def isCovered (year : Int) : Bool :=
  decide (-262143 ≤ year) && decide (year ≤ 262142)

namespace Instant

/-- Drops blanks. -/
def blanks : Reading Unit := fun cs =>
  .ok ((), cs.dropWhile Text.isBlank)

/-- A number of one or two digits, blanks before it aside. -/
def looseNumber : Reading Nat := do
  blanks
  number 1 2

/-- A number of one or two digits up to a bound. -/
def looseNumberUpTo (most : Nat) : Reading Nat := do
  let n ← looseNumber
  if n ≤ most then return n else throw .outOfRange

/-- A number with as many digits as there are. -/
def longNumber : Reading Nat := fun cs =>
  number 1 cs.length cs

/-- A year: four digits at most, or a sign and any number of digits. -/
def looseYear : Reading Int := do
  blanks
  match (← get).head? with
  | some '-' => do oneOf (· == '-'); return -(← longNumber : Nat)
  | some '+' => do oneOf (· == '+'); return (← longNumber : Nat)
  | _ => do return (← number 1 4 : Nat)

/-- A date; the answer is its year, month and day. Blanks before a hyphen are dropped if they may
stand there. -/
def looseDate (beforeHyphen : Reading Unit) : Reading (Int × Nat × Nat) := do
  let year ← looseYear
  unless isCovered year do throw .outOfRange
  beforeHyphen
  oneOf (· == '-')
  let month ← looseNumber
  beforeHyphen
  oneOf (· == '-')
  let day ← looseNumber
  return (year, month, day)

/-- Colons and blanks, as many as there are. -/
def colonOrBlanks : Reading Unit := fun cs =>
  .ok ((), cs.dropWhile fun c => c == ':' || Text.isBlank c)

/-- The offset from universal time in minutes. -/
def looseOffset : Reading Int := fun cs =>
  if (cs.take 3).map Char.toUpper = ['U', 'T', 'C'] then .ok (0, cs.drop 3)
  else offset colonOrBlanks cs

/-- A point in time. -/
def loose : Reading Instant := do
  let (year, month, day) ← looseDate blanks
  oneOf isDateEnd
  let hour ← looseNumberUpTo 23
  blanks
  oneOf (· == ':')
  let minute ← looseNumberUpTo 59
  blanks
  oneOf (· == ':')
  let second ← looseNumberUpTo 60
  let nanos ← fraction
  blanks
  let offsetMinutes ← looseOffset
  if 1439 < offsetMinutes.natAbs then throw .outOfRange
  blanks
  unless (← get).isEmpty do throw .tooLong
  liftM (ofParts year month day hour minute second nanos offsetMinutes)

/-- The point in time that a text gives. -/
def readLoose (s : String) : Except TimeFault Instant :=
  (loose.run s.toList).map (·.1)

end Instant

/-- The date that a text gives, blanks around it aside. -/
def Date.readLoose? (s : String) : Option Date :=
  match (Instant.looseDate (pure ())).run (Text.trimList s.toList) with
  | .ok ((year, month, day), []) => Date.ofParts? year month day
  | _ => none

end ShipReport.Calendar
