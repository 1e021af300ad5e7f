import ShipReport.Calendar.Date
import ShipReport.Number.Reader
import ShipReport.Text.Blank

/-!
# Instants

Points in time with nanoseconds, kept in universal time, and their texts in the format of RFC 3339.
A leap second is kept as the second before it with a nanosecond part of a whole second or more.
Reading takes any offset and gives the same point in universal time; writing always uses offset
zero, and the fraction takes as many groups of three digits as it needs.
-/

namespace ShipReport.Calendar

/-- A point in time: the day counted from the first of January 1970, the second of the day, and the
nanoseconds after it. -/
structure Instant where
  day : Int
  second : Nat
  nanos : Nat
deriving Repr, DecidableEq

/-- Why a text is not a point in time. -/
inductive TimeFault where
  | tooShort
  | invalid
  | outOfRange
  | tooLong
deriving Repr, DecidableEq

def TimeFault.message : TimeFault → String
  | .tooShort => "premature end of input"
  | .invalid => "input contains invalid characters"
  | .outOfRange => "input is out of range"
  | .tooLong => "trailing input"

namespace Instant

/-! ## Reading -/

/-- Reading takes a value from the front of a text and leaves the rest. -/
abbrev Reading := StateT (List Char) (Except TimeFault)

/-- The number of bytes that a text takes. -/
def byteCount (cs : List Char) : Nat :=
  (String.ofList cs).utf8ByteSize

/-- A number of `least` to `most` digits. -/
def number (least most : Nat) : Reading Nat := fun cs =>
  if byteCount cs < least then .error .tooShort
  else
    let ds := (cs.take most).takeWhile Char.isDigit
    if ds.length < least then .error .invalid else .ok (Number.ofDigits ds, cs.drop ds.length)

/-- A number of exactly so many digits. -/
def fixedNumber (count : Nat) : Reading Nat := fun cs =>
  let ds := cs.take count
  if ds.length = count ∧ ds.all Char.isDigit then .ok (Number.ofDigits ds, cs.drop count)
  else .error .invalid

/-- One of the characters that a test accepts. -/
def oneOf (accept : Char → Bool) : Reading Unit := fun
  | c :: cs => if accept c then .ok ((), cs) else .error .invalid
  | [] => .error .tooShort

/-- A fraction of a second in nanoseconds: the first nine digits count. -/
def fraction : Reading Nat := fun
  | '.' :: cs => do
    let (n, rest) ← number 1 9 cs
    let used := cs.length - rest.length
    return (n * Nat.pow 10 (9 - used), rest.dropWhile Char.isDigit)
  | cs => .ok (0, cs)

/-- Two digits of an offset. -/
def offsetPart (most : Nat) : Reading Nat := fun cs =>
  if byteCount cs < 2 then .error .tooShort
  else
    match cs with
    | a :: b :: rest =>
      if a.isDigit && b.isDigit then
        let n := Number.ofDigits [a, b]
        if n ≤ most then .ok (n, rest) else .error .outOfRange
      else .error .invalid
    | _ => .error .invalid

/-- The sign of an offset; the answer tells whether it is a minus. -/
def offsetSign : Reading Bool := fun
  | '+' :: cs => .ok (false, cs)
  | '-' :: cs => .ok (true, cs)
  | '−' :: cs => .ok (true, cs)
  | _ :: _ => .error .invalid
  | [] => .error .tooShort

/-- An offset from universal time in minutes, with a sign and a separator. -/
def signedOffset (separator : Reading Unit) : Reading Int := do
  let negative ← offsetSign
  let hours ← offsetPart 99
  separator
  let minutes ← offsetPart 59
  let total : Int := hours * 60 + minutes
  return if negative then -total else total

/-- An offset from universal time in minutes; a letter stands for none. -/
def offset (separator : Reading Unit) : Reading Int := fun
  | 'Z' :: rest | 'z' :: rest => .ok (0, rest)
  | cs => signedOffset separator cs

/-- The point in time of its parts. -/
def ofParts (year : Int) (month day hour minute second nanos : Nat) (offsetMinutes : Int) :
    Except TimeFault Instant :=
  match Date.ofParts? year month day with
  | none => .error .outOfRange
  | some d =>
    let leap := second = 60
    let secondOfDay : Int :=
      hour * 3600 + minute * 60 + (if leap then 59 else second) - offsetMinutes * 60
    .ok ⟨d.toDays + secondOfDay.fdiv 86400, (secondOfDay.fmod 86400).toNat,
      if leap then nanos + 1000000000 else nanos⟩

/-- The separator between date and time. -/
def isDateEnd (c : Char) : Bool :=
  c == 'T' || c == 't' || c == ' '

/-- The length of the part that every text has: the date and the time of day up to the seconds. -/
def fixedLength : Nat := 19

/-- A date in its fixed form; the answer is its year, month and day. -/
def fixedDate : Reading (Nat × Nat × Nat) := do
  let year ← fixedNumber 4
  oneOf (· == '-')
  let month ← fixedNumber 2
  oneOf (· == '-')
  let day ← fixedNumber 2
  if (Date.ofParts? year month day).isNone then throw .outOfRange
  return (year, month, day)

/-- A time of day in its fixed form; the answer is the hour, the minute and the second. -/
def fixedTime : Reading (Nat × Nat × Nat) := do
  let hour ← fixedNumber 2
  oneOf (· == ':')
  let minute ← fixedNumber 2
  oneOf (· == ':')
  let second ← fixedNumber 2
  return (hour, minute, second)

/-- A text in the format of RFC 3339. -/
def rfc3339 : Reading Instant := do
  if byteCount (← get) < fixedLength then throw .tooShort
  let (year, month, day) ← fixedDate
  oneOf isDateEnd
  let (hour, minute, second) ← fixedTime
  let nanos ← fraction
  if 23 < hour ∨ 59 < minute ∨ 60 < second then throw .outOfRange
  let offsetMinutes ← offset (oneOf (· == ':'))
  if 1439 < offsetMinutes.natAbs then throw .outOfRange
  unless (← get).isEmpty do throw .tooLong
  liftM (ofParts year month day hour minute second nanos offsetMinutes)

/-- The point in time that a text in the format of RFC 3339 gives. -/
def read (s : String) : Except TimeFault Instant :=
  (rfc3339.run s.toList).map (·.1)

/-! ## Writing -/

/-- The fraction of a second, in groups of three digits. -/
def fractionText (nanos : Nat) : String :=
  if nanos = 0 then ""
  else if nanos % 1000000 = 0 then "." ++ padded 3 (nanos / 1000000)
  else if nanos % 1000 = 0 then "." ++ padded 6 (nanos / 1000)
  else "." ++ padded 9 nanos

/-- The date and the time of day in universal time. -/
def localText (t : Instant) : String :=
  let leap := decide (1000000000 ≤ t.nanos)
  let second := t.second % 60 + (if leap then 1 else 0)
  (Date.ofDays t.day).text ++ "T" ++ padded 2 (t.second / 3600) ++ ":" ++
    padded 2 (t.second / 60 % 60) ++ ":" ++ padded 2 second ++
    fractionText (if leap then t.nanos - 1000000000 else t.nanos)

/-- The text with a numeric offset. -/
def text (t : Instant) : String :=
  t.localText ++ "+00:00"

/-- The text with the letter for universal time. -/
def zuluText (t : Instant) : String :=
  t.localText ++ "Z"

end Instant

end ShipReport.Calendar
