import ShipReport.Calendar.Date
import ShipReport.Number.Rounding

/-!
# Date serials

Spreadsheets count days from the thirtieth of December 1899, with the time of day as a fraction. A
serial is rounded to seconds. Times that the calendar does not reach have no date; so many seconds
that their milliseconds do not fit in 64 bits are an error of their own.
-/

namespace ShipReport.Calendar

/-- A day and a time of day. -/
structure DateTime where
  date : Date
  second : Nat
deriving Repr, DecidableEq

/-- The date and the time of day, with nothing but a blank between them. -/
def DateTime.text (t : DateTime) : String :=
  t.date.text ++ " " ++ padded 2 (t.second / 3600) ++ ":" ++ padded 2 (t.second / 60 % 60) ++ ":" ++
    padded 2 (t.second % 60)

namespace Serial

/-- A serial whose seconds cannot be counted. -/
inductive Overflow where
  | tooManySeconds
deriving Repr, DecidableEq

/-- The day from which serials count. -/
def origin : Date := ⟨1899, 12, 30⟩

/-- The last day of the calendar. -/
def lastDay : Date := ⟨262142, 12, 31⟩

/-- The most seconds whose milliseconds fit in 64 bits. -/
def maxSeconds : Int := 9223372036854775

/-- The seconds of a serial, halves rounded up, cut off at 64 bits. -/
def seconds (x : Float) : Int :=
  Number.toInt64 (Number.roundHalfAway (x * 86400))

/-- The date and time of a serial, if it has one. -/
def dateTime? (x : Float) : Except Overflow (Option DateTime) :=
  if !x.isFinite || decide (x < 0) then .ok none
  else
    let s := seconds x
    if maxSeconds < s then .error .tooManySeconds
    else
      let day := origin.toDays + s.fdiv 86400
      if lastDay.toDays < day then .ok none
      else .ok (some ⟨Date.ofDays day, (s.fmod 86400).toNat⟩)

end Serial

end ShipReport.Calendar
