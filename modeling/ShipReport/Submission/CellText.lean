import ShipReport.Calendar.Serial
import ShipReport.Number.Text
import ShipReport.Report.Kind

/-!
# The text of a returned cell

A returned cell holds a value of its own or the last result of a formula. Its text is what is
exported: whole numbers without a fraction, truth values as words, faults as nothing, and numbers in
a date column as dates.
-/

namespace ShipReport.Submission

open Report (ValueKind)

/-- What a cell of a returned sheet holds. -/
inductive CellData where
  | empty
  | text (s : String)
  | number (x : Float)
  | int (n : Int)
  | bool (b : Bool)
  | fault
  | serial (x : Float)
  | isoDateTime (s : String)
  | isoDuration (s : String)
deriving Repr, DecidableEq

/-- A serial as date and time, or as a number if it has no date. -/
def serialText (x : Float) : Except Calendar.Serial.Overflow String :=
  (Calendar.Serial.dateTime? x).map fun
    | some t => t.text
    | none => Number.cellText x

/-- The text that is exported for a cell of a column. -/
def cellText (kind : ValueKind) : CellData → Except Calendar.Serial.Overflow String
  | .empty | .fault => .ok ""
  | .text s => .ok s
  | .number x => if kind = .dateTime then serialText x else .ok (Number.cellText x)
  | .int n => if kind = .dateTime then serialText (Float.ofInt n) else .ok (toString n)
  | .bool b => .ok (if b then "TRUE" else "FALSE")
  | .serial x => serialText x
  | .isoDateTime s => .ok (s.map fun c => if c = 'T' then ' ' else c)
  | .isoDuration s => .ok s

end ShipReport.Submission
