import ShipReport.Formula.Address
import ShipReport.Report.Settings
import ShipReport.Report.Sheet
import ShipReport.Submission.CellText

/-!
# Reading a returned sheet

The exported columns of a returned sheet, as texts. The first row gives the headers; where it is
blank the contract's header stands in. A row is dropped if all its exported cells are blank or hold
a placeholder.
-/

namespace ShipReport.Submission

open Formula (Position)
open Report (ReportSheet ColumnSpec Rules)
open Calendar.Serial (Overflow)

/-- The cells of a returned sheet up to a last row. -/
structure CellRange where
  lastRow : Nat
  cell : Position → CellData

/-- A range without cells. -/
def CellRange.empty : CellRange :=
  ⟨0, fun _ => .empty⟩

/-- A sheet as it was read. -/
structure ParsedSheet where
  kind : ReportSheet
  title : String
  headers : List String
  rows : List (List String)
  droppedRows : Nat
  warning : Option String
deriving Repr, DecidableEq

/-- What stands in for a sheet that could not be read: the contract's headers and a warning. -/
def ParsedSheet.missing (k : ReportSheet) (warning : String) : ParsedSheet :=
  ⟨k, k.title, k.exportHeaders, [], 0, some warning⟩

/-- A text counts as blank if nothing is left of it after trimming or it is a placeholder. -/
def isBlank (rules : Rules) (value : String) : Bool :=
  Text.isBlankText value || rules.isPlaceholder value

/-- The texts of the exported cells of a row. -/
def rowTexts (range : CellRange) (k : ReportSheet) (row : Nat) : Except Overflow (List String) :=
  k.exportColumns.zipIdx.mapM fun (spec, col) => cellText spec.kind (range.cell ⟨row, col⟩)

/-- The header of a column: what the first row says, or the contract's header. -/
def headerText (spec : ColumnSpec) (written : String) : String :=
  let written := Text.trim written
  if written.isEmpty then spec.header else written

/-- Reads a sheet. -/
def parseSheet (rules : Rules) (k : ReportSheet) (range : CellRange) :
    Except Overflow ParsedSheet := do
  let written ← rowTexts range k 0
  let rows ← (List.range' 1 range.lastRow).mapM (rowTexts range k)
  let kept := rows.filter fun row => !row.all (isBlank rules)
  return {
    kind := k
    title := k.title
    headers := k.exportColumns.zipWith headerText written
    rows := kept
    droppedRows := rows.length - kept.length
    warning := none }

end ShipReport.Submission
