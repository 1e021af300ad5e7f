import ShipReport.Submission.Workbook
import ShipReport.Xlsx.Book

/-!
# Reading a written workbook back

What a reader that does not compute finds in a written workbook: texts, numbers, and the cached
results of formulas. A result that reads as a number is a number; blank cells are not there at all.
-/

namespace ShipReport.Xlsx

open Formula (Position)
open Submission (CellData CellRange FileSheet ReturnedFile)

/-- What a reader finds as the cached result of a formula. -/
def readResult (result : String) : CellData :=
  match Number.read? result with
  | some x => .number x
  | none => .text result

/-- What a reader finds in a cell. -/
def Written.data? : Written → Option CellData
  | .text s => some (.text s)
  | .number x => some (.number x)
  | .formula _ result => some (readResult result)
  | .blank => none

/-- What a reader finds in the cells of a sheet, by position. -/
def readCells (cells : List WrittenCell) : Std.TreeMap Position CellData :=
  .ofList (cells.filterMap fun c => c.content.data?.map fun d => (c.position, d))

/-- The range of written cells. It ends with the last row in which something is found. -/
def readRange (cells : List WrittenCell) : CellRange :=
  let found := readCells cells
  { lastRow := (found.keys.map (·.row)).foldl max 0
    cell := fun p => found.getD p .empty }

def WrittenSheet.range (s : WrittenSheet) : CellRange :=
  readRange s.cells

def returned (sheets : List WrittenSheet) : ReturnedFile :=
  .workbook (sheets.map fun s => ⟨s.name, .ok s.range⟩)

end ShipReport.Xlsx
