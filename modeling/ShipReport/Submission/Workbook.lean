import ShipReport.Number.Integer
import ShipReport.Number.Total
import ShipReport.Storage.Path
import ShipReport.Submission.Error
import ShipReport.Submission.Sheet

/-!
# Reading a returned workbook

A returned file is a workbook, or it cannot be opened at all. Each report sheet is read on its own:
one that is missing or cannot be read gives an empty result with a warning and leaves the others
alone. The token sheet tells which vessel the workbook was made for.
-/

namespace ShipReport.Submission

open Report (ReportSheet Rules Layout)

/-- A sheet of a file: its name, and its cells or the reason why they cannot be read. -/
structure FileSheet where
  name : String
  range : Except String CellRange

inductive ReturnedFile where
  | notWorkbook (reason : String)
  | workbook (sheets : List FileSheet)

/-- The reason given for a file that is not an archive. -/
def invalidArchive : String :=
  "Zip error: invalid Zip archive: Invalid zip header"

/-- A workbook as it was read. -/
structure ParsedWorkbook where
  sheets : List ParsedSheet
  uploadToken : Option String
  tokenVesselId : Option Int
deriving Repr, DecidableEq

namespace ParsedWorkbook

/-- The result for one of the report sheets. -/
def sheet? (w : ParsedWorkbook) (k : ReportSheet) : Option ParsedSheet :=
  w.sheets.find? (·.kind == k)

/-- The number of rows in all sheets. -/
def totalRows (w : ParsedWorkbook) : Nat :=
  Number.total (w.sheets.map (·.rows.length))

/-- The warnings of the sheets. -/
def warnings (w : ParsedWorkbook) : List String :=
  w.sheets.filterMap (·.warning)

end ParsedWorkbook

/-- The sheet of a name among the sheets of a file. -/
def findSheet? (sheets : List FileSheet) (name : String) : Option FileSheet :=
  sheets.find? (·.name == name)

/-- Reads one report sheet of a file. -/
def parseReportSheet (rules : Rules) (sheets : List FileSheet) (k : ReportSheet) :
    Except SubmissionError ParsedSheet :=
  match findSheet? sheets k.title with
  | none => .ok (.missing k ("工作表缺失: " ++ k.title))
  | some s =>
    match s.range with
    | .error reason => .ok (.missing k (SubmissionError.sheetUnreadable k.title reason).message)
    | .ok range => (parseSheet rules k range).mapError fun _ => .dateOverflow

/-- The vessel that a cell of the token sheet names. -/
def vesselIdOf? : CellData → Option Int
  | .number x => some (Number.toInt64 x)
  | .int n => some n
  | .text s => (Number.readInt64 (Text.trim s)).toOption
  | _ => none

/-- The token and the vessel on the token sheet. -/
def readToken (range : CellRange) : Except SubmissionError (Option String × Option Int) := do
  let token ← (cellText .text (range.cell ⟨1, 0⟩)).mapError fun _ => SubmissionError.dateOverflow
  return (if token.isEmpty then none else some token, vesselIdOf? (range.cell ⟨1, 1⟩))

/-- What the token sheet of a file says; nothing if it is missing or cannot be read. -/
def parseToken (sheets : List FileSheet) (name : String) :
    Except SubmissionError (Option String × Option Int) :=
  match findSheet? sheets name with
  | some ⟨_, .ok range⟩ => readToken range
  | _ => .ok (none, none)

/-- Reads a returned file. -/
def parse (rules : Rules) (layout : Layout) : ReturnedFile → Except SubmissionError ParsedWorkbook
  | .notWorkbook reason => .error (.workbookUnreadable reason)
  | .workbook sheets => do
    let parsed ← ReportSheet.all.mapM (parseReportSheet rules sheets)
    let (uploadToken, tokenVesselId) ← parseToken sheets layout.tokenSheet
    return ⟨parsed, uploadToken, tokenVesselId⟩

/-- What stands at a path. -/
inductive PathEntry where
  | nothing
  | directory
  | file (content : ReturnedFile)

/-- Reads the returned file at a path, which has to have the right extension. -/
def parseFile (rules : Rules) (layout : Layout) (path : String) (entry : PathEntry) :
    Except SubmissionError ParsedWorkbook :=
  let extension := Text.lowercase (Storage.fileExtension path)
  match entry with
  | .nothing => .error (.fileNotFound path)
  | .directory =>
    if extension = "xlsx" then .error (.fileUnreadable Storage.AccessFault.isDirectory.message)
    else .error (.unsupportedFormat extension)
  | .file content =>
    if extension = "xlsx" then parse rules layout content else .error (.unsupportedFormat extension)

end ShipReport.Submission
