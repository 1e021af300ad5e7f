import ShipReport.Formula.Evaluator
import ShipReport.Formula.Pattern
import ShipReport.Report.Sheet
import Std.Data.TreeMap

/-!
# Sheets

A sheet as it is built before it is written to a file: columns with a header row, cells, lists to
choose from, and optionally a plan of which cells are locked. Rows are counted from zero, so row 0
holds the headers; `maxRow` is the number of rows, headers included. Column numbers have 16 bits,
whereas rows are counted without a bound.
-/

namespace ShipReport.Workbook

open Formula (Position CellRef RangeRef Expr)

/-- What stands in a cell. A blank cell is absent. -/
inductive Cell where
  | text (s : String)
  | number (x : Float)
  | formula (e : Expr)
deriving Repr

/-- Decides whether a cell holds a formula. -/
def Cell.isFormula : Cell → Bool
  | .formula _ => true
  | _ => false

/-- A cell as formulas see it. -/
def Cell.content : Cell → Formula.Content
  | .text s => .value (.text s)
  | .number x => .value (.number x)
  | .formula e => .formula e

/-- Where the choices of a cell come from. -/
inductive ChoiceSource where
  /-- The cells of a fixed range. -/
  | range (r : RangeRef)
  /-- The range whose address stands in a helper cell of the same row. -/
  | helper (col : Nat)
  /-- The given texts. -/
  | words (items : List String)
deriving Repr, DecidableEq

/-- The rule that part of a column only takes values from a list. -/
structure Validation where
  col : Nat
  firstRow : Nat
  lastRow : Nat
  source : ChoiceSource
deriving Repr, DecidableEq

/-- Decides whether a rule applies to a cell. -/
def Validation.covers (v : Validation) (p : Position) : Bool :=
  v.col == p.col && decide (v.firstRow ≤ p.row ∧ p.row ≤ v.lastRow)

/-- Whether a cell can be edited, and whether its formula can be seen. -/
inductive Lock where
  | locked
  | lockedHidden
  | unlocked
deriving Repr, DecidableEq

/-- The locks of a sheet and the password that guards them. -/
structure ProtectionPlan where
  password : String
  locks : Std.TreeMap Position Lock

/-- The lock of a cell; a cell that the plan does not name is locked. -/
def ProtectionPlan.lockOf (plan : ProtectionPlan) (p : Position) : Lock :=
  plan.locks.getD p .locked

/-- A column: its header, who fills it, and its width. -/
structure Column where
  header : String
  role : Report.ColumnRole
  width : Float
deriving Repr, DecidableEq

/-- A sheet of a workbook. -/
structure Sheet where
  name : String
  kind : Option Report.ReportSheet
  columns : List Column
  maxRow : Nat
  cells : Std.TreeMap Position Cell
  validations : List Validation
  hidden : Bool
  veryHidden : Bool
  freezeHeader : Bool
  protection : Option ProtectionPlan

/-- The number that the column after some others has. Column numbers have 16 bits. -/
def columnNumber (before : Nat) : Nat :=
  before % 0x10000

namespace Sheet

/-- The cells of the header row. Of columns that share a number the last one shows its header. -/
def headerCells (columns : List Column) : List (Position × Cell) :=
  columns.zipIdx.map fun (c, i) => (⟨0, columnNumber i⟩, .text c.header)

/-- A sheet that holds its headers only. It has at least the header row. -/
def new (name : String) (kind : Option Report.ReportSheet) (columns : List Column)
    (maxRow : Nat) : Sheet where
  name := name
  kind := kind
  columns := columns
  maxRow := max maxRow 1
  cells := .ofList (headerCells columns)
  validations := []
  hidden := false
  veryHidden := false
  freezeHeader := false
  protection := none

/-- The last data row; zero if there is none. -/
def lastDataRow (s : Sheet) : Nat :=
  s.maxRow - 1

/-- The rows below the headers. -/
def dataRows (s : Sheet) : List Nat :=
  List.range' 1 s.lastDataRow

/-- The number of columns, as a column number. -/
def columnCount (s : Sheet) : Nat :=
  columnNumber s.columns.length

/-- What stands in a cell. -/
def get? (s : Sheet) (p : Position) : Option Cell :=
  s.cells[p]?

/-- Writes a cell. -/
def set (s : Sheet) (p : Position) (c : Cell) : Sheet :=
  { s with cells := s.cells.insert p c }

/-- Writes several cells, one after the other. -/
def setAll (s : Sheet) (cells : List (Position × Cell)) : Sheet :=
  { s with cells := s.cells.insertMany cells }

/-- Empties a cell. -/
def clear (s : Sheet) (p : Position) : Sheet :=
  { s with cells := s.cells.erase p }

/-- Lets all data rows of a column take their values from a list. -/
def addChoices (s : Sheet) (col : Nat) (source : ChoiceSource) : Sheet :=
  { s with validations := s.validations ++ [⟨col, 1, s.lastDataRow, source⟩] }

/-- The first rule that applies to a cell. -/
def validation? (s : Sheet) (p : Position) : Option Validation :=
  s.validations.find? (·.covers p)

/-- The first column with this header. -/
def columnIndex? (s : Sheet) (header : String) : Option Nat :=
  (s.columns.findIdx? (·.header == header)).map columnNumber

/-- All positions inside the sheet's rows and columns, row by row. -/
def grid (s : Sheet) : List Position :=
  (List.range s.maxRow).flatMap fun row => (List.range s.columnCount).map fun col => ⟨row, col⟩

/-- The positions of the formulas, row by row. -/
def formulaPositions (s : Sheet) : List Position :=
  (s.cells.toList.filter (·.2.isFormula)).map (·.1)

end Sheet

end ShipReport.Workbook
