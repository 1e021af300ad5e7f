import ShipReport.Workbook.Sheet

/-!
# Workbooks

A workbook is a list of sheets. Its cells can be edited by sheet name and evaluated, and the choices
that a cell offers at the moment can be listed.
-/

namespace ShipReport

open Formula (Position CellRef Expr Value Fault EvalM Cache Grid)

/-- An ordered list of sheets; of two sheets with one name the first is meant. -/
structure Workbook where
  sheets : List Workbook.Sheet

namespace Workbook

/-- The place of a sheet. -/
def sheetIndex? (w : Workbook) (name : String) : Option Nat :=
  w.sheets.findIdx? (·.name == name)

def sheet? (w : Workbook) (name : String) : Option Sheet :=
  w.sheets.find? (·.name == name)

/-- Applies a change to the sheet of a name; nothing without such a sheet. -/
def updateSheet? (w : Workbook) (name : String) (f : Sheet → Sheet) : Option Workbook :=
  (w.sheetIndex? name).map fun i => { w with sheets := w.sheets.modify i f }

/-- Enters something into a cell. -/
def enter? (w : Workbook) (sheet : String) (p : Position) (c : Cell) : Option Workbook :=
  w.updateSheet? sheet (·.set p c)

/-- Empties a cell. -/
def clear? (w : Workbook) (sheet : String) (p : Position) : Option Workbook :=
  w.updateSheet? sheet (·.clear p)

/-- The workbook as formulas see it. -/
def grid (w : Workbook) : Grid where
  sheetIndex := w.sheetIndex?
  content i p := do (← (← w.sheets[i]?).get? p).content
  formulas i := (w.sheets[i]?.map (·.formulaPositions)).getD []

/-- Runs a computation with a fresh cache. -/
def evaluate {α : Type} (x : EvalM α) : α :=
  (x.run Cache.empty).1

/-- The value of a cell. -/
def value (w : Workbook) (sheet : String) (p : Position) : Value :=
  evaluate (w.grid.value sheet p)

/-- The texts that a list of values offers to choose from. -/
def offered (values : List Value) : List String :=
  (values.filter fun v => !v.isBlank && !v.isFault).map (·.asText)

/-- The texts in the range that an expression names; none if it names none. -/
def offeredBy (w : Workbook) (sheet : Nat) (e : Expr) : List String :=
  match evaluate (w.grid.rangeValues sheet e) with
  | .ok values => offered values
  | .error _ => []

/-- The choices that a cell offers at the moment. -/
def choices (w : Workbook) (sheet : String) (p : Position) : List String :=
  match w.sheetIndex? sheet with
  | none => []
  | some i =>
    match w.sheets[i]?.bind (·.validation? p) with
    | none => []
    | some v =>
      match v.source with
      | .words items => items
      | .range r => w.offeredBy i (.range r)
      | .helper col => w.offeredBy i (Formula.Pattern.listAt (CellRef.here p.row col))

end Workbook

end ShipReport
