import ShipReport.Xlsx.Error
import ShipReport.Xlsx.Sheet

/-!
# Writing a workbook

A workbook is written sheet by sheet, with one evaluator for all of them. Before that the limits of
the file format are checked, in the order in which the parts of a sheet are written: its name, its
columns, its texts, its lists; at last the names against each other, without regard to case.
-/

namespace ShipReport.Xlsx

open Workbook (Sheet Validation)

/-- The number of columns that a sheet can have. -/
def columnLimit : Nat := 16384

/-- The number of rows that a sheet can have. -/
def rowLimit : Nat := 1048576

/-- Characters that a sheet name must not hold. -/
def invalidNameChars : List Char :=
  ['*', '?', ':', '[', ']', '\\', '/']

/-- Checks the name of a sheet. -/
def checkName (name : String) : Except RenderError Unit :=
  let cs := name.toList
  if cs.isEmpty then .error (.nameBlank name)
  else if 31 < cs.length then .error (.nameTooLong name)
  else if cs.any invalidNameChars.contains then .error (.nameInvalid name)
  else if cs.head? = some '\'' ∨ cs.getLast? = some '\'' then .error (.nameQuoted name)
  else .ok ()

/-- Decides whether a text is too long for a cell. -/
def isOverlong (s : String) : Bool :=
  decide (32767 < s.length)

def checkTexts (s : Sheet) : Except RenderError Unit :=
  let overlong := s.grid.any fun p =>
    match s.get? p with
    | some (.text t) => isOverlong t
    | _ => false
  if overlong then .error .textTooLong else .ok ()

/-- Checks one rule: the length of its list, its place, and its rows. -/
def checkValidation (v : Validation) : Except RenderError Unit := do
  if let .words items := v.source then
    let joined := joinedItems items
    if 255 < joined.length then throw (.choicesTooLong joined.length joined)
  if columnLimit ≤ v.col ∨ rowLimit ≤ v.lastRow then throw .outsideLimits
  if v.lastRow < v.firstRow then throw .rowsReversed

def checkSheet (s : Sheet) : Except RenderError Unit := do
  checkName s.name
  if columnLimit < s.columns.length then throw .outsideLimits
  checkTexts s
  s.validations.forM checkValidation

/-- Checks that no two names are the same in lower case. -/
def checkDistinct : List String → List String → Except RenderError Unit
  | _, [] => .ok ()
  | seen, name :: names =>
    let key := Text.lowercase name
    if seen.contains key then .error (.nameReused key) else checkDistinct (key :: seen) names

/-- The sheet of a file that was written without any. -/
def emptySheet : WrittenSheet where
  name := "Sheet1"
  visibility := .visible
  cells := []
  columns := []
  choices := []
  password := none
  frozenHeader := false

/-- The sheets of a workbook as they are written, by one evaluator. -/
def writtenSheets (w : Workbook) : List WrittenSheet :=
  match w.sheets with
  | [] => [emptySheet]
  | sheets => Workbook.evaluate (sheets.zipIdx.mapM fun (s, i) => writtenSheet w i s)

/-- Writes a workbook. -/
def render (w : Workbook) : Except RenderError (List WrittenSheet) := do
  w.sheets.forM checkSheet
  checkDistinct [] (w.sheets.map (·.name))
  return writtenSheets w

end ShipReport.Xlsx
