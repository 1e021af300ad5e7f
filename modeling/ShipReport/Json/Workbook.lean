import ShipReport.Json.Formula
import ShipReport.Json.Settings
import ShipReport.Json.Submission
import ShipReport.Xlsx.Book
import ShipReport.Xlsx.Password

/-!
# Workbooks as documents

The JSON forms of sheets: as they are built, with their cells, lists and protection, as they are
written to a file, and as they come back.
-/

namespace ShipReport.Json

open Document (boolean natural string)
open Formula (CellRef Position Value)
open Submission (CellData)
open Workbook (Cell ChoiceSource Column Lock ProtectionPlan Sheet Validation)
open Xlsx (WrittenCell WrittenColumns WrittenSheet)

/-! ## Reading -/

/-- What a cell of a workbook holds. -/
def cell : Document → Decoded Cell
  | .text s => .ok (.text s)
  | .object [("f", e)] => do return .formula (← expr e)
  | d => do return .number (← d.float)

/-- Where the choices of a list come from. -/
def choiceSource (d : Document) : Decoded ChoiceSource := do
  if let some r := d.member? "static" then return .range (← rangeRef r)
  if let some c := d.member? "indirect" then return .helper (← c.natural)
  return .words (← d.get "inline" Document.texts)

/-- A column: its header, and its role and width unless it is a plain input column. -/
def column : Document → Decoded Column
  | .list [h, role, width] => do
    return ⟨← h.string, ← named [.input, .computed, .helper] Report.ColumnRole.word role,
      ← width.float⟩
  | d => do return ⟨← d.string, .input, 10⟩

/-- The position of a row and a column. -/
def position (r c : Document) : Decoded Position := do
  return ⟨← r.natural, ← c.natural⟩

/-- Something at a position: the row, the column and what is there. -/
def placed {α : Type} (f : Document → Decoded α) (d : Document) : Decoded (Position × α) := do
  match ← d.items with
  | [r, c, x] => return (← position r c, ← f x)
  | _ => throw "cell"

/-- A list for a column. -/
def choices (d : Document) : Decoded (Nat × ChoiceSource) := do
  match ← d.items with
  | [c, s] => return (← c.natural, ← choiceSource s)
  | _ => throw "validation"

def sheet (d : Document) : Decoded Sheet := do
  let empty := Sheet.new (← d.get "name" string) (← d.get? "kind" reportSheet)
    (← d.getD "columns" (·.listOf column) []) (← d.getD "max_row" natural 10)
  let cells ← d.getD "cells" (·.listOf (placed cell)) []
  let lists ← d.getD "validations" (·.listOf choices) []
  let filled := lists.foldl (fun s (c, source) => s.addChoices c source) (empty.setAll cells)
  return { filled with
    hidden := ← d.getD "hidden" boolean false
    veryHidden := ← d.getD "very_hidden" boolean false
    freezeHeader := ← d.getD "freeze" boolean false }

/-- What a cell of a returned sheet holds. -/
def cellData : Document → Decoded CellData
  | .null => .ok .empty
  | .text s => .ok (.text s)
  | .bool b => .ok (.bool b)
  | .object [("int", n)] => do return .int (← n.integer)
  | .object [("err", _)] => .ok .fault
  | .object [("date", n)] => do return .serial (← n.float)
  | .object [("iso", s)] => do return .isoDateTime (← s.string)
  | .object [("dur", s)] => do return .isoDuration (← s.string)
  | d => do return .number (← d.float)

/-! ## Writing -/

/-- The document of what a cell holds. -/
def ofCell : Cell → Document
  | .text s => .object [("t", .text s)]
  | .number x => .object [("n", ofFloat x)]
  | .formula e => .object [("f", .text e.formulaText)]

def ofValue : Value → Document
  | .empty => .null
  | .text s => .object [("t", .text s)]
  | .number x => .object [("n", ofFloat x)]
  | .bool b => .object [("b", .bool b)]
  | .fault f => .object [("e", .text f.code)]

/-- The document of a list rule. -/
def ofValidation (v : Validation) : Document :=
  .list [.ofNat v.col, .ofNat v.firstRow, .ofNat v.lastRow, match v.source with
    | .range r => .object [("static", .text r.text)]
    | .helper col => .object [("indirect", .ofNat col)]
    | .words items => .object [("inline", .ofTexts items)]]

/-- The word for the protection of a cell. -/
def lockWord : Lock → String
  | .locked => "locked"
  | .lockedHidden => "locked_hidden"
  | .unlocked => "unlocked"

/-- The document of the protection of a cell. -/
def ofLock (l : Lock) : Document :=
  .text (lockWord l)

/-- The document of the protection of a sheet. -/
def ofPlan (p : ProtectionPlan) : Document :=
  .object [
    ("password", .text p.password),
    ("cells", .ofList (fun (q, l) => .list [.ofNat q.row, .ofNat q.col, ofLock l]) p.locks.toList)]

def ofColumn (c : Column) : Document :=
  .list [.text c.header, .text c.role.word, ofFloat c.width]

def ofSheet (s : Sheet) : Document :=
  .object [
    ("name", .text s.name),
    ("kind", .ofOption (fun k => .text k.word) s.kind),
    ("max_row", .ofNat s.maxRow),
    ("data_rows", .list [.ofNat 1, .ofNat s.lastDataRow]),
    ("column_count", .ofNat s.columnCount),
    ("columns", .ofList ofColumn s.columns),
    ("cells", .ofList (fun (p, c) => .list [.ofNat p.row, .ofNat p.col, ofCell c]) s.cells.toList),
    ("validations", .ofList ofValidation s.validations),
    ("hidden", .bool s.hidden),
    ("very_hidden", .bool s.veryHidden),
    ("freeze", .bool s.freezeHeader),
    ("protection", .ofOption ofPlan s.protection)]

/-- The letters for the look of a written cell. -/
def lookLetters : Xlsx.Look → String
  | .header => "BL"
  | .locked => "L"
  | .lockedHidden => "LH"
  | .unlocked => "U"

/-- The document of a written cell: address, look, formula, type and value. -/
def ofWrittenCell (c : WrittenCell) : Document :=
  .list (.text (CellRef.here c.position.row c.position.col).localText ::
    .text (lookLetters c.look) ::
    match c.content with
    | .text s => [.null, .text "s", .text s]
    | .number x => [.null, .null, ofFloat x]
    | .formula body value =>
      [.text body, if (Number.read? value).isSome then .null else .text "str", .text value]
    | .blank => [.null, .null, .null])

/-- The word for the visibility of a sheet. -/
def visibilityWord : Xlsx.Visibility → String
  | .visible => "visible"
  | .hidden => "hidden"
  | .veryHidden => "veryHidden"

/-- The document of a protection by a password, which is written as its hash. -/
def ofPassword (password : String) : Document :=
  .object ([("sheet", .text "1"), ("objects", .text "1"), ("scenarios", .text "1")] ++
    if password.isEmpty then [] else [("password", .text (Xlsx.passwordHash password))])

/-- The document of neighbouring columns of one width. -/
def ofWrittenColumns (c : WrittenColumns) : Document :=
  .list [.text (toString c.first), .text (toString c.last), ofFloat c.width, .bool c.hidden]

def ofWrittenSheet (s : WrittenSheet) : Document :=
  .object [
    ("state", .text (visibilityWord s.visibility)),
    ("cells", .ofList ofWrittenCell s.cells),
    ("cols", .ofList ofWrittenColumns s.columns),
    ("validations", .ofList (fun (a, b) => .ofTexts [a, b]) s.choices),
    ("protection", .ofOption ofPassword s.password),
    ("pane", if s.frozenHeader then .ofTexts ["1", "A2", "frozen"] else .null)]

end ShipReport.Json
