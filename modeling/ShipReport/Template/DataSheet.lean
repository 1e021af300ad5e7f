import ShipReport.Template.Lookup

/-!
# The data sheets

The four sheets that the crew fills. Each row of a sheet has a driver cell; the formulas of the row
stay blank until it is filled. The Voyage sheet is the source of the voyage number, which a hidden
column carries down the other sheets; notes are offered by the type of supply chosen in the row,
through a hidden column that holds the address of the right list.
-/

namespace ShipReport.Template

open Formula (CellRef Expr RangeRef)
open Formula.Pattern (gated requireAll keyedLookup carryDown slotAddress)
open Report
open Workbook (Cell ChoiceSource Sheet Column)

/-- The cell of a row in a column. -/
def cellAt (row col : Nat) : CellRef :=
  .inColumn row col

/-- The content of the cell of a row in a column. -/
def valueAt (row col : Nat) : Expr :=
  .cell (cellAt row col)

def difference (a b : Expr) : Expr := .binary .sub a b

def product (a b : Expr) : Expr := .binary .mul a b

def quotient (a b : Expr) : Expr := .binary .div a b

def sum (a b : Expr) : Expr := .binary .add a b

/-- The formulas that bring the voyage number into a row: the visible column shows the hidden one,
which takes the number of the same row of the Voyage sheet or else the one above. -/
def voyageFormulas (row visible carry : Nat) (driver : CellRef) : List (Nat × Expr) :=
  let source := CellRef.onSheet ReportSheet.voyage.title row VoyageColumn.voyageNo
  let above := if 1 < row then some (cellAt (row - 1) carry) else none
  [(carry, carryDown source above), (visible, gated driver (valueAt row carry))]

open VoyageColumn in
/-- The formulas of a row of the Voyage sheet. -/
def voyageRow (lk : Lookup) (row : Nat) : List (Nat × Expr) :=
  let driver := cellAt row voyageNo
  [(voyageId, gated driver (keyedLookup (valueAt row voyageNo) lk.voyageNos lk.voyageIds)),
    (departurePortId,
      gated driver (keyedLookup (valueAt row departurePort) lk.portNames lk.portIds)),
    (arrivalPortId, gated driver (keyedLookup (valueAt row arrivalPort) lk.portNames lk.portIds)),
    (steamingHours,
      gated driver (requireAll [cellAt row departureTime, cellAt row arrivalTime]
        ((product (difference (valueAt row arrivalTime) (valueAt row departureTime))
          (.number 24)).round 2))),
    (averageSpeed,
      gated driver (requireAll [cellAt row distance, cellAt row steamingHours]
        (((quotient (valueAt row distance) (valueAt row steamingHours)).round 2).orElse .blank)))]

open MachineryColumn in
/-- Power in kW times load in percent times hours times consumption in g/kWh, in tonnes. -/
def consumptionFormula (lk : Lookup) (row : Nat) : Expr :=
  let specific :=
    keyedLookup (valueAt row machineryName) lk.machineryNames lk.machineryConsumption
  (quotient
    (product
      (product (quotient (product (valueAt row ratedPower) (valueAt row load)) (.number 100))
        (valueAt row runningHours))
      specific)
    (.number 1000000)).round 3

open MachineryColumn in
/-- The formulas of a row of the Machinery sheet. -/
def machineryRow (lk : Lookup) (row : Nat) : List (Nat × Expr) :=
  let driver := cellAt row machineryName
  let name := valueAt row machineryName
  voyageFormulas row voyageNo voyageCarry driver ++
  [(machineryId, gated driver (keyedLookup name lk.machineryNames lk.machineryIds)),
    (ratedPower, gated driver (keyedLookup name lk.machineryNames lk.machineryPower)),
    (runningHours,
      gated driver (requireAll [cellAt row startCounter, cellAt row endCounter]
        (difference (valueAt row endCounter) (valueAt row startCounter)))),
    (fuelTypeId, gated driver (keyedLookup (valueAt row fuelType) lk.itemKeys lk.itemIds)),
    (noteRange, gated driver (slotAddress (valueAt row fuelType) lk.notes)),
    (consumption,
      gated driver (requireAll [cellAt row ratedPower, cellAt row runningHours, cellAt row load]
        (consumptionFormula lk row)))]

open LubeOilColumn in
/-- The formulas of a row of the Lube Oil sheet. -/
def lubeOilRow (lk : Lookup) (row : Nat) : List (Nat × Expr) :=
  let driver := cellAt row machineryName
  voyageFormulas row voyageNo voyageCarry driver ++
  [(machineryId,
      gated driver
        (keyedLookup (valueAt row machineryName) lk.machineryNames lk.machineryIds)),
    (lubeTypeId, gated driver (keyedLookup (valueAt row lubeType) lk.itemKeys lk.itemIds)),
    (noteRange, gated driver (slotAddress (valueAt row lubeType) lk.notes))]

open BunkeringColumn in
/-- The formulas of a row of the Bunkering sheet. -/
def bunkeringRow (lk : Lookup) (row : Nat) : List (Nat × Expr) :=
  let driver := cellAt row itemType
  voyageFormulas row voyageNo voyageCarry driver ++
  [(itemTypeId, gated driver (keyedLookup (valueAt row itemType) lk.itemKeys lk.itemIds)),
    (portId, gated driver (keyedLookup (valueAt row port) lk.portNames lk.portIds)),
    (robBefore, gated driver (keyedLookup (valueAt row itemType) lk.itemKeys lk.itemRemaining)),
    (robAfter,
      gated driver (requireAll [cellAt row robBefore, cellAt row quantity]
        (sum (valueAt row robBefore) (valueAt row quantity))))]

/-- The formulas of a row of a report sheet, each with its column. -/
def rowFormulas (lk : Lookup) : ReportSheet → Nat → List (Nat × Expr)
  | .voyage => voyageRow lk
  | .machinery => machineryRow lk
  | .lubeOil => lubeOilRow lk
  | .bunkering => bunkeringRow lk

/-- The columns of a report sheet that offer choices, each with their source. -/
def sheetChoices (lk : Lookup) (rules : Report.Rules) : ReportSheet → List (Nat × ChoiceSource)
  | .voyage =>
    [(VoyageColumn.voyageNo, .range lk.voyageNos),
      (VoyageColumn.operation, .words rules.operationTypes),
      (VoyageColumn.departurePort, .range lk.portNames),
      (VoyageColumn.arrivalPort, .range lk.portNames),
      (VoyageColumn.timezone, .range lk.timezones)]
  | .machinery =>
    [(MachineryColumn.machineryName, .range lk.machineryNames),
      (MachineryColumn.fuelType, .range lk.fuelKeys),
      (MachineryColumn.bunkerNote, .helper MachineryColumn.noteRange)]
  | .lubeOil =>
    [(LubeOilColumn.machineryName, .range lk.machineryNames),
      (LubeOilColumn.lubeType, .range lk.lubeKeys),
      (LubeOilColumn.lubeNote, .helper LubeOilColumn.noteRange)]
  | .bunkering =>
    [(BunkeringColumn.itemType, .range lk.itemKeys),
      (BunkeringColumn.port, .range lk.portNames)]

/-- The columns of a report sheet with their widths. -/
def sheetColumns (layout : Report.Layout) (k : ReportSheet) : List Column :=
  k.columns.map fun c =>
    ⟨c.header, c.role, if c.role = .helper then layout.helperWidth else layout.columnWidth⟩

def formulaCells (formulas : Nat → List (Nat × Expr)) (rows : List Nat) :
    List (Formula.Position × Cell) :=
  rows.flatMap fun row => (formulas row).map fun (col, e) => (⟨row, col⟩, .formula e)

/-- A report sheet with its formulas and choices, not yet protected. -/
def dataSheet (lk : Lookup) (rules : Report.Rules) (layout : Report.Layout) (maxRow : Nat)
    (k : ReportSheet) : Sheet :=
  let empty := Sheet.new k.title (some k) (sheetColumns layout k) maxRow
  let filled := empty.setAll (formulaCells (rowFormulas lk k) empty.dataRows)
  let choosable := (sheetChoices lk rules k).foldl (fun s (col, source) => s.addChoices col source)
    filled
  { choosable with freezeHeader := layout.freezeHeader }

end ShipReport.Template
