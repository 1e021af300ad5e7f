import ShipReport.Report.Kind

/-!
# The report sheets

The four sheets of a ship report and the contract of each: its columns in order with their roles,
the driver column whose emptiness keeps a row blank, and the columns that are exported. Helper
columns come last and are not exported.
-/

namespace ShipReport.Report

/-- The sheets of a report, in the order in which they are built and exported. -/
inductive ReportSheet where
  | voyage
  | machinery
  | lubeOil
  | bunkering
deriving Repr, DecidableEq

/-- One column of a sheet's contract. -/
structure ColumnSpec where
  header : String
  role : ColumnRole
  kind : ValueKind
deriving Repr, DecidableEq

/-- A column that the crew fills. -/
def inputColumn (header : String) (kind : ValueKind) : ColumnSpec :=
  ⟨header, .input, kind⟩

/-- A column that a formula fills and that is exported. -/
def computedColumn (header : String) (kind : ValueKind) : ColumnSpec :=
  ⟨header, .computed, kind⟩

/-- A hidden column that serves other formulas. -/
def helperColumn (header : String) : ColumnSpec :=
  ⟨header, .helper, .text⟩

namespace VoyageColumn

abbrev voyageNo : Nat := 0
abbrev voyageId : Nat := 1
abbrev legNo : Nat := 2
abbrev operation : Nat := 3
abbrev departurePort : Nat := 4
abbrev departurePortId : Nat := 5
abbrev departureTime : Nat := 6
abbrev arrivalPort : Nat := 7
abbrev arrivalPortId : Nat := 8
abbrev arrivalTime : Nat := 9
abbrev timezone : Nat := 10
abbrev distance : Nat := 11
abbrev steamingHours : Nat := 12
abbrev averageSpeed : Nat := 13

/-- The columns of the Voyage sheet. -/
def all : List ColumnSpec := [
  inputColumn "Voyage No" .text,
  computedColumn "Voyage ID" .number,
  inputColumn "Leg No" .number,
  inputColumn "Operation" .text,
  inputColumn "Departure Port" .text,
  computedColumn "Departure Port ID" .number,
  inputColumn "Departure Time" .dateTime,
  inputColumn "Arrival Port" .text,
  computedColumn "Arrival Port ID" .number,
  inputColumn "Arrival Time" .dateTime,
  inputColumn "Timezone" .text,
  inputColumn "Distance (NM)" .number,
  computedColumn "Steaming Hours" .number,
  computedColumn "Avg Speed (kn)" .number]

end VoyageColumn

namespace MachineryColumn

abbrev voyageNo : Nat := 0
abbrev machineryName : Nat := 1
abbrev machineryId : Nat := 2
abbrev ratedPower : Nat := 3
abbrev startCounter : Nat := 4
abbrev endCounter : Nat := 5
abbrev runningHours : Nat := 6
abbrev load : Nat := 7
abbrev fuelType : Nat := 8
abbrev fuelTypeId : Nat := 9
abbrev bunkerNote : Nat := 10
abbrev consumption : Nat := 11
abbrev remarks : Nat := 12
abbrev voyageCarry : Nat := 13
abbrev noteRange : Nat := 14

/-- The columns of the Machinery sheet. -/
def all : List ColumnSpec := [
  computedColumn "Voyage No" .text,
  inputColumn "Machinery Name" .text,
  computedColumn "Machinery ID" .number,
  computedColumn "Rated Power (kW)" .number,
  inputColumn "Start Counter (h)" .number,
  inputColumn "End Counter (h)" .number,
  computedColumn "Running Hours" .number,
  inputColumn "Load (%)" .number,
  inputColumn "Fuel Type" .text,
  computedColumn "Fuel Type ID" .number,
  inputColumn "Bunker Note" .text,
  computedColumn "Consumption (MT)" .number,
  inputColumn "Remarks" .text,
  helperColumn "Voyage Carry",
  helperColumn "Note Range"]

end MachineryColumn

namespace LubeOilColumn

abbrev voyageNo : Nat := 0
abbrev machineryName : Nat := 1
abbrev machineryId : Nat := 2
abbrev lubeType : Nat := 3
abbrev lubeTypeId : Nat := 4
abbrev lubeNote : Nat := 5
abbrev quantity : Nat := 6
abbrev remarks : Nat := 7
abbrev voyageCarry : Nat := 8
abbrev noteRange : Nat := 9

/-- The columns of the Lube Oil sheet. -/
def all : List ColumnSpec := [
  computedColumn "Voyage No" .text,
  inputColumn "Machinery Name" .text,
  computedColumn "Machinery ID" .number,
  inputColumn "Lube Oil Type" .text,
  computedColumn "Lube Oil Type ID" .number,
  inputColumn "Lube Oil Note" .text,
  inputColumn "Quantity (L)" .number,
  inputColumn "Remarks" .text,
  helperColumn "Voyage Carry",
  helperColumn "Note Range"]

end LubeOilColumn

namespace BunkeringColumn

abbrev voyageNo : Nat := 0
abbrev itemType : Nat := 1
abbrev itemTypeId : Nat := 2
abbrev bunkerDate : Nat := 3
abbrev port : Nat := 4
abbrev portId : Nat := 5
abbrev noteNo : Nat := 6
abbrev quantity : Nat := 7
abbrev robBefore : Nat := 8
abbrev robAfter : Nat := 9
abbrev remarks : Nat := 10
abbrev voyageCarry : Nat := 11

/-- The columns of the Bunkering sheet. -/
def all : List ColumnSpec := [
  computedColumn "Voyage No" .text,
  inputColumn "Item Type" .text,
  computedColumn "Item Type ID" .number,
  inputColumn "Bunker Date" .dateTime,
  inputColumn "Port" .text,
  computedColumn "Port ID" .number,
  inputColumn "Bunker Note No" .text,
  inputColumn "Quantity" .number,
  computedColumn "ROB Before" .number,
  computedColumn "ROB After" .number,
  inputColumn "Remarks" .text,
  helperColumn "Voyage Carry"]

end BunkeringColumn

namespace ReportSheet

/-- All report sheets in order. -/
def all : List ReportSheet :=
  [.voyage, .machinery, .lubeOil, .bunkering]

/-- The name of the sheet in the workbook. -/
def title : ReportSheet → String
  | .voyage => "Voyage"
  | .machinery => "Machinery"
  | .lubeOil => "Lube Oil"
  | .bunkering => "Bunkering"

/-- The word for the sheet in stored results. -/
def word : ReportSheet → String
  | .voyage => "Voyage"
  | .machinery => "Machinery"
  | .lubeOil => "LubeOil"
  | .bunkering => "Bunkering"

/-- The folder of the sheet's exported files. -/
def folder : ReportSheet → String
  | .voyage => "voyage"
  | .machinery => "machinery"
  | .lubeOil => "lube_oil"
  | .bunkering => "bunkering"

/-- The part of file and table names that tells the sheet. -/
def fileStem (k : ReportSheet) : String :=
  k.folder

def columns : ReportSheet → List ColumnSpec
  | .voyage => VoyageColumn.all
  | .machinery => MachineryColumn.all
  | .lubeOil => LubeOilColumn.all
  | .bunkering => BunkeringColumn.all

/-- The driver column: while it is blank, so is the row. -/
def driver : ReportSheet → Nat
  | .voyage => VoyageColumn.voyageNo
  | .machinery => MachineryColumn.machineryName
  | .lubeOil => LubeOilColumn.machineryName
  | .bunkering => BunkeringColumn.itemType

/-- The columns that are exported: those before the first helper. -/
def exportColumns (k : ReportSheet) : List ColumnSpec :=
  k.columns.takeWhile (·.role != .helper)

/-- The number of exported columns. -/
def columnLimit (k : ReportSheet) : Nat :=
  k.exportColumns.length

/-- The headers of the exported columns. -/
def exportHeaders (k : ReportSheet) : List String :=
  k.exportColumns.map (·.header)

def ofTitle? (title : String) : Option ReportSheet :=
  all.find? (·.title == title)

end ReportSheet

end ShipReport.Report
