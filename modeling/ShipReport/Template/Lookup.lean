import ShipReport.Catalog.Basic
import ShipReport.Report.Settings
import ShipReport.Workbook.Sheet

/-!
# The lookup sheet

The hidden sheet that holds the lists of the catalogue side by side, each from the second row
downwards at its own length, and the ranges by which formulas refer to them. An empty list has a
range of one empty cell. The notes form a block: type, count, and as many slots as the limit allows.
-/

namespace ShipReport.Template

open Formula (Position RangeRef)
open Workbook (Cell Sheet Column columnNumber)

/-- The ranges of the lists on the lookup sheet. -/
structure Lookup where
  sheet : String
  machineryNames : RangeRef
  machineryIds : RangeRef
  machineryPower : RangeRef
  machineryConsumption : RangeRef
  fuelKeys : RangeRef
  lubeKeys : RangeRef
  itemKeys : RangeRef
  itemIds : RangeRef
  itemRemaining : RangeRef
  notes : Formula.Pattern.SlotTable
  voyageNos : RangeRef
  voyageIds : RangeRef
  portNames : RangeRef
  portIds : RangeRef
  timezones : RangeRef
deriving Repr, DecidableEq

/-- A list of the lookup sheet with its header; a missing entry leaves its cell empty. -/
structure LookupList where
  header : String
  entries : List (Option Cell)

namespace LookupList

def ofTexts (header : String) (texts : List String) : LookupList :=
  ⟨header, texts.map fun s => some (.text s)⟩

def ofNumbers (header : String) (numbers : List Float) : LookupList :=
  ⟨header, numbers.map fun x => some (.number x)⟩

/-- A list of whole numbers. -/
def ofInts (header : String) (numbers : List Int) : LookupList :=
  ofNumbers header (numbers.map Float.ofInt)

/-- The range of the list when it stands in a column; an empty list still takes one cell. -/
def range (l : LookupList) (sheet : String) (col : Nat) : RangeRef :=
  .column sheet col 1 (max l.entries.length 1)

/-- The cells of the list when it stands in a column. -/
def cells (l : LookupList) (col : Nat) : List (Position × Cell) :=
  l.entries.zipIdx.filterMap fun (entry, i) => entry.map fun c => (⟨i + 1, col⟩, c)

end LookupList

open LookupList

def machineryLists (c : Catalog) : List LookupList :=
  let machinery := c.machineryByName
  [ofTexts "Machinery Name" (machinery.map (·.name)),
    ofInts "Machinery ID" (machinery.map (·.id)),
    ofNumbers "Rated Power (kW)" (machinery.map (·.ratedPower)),
    ofNumbers "SFOC (g/kWh)" (machinery.map (·.specificConsumption))]

/-- The lists of supplies. -/
def itemLists (c : Catalog) : List LookupList :=
  [ofTexts "Fuel Key" c.fuelKeys,
    ofTexts "Lube Key" c.lubeKeys,
    ofTexts "Item Type" (c.items.map (·.key)),
    ofInts "Item Type ID" (c.items.map (·.id)),
    ofNumbers "ROB" (c.items.map (·.remainingOnBoard))]

/-- The slot with a number, counted from zero: the note that each group has there. -/
def slotList (groups : List Catalog.NoteGroup) (slot : Nat) : LookupList :=
  ⟨"Note" ++ toString (slot + 1), groups.map fun g => g.numbers[slot]?.map .text⟩

/-- The block of notes: types, counts and slots. -/
def noteLists (c : Catalog) : List LookupList :=
  let groups := c.offeredNotes
  ofTexts "Note Type" (groups.map (·.typeKey)) ::
    ofNumbers "Note Count" (groups.map fun g => Float.ofNat g.numbers.length) ::
      (List.range c.noteSlotLimit).map (slotList groups)

/-- The lists of voyages, ports and time zones. -/
def placeLists (c : Catalog) : List LookupList :=
  [ofTexts "Voyage No" (c.voyages.map (·.number)),
    ofInts "Voyage ID" (c.voyages.map (·.id)),
    ofTexts "Port" (c.ports.map (·.name)),
    ofInts "Port ID" (c.ports.map (·.id)),
    ofTexts "Timezone" (c.timezones.map (·.label))]

/-- All lists of the lookup sheet, column by column. -/
def lookupLists (c : Catalog) : List LookupList :=
  machineryLists c ++ itemLists c ++ noteLists c ++ placeLists c

namespace Lookup

/-- The columns of the lists; the lists after the notes are moved by the number of slots. -/
abbrev machineryNameCol : Nat := 0
abbrev machineryIdCol : Nat := 1
abbrev machineryPowerCol : Nat := 2
abbrev machineryConsumptionCol : Nat := 3
abbrev fuelKeyCol : Nat := 4
abbrev lubeKeyCol : Nat := 5
abbrev itemKeyCol : Nat := 6
abbrev itemIdCol : Nat := 7
abbrev itemRemainingCol : Nat := 8
abbrev noteKeyCol : Nat := 9
abbrev noteCountCol : Nat := 10
abbrev firstSlotCol : Nat := 11

/-- The range of the list that comes after some others, in the column with this number. -/
def rangeOf (c : Catalog) (sheet : String) (before : Nat) : RangeRef :=
  (((lookupLists c)[before]?).getD ⟨"", []⟩).range sheet (columnNumber before)

/-- The ranges of a catalogue's lists on a sheet of the given name. -/
def ofCatalog (c : Catalog) (sheet : String) : Lookup :=
  let range := rangeOf c sheet
  let afterSlots := firstSlotCol + c.noteSlotLimit
  { sheet
    machineryNames := range machineryNameCol
    machineryIds := range machineryIdCol
    machineryPower := range machineryPowerCol
    machineryConsumption := range machineryConsumptionCol
    fuelKeys := range fuelKeyCol
    lubeKeys := range lubeKeyCol
    itemKeys := range itemKeyCol
    itemIds := range itemIdCol
    itemRemaining := range itemRemainingCol
    notes := ⟨sheet, range noteKeyCol, range noteCountCol, firstSlotCol⟩
    voyageNos := range afterSlots
    voyageIds := range (afterSlots + 1)
    portNames := range (afterSlots + 2)
    portIds := range (afterSlots + 3)
    timezones := range (afterSlots + 4) }

end Lookup

/-- The lookup sheet of a catalogue. It has at least one row below the headers. Where lists share a
column number the later one is written over the earlier one. -/
def lookupSheet (c : Catalog) (layout : Report.Layout) : Sheet :=
  let lists := lookupLists c
  let columns := lists.map fun l => (⟨l.header, .input, layout.columnWidth⟩ : Column)
  let height := (lists.map (·.entries.length)).foldl max 1
  let cells := lists.zipIdx.flatMap fun (l, before) => l.cells (columnNumber before)
  { (Sheet.new layout.lookupSheet none columns (height + 1)).setAll cells with hidden := true }

end ShipReport.Template
