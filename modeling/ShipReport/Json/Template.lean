import ShipReport.Json.Document
import ShipReport.Report.Sheet
import ShipReport.Template.Lookup

/-!
# Contracts as documents

The JSON forms of what templates agree on: the contract of a report sheet, and the ranges of the
lookup sheet by their texts.
-/

namespace ShipReport.Json

/-- The document of a column of a contract. Its role stands in it twice: as it is shown and as it is
stored. -/
def ofColumnSpec (c : Report.ColumnSpec) : Document :=
  .ofTexts [c.header, c.role.word, c.role.word, c.kind.word]

def ofContract (k : Report.ReportSheet) : Document :=
  .object [
    ("json", .text k.word),
    ("sheet_name", .text k.title),
    ("folder", .text k.folder),
    ("file_stem", .text k.fileStem),
    ("driver_col", .ofNat k.driver),
    ("column_limit", .ofNat k.columnLimit),
    ("columns", .ofList ofColumnSpec k.columns),
    ("export_headers", .ofTexts k.exportHeaders)]

/-- The document of the ranges of a lookup sheet. -/
def ofLookup (l : Template.Lookup) : Document :=
  let range (name : String) (r : Formula.RangeRef) := (name, Document.text r.text)
  .object [
    ("sheet", .text l.sheet),
    range "machinery_names" l.machineryNames,
    range "machinery_ids" l.machineryIds,
    range "machinery_power" l.machineryPower,
    range "machinery_sfoc" l.machineryConsumption,
    range "fuel_keys" l.fuelKeys,
    range "lube_keys" l.lubeKeys,
    range "item_keys" l.itemKeys,
    range "item_ids" l.itemIds,
    range "item_rob" l.itemRemaining,
    ("note_sheet", .text l.notes.sheet),
    range "note_keys" l.notes.keys,
    range "note_counts" l.notes.counts,
    ("first_slot_col", .ofNat l.notes.firstSlotCol),
    range "voyage_nos" l.voyageNos,
    range "voyage_ids" l.voyageIds,
    range "port_names" l.portNames,
    range "port_ids" l.portIds,
    range "timezones" l.timezones]

end ShipReport.Json
