import ShipReport.Json.Decoding
import ShipReport.Number.Text
import ShipReport.Report.Settings

/-!
# Settings as documents

The JSON forms of the settings. What a document leaves out keeps its default.
-/

namespace ShipReport.Json

open Report (Rules Layout Settings)

/-- A number as the text of its shortest digits, which also takes infinities. -/
def ofFloat (x : Float) : Document :=
  .text (Number.text x)

def rules (d : Document) : Decoded Rules := do
  let base := Rules.default
  return {
    operationTypes := ← d.getD "operation_types" Document.texts base.operationTypes
    placeholders := ← d.getD "not_applicable" Document.texts base.placeholders
    noteSlotLimit := ← d.getD "note_slot_limit" Document.natural base.noteSlotLimit
    password := ← d.getD "protection_password" Document.string base.password
    editableFormulas := ← d.getD "editable_formula_columns" Document.texts base.editableFormulas }

def ofRules (r : Rules) : Document :=
  .object [
    ("operation_types", .ofTexts r.operationTypes),
    ("not_applicable", .ofTexts r.placeholders),
    ("note_slot_limit", .ofNat r.noteSlotLimit),
    ("protection_password", .text r.password),
    ("editable_formula_columns", .ofTexts r.editableFormulas)]

def layout (d : Document) : Decoded Layout := do
  let base := Layout.default
  return {
    standardMaxRow := ← d.getD "standard_max_row" Document.natural base.standardMaxRow
    bulkMaxRow := ← d.getD "bulk_max_row" Document.natural base.bulkMaxRow
    columnWidth := ← d.getD "default_column_width" Document.float base.columnWidth
    helperWidth := ← d.getD "helper_column_width" Document.float base.helperWidth
    lookupSheet := ← d.getD "lookup_sheet" Document.string base.lookupSheet
    tokenSheet := ← d.getD "token_sheet" Document.string base.tokenSheet
    freezeHeader := ← d.getD "freeze_header" Document.boolean base.freezeHeader }

def ofLayout (l : Layout) : Document :=
  .object [
    ("standard_max_row", .ofNat l.standardMaxRow),
    ("bulk_max_row", .ofNat l.bulkMaxRow),
    ("default_column_width", ofFloat l.columnWidth),
    ("helper_column_width", ofFloat l.helperWidth),
    ("lookup_sheet", .text l.lookupSheet),
    ("token_sheet", .text l.tokenSheet),
    ("freeze_header", .bool l.freezeHeader)]

/-- The document of the places of files. -/
def ofStorage (s : Report.Storage) : Document :=
  .object [
    ("upload_root", .text s.uploadRoot),
    ("mirror_root", .ofOption .text s.mirrorRoot)]

def ofSettings (s : Settings) : Document :=
  .object [
    ("domain", ofRules s.rules),
    ("layout", ofLayout s.layout),
    ("storage", ofStorage s.storage)]

end ShipReport.Json
