import ShipReport.Calendar.Instant
import ShipReport.Template.DataSheet
import ShipReport.Workbook.Basic
import ShipReport.Workbook.Protection

/-!
# Building a template

The workbook that a vessel downloads: the four data sheets, protected where possible, the hidden
lookup sheet, and a very hidden sheet with the token that ties the returned workbook to the vessel.
-/

namespace ShipReport.Template

open Formula (Position)
open Workbook (Cell Column Sheet ProtectionError)

/-- The token of one download. -/
structure UploadToken where
  token : String
  vesselId : Int
  generatedAt : Calendar.Instant
deriving Repr, DecidableEq

/-- The headers of the token sheet, in the order in which they are read back. -/
def tokenHeaders : List String :=
  ["upload_token", "vessel_id", "generated_at"]

/-- The sheet that carries the token. -/
def tokenSheet (t : UploadToken) (layout : Report.Layout) : Sheet :=
  let columns := tokenHeaders.map fun h => (⟨h, .input, layout.columnWidth⟩ : Column)
  let cells := [
    ((⟨1, 0⟩ : Position), Cell.text t.token),
    (⟨1, 1⟩, .number (Float.ofInt t.vesselId)),
    (⟨1, 2⟩, .text t.generatedAt.text)]
  { (Sheet.new layout.tokenSheet none columns 2).setAll cells with
    hidden := true, veryHidden := true }

/-- A finished workbook, and the data sheets that could not be protected. -/
structure Built where
  workbook : Workbook
  unprotected : List (String × ProtectionError)

def build (catalog : Catalog) (kind : Report.TemplateKind) (rules : Report.Rules)
    (layout : Report.Layout) (token : UploadToken) : Built :=
  let lookup := Lookup.ofCatalog catalog layout.lookupSheet
  let sheets := Report.ReportSheet.all.map fun k =>
    (dataSheet lookup rules layout (layout.maxRow kind) k).protect rules
  { workbook := ⟨sheets.map (·.1) ++ [lookupSheet catalog layout, tokenSheet token layout]⟩
    unprotected := sheets.filterMap fun (s, failure) => failure.map fun e => (s.name, e) }

def fileName (shortCode : String) (kind : Report.TemplateKind) : String :=
  shortCode ++ "_" ++ kind.name ++ "_template.xlsx"

end ShipReport.Template
