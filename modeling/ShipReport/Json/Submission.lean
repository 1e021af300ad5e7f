import ShipReport.Json.Decoding
import ShipReport.Submission.Export

/-!
# Submissions as documents

The JSON form of a workbook that was read, for a preview, and of the exported files. The members
stand in the order of the fields.
-/

namespace ShipReport.Json

open Report (ReportSheet)
open Submission (ParsedSheet ParsedWorkbook Artifact)

/-- A report sheet by its word. -/
def reportSheet (d : Document) : Decoded ReportSheet := do
  let word ← d.string
  match ReportSheet.all.find? (·.word == word) with
  | some k => return k
  | none => throw "sheet"

/-- A sheet that was read. -/
def parsedSheet (d : Document) : Decoded ParsedSheet := do
  return {
    kind := ← d.get "kind" reportSheet
    title := ← d.get "sheet_name" Document.string
    headers := ← d.get "headers" Document.texts
    rows := ← d.get "rows" (·.listOf Document.texts)
    droppedRows := ← d.get "dropped_rows" Document.natural
    warning := ← d.get? "warning" Document.string }

/-- A workbook that was read. -/
def parsedWorkbook (d : Document) : Decoded ParsedWorkbook := do
  return {
    sheets := ← d.get "sheets" (·.listOf parsedSheet)
    uploadToken := ← d.get? "upload_token" Document.string
    tokenVesselId := ← d.get? "token_vessel_id" Document.integer }

/-- The document of a sheet that was read. -/
def ofParsedSheet (s : ParsedSheet) : Document :=
  .object [
    ("kind", .text s.kind.word),
    ("sheet_name", .text s.title),
    ("headers", .ofTexts s.headers),
    ("rows", .ofList .ofTexts s.rows),
    ("dropped_rows", .ofNat s.droppedRows),
    ("warning", .ofOption .text s.warning)]

/-- The document of a workbook that was read. -/
def ofParsedWorkbook (w : ParsedWorkbook) : Document :=
  .object [
    ("sheets", .ofList ofParsedSheet w.sheets),
    ("upload_token", .ofOption .text w.uploadToken),
    ("token_vessel_id", .ofOption .ofInt w.tokenVesselId)]

/-- The document of an exported file. -/
def ofArtifact (a : Artifact) : Document :=
  .object [
    ("sheet_name", .text a.title),
    ("csv_path", .text a.path),
    ("row_count", .ofNat a.rowCount),
    ("mirrored", .bool a.mirrored)]

end ShipReport.Json
