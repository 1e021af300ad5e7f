import ShipReport.Json.Store
import ShipReport.Service.Requests

/-!
# Answers of the service as documents

The JSON forms of what an upload and a download give.
-/

namespace ShipReport.Json

open Service (Download Receipt)

/-- The document of texts in pairs. -/
def ofPairs (pairs : List (String × String)) : Document :=
  .ofList (fun (a, b) => .ofTexts [a, b]) pairs

/-- The document of what an upload gave. -/
def ofReceipt (r : Receipt) : Document :=
  .object [
    ("batch_id", .text r.batchId),
    ("vessel_id", .ofInt r.vesselId),
    ("artifacts", .ofList ofArtifact r.artifacts),
    ("total_rows", .ofNat r.totalRows),
    ("staged_tables", .ofList (fun (t, n) => .list [.text t, .ofNat n]) r.stagedTables),
    ("upload_token", .ofOption .text r.uploadToken),
    ("warnings", .ofTexts r.warnings)]

/-- The document of sheets without protection and the reasons. -/
def ofUnprotected (sheets : List (String × Workbook.ProtectionError)) : Document :=
  ofPairs (sheets.map fun (name, e) => (name, e.message))

/-- The document of a download, without the file. -/
def ofDownload (d : Download) : Document :=
  .object [
    ("file_name", .text d.fileName),
    ("content_type", .text Service.contentType),
    ("upload_token", .text d.uploadToken),
    ("staging_tables", .ofTexts d.stagingTables),
    ("unprotected_sheets", ofUnprotected d.unprotected)]

end ShipReport.Json
