import ShipReport.Json.Printer
import ShipReport.Json.Submission
import ShipReport.Service.Error
import ShipReport.Service.Import
import ShipReport.Service.Template
import ShipReport.Store.Settings

/-!
# Requests to the service

What a user asks for: a template to download, the upload of a returned workbook, a look at what an
upload would give, the import of an uploaded batch, and the batches of a vessel. An upload is read,
exported to files, noted as a batch, and loaded into the staging tables that there are. Names that
have to be new, and the present time, are given with a request.
-/

namespace ShipReport.Service

open Report (TemplateKind Settings)
open Storage (Files)
open Store (Database)
open Submission (Artifact Batch ImportOutcome ParsedWorkbook ReturnedFile)
open Template (UploadToken)

/-- What the service keeps: a database and exported files. -/
structure Holdings where
  database : Database
  files : Files

abbrev Request (α : Type) := Work Holdings ServiceError α

def onDatabase {ε α : Type} (work : Work Database ε α) : Work Holdings ε α :=
  work.onPart (·.database) fun h db => { h with database := db }

def onFiles {ε α : Type} (work : Work Files ε α) : Work Holdings ε α :=
  work.onPart (·.files) fun h files => { h with files := files }

/-- The settings for a vessel, or for everyone. -/
def settingsFor (dataDirectory : String) (vessel : Option Int) : Request Settings :=
  onDatabase (.look fun db =>
    (db.settings dataDirectory vessel).mapError fun f => .ofSettings f.message)

/-! ## Downloads -/

/-- A downloaded template. -/
structure Download where
  fileName : String
  file : List Xlsx.WrittenSheet
  uploadToken : String
  stagingTables : List String
  unprotected : List (String × Workbook.ProtectionError)

/-- The content type of all downloads. -/
def contentType : String :=
  "application/vnd.openxmlformats-officedocument.spreadsheetml.sheet"

/-- Downloads a template for the vessel that a token is for. -/
def download (dataDirectory : String) (kind : TemplateKind) (token : UploadToken) :
    Request Download := do
  if token.vesselId ≤ 0 then throw (.invalidInput ("vessel_id 无效: " ++ toString token.vesselId))
  let settings ← settingsFor dataDirectory (some token.vesselId)
  let made ← onDatabase
    ((makeTemplate kind settings.rules settings.layout true token).orError .ofTemplate)
  return {
    fileName := made.fileName
    file := made.file
    uploadToken := made.token.token
    stagingTables := made.stagingTables
    unprotected := made.unprotected }

/-- Downloads a template of a kind that a text gives. -/
def downloadNamed (dataDirectory kindText : String) (token : UploadToken) : Request Download :=
  match TemplateKind.parse kindText with
  | .ok kind => download dataDirectory kind token
  | .error message => throw (.invalidInput message)

/-! ## Uploads -/

/-- What an upload gave. -/
structure Receipt where
  batchId : String
  vesselId : Int
  artifacts : List Artifact
  totalRows : Nat
  /-- The staging tables that took rows, and how many. -/
  stagedTables : List (String × Nat)
  uploadToken : Option String
  warnings : List String

/-- Refuses a workbook that was made for another vessel. -/
def checkOwner (vesselId : Int) (parsed : ParsedWorkbook) : Except ServiceError Unit :=
  match parsed.tokenVesselId with
  | none => .ok ()
  | some owner =>
    if owner = vesselId then .ok ()
    else .error (.tokenMismatch ("工作簿属于船舶 " ++ toString owner ++ "，上传目标为 " ++
      toString vesselId))

/-- Loads a sheet into its staging table, if there is one. -/
def stageSheet (shortCode : String) (s : Submission.ParsedSheet) :
    Request (Option (String × Nat)) := do
  let table := Submission.stagingTable shortCode s.kind
  let count ← onDatabase ((loadRows table s.rows).orError .ofSubmission)
  return count.map fun n => (table, n)

/-- Uploads a returned file for a vessel, as a batch with a new id. -/
def upload (dataDirectory : String) (vesselId : Int) (file : ReturnedFile) (batchId : String)
    (now : Calendar.Instant) : Request Receipt := do
  let vessel ← onDatabase (.look fun db => (db.vessel vesselId).mapError .ofStore)
  let settings ← settingsFor dataDirectory (some vesselId)
  let parsed ← .look fun _ =>
    (Submission.parse settings.rules settings.layout file).mapError .ofSubmission
  .look fun _ => checkOwner vesselId parsed
  let artifacts ← onFiles
    (.attempt fun files =>
      let (files, result) :=
        Submission.exportSheets files settings.storage batchId parsed.sheets
      (files, result.mapError .ofSubmission))
  let batch := Batch.new batchId vesselId artifacts now
  onDatabase (.change fun db => do
    let after ← (db.insertBatch batch).mapError .ofStore
    return (after, ()))
  let staged ← parsed.sheets.filterMapM (stageSheet vessel.shortCode)
  return {
    batchId, vesselId, artifacts
    totalRows := batch.totalRows
    stagedTables := staged
    uploadToken := parsed.uploadToken
    warnings := parsed.warnings }

/-- What a returned file holds, with the settings for a vessel or for everyone. -/
def preview (dataDirectory : String) (vessel : Option Int) (file : ReturnedFile) :
    Request ParsedWorkbook := do
  let settings ← settingsFor dataDirectory vessel
  .look fun _ => (Submission.parse settings.rules settings.layout file).mapError .ofSubmission

/-- The JSON text of a preview. -/
def previewText (parsed : ParsedWorkbook) : String :=
  (Json.ofParsedWorkbook parsed).pretty

/-! ## Imports and batches -/

/-- Imports a batch as reports of a type that a text gives. -/
def trigger (batchId typeText : String) : Request ImportOutcome :=
  if Text.isBlankText batchId then throw (.invalidInput "batch_id 不能为空")
  else onDatabase ((importNamed batchId typeText).orError .ofSubmission)

def batch (batchId : String) : Request Batch := do
  match ← onDatabase (.look fun db => (db.findBatch batchId).mapError ServiceError.ofStore) with
  | some b => return b
  | none => throw (.notFound ("批次不存在: " ++ batchId))

/-- The batches of a vessel, the newest first. -/
def batches (vesselId : Int) : Request (List Batch) :=
  onDatabase (.look fun db => (db.batchesOf vesselId).mapError .ofStore)

end ShipReport.Service
