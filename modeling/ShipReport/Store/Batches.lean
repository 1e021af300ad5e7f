import ShipReport.Store.Query
import ShipReport.Store.Schema
import ShipReport.Submission.Batch

/-!
# Batches in the store

A batch is kept with its files, in two tables that are written together. The point in time at which
it was made is stored as a text, by which batches are listed, the newest first.
-/

namespace ShipReport.Store

open Report (BatchStatus ReportType)
open Submission (Batch Artifact)

/-- A natural number as a signed one of 64 bits. -/
def toSigned64 (n : Nat) : Int :=
  (n : Int).bmod 0x10000000000000000

/-- A signed number of 64 bits as a natural one. -/
def ofSigned64 (n : Int) : Nat :=
  (n.emod 0x10000000000000000).toNat

namespace Database

/-! ## Texts of statements -/

/-- The columns of a batch, as statements list them. -/
def batchColumns : List String :=
  ["batch_id", "vessel_id", "status", "created_at", "last_report_type", "last_message"]

/-- The columns of a file, as statements list them. -/
def artifactColumns : List String :=
  ["sheet_name", "csv_path", "row_count", "mirrored"]

/-- A batch by its id. -/
def batchQuery : Query where
  text := "SELECT " ++ ", ".intercalate batchColumns ++ " FROM import_batch WHERE batch_id = ?1"
  table := "import_batch"
  columns := batchColumns
  given := ["batch_id"]

/-- The batches of a vessel, the newest first. -/
def batchesQuery : Query where
  text := "SELECT " ++ ", ".intercalate batchColumns ++
    " FROM import_batch WHERE vessel_id = ?1 ORDER BY created_at DESC"
  table := "import_batch"
  columns := batchColumns
  given := ["vessel_id"]
  sorting := ["created_at"]
  descending := true

/-- The files of a batch in the order in which they were written. -/
def artifactQuery : Query where
  text := "\n            ".intercalate ["",
    "SELECT sheet_name, csv_path, row_count, mirrored",
    "FROM batch_artifact",
    "WHERE batch_id = ?1",
    "ORDER BY rowid",
    ""]
  table := "batch_artifact"
  columns := artifactColumns
  given := ["batch_id"]

/-- The change of a batch after an import. -/
def statusText : String :=
  "\n            ".intercalate ["",
    "UPDATE import_batch",
    "SET status = ?2, last_report_type = ?3, last_message = ?4",
    "WHERE batch_id = ?1",
    ""]

/-! ## Reading -/

/-- The stored form of a text that may be missing. -/
def ofText? : Option String → Datum
  | some s => .text s
  | none => .null

/-- A file out of a record. -/
def artifactOf (r : Record) : Except Failure Artifact := do
  return {
    title := ← r.text 0
    path := ← r.text 1
    rowCount := ofSigned64 (← r.integer 2)
    mirrored := (← r.integer 3) != 0 }

/-- The files of a batch. -/
def artifacts (db : Database) (batchId : String) : Except Failure (List Artifact) := do
  (← artifactQuery.run db [.text batchId]).mapM artifactOf

/-- The stored values of a batch. -/
structure StoredBatch where
  id : String
  vesselId : Int
  status : String
  createdAt : String
  lastReportType : Option String
  lastMessage : Option String

/-- The stored values out of a record. -/
def StoredBatch.ofRecord (r : Record) : Except Failure StoredBatch := do
  return {
    id := ← r.text 0
    vesselId := ← r.integer 1
    status := ← r.text 2
    createdAt := ← r.text 3
    lastReportType := ← r.text? 4
    lastMessage := ← r.text? 5 }

/-- The batch of its stored values and files. A report type that there is not counts as none. -/
def StoredBatch.batch (b : StoredBatch) (artifacts : List Artifact) : Except StoreError Batch := do
  let status ← (BatchStatus.parse b.status).mapError (.fieldValue "status")
  let createdAt ← (Calendar.Instant.read b.createdAt).mapError
    fun fault => .fieldValue "created_at" fault.message
  return {
    id := b.id
    vesselId := b.vesselId
    status, artifacts, createdAt
    lastReportType := b.lastReportType.bind fun t => (ReportType.parse t).toOption
    lastMessage := b.lastMessage }

def findBatch (db : Database) (id : String) : Except StoreError (Option Batch) := do
  match ← (batchQuery.run db [.text id]).mapError StoreError.ofFailure with
  | [] => return none
  | r :: _ =>
    let stored ← (StoredBatch.ofRecord r).mapError StoreError.ofFailure
    let artifacts ← (db.artifacts id).mapError StoreError.ofFailure
    return some (← stored.batch artifacts)

/-- The batches of a vessel, the newest first. -/
def batchesOf (db : Database) (vesselId : Int) : Except StoreError (List Batch) := do
  let records ← (batchesQuery.run db [.integer vesselId]).mapError StoreError.ofFailure
  let stored ← (records.mapM StoredBatch.ofRecord).mapError StoreError.ofFailure
  stored.mapM fun b => do
    b.batch (← (db.artifacts b.id).mapError StoreError.ofFailure)

/-! ## Writing -/

/-- The stored form of a batch. -/
def batchValues (b : Batch) : List Datum :=
  [.text b.id, .integer b.vesselId, .text b.status.word, .text b.createdAt.text,
    ofText? (b.lastReportType.map (·.name)), ofText? b.lastMessage]

/-- The stored form of a file. -/
def artifactValues (batchId : String) (a : Artifact) : List Datum :=
  [.text batchId, .text a.title, .text a.path, .integer (toSigned64 a.rowCount),
    .integer (if a.mirrored then 1 else 0)]

/-- The database with a file of a batch. -/
def insertArtifact (batchId : String) (db : Database) (a : Artifact) : Except Failure Database :=
  db.insertInto "batch_artifact" ("batch_id" :: artifactColumns) (artifactValues batchId a)

/-- The database with a batch and its files. -/
def insertBatch (db : Database) (b : Batch) : Except StoreError Database :=
  (do
    let db ← db.insertInto "import_batch" batchColumns (batchValues b)
    b.artifacts.foldlM (insertArtifact b.id) db).mapError .ofFailure

/-- Notes how an import of a batch went. -/
def updateStatus (db : Database) (id : String) (status : BatchStatus) (type : ReportType)
    (message : Option String) : Except StoreError Database := do
  let t ← (db.writable "import_batch").mapError StoreError.ofFailure
  let changes : List (String × Datum) := [("status", .text status.word),
    ("last_report_type", .text type.name), ("last_message", ofText? message)]
  if let some (column, _) := changes.find? fun c => (t.shape.position? c.1).isNone then
    throw (.ofFailure (Fault.noColumn column).failure)
  if (t.shape.position? "batch_id").isNone then
    throw (.ofFailure (missingColumn statusText "batch_id"))
  let selected (r : Row) : Bool := (t.value r "batch_id").equals (.text id)
  if t.rows.any selected then return db.put "import_batch" (t.update selected changes)
  else throw (.notFound "import_batch" id)

end Database

end ShipReport.Store
