import ShipReport.Calendar.Loose
import ShipReport.Json.Settings
import ShipReport.Json.Submission
import ShipReport.Store.Batches
import ShipReport.Store.Procedures

/-!
# Stored data as documents

The JSON forms of stored values and rows, of batches, and of the outcome of an import. The members
of an object stand in the order of the fields.
-/

namespace ShipReport.Json

open Report (BatchStatus ReportType)
open Store (Datum Argument Name Statement)
open Submission (Artifact Batch ImportOutcome)

/-! ## Values and rows -/

/-- A stored value. A number without a point and an exponent is an integer if it can be stored as
one; a minus before zero makes it a number. -/
def datum : Document → Decoded Datum
  | .null => .ok .null
  | .text s => .ok (.text s)
  | d@(.number digits) =>
    match digits.toInt? with
    | some n =>
      if Number.isInt64 n && digits != "-0" then .ok (.integer n) else do return .real (← d.float)
    | none => do return .real (← d.float)
  | _ => .error "stored value"

/-- The document of a stored value; a number that is no integer stands as a text in an object. -/
def ofDatum : Datum → Document
  | .null => .null
  | .integer n => .ofInt n
  | .real x => .object [("n", ofFloat x)]
  | .text s => .text s
  | .blob bytes => .ofList (fun b => .ofNat b.toNat) bytes

/-- The document of the rows of a table, nothing if there is no such table. -/
def ofRows (db : Store.Database) (table : String) : Document :=
  .ofOption (fun (t : Store.Table) => .ofList (fun r => .ofList ofDatum r.values) t.rows)
    (db.table? table)

/-! ## Scripts -/

/-- A statement of a script by its short form, or the text itself. -/
def statementText (d : Document) : Decoded String := do
  let id := Argument.batchId
  let landed : Name := ⟨"landed", 0⟩
  let n : Name := ⟨"n", 0⟩
  match d with
  | .object [("insert", value)] =>
    return (Statement.insert landed [id, .integer (← value.integer)]).text
  | .object [("delete", value)] => return (Statement.delete landed n (← value.integer)).text
  | .object [("update", .list [a, b])] =>
    return (Statement.update landed n (← b.integer) n (← a.integer)).text
  | .object [("once", _)] => return (Statement.insert ⟨"once", 0⟩ [id]).text
  | .object [("create", t)] =>
    let table : Name := ⟨"\"" ++ (← t.string) ++ "\"", 0⟩
    return (Statement.createTable false table [(⟨"batch_id", 0⟩, .text)]).text
  | .object [("into", t)] => return (Statement.insert ⟨← t.string, 0⟩ [id]).text
  | .object [("select", _)] => return Statement.select.text
  | .object [("sql", s)] => s.string
  | _ => throw "statement"

def script (d : Document) : Decoded String := do
  return " ".intercalate (← d.listOf statementText)

/-! ## Batches -/

/-- An integer between two bounds, the second excluded. -/
def integerIn (low high : Int) (d : Document) : Decoded Int := do
  let n ← d.integer
  if low ≤ n ∧ n < high then return n else throw "integer in range"

/-- A value of one of a few words. -/
def ofWord {α : Type} (read : String → Option α) (d : Document) : Decoded α := do
  match read (← d.string) with
  | some a => return a
  | none => throw "word"

/-- A point in time. -/
def instant (d : Document) : Decoded Calendar.Instant := do
  match Calendar.Instant.readLoose (← d.string) with
  | .ok t => return t
  | .error fault => throw fault.message

/-- An exported file. -/
def artifact (d : Document) : Decoded Artifact := do
  return {
    title := ← d.get "sheet_name" Document.string
    path := ← d.get "csv_path" Document.string
    rowCount := (← d.get "row_count" (integerIn 0 0x10000000000000000)).toNat
    mirrored := ← d.get "mirrored" Document.boolean }

def batch (d : Document) : Decoded Batch := do
  return {
    id := ← d.get "batch_id" Document.string
    vesselId := ← d.get "vessel_id" (integerIn (-0x8000000000000000) 0x8000000000000000)
    status := ← d.get "status" (ofWord BatchStatus.ofWord?)
    artifacts := ← d.get "artifacts" (·.listOf artifact)
    createdAt := ← d.get "created_at" instant
    lastReportType := ← d.get? "last_report_type" (ofWord ReportType.ofName?)
    lastMessage := ← d.get? "last_message" Document.string }

def ofBatch (b : Batch) : Document :=
  .object [
    ("batch_id", .text b.id),
    ("vessel_id", .ofInt b.vesselId),
    ("status", .text b.status.word),
    ("artifacts", .ofList ofArtifact b.artifacts),
    ("created_at", .text b.createdAt.zuluText),
    ("last_report_type", .ofOption (fun t => .text t.name) b.lastReportType),
    ("last_message", .ofOption .text b.lastMessage)]

def ofOutcome (o : ImportOutcome) : Document :=
  .object [
    ("batch_id", .text o.batchId),
    ("report_type", .text o.reportType.name),
    ("procedure", .text o.procedure),
    ("rows_affected", .ofNat o.rowsChanged)]

end ShipReport.Json
