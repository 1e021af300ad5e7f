import ShipReport.Calendar.Instant
import ShipReport.Submission.Export

/-!
# Batches

An uploaded submission is kept as a batch: the files that its sheets were exported to, and how far
its import has come.
-/

namespace ShipReport.Submission

open Report (BatchStatus ReportType)

/-- An uploaded submission. -/
structure Batch where
  id : String
  vesselId : Int
  status : BatchStatus
  artifacts : List Artifact
  createdAt : Calendar.Instant
  /-- The type of the last import. -/
  lastReportType : Option ReportType
  /-- What the last import had to say. -/
  lastMessage : Option String
deriving Repr, DecidableEq

namespace Batch

/-- A batch that has not been imported. -/
def new (id : String) (vesselId : Int) (artifacts : List Artifact) (now : Calendar.Instant) :
    Batch where
  id := id
  vesselId := vesselId
  status := .parsed
  artifacts := artifacts
  createdAt := now
  lastReportType := none
  lastMessage := none

/-- The number of rows of all files. -/
def totalRows (b : Batch) : Nat :=
  Number.total (b.artifacts.map (·.rowCount))

end Batch

/-- What an import did. -/
structure ImportOutcome where
  batchId : String
  reportType : ReportType
  procedure : String
  rowsChanged : Nat
deriving Repr, DecidableEq

end ShipReport.Submission
