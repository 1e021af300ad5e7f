import ShipReport.Service.Work
import ShipReport.Store.Staging
import ShipReport.Submission.Error
import ShipReport.Submission.Staging

/-!
# Staging

Staging tables are made for a vessel before it downloads a bulk template, and take the rows of the
vessel's uploads from then on. Each table is replaced by a request of its own.
-/

namespace ShipReport.Service

open Report (ReportSheet)
open Store (Database)
open Submission (SubmissionError)

/-- Makes a staging table for headers; the answer has the names of its columns. -/
def provisionTable (table : String) (headers : List String) :
    Work Database SubmissionError (List String) :=
  let columns := Submission.columnNames headers
  .change fun db => do
    let after ← (db.recreateTable table columns).mapError fun e => .staging table e.message
    return (after, columns)

/-- Makes the staging table of a vessel's sheet; the answer is its name. -/
def provisionSheet (shortCode : String) (k : ReportSheet) : Work Database SubmissionError String := do
  let table := Submission.stagingTable shortCode k
  discard (provisionTable table k.exportHeaders)
  return table

/-- Makes the staging tables of a vessel. -/
def provisionVessel (shortCode : String) : Work Database SubmissionError (List String) :=
  ReportSheet.all.mapM (provisionSheet shortCode)

/-- Replaces the rows of a staging table; the answer is their number, or nothing if there is no such
table. -/
def loadRows (table : String) (rows : List (List String)) :
    Work Database SubmissionError (Option Nat) :=
  .change fun db => do
    let columns ← (db.tableColumns table).mapError SubmissionError.store
    if columns.isEmpty then return (db, none)
    let (after, count) ← (db.replaceRows table columns rows).mapError fun e =>
      .staging table e.message
    return (after, some count)

/-- The names of the columns of a staging table; there are none without such a table. -/
def columnsOf (table : String) : Work Database SubmissionError (List String) :=
  .look fun db => (db.tableColumns table).mapError SubmissionError.store

end ShipReport.Service
