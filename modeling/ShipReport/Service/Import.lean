import ShipReport.Service.Work
import ShipReport.Store.Batches
import ShipReport.Store.Procedures

/-!
# Import

The import of a batch is carried out by the procedure for its type. It takes three requests: the
batch is looked up and refused if it is imported already, the procedure runs, and the outcome is
noted with the batch. A batch whose import failed may be imported again. How procedures are carried
out is up to an executor.
-/

namespace ShipReport.Service

open Report (BatchStatus ReportType)
open Store (Database)
open Submission (SubmissionError ImportOutcome)

/-- Lets a batch be imported that is there and has not been. -/
def checkImportable (batchId : String) : Work Database SubmissionError Unit :=
  .look fun db => do
    match ← (db.findBatch batchId).mapError SubmissionError.store with
    | none => throw (.batchNotFound batchId)
    | some b => if b.status = .imported then throw (.batchAlreadyImported batchId)

/-- Carries out a procedure of a name for a batch: the database after it and the number of rows that
it changed, or the message of its failure. -/
abbrev Executor := Database → String → String → Except String (Database × Nat)

/-- Runs the procedure for a batch; the answer is the number of rows it changed or its message. -/
def runProcedure (procedure batchId : String) (execute : Executor := Database.execute) :
    Work Database SubmissionError (Except String Nat) :=
  .change fun db =>
    match execute db procedure batchId with
    | .ok (after, rows) => .ok (after, .ok rows)
    | .error message => .ok (db, .error message)

/-- Notes the outcome of an import with the batch. -/
def noteOutcome (batchId : String) (status : BatchStatus) (type : ReportType)
    (message : Option String) : Work Database SubmissionError Unit :=
  .change fun db => do
    let after ← (db.updateStatus batchId status type message).mapError SubmissionError.store
    return (after, ())

/-- Notes how an import ended and gives its result. -/
def settle (batchId : String) (type : ReportType) :
    Except String Nat → Work Database SubmissionError ImportOutcome
  | .ok rowsChanged => do
    noteOutcome batchId .imported type none
    return { batchId, reportType := type, procedure := type.procedure, rowsChanged }
  | .error message => do
    noteOutcome batchId .failed type (some message)
    throw (.procedureFailed type.procedure message)

def importBatch (batchId : String) (type : ReportType) (execute : Executor := Database.execute) :
    Work Database SubmissionError ImportOutcome := do
  checkImportable batchId
  settle batchId type (← runProcedure type.procedure batchId execute)

/-- Imports a batch as reports of a type that a text gives. -/
def importNamed (batchId typeText : String) (execute : Executor := Database.execute) :
    Work Database SubmissionError ImportOutcome :=
  match ReportType.parse typeText with
  | .ok type => importBatch batchId type execute
  | .error _ => throw (.reportTypeInvalid typeText)

end ShipReport.Service
