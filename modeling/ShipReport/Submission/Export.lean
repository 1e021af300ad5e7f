import ShipReport.Storage.Files
import ShipReport.Submission.Workbook

/-!
# Exporting the sheets of a submission

Each sheet is written to a file of its own below the upload root, and a second time below the mirror
root if there is one. The mirror is a convenience: whether it works is noted, and nothing else
depends on it.
-/

namespace ShipReport.Submission

open Storage (Files artifactPath)

/-- The exported file of a sheet. -/
structure Artifact where
  title : String
  path : String
  rowCount : Nat
  mirrored : Bool
deriving Repr, DecidableEq

/-- An error of writing as an error of the submission. -/
def SubmissionError.ofFile : Storage.FileError → SubmissionError
  | .notDirectory => .io Storage.AccessFault.notDirectory.message
  | .csv failure => .csv failure.message

/-- Writes the copy of a sheet below the mirror root; the answer tells whether that worked. -/
def mirrorSheet (files : Files) (mirror : Option String) (batchId : String) (s : ParsedSheet) :
    Files × Bool :=
  match mirror with
  | none => (files, false)
  | some root =>
    let (files, result) := files.writeCsv (artifactPath root s.kind batchId) s.headers s.rows
    (files, match result with
      | .ok _ => true
      | .error _ => false)

def exportSheet (files : Files) (storage : Report.Storage) (batchId : String) (s : ParsedSheet) :
    Files × Except SubmissionError Artifact :=
  let path := artifactPath storage.uploadRoot s.kind batchId
  match files.writeCsv path s.headers s.rows with
  | (files, .error e) => (files, .error (.ofFile e))
  | (files, .ok _) =>
    let (files, mirrored) := mirrorSheet files storage.mirrorRoot batchId s
    (files, .ok ⟨s.title, path, s.rows.length, mirrored⟩)

/-- Exports sheets in order, up to the first that cannot be written. -/
def exportSheets (files : Files) (storage : Report.Storage) (batchId : String) :
    List ParsedSheet → Files × Except SubmissionError (List Artifact)
  | [] => (files, .ok [])
  | s :: rest =>
    match exportSheet files storage batchId s with
    | (files, .error e) => (files, .error e)
    | (files, .ok a) =>
      let (files, artifacts) := exportSheets files storage batchId rest
      (files, artifacts.map (a :: ·))

end ShipReport.Submission
