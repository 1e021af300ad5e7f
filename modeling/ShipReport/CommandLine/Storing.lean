import ShipReport.CommandLine.Disk
import ShipReport.Json.Book
import ShipReport.Json.Database
import ShipReport.Json.Reader

/-!
# Keeping a disk

Databases and workbooks are kept as the texts of their documents. Before a run the paths that it can
come across are looked up; after it, the files that it wrote are stored.
-/

namespace ShipReport.CommandLine

open Storage (ancestors join plain)

namespace Content

/-- What a file with a text holds: a database, a workbook, or something else. -/
def ofText (text : String) : Content :=
  match Json.read? text with
  | none => foreign
  | some d =>
    match Json.database d, Json.book d with
    | .ok db, _ => .database db
    | _, .ok file => .returned file
    | _, _ => foreign
where
  /-- A file that is no workbook. -/
  foreign : Content := .returned (.notWorkbook Submission.invalidArchive)

/-- The text of a file that the program writes. -/
def toText? : Content → Option String
  | .database db => some (Json.ofDatabase db).compact
  | .written sheets => some (Json.ofBook sheets).compact
  | .text s => some s
  | .returned _ => none

end Content

/-- A path and the directories above it. -/
def wayTo (path : String) : List String :=
  (ancestors (plain path) ++ [plain path]).filter (! ·.isEmpty)

/-- The paths that the arguments of a run give. -/
def argumentPaths (args : List String) : List String :=
  args.flatMap fun a => wayTo (Text.trim a)

namespace Disk

/-- The databases of a disk, and the one that is made where there is none. -/
def databases (disk : Disk) : List Store.Database :=
  .new :: disk.files.values.filterMap fun
    | .database db => some db
    | _ => none

/-- The directories into which the databases of a disk have files exported. -/
def exportPaths (disk : Disk) (dataDirectory : String) : List String :=
  disk.databases.flatMap fun db =>
    match db.storage dataDirectory with
    | .error _ => []
    | .ok s =>
      (s.uploadRoot :: s.mirrorRoot.toList).flatMap fun root =>
        Report.ReportSheet.all.flatMap fun k => wayTo (join root k.folder)

/-- The files that a run wrote, by their paths. -/
def writtenSince (after before : Disk) : List (String × String) :=
  (after.files.toList.filterMap fun (path, c) => c.toText?.map (path, ·)).filter fun (path, s) =>
    before.texts[path]? != some s

end Disk

end ShipReport.CommandLine
