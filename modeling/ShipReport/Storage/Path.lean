import ShipReport.Report.Sheet

/-!
# Paths

Joining of paths, the extension of a file name, and the places of files: the database, and the
exported file of a sheet, which lies in the folder of the sheet under the name of the batch and the
sheet. What stands in the way of opening a file has the system's own words.
-/

namespace ShipReport.Storage

/-- A path followed by another one; an absolute one replaces it. -/
def join (root part : String) : String :=
  if part.toList.head? = some '/' ∨ root.isEmpty then part
  else if root.toList.getLast? = some '/' then root ++ part
  else root ++ "/" ++ part

/-- The directory of the program below a user's data directory. -/
def programDirectory (dataDirectory : String) : String :=
  join dataDirectory "vessel-sheets"

/-- The path of the database: the given one unless it is blank, or else a file in the program's
directory. A user without a usable data directory has it in the current directory. -/
def databasePath (given dataDirectory : Option String) : String :=
  match (given.map Text.trim).filter (! ·.isEmpty), dataDirectory with
  | some path, _ => path
  | none, some directory => join (programDirectory directory) "vessel_sheets.db"
  | none, none => "./vessel_sheets.db"

/-- The path of the exported file of a sheet. -/
def artifactPath (root : String) (k : Report.ReportSheet) (batchId : String) : String :=
  join (join root k.folder) (batchId ++ "_" ++ k.fileStem ++ ".csv")

/-- The part of a name after its last point. A name without a point, or with nothing before it, has
none. -/
def nameExtension (name : List Char) : List Char :=
  let after := name.reverse.takeWhile (· != '.')
  if after.length + 1 < name.length then after.reverse else []

/-- The parts of a path between its slashes. -/
def parts (path : String) : List String :=
  (path.toList.splitOn '/').map String.ofList

/-- The path without parts that lead nowhere: empty ones and single points after the first part. -/
def plain (path : String) : String :=
  match parts path with
  | [] => path
  | first :: parts => "/".intercalate (first :: parts.filter fun p => p != "" && p != ".")

/-- The extension of the last name of a path. -/
def fileExtension (path : String) : String :=
  let name := (plain path).toList.reverse.takeWhile (· != '/')
  String.ofList (nameExtension name.reverse)

/-- The directories that a path goes through, from the top. -/
def ancestors (path : String) : List String :=
  let parts := parts path
  (List.range (parts.length - 1)).map fun i => "/".intercalate (parts.take (i + 1))

/-- Why a file cannot be opened. -/
inductive AccessFault where
  | missing
  | notDirectory
  | isDirectory
deriving Repr, DecidableEq

/-- The system's message for a fault. -/
def AccessFault.message : AccessFault → String
  | .missing => "No such file or directory (os error 2)"
  | .notDirectory => "Not a directory (os error 20)"
  | .isDirectory => "Is a directory (os error 21)"

end ShipReport.Storage
