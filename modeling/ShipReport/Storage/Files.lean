import ShipReport.Csv.Writer
import ShipReport.Storage.Path
import Std.Data.TreeMap

/-!
# Files

The files below the directories that the program writes to, as texts by their paths. Directories are
created as they are needed; a regular file in the way of a directory is an error. There is room for
every file, and the right to write it.
-/

namespace ShipReport.Storage

/-- The texts of files by their paths. -/
abbrev Files := Std.TreeMap String String

/-- Why a file could not be written. -/
inductive FileError where
  /-- Part of the path is a regular file. -/
  | notDirectory
  /-- The records do not fit together. -/
  | csv (failure : Csv.LengthMismatch)
deriving Repr, DecidableEq

namespace Files

/-- Decides whether a path leads through a regular file. -/
def isBlocked (files : Files) (path : String) : Bool :=
  (ancestors path).any files.contains

/-- Writes headers and rows to a path. A file that is started is kept, also when the writing
stops. -/
def writeCsv (files : Files) (path : String) (headers : List String) (rows : List (List String)) :
    Files × Except FileError Unit :=
  if files.isBlocked path then (files, .error .notDirectory)
  else
    let output := Csv.write headers rows
    (files.insert path output.text,
      match output.failure with
      | none => .ok ()
      | some failure => .error (.csv failure))

end Files

end ShipReport.Storage
