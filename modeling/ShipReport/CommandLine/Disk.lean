import ShipReport.Service.Requests
import ShipReport.Service.Start
import ShipReport.Xlsx.Reading

/-!
# Disks

What a run finds at the paths that it is given, and what it leaves there: directories, databases,
workbooks and exported texts. A path is taken without the parts that lead nowhere.
-/

namespace ShipReport.CommandLine

open Service (Holdings Site)
open Storage (AccessFault ancestors plain)
open Store (Database)
open Submission (PathEntry ReturnedFile)
open Xlsx (WrittenSheet)

/-- What a file holds. -/
inductive Content where
  | database (db : Database)
  /-- A workbook that the program wrote. -/
  | written (sheets : List WrittenSheet)
  /-- A file from elsewhere, as it is read. -/
  | returned (file : ReturnedFile)
  /-- An exported text. -/
  | text (s : String)

/-- What is read from a file where a workbook is expected. -/
def Content.asReturned : Content → ReturnedFile
  | .written sheets => Xlsx.returned sheets
  | .returned file => file
  | .database _ | .text _ => .notWorkbook Submission.invalidArchive

/-- Directories, and files by their paths. -/
structure Disk where
  directories : List String
  files : Std.TreeMap String Content

namespace Disk

/-- A disk with nothing on it. -/
def empty : Disk :=
  ⟨[], ∅⟩

/-- The content of the file at a path. -/
def content? (disk : Disk) (path : String) : Option Content :=
  disk.files[plain path]?

/-- Decides whether a path is a directory: one that is there from the beginning or that files were
put into. The root and the current directory always are. -/
def isDirectory (disk : Disk) (path : String) : Bool :=
  let p := plain path
  p == "" || p == "." || disk.directories.any (fun d => d == p || (ancestors d).contains p) ||
    disk.files.keys.any fun f => (ancestors f).contains p

/-- What is wrong with the way to a path: a file where a directory is needed, or no directory. -/
def wayFault? (disk : Disk) (path : String) : Option AccessFault :=
  let above := ancestors (plain path)
  if above.any disk.files.contains then some .notDirectory
  else if above.all disk.isDirectory then none
  else some .missing

/-- What stands at a path. -/
def entry (disk : Disk) (path : String) : PathEntry :=
  if disk.isDirectory path then .directory
  else
    match disk.content? path with
    | some c => .file c.asReturned
    | none => .nothing

/-- What stands at a path where a database is expected. -/
def site (disk : Disk) (path : String) : Site :=
  if disk.isDirectory path || (disk.wayFault? path).isSome then .nowhere
  else
    match disk.content? path with
    | none => .vacant
    | some (.database db) => .database db
    | some _ => .foreign

/-- Reads the file at a path as a workbook. -/
def read (disk : Disk) (path : String) : Except AccessFault ReturnedFile :=
  match disk.entry path, disk.wayFault? path with
  | .directory, _ => .error .isDirectory
  | .file f, _ => .ok f
  | .nothing, fault => .error (fault.getD .missing)

def put (disk : Disk) (path : String) (content : Content) : Disk :=
  { disk with files := disk.files.insert (plain path) content }

/-- Writes a file. -/
def write (disk : Disk) (path : String) (content : Content) : Except AccessFault Disk :=
  if disk.isDirectory path then .error .isDirectory
  else
    match disk.wayFault? path with
    | some fault => .error fault
    | none => .ok (disk.put path content)

/-- The files as texts. Those that are not exported texts stand for something in the way only. -/
def texts (disk : Disk) : Storage.Files :=
  disk.files.map fun _ c =>
    match c with
    | .text s => s
    | _ => ""

/-- What the service holds with the database at a path. -/
def holdings (disk : Disk) (path : String) : Holdings where
  database := match disk.content? path with
    | some (.database db) => db
    | _ => .new
  files := disk.texts

/-- The disk after the service has worked with the database at a path. -/
def keep (disk : Disk) (path : String) (after : Holdings) : Disk :=
  let exported := after.files.foldl
    (fun disk p s => if disk.texts[p]? == some s then disk else disk.put p (.text s)) disk
  exported.put path (.database after.database)

end Disk

end ShipReport.CommandLine
