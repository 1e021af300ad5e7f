import ShipReport.CommandLine.Run
import ShipReport.CommandLine.Storing
import ShipReport.Service.Identifier
import Std.Time.DateTime.Timestamp

/-!
# The program

Looks up what a run can come across, carries it out, stores what it wrote, and prints the outcome.
-/

namespace ShipReport.CommandLine

/-- The user's data directory. -/
def findDataDirectory : IO String := do
  match ← IO.getEnv "XDG_DATA_HOME", ← IO.getEnv "HOME" with
  | some directory, _ => return directory
  | none, some home => return home ++ "/.local/share"
  | none, none => return "."

/-- Sixteen random bytes. -/
def randomBytes : IO (List UInt8) := do
  return (← IO.getRandomBytes 16).toList

def presentTime : IO Calendar.Instant := do
  let nanos := (← Std.Time.Timestamp.now).toNanosecondsSinceUnixEpoch.val
  let seconds := nanos.fdiv 1000000000
  return ⟨seconds.fdiv 86400, (seconds.fmod 86400).toNat, (nanos.fmod 1000000000).toNat⟩

/-- The circumstances of a run. -/
def findCircumstances : IO Circumstances := do
  return {
    dataDirectory := ← findDataDirectory
    token := Service.Identifier.token (← randomBytes)
    batchId := Service.Identifier.batchId (← randomBytes)
    now := ← presentTime }

def isDirectoryPath (path : String) : IO Bool := do
  match ← (IO.FS.realPath path).toBaseIO with
  | .ok found => found.isDir
  | .error _ => return false

/-- The disk with what is found at a path. -/
def lookUp (disk : Disk) (path : String) : IO Disk := do
  if ← isDirectoryPath path then
    return { disk with directories := path :: disk.directories }
  match ← (IO.FS.readBinFile path).toBaseIO with
  | .ok bytes => return disk.put path (.ofText ((String.fromUTF8? bytes).getD ""))
  | .error _ => return disk

def store (path text : String) : IO Unit := do
  if let some directory := (Storage.ancestors path).getLast? then
    unless directory.isEmpty do IO.FS.createDirAll directory
  IO.FS.writeFile path text

end ShipReport.CommandLine

open ShipReport.CommandLine in
/-- Runs the program with the arguments of the command line. -/
def main (args : List String) : IO UInt32 := do
  let circumstances ← findCircumstances
  let given ← (argumentPaths args).foldlM lookUp Disk.empty
  let before ← (given.exportPaths circumstances.dataDirectory).foldlM lookUp given
  let (outcome, after) := run circumstances args before
  for (path, text) in after.writtenSince before do store path text
  IO.print outcome.output
  IO.eprint outcome.errors
  return outcome.code.toUInt32
