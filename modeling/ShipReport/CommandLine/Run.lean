import ShipReport.CommandLine.Disk
import ShipReport.Json.Service
import ShipReport.Number.Integer

/-!
# The command line

A run carries out the command that its arguments give: it makes a template, uploads a workbook,
shows what an upload would give, or imports a batch. The arguments are looked at one after the
other, and the database is opened before those that come after it. A run that fails prints nothing
but the reason; what it had done until then stays done.
-/

namespace ShipReport.CommandLine

open Json (Document)
open Report (TemplateKind)
open Service (Download Request Work)

/-- What a run is given besides its arguments. -/
structure Circumstances where
  /-- The user's data directory. -/
  dataDirectory : String
  /-- A token that no template has had. -/
  token : String
  /-- A name that no batch has had. -/
  batchId : String
  now : Calendar.Instant

/-- Why a run failed, and what is behind it. -/
structure Failure where
  message : String
  cause : Option String := none
deriving Repr, DecidableEq

def Failure.report (f : Failure) : String :=
  let cause := match f.cause with
    | none => ""
    | some c => "\n\nCaused by:\n    " ++ c
  "Error: " ++ f.message ++ cause ++ "\n"

abbrev Run (α : Type) := Work Disk Failure α

def stop {α : Type} (message : String) (cause : Option String := none) : Run α :=
  throw ⟨message, cause⟩

/-- How the program is called. -/
def usage : String :=
  "\n".intercalate [
    "usage:",
    "  vessel-sheets generate <db> <vessel_id> <out.xlsx> [standard|bulk]",
    "  vessel-sheets upload   <db> <vessel_id> <in.xlsx>",
    "  vessel-sheets preview  <in.xlsx>",
    "  vessel-sheets import   <db> <batch_id> <single|bulk|voyage|bunker>"]

/-! ## Arguments -/

/-- The argument at a place, which has to be there and not blank. -/
def argument (args : List String) (place : Nat) (name : String) : Run String :=
  let text := Text.trim (args.getD place "")
  if text.isEmpty then stop ("缺少参数 <" ++ name ++ ">\n" ++ usage) else pure text

/-- The vessel that the argument at a place gives. -/
def vesselArgument (args : List String) (place : Nat) : Run Int := do
  let text ← argument args place "vessel_id"
  match Number.readInt64 text with
  | .ok id => return id
  | .error fault => stop ("vessel_id 无效: " ++ text) fault.message

/-- The kind of template that the argument at a place gives, a standard one if it is missing. -/
def kindArgument (args : List String) (place : Nat) : Run TemplateKind :=
  match (args[place]?).map TemplateKind.parse with
  | none => pure .standard
  | some (.ok kind) => pure kind
  | some (.error message) => stop message

/-! ## Steps -/

def openDatabase (path : String) : Run Unit :=
  .change fun disk =>
    match Service.start path (disk.site path) with
    | .ok db => .ok (disk.put path (.database db), ())
    | .error e => .error ⟨e.message, none⟩

/-- Opens the database that the first argument names; the answer is its path. -/
def databaseArgument (args : List String) : Run String := do
  let path ← argument args 1 "db"
  openDatabase path
  return path

/-- A request to the service with the database at a path. -/
def serve {α : Type} (path : String) (request : Request α) : Run α :=
  (request.onPart (·.holdings path) fun disk after => disk.keep path after).orError
    fun e => ⟨e.message, none⟩

def readBook (path : String) : Run Submission.ReturnedFile :=
  .look fun disk => (disk.read path).mapError fun fault =>
    ⟨"读取失败: " ++ path, some fault.message⟩

/-- Writes a workbook to a path. -/
def writeBook (path : String) (sheets : List Xlsx.WrittenSheet) : Run Unit :=
  .change fun disk =>
    match disk.write path (.written sheets) with
    | .ok after => .ok (after, ())
    | .error fault => .error ⟨"写出失败: " ++ path, some fault.message⟩

/-! ## Commands -/

def lines (texts : List String) : String :=
  String.join (texts.map (· ++ "\n"))

/-- What is printed about a document. -/
def printed (d : Document) : String :=
  lines [d.pretty]

/-- What is printed about a download. -/
def downloadText (d : Download) : String :=
  lines (["file_name=" ++ d.fileName, "upload_token=" ++ d.uploadToken] ++
    d.stagingTables.map ("staging_table=" ++ ·) ++
    d.unprotected.map fun (sheet, e) => "unprotected=" ++ sheet ++ " (" ++ e.message ++ ")")

/-- Makes a template. -/
def generate (c : Circumstances) (args : List String) : Run String := do
  let path ← databaseArgument args
  let vesselId ← vesselArgument args 2
  let out ← argument args 3 "out.xlsx"
  let kind ← kindArgument args 4
  let d ← serve path (Service.download c.dataDirectory kind ⟨c.token, vesselId, c.now⟩)
  writeBook out d.file
  return downloadText d

/-- Uploads a returned workbook. -/
def upload (c : Circumstances) (args : List String) : Run String := do
  let path ← databaseArgument args
  let vesselId ← vesselArgument args 2
  let input ← argument args 3 "in.xlsx"
  let file ← readBook input
  let receipt ← serve path (Service.upload c.dataDirectory vesselId file c.batchId c.now)
  return printed (Json.ofReceipt receipt)

/-- Shows what is read from a workbook when nothing is set. -/
def preview (args : List String) : Run String := do
  let input ← argument args 1 "in.xlsx"
  let parsed ← .look fun disk =>
    (Submission.parseFile .default .default input (disk.entry input)).mapError fun e =>
      (⟨e.message, none⟩ : Failure)
  return lines [Service.previewText parsed]

def importBatch (args : List String) : Run String := do
  let path ← databaseArgument args
  let batchId ← argument args 2 "batch_id"
  let type ← argument args 3 "type"
  return printed (Json.ofOutcome (← serve path (Service.trigger batchId type)))

/-- Carries out the command that the arguments give; the answer is what is printed. -/
def command (c : Circumstances) (args : List String) : Run String := do
  match ← argument args 0 "command" with
  | "generate" => generate c args
  | "upload" => upload c args
  | "preview" => preview args
  | "import" => importBatch args
  | other => stop ("未知命令: " ++ other ++ "\n" ++ usage)

/-- How a run ended: its exit code and what it printed. -/
structure Outcome where
  code : Nat
  output : String
  errors : String
deriving Repr, DecidableEq

/-- The outcome of a run and the disk after it. -/
def run (c : Circumstances) (args : List String) (disk : Disk) : Outcome × Disk :=
  match (command c args).runOn disk with
  | (.ok text, after) => (⟨0, text, ""⟩, after)
  | (.error f, after) => (⟨1, "", f.report⟩, after)

end ShipReport.CommandLine
