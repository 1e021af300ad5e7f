import ShipReport.Json.Settings
import ShipReport.Json.Reader
import ShipReport.Storage.Path
import ShipReport.Store.Query
import ShipReport.Store.Schema

/-!
# Settings in the store

Settings are texts by keys, for all vessels or for one. What is set for a vessel is taken before
what is set for all; what is set for neither, and what cannot be read, has its default. Where files
are kept is set for all vessels only.
-/

namespace ShipReport.Store

open Report (Rules Layout Settings)

/-- Whom a setting is for. -/
inductive Scope where
  | everyone
  | vessel (id : Int)
deriving Repr, DecidableEq

/-- The word under which the settings of a scope are stored. -/
def Scope.word : Scope → String
  | .everyone => "global"
  | .vessel id => "vessel:" ++ toString id

/-- The scope of a vessel, or of everyone when there is none. -/
def Scope.ofVessel : Option Int → Scope
  | none => .everyone
  | some id => .vessel id

/-- The name of a setting. -/
inductive SettingKey where
  | operationTypes
  | placeholders
  | noteSlotLimit
  | password
  | editableFormulas
  | standardMaxRow
  | bulkMaxRow
  | uploadRoot
  | mirrorRoot
deriving Repr, DecidableEq

/-- The word under which a setting is stored. -/
def SettingKey.word : SettingKey → String
  | .operationTypes => "operation_types"
  | .placeholders => "not_applicable"
  | .noteSlotLimit => "note_slot_limit"
  | .password => "protection_password"
  | .editableFormulas => "editable_formula_columns"
  | .standardMaxRow => "standard_max_row"
  | .bulkMaxRow => "bulk_max_row"
  | .uploadRoot => "upload_root"
  | .mirrorRoot => "mirror_root"

/-! ## Reading values -/

/-- A natural number below a bound, with an optional plus and blanks around it. -/
def countOf? (bound : Nat) (s : String) : Option Nat :=
  let cs := Text.trimList s.toList
  let ds := match cs with
    | '+' :: ds => ds
    | ds => ds
  (Number.readDigits? ds).filter fun n => decide (n < bound)

/-- A list of texts in JSON. -/
def listOf? (s : String) : Option (List String) :=
  match (Json.read? s).map Json.Document.texts with
  | some (.ok texts) => some texts
  | _ => none

/-! ## Requests -/

namespace Database

/-- The value of a setting. -/
def settingQuery : Query where
  text := "SELECT value FROM config_kv WHERE scope_id = ?1 AND key = ?2"
  table := "config_kv"
  columns := ["value"]
  given := ["scope_id", "key"]

/-- All settings of a scope. -/
def snapshotQuery : Query where
  text := "SELECT key, value FROM config_kv WHERE scope_id = ?1 ORDER BY key"
  table := "config_kv"
  columns := ["key", "value"]
  given := ["scope_id"]
  sorting := ["key"]

def scopedSetting (db : Database) (scope : Scope) (key : String) :
    Except Failure (Option String) := do
  match ← settingQuery.run db [.text scope.word, .text key] with
  | [] => return none
  | r :: _ => return some (← r.text 0)

/-- What is set for a vessel, or else for everyone. -/
def setting (db : Database) (vessel : Option Int) (key : String) :
    Except Failure (Option String) := do
  if let some id := vessel then
    if let some v ← db.scopedSetting (.vessel id) key then return some v
  db.scopedSetting .everyone key

/-- Sets a value, whatever was set before. -/
def setSetting (db : Database) (scope : Scope) (key value : String) : Except Failure Database :=
  db.upsert "config_kv" [("scope_id", .text scope.word), ("key", .text key)] "value" (.text value)

/-- Stores bytes where a setting is expected. -/
def setBytes (db : Database) (scope : Scope) (key : String) (bytes : List UInt8) :
    Except Failure Database :=
  db.upsert "config_kv" [("scope_id", .text scope.word), ("key", .text key)] "value" (.blob bytes)

/-- All settings of a scope by key. -/
def settingsOf (db : Database) (scope : Scope) : Except Failure (List (String × String)) := do
  (← snapshotQuery.run db [.text scope.word]).mapM fun r => do return (← r.text 0, ← r.text 1)

/-- A setting that can be read in some way, or else its default. -/
def settingOr {α : Type} (db : Database) (vessel : Option Int) (key : SettingKey)
    (read : String → Option α) (default : α) : Except Failure α := do
  return ((← db.setting vessel key.word).bind read).getD default

/-- The rules for a vessel, or for everyone. At least one note of a type is offered. -/
def rules (db : Database) (vessel : Option Int) : Except Failure Rules := do
  let base := Rules.default
  let limit ← db.settingOr vessel .noteSlotLimit (countOf? 0x10000000000000000) base.noteSlotLimit
  let password ← db.settingOr vessel .password some base.password
  return {
    operationTypes := ← db.settingOr vessel .operationTypes listOf? base.operationTypes
    placeholders := ← db.settingOr vessel .placeholders listOf? base.placeholders
    noteSlotLimit := max limit 1
    password
    editableFormulas := ← db.settingOr vessel .editableFormulas listOf? base.editableFormulas }

/-- The layout for a vessel, or for everyone. There is a row below the headers at least. -/
def layout (db : Database) (vessel : Option Int) : Except Failure Layout := do
  let base := Layout.default
  let standard ← db.settingOr vessel .standardMaxRow (countOf? 0x100000000) base.standardMaxRow
  let bulk ← db.settingOr vessel .bulkMaxRow (countOf? 0x100000000) base.bulkMaxRow
  return { base with standardMaxRow := max standard 2, bulkMaxRow := max bulk 2 }

/-- Where files are kept when nothing is set, below a data directory. -/
def defaultUploadRoot (dataDirectory : String) : String :=
  Storage.join (Storage.programDirectory dataDirectory) "uploads"

/-- Where files are kept. A blank mirror is none. -/
def storage (db : Database) (dataDirectory : String) : Except Failure Report.Storage := do
  let root ← db.settingOr none .uploadRoot some (defaultUploadRoot dataDirectory)
  let mirror ← db.setting none SettingKey.mirrorRoot.word
  return { uploadRoot := root, mirrorRoot := mirror.filter fun v => !Text.isBlankText v }

/-- All settings for a vessel, or for everyone. -/
def settings (db : Database) (dataDirectory : String) (vessel : Option Int) :
    Except Failure Settings := do
  return {
    rules := ← db.rules vessel
    layout := ← db.layout vessel
    storage := ← db.storage dataDirectory }

end Database

end ShipReport.Store
