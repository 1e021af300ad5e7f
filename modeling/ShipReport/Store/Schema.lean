import ShipReport.Store.Database

/-!
# The schema

The tables of the program: the reference data of vessels, settings, procedures of import, and
batches with their files. Staging tables are made as they are needed and are not among them.
-/

namespace ShipReport.Store

def textColumn (name : String) : Column where
  name := name
  affinity := .text

def integerColumn (name : String) : Column where
  name := name
  affinity := .integer

/-- A column for numbers, zero when nothing is given. -/
def amountColumn (name : String) : Column where
  name := name
  affinity := .real
  required := true
  default := .real 0

/-- The column with a value required. -/
def Column.needed (c : Column) : Column :=
  { c with required := true }

/-- The column with a value for when nothing is given. -/
def Column.withDefault (c : Column) (d : Datum) : Column :=
  { c with default := d }

namespace Schema

def toVessel : Reference := ⟨"vessel_id", "vessel", "vessel_id"⟩

/-- A reference to a type of supplies. -/
def toItemType : Reference := ⟨"item_type_id", "item_type", "item_type_id"⟩

def vessel : Shape where
  name := "vessel"
  columns := [integerColumn "vessel_id", (textColumn "short_code").needed,
    (textColumn "name").needed]
  rowKey := some "vessel_id"
  keys := [["short_code"]]

/-- Engines and boilers. -/
def machinery : Shape where
  name := "machinery"
  columns := [integerColumn "machinery_id", (integerColumn "vessel_id").needed,
    (textColumn "name").needed, ((textColumn "category").needed).withDefault (.text ""),
    amountColumn "rated_power_kw", amountColumn "sfoc_g_kwh"]
  rowKey := some "machinery_id"
  references := [toVessel]

/-- Types of supplies. -/
def itemType : Shape where
  name := "item_type"
  columns := [integerColumn "item_type_id", (textColumn "type_key").needed,
    (textColumn "category").needed]
  rowKey := some "item_type_id"
  keys := [["type_key"]]

/-- What remains on board of a type of supplies. -/
def itemRob : Shape where
  name := "item_rob"
  columns := [(integerColumn "vessel_id").needed, (integerColumn "item_type_id").needed,
    amountColumn "rob"]
  keys := [["vessel_id", "item_type_id"]]
  references := [toVessel, toItemType]

/-- Notes of deliveries. -/
def bunkerNote : Shape where
  name := "bunker_note"
  columns := [integerColumn "note_id", (integerColumn "vessel_id").needed,
    (integerColumn "item_type_id").needed, (textColumn "note_no").needed, textColumn "bunker_date",
    amountColumn "remaining_qty"]
  rowKey := some "note_id"
  references := [toVessel, toItemType]

def voyage : Shape where
  name := "voyage"
  columns := [integerColumn "voyage_id", (integerColumn "vessel_id").needed,
    (textColumn "voyage_no").needed, integerColumn "leg_no"]
  rowKey := some "voyage_id"
  references := [toVessel]

def port : Shape where
  name := "port"
  columns := [integerColumn "port_id", (textColumn "name").needed, textColumn "unlocode"]
  rowKey := some "port_id"

def timezone : Shape where
  name := "timezone"
  columns := [textColumn "label", (integerColumn "utc_offset_minutes").needed]
  keys := [["label"]]

def settings : Shape where
  name := "config_kv"
  columns := [(textColumn "scope_id").needed, (textColumn "key").needed,
    (textColumn "value").needed]
  keys := [["scope_id", "key"]]

/-- Procedures of import. -/
def procedure : Shape where
  name := "import_procedure"
  columns := [textColumn "name", (textColumn "body_sql").needed]
  keys := [["name"]]

def batch : Shape where
  name := "import_batch"
  columns := [textColumn "batch_id", (integerColumn "vessel_id").needed,
    (textColumn "status").needed, (textColumn "created_at").needed, textColumn "last_report_type",
    textColumn "last_message"]
  keys := [["batch_id"]]

/-- The files of batches. -/
def artifact : Shape where
  name := "batch_artifact"
  columns := [(textColumn "batch_id").needed, (textColumn "sheet_name").needed,
    (textColumn "csv_path").needed, (integerColumn "row_count").needed,
    ((integerColumn "mirrored").needed).withDefault (.integer 0)]
  keys := [["batch_id", "sheet_name"]]
  references := [⟨"batch_id", "import_batch", "batch_id"⟩]

/-- All tables, in the order in which they are made. -/
def all : List Shape :=
  [vessel, machinery, itemType, itemRob, bunkerNote, voyage, port, timezone, settings, procedure,
    batch, artifact]

end Schema

namespace Database

/-- Makes a table unless its name is taken. -/
def ensureTable (db : Database) (s : Shape) : Database :=
  if (db.table? s.name).isSome || (db.view? s.name).isSome then db else db.addTable s

/-- Makes the tables of the schema that are not there. -/
def ensureSchema (db : Database) : Database :=
  Schema.all.foldl ensureTable db

def new : Database :=
  empty.ensureSchema

end Database

end ShipReport.Store
