import ShipReport.Json.Formula
import ShipReport.Json.Store

/-!
# Databases as documents

The JSON form in which a database is kept: each table with its shape and its rows, the views,
whether references are enforced, and the indexes.
-/

namespace ShipReport.Json

open Document (boolean integer string)
open Store (Affinity Column Database Datum Index Reference Row Shape Table)

/-- A value as it is kept. -/
def keptDatum : Document → Decoded Datum
  | .list bytes => do return .blob ((← bytes.mapM Document.natural).map UInt8.ofNat)
  | .object members => do return .real (← (Document.object members).float)
  | d => datum d

def ofTableColumn (c : Column) : Document :=
  .list [.text c.name, .text (c.affinity.word), .bool c.required, ofDatum c.default]

def tableColumn (d : Document) : Decoded Column := do
  match ← d.items with
  | [name, affinity, required, default] =>
    return ⟨← name.string, ← named Affinity.all Affinity.word affinity,
      ← required.boolean, ← keptDatum default⟩
  | _ => throw "column"

def ofReference (r : Reference) : Document :=
  .ofTexts [r.column, r.table, r.target]

def reference (d : Document) : Decoded Reference := do
  match ← d.texts with
  | [column, table, target] => return ⟨column, table, target⟩
  | _ => throw "reference"

/-- The document of the shape of a table. -/
def ofShape (s : Shape) : Document :=
  .object [
    ("name", .text s.name),
    ("columns", .ofList ofTableColumn s.columns),
    ("row_key", .ofOption .text s.rowKey),
    ("keys", .ofList .ofTexts s.keys),
    ("references", .ofList ofReference s.references)]

/-- The shape of a table. -/
def shape (d : Document) : Decoded Shape := do
  return {
    name := ← d.get "name" string
    columns := ← d.get "columns" (·.listOf tableColumn)
    rowKey := ← d.get? "row_key" string
    keys := ← d.get "keys" (·.listOf Document.texts)
    references := ← d.get "references" (·.listOf reference) }

/-- The document of a row: its number, then its values. -/
def ofRow (r : Row) : Document :=
  .list (.ofInt r.number :: r.values.map ofDatum)

def row (d : Document) : Decoded Row := do
  match ← d.items with
  | number :: values => return ⟨← number.integer, ← values.mapM keptDatum⟩
  | [] => throw "row"

def ofTable (t : Table) : Document :=
  .object [("shape", ofShape t.shape), ("rows", .ofList ofRow t.rows)]

def table (d : Document) : Decoded Table := do
  return ⟨← d.get "shape" shape, ← d.get "rows" (·.listOf row)⟩

def ofIndex (i : Index) : Document :=
  .ofTexts [i.name, i.table]

def index (d : Document) : Decoded Index := do
  match ← d.texts with
  | [name, table] => return ⟨name, table⟩
  | _ => throw "index"

def ofDatabase (db : Database) : Document :=
  .object [
    ("tables", .ofList ofTable db.tables),
    ("views", .ofTexts db.views),
    ("enforcing", .bool db.enforcing),
    ("indexes", .ofList ofIndex db.indexes)]

def database (d : Document) : Decoded Database := do
  return {
    tables := ← d.get "tables" (·.listOf table)
    views := ← d.get "views" Document.texts
    enforcing := ← d.get "enforcing" boolean
    indexes := (← d.get? "indexes" (·.listOf index)).getD [] }

end ShipReport.Json
