import ShipReport.Store.Table

/-!
# Databases

A database holds tables, in the order in which they were made, indexes of tables, and views. While
references are enforced, a row is only added if the rows that it refers to are there, and no row is
removed that another one refers to. Each operation gives the database after it or a failure; a
failed operation leaves nothing behind.
-/

namespace ShipReport.Store

/-- An index of a table. It makes nothing different but which names are free. -/
structure Index where
  name : String
  table : String
deriving Repr, DecidableEq

/-- Tables, views and indexes. A view shows one row with the number one. -/
structure Database where
  tables : List Table
  views : List String
  /-- Whether references are enforced. -/
  enforcing : Bool
  indexes : List Index := []
deriving Repr, DecidableEq

namespace Database

/-- No tables; references are enforced. -/
def empty : Database :=
  ⟨[], [], true, []⟩

/-! ## Tables, views and indexes by name -/

def table? (db : Database) (name : String) : Option Table :=
  db.tables.find? fun t => sameName t.shape.name name

def view? (db : Database) (name : String) : Option String :=
  db.views.find? (sameName name)

def index? (db : Database) (name : String) : Option Index :=
  db.indexes.find? fun i => sameName i.name name

/-- The table of a name, for a statement that changes it. -/
def writable (db : Database) (name : String) : Except Failure Table :=
  match db.table? name, db.view? name with
  | some t, _ => .ok t
  | none, some v => .error (Fault.isView v).failure
  | none, none => .error (Fault.noTable name).failure

/-- The database with the table of a name replaced. -/
def put (db : Database) (name : String) (t : Table) : Database :=
  { db with tables := db.tables.map fun u => if sameName u.shape.name name then t else u }

/-! ## References -/

/-- The table that a reference leads to, in which the referenced column is a key. -/
def target (db : Database) (child : Table) (r : Reference) : Except Failure Table :=
  match db.table? r.table with
  | none => .error (Fault.noTable ("main." ++ r.table)).failure
  | some parent =>
    if parent.shape.isKey r.target then .ok parent
    else .error (Fault.mismatchedReference child.shape.name r.table).failure

/-- The kind that a column prefers. -/
def affinityOf (t : Table) (column : String) : Affinity :=
  (((t.shape.position? column).bind (t.shape.columns[·]?)).map (·.affinity)).getD .text

def refersTo (child : Table) (r : Reference) (parent : Table) (row target : Row) : Bool :=
  Datum.equalsGiven (affinityOf parent r.target) (parent.value target r.target)
    (child.value row r.column)

/-- Decides whether a row refers to nothing or to a row that is there. -/
def referenceHolds (child : Table) (r : Reference) (parent : Table) (row : Row) : Bool :=
  child.value row r.column == .null || parent.rows.any (refersTo child r parent row)

/-- The references that lead to a table, each with the table it comes from. The youngest table comes
first. -/
def referencesTo (db : Database) (name : String) : List (Table × Reference) :=
  db.tables.reverse.flatMap fun child =>
    (child.shape.references.filter fun r => sameName r.table name).map fun r => (child, r)

/-- The tables that the references of a table lead to, the youngest reference first. -/
def targets (db : Database) (t : Table) : Except Failure (List (Reference × Table)) :=
  t.shape.references.reverse.mapM fun r => do return (r, ← db.target t r)

/-- What the references of a table lead to, while they are enforced. -/
def enforcedTargets (db : Database) (t : Table) : Except Failure (List (Reference × Table)) :=
  if db.enforcing then db.targets t else .ok []

/-- Decides whether some row refers to one of the given rows of a table. -/
def isReferred (db : Database) (t : Table) (rows : List Row) : Bool :=
  (db.referencesTo t.shape.name).any fun (child, r) =>
    t.shape.isKey r.target && child.rows.any fun row => rows.any (refersTo child r t row)

/-! ## Rows -/

/-- The names for the values of a new row are those of columns, or stand for the number of the
row. -/
def checkNames (table : String) (t : Table) (names : List String) : Except Failure Unit :=
  match names.find? fun c => (t.shape.position? c).isNone && !isRowNumber c with
  | some c => .error (Fault.noColumnNamed table c).failure
  | none => .ok ()

/-- A new row with values under names, and the table with it, if the row may be added. -/
def acceptedRow (db : Database) (t : Table) (names : List String) (values : List Datum) :
    Except Failure (Row × Table) := do
  let parents ← db.enforcedTargets t
  match t.insert names values with
  | .error f => throw f.failure
  | .ok (row, after) =>
    if parents.all fun (r, parent) => referenceHolds t r parent row then return (row, after)
    else throw Fault.brokenReference.failure

/-- A new row with values under names. -/
def insertRow (db : Database) (name : String) (t : Table) (names : List String)
    (values : List Datum) : Except Failure Database := do
  return db.put name (← db.acceptedRow t names values).2

/-- A new row with values for the columns of the given names. -/
def insertInto (db : Database) (name : String) (names : List String) (values : List Datum) :
    Except Failure Database := do
  let t ← db.writable name
  checkNames name t names
  db.insertRow name t names values

/-- A new row with a value for each column, and the table with it, if the row may be added. -/
def acceptedValues (db : Database) (name : String) (values : List Datum) :
    Except Failure (Row × Table) := do
  let t ← db.writable name
  if t.shape.columns.length ≠ values.length then
    throw (Fault.valueCount name t.shape.columns.length values.length).failure
  db.acceptedRow t t.shape.columnNames values

/-- A new row with a value for each column. -/
def insert (db : Database) (name : String) (values : List Datum) : Except Failure Database := do
  return db.put name (← db.acceptedValues name values).2

/-- A new row, or another value in the row that has the same key. The first columns are the key; the
value that follows them is replaced. -/
def upsert (db : Database) (name : String) (key : List (String × Datum)) (column : String)
    (value : Datum) : Except Failure Database := do
  let t ← db.writable name
  let names := key.map (·.1) ++ [column]
  checkNames name t names
  unless t.shape.keys.any (fun k => decide (k.length = key.length) &&
      key.all fun p => k.any (sameName p.1)) do
    throw Fault.noKey.failure
  let selected (r : Row) : Bool := key.all fun p => (t.value r p.1).equals p.2
  if t.rows.any selected then return db.put name (t.update selected [(column, value)])
  else db.insertRow name t names (key.map (·.2) ++ [value])

/-- The rows of a table that a test selects may be removed. -/
def checkRemoval (db : Database) (name : String) (t : Table) (selected : Row → Bool) :
    Except Failure Unit := do
  if db.enforcing then
    discard (db.targets t)
    discard ((db.referencesTo name).mapM fun (child, r) => db.target child r)
    if db.isReferred t (t.rows.filter selected) then throw Fault.brokenReference.failure

/-- Removes the rows of a table that a test selects. -/
def removeRows (db : Database) (name : String) (t : Table) (selected : Row → Bool) :
    Except Failure Database := do
  db.checkRemoval name t selected
  return db.put name { t with rows := t.rows.filter fun r => !selected r }

/-- Removes all rows of a table. -/
def clear (db : Database) (name : String) : Except Failure Database := do
  db.removeRows name (← db.writable name) fun _ => true

/-! ## Tables -/

/-- How many columns a table may have. -/
def maxColumns : Nat := 2000

/-- The columns of a new table: there are not too many and their names differ. -/
def checkColumns (table : String) (before : List String) : List String → Except Failure Unit
  | [] => .ok ()
  | c :: cs =>
    if maxColumns ≤ before.length then .error (Fault.tooManyColumns table).failure
    else if before.any (sameName c) then .error (Fault.duplicateColumn c).failure
    else checkColumns table (c :: before) cs

/-- Names that begin like those of the database's own tables. -/
def isReserved (name : String) : Bool :=
  sameName (String.ofList (name.toList.take 7)) "sqlite_"

/-- A new table without rows, last in the order. -/
def addTable (db : Database) (s : Shape) : Database :=
  { db with tables := db.tables ++ [⟨s, []⟩] }

/-- A table whose columns all prefer texts. -/
def textShape (name : String) (columns : List String) : Shape where
  name := name
  columns := columns.map fun c => { name := c, affinity := .text }

/-- A table under a name that no table and no view has may be made. -/
def checkShape (db : Database) (s : Shape) : Except Failure Unit := do
  if (db.index? s.name).isSome then throw (Fault.indexNamed s.name).failure
  checkColumns s.name [] s.columnNames

/-- A new table whose columns all prefer texts, under a name that is free. -/
def createTable (db : Database) (name : String) (columns : List String) :
    Except Failure Database := do
  if isReserved name then throw (Fault.reservedName name).failure
  db.checkShape (textShape name columns)
  return db.addTable (textShape name columns)

/-- The database without a table and its indexes. -/
def removeTable (db : Database) (name : String) : Database :=
  { db with
    tables := db.tables.filter fun t => !sameName t.shape.name name
    indexes := db.indexes.filter fun i => !sameName i.table name }

/-- The table of a name that is to be removed, if there is one. -/
def removable? (db : Database) (name : String) : Except Failure (Option Table) :=
  match db.table? name, db.view? name with
  | some t, _ =>
    if db.enforcing && db.isReferred t t.rows then .error Fault.brokenReference.failure
    else .ok (some t)
  | none, some v => .error (Fault.dropsView v).failure
  | none, none => .ok none

/-- Removes a table if there is one. -/
def dropTable (db : Database) (name : String) : Except Failure Database := do
  match ← db.removable? name with
  | some _ => return db.removeTable name
  | none => return db

/-- Removes a table whatever refers to it; references are not enforced any more. -/
def forceDrop (db : Database) (name : String) : Database :=
  { db.removeTable name with enforcing := false }

/-- A new view, if the name is free. -/
def addView (db : Database) (name : String) : Database :=
  if (db.table? name).isSome || (db.view? name).isSome then db
  else { db with views := db.views ++ [name] }

/-- The names of the columns of a table or view; there are none if it does not exist. -/
def columnNames (db : Database) (name : String) : List String :=
  match db.table? name, db.view? name with
  | some t, _ => t.shape.columnNames
  | none, some _ => ["one"]
  | none, none => []

end Database

end ShipReport.Store
