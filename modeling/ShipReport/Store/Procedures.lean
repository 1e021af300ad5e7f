import ShipReport.Store.Change
import ShipReport.Store.Query
import ShipReport.Store.Schema
import ShipReport.Store.Script
import ShipReport.Store.Staging

/-!
# Procedures of import

A procedure is a named script that carries the rows of a batch on. An engine reads its statements
one after the other and says what changes they make; they are made within a transaction: if a
statement fails, none has an effect, and the message is handed on as it is. The answer is the number
of rows that were added, removed or changed in the meantime.
-/

namespace ShipReport.Store

namespace Database

/-- The script of a procedure. -/
def procedureQuery : Query where
  text := "SELECT body_sql FROM import_procedure WHERE name = ?1"
  table := "import_procedure"
  columns := ["body_sql"]
  given := ["name"]

/-- Registers a procedure, whatever its name stood for before. -/
def register (db : Database) (name script : String) : Except StoreError Database :=
  (db.upsert "import_procedure" [("name", .text name)] "body_sql" (.text script)).mapError
    .ofFailure

/-! ## Values of statements -/

/-- The value of a number in a script. -/
def literal (n : Int) : Datum :=
  if Number.isInt64 n then .integer n else .real (Float.ofInt n)

def argumentValue (batchId : String) : Argument → Datum
  | .batchId => .text batchId
  | .integer n => literal n

/-- A column of a table, or a word for the numbers of its rows, or else a failure. -/
def columnOr (t : Table) (column : String) (missing : Failure) : Except Failure Unit :=
  if (t.shape.position? column).isSome || isRowNumber column then .ok () else .error missing

/-- The failure of a condition on a column there is not. -/
def noColumnAt (script : String) (column : Name) : Failure :=
  (Fault.noColumn column.value).failureAt script column.offset

/-- Decides whether a row fulfils a condition that a column has a value. -/
def hasValue (t : Table) (column : String) (value : Datum) (r : Row) : Bool :=
  if t.namesNumber column then (Datum.integer r.number).equals value
  else Datum.equalsGiven (affinityOf t column) (t.value r column) value

/-! ## Rows with other values -/

/-- A row with another value in a column. If that shows the number of the row, the number is
another. -/
def reformed (t : Table) (column : String) (value : Datum) (r : Row) : Row :=
  if t.namesNumber column then
    let shown := t.shape.rowKey.elim r fun key => t.assign r key value
    match value with
    | .integer n => { shown with number := n }
    | _ => shown
  else t.assign r column value

/-- A table in which the selected rows have another value in a column. -/
def updated (t : Table) (column : String) (value : Datum) (selected : Row → Bool) : Table :=
  { t with rows := t.rows.map fun r => if selected r then reformed t column value r else r }

/-- The selected rows with another value in a column. -/
def updatedRows (t : Table) (column : String) (value : Datum) (selected : Row → Bool) : List Row :=
  (t.rows.filter selected).map (reformed t column value)

/-- The columns of the first key that one of some rows of a table repeats. -/
def repeatedAmong? (t : Table) (rows : List Row) : Option (List String) :=
  rows.findSome? fun r => Table.repeated? { t with rows := t.rows.erase r } r

/-- A value may be the number of a row. -/
def mayNumber : Datum → Bool
  | .integer _ => true
  | _ => false

/-- The selected rows of a table can have another value in a column, and no key repeats then. -/
def checkKeys (t : Table) (column : String) (value : Datum) (selected : Row → Bool) :
    Except Failure Unit :=
  if t.namesNumber column && t.rows.any selected && !mayNumber value then
    .error Fault.wrongKind.failure
  else
    match repeatedAmong? (updated t column value selected) (updatedRows t column value selected) with
    | some key => .error (Fault.notUnique t.shape.name key).failure
    | none => .ok ()

/-- What the references of a column lead to, and the references that lead to the column, each with
the table it comes from, while references are enforced. -/
def linksOf (db : Database) (t : Table) (column : String) :
    Except Failure (List (Reference × Table) × List (Table × Reference)) :=
  if db.enforcing then do
    let shown := if t.namesNumber column then t.shape.rowKeyName else column
    let own := t.shape.references.reverse.filter fun r => sameName r.column shown
    let parents ← own.mapM fun r => do return (r, ← db.target t r)
    let children := (db.referencesTo t.shape.name).filter fun (_, r) => sameName r.target shown
    discard (children.mapM fun (child, r) => db.target child r)
    return (parents, children)
  else .ok ([], [])

/-- What the selected rows refer to is there when they have another value in a column, and what
referred to one of them still refers to a row. -/
def checkLinks (t : Table) (column : String) (value : Datum) (selected : Row → Bool)
    (parents : List (Reference × Table)) (children : List (Table × Reference)) :
    Except Failure Unit :=
  let after := updated t column value selected
  let found := parents.all fun (r, parent) =>
    (updatedRows t column value selected).all (referenceHolds t r parent)
  let kept := children.all fun (child, r) => child.rows.all fun row =>
    !(t.rows.filter selected).any (refersTo child r t row) ||
      after.rows.any (refersTo child r after row)
  if found && kept then .ok () else .error Fault.brokenReference.failure

/-- The selected rows of a table may have another value in a column. -/
def checkUpdate (db : Database) (t : Table) (column : String) (value : Datum)
    (selected : Row → Bool) : Except Failure Unit := do
  let (parents, children) ← db.linksOf t column
  checkKeys t column value selected
  checkLinks t column value selected parents children

/-- What gives the selected rows of a table another value in a column. A row with another number is
put in another place, so that it replaces the one that there was. -/
def updating (t : Table) (table column : String) (value : Datum) (selected : Row → Bool) :
    List Change :=
  if t.namesNumber column then
    (updatedRows t column value selected).map fun r => .add table r selected
  else [.alter table selected (reformed t column value)]

/-! ## Tables and indexes -/

/-- The word for what has a name, a table or a view. -/
def kindNamed? (db : Database) (name : String) : Option String :=
  match db.table? name, db.view? name with
  | some _, _ => some "table"
  | none, some _ => some "view"
  | none, none => none

/-- The table of a name, for an index of it. -/
def indexable (db : Database) (name : String) : Except Failure Table :=
  match db.table? name, db.view? name with
  | some t, _ => .ok t
  | none, some _ => .error Fault.viewIndexed.failure
  | none, none => .error (Fault.noTable ("main." ++ name)).failure

/-- The shape of a new table. -/
def newShape (table : Name) (columns : List (Name × Affinity)) : Shape where
  name := table.value
  columns := columns.map fun c => { name := c.1.value, affinity := c.2 }

/-- What removes a table. Its rows are removed one by one if references to it are enforced. -/
def dropping (db : Database) (table : String) : List Change :=
  if db.enforcing && !(db.referencesTo table).isEmpty then
    [.remove table fun _ => true, .define (.removeTable table)]
  else [.define (.removeTable table)]

/-! ## Statements -/

/-- What a statement changes. The script is what was still to be read, with the statement at its
front. A table whose row numbers are used up takes no row without a number. -/
def runStatement (db : Database) (batchId script : String) :
    Statement → Except Failure (List Change)
  | .insert table values => do
    let (row, _) ← db.acceptedValues table.value (values.map (argumentValue batchId))
    unless Number.isInt64 row.number do throw Fault.full.failure
    return [.add table.value row fun _ => false]
  | .delete table column value => do
    let t ← db.writable table.value
    columnOr t column.value (noColumnAt script column)
    let selected := hasValue t column.value (literal value)
    db.checkRemoval table.value t selected
    return [.remove table.value selected]
  | .update table column value key old => do
    let t ← db.writable table.value
    columnOr t column.value (Fault.noColumn column.value).failure
    columnOr t key.value (noColumnAt script key)
    let selected := hasValue t key.value (literal old)
    db.checkUpdate t column.value (literal value) selected
    return updating t table.value column.value (literal value) selected
  | .createTable unlessThere table columns => do
    let s := newShape table columns
    if isReserved s.name then throw (Fault.reservedName s.name).failure
    match db.kindNamed? s.name with
    | some kind =>
      if unlessThere then return []
      else throw ((Fault.taken kind table.written).failureAt script table.offset)
    | none =>
      db.checkShape s
      return [.define (.addTable ⟨s, []⟩)]
  | .createIndex unlessThere index table columns => do
    let t ← db.indexable table.value
    if isReserved index.value then throw (Fault.reservedName index.value).failure
    if (db.kindNamed? index.value).isSome then throw (Fault.tableNamed index.value).failure
    if (db.index? index.value).isSome then
      if unlessThere then return []
      else throw (Fault.taken "index" index.value).failure
    if let some column := columns.find? fun c => (t.shape.position? c.value).isNone then
      throw (noColumnAt script column)
    return [.define (.addIndex ⟨index.value, table.value⟩)]
  | .dropTable ifThere table => do
    match ← db.removable? table.value with
    | some _ => return db.dropping table.value
    | none => if ifThere then return [] else throw (Fault.noTable table.value).failure
  | .select => throw Fault.givesRows.failure

/-- The script of a procedure, if it is registered. -/
def script? (db : Database) (procedure : String) : Except Failure (Option String) := do
  match ← procedureQuery.run db [.text procedure] with
  | [] => return none
  | r :: _ => return some (← r.text 0)

end Database

/-! ## Engines -/

/-- A connection to a database. -/
structure Connection where
  database : Database
  /-- The number of rows that were changed since the connection was made. -/
  total : Nat

/-- The connection after changes that are made to its database. -/
def Connection.make (c : Connection) (changes : List Change) : Connection :=
  ⟨c.database.changedBy changes, c.total + c.database.rowsChangedBy changes⟩

/-- What an engine makes of the front of a script. -/
inductive EngineStep where
  /-- There is no statement any more. -/
  | done
  /-- The statement at the front makes changes, and the rest of the script follows it. -/
  | ran (changes : List Change) (rest : List Char)
  /-- The statement at the front cannot be read, or it fails after some changes. -/
  | failed (changes : List Change) (failure : Failure)

/-- What carries out the statements of scripts. -/
structure Engine where
  /-- Reads the statement at the front of a script for a batch and says what it does. -/
  step : (batchId : String) → Database → List Char → EngineStep
  /-- Makes the changes of a transaction last. -/
  commit : Database → Except Failure Unit

namespace Engine

/-- Runs the statements of a script, of which there are at most `fuel`. What they did stays when one
of them fails. -/
def runFrom (engine : Engine) (batchId : String) :
    (fuel : Nat) → Connection → List Char → Connection × Except Failure Unit
  | 0, c, _ => (c, .ok ())
  | fuel + 1, c, script =>
    match engine.step batchId c.database script with
    | .done => (c, .ok ())
    | .ran changes rest => engine.runFrom batchId fuel (c.make changes) rest
    | .failed changes failure => (c.make changes, .error failure)

/-- Runs a script as a transaction: when it fails, the database is again as it was before. The
answer is the number of rows that were changed in the meantime. -/
def runScript (engine : Engine) (batchId : String) (c : Connection) (script : String) :
    Connection × Except Failure Nat :=
  match engine.runFrom batchId (script.length + 1) c script.toList with
  | (after, .error failure) => ({ after with database := c.database }, .error failure)
  | (after, .ok ()) =>
    match engine.commit after.database with
    | .ok () => (after, .ok (after.total - c.total))
    | .error failure => ({ after with database := c.database }, .error failure)

/-- Runs a procedure for a batch. The error is the message. -/
def perform (engine : Engine) (procedure batchId : String) (c : Connection) :
    Connection × Except String Nat :=
  match c.database.script? procedure with
  | .error failure => (c, .error failure.message)
  | .ok none => (c, .error ("procedure " ++ procedure ++ " is not registered"))
  | .ok (some script) =>
    let (after, result) := engine.runScript batchId c script
    (after, result.mapError Failure.message)

/-- Runs a procedure for a batch over a connection that has changed a number of rows before. -/
def executor (engine : Engine) (total : Nat) (db : Database) (procedure batchId : String) :
    Except String (Database × Nat) :=
  match engine.perform procedure batchId ⟨db, total⟩ with
  | (after, .ok rows) => .ok (after.database, rows)
  | (_, .error message) => .error message

/-- The engine for the statements that rows are added, removed and changed with, tables and indexes
made, and tables removed. Its changes last as soon as they are made. -/
def statements : Engine where
  step batchId db script :=
    match nextStatement script with
    | .error failure => .failed [] failure
    | .ok none => .done
    | .ok (some (s, rest)) =>
      match db.runStatement batchId (String.ofList script) s with
      | .ok changes => .ran changes rest
      | .error failure => .failed [] failure
  commit _ := .ok ()

end Engine

/-- Runs a procedure for a batch with the statements that there are. The error is the message. -/
def Database.execute (db : Database) (procedure batchId : String) :
    Except String (Database × Nat) :=
  Engine.statements.executor 0 db procedure batchId

end ShipReport.Store
