import ShipReport.Store.Database

/-!
# Changes

What a statement does to a database, as a list of changes that are made one after the other. A
change of rows counts the rows that it adds, removes or changes; what a database is made of can be
defined anew without that any row counts.
-/

namespace ShipReport.Store

/-- A change of the tables, views and indexes that there are. -/
inductive Definition where
  | addTable (t : Table)
  | removeTable (table : String)
  /-- A table gets another shape, and each of its rows another form. -/
  | reshape (table : String) (shape : Shape) (form : Row → Row)
  | addIndex (i : Index)
  | removeIndex (name : String)
  | addView (name : String)
  | removeView (name : String)

/-- A change of a database. -/
inductive Change where
  /-- A new row, in the place of rows that a test selects. -/
  | add (table : String) (row : Row) (replaced : Row → Bool)
  /-- The rows that a test selects are removed. -/
  | remove (table : String) (selected : Row → Bool)
  /-- The rows that a test selects get another form. -/
  | alter (table : String) (selected : Row → Bool) (form : Row → Row)
  | define (d : Definition)

namespace Database

/-- The database with a table of a name edited, if there is one. -/
def edit (db : Database) (name : String) (f : Table → Table) : Database :=
  match db.table? name with
  | some t => db.put name (f t)
  | none => db

/-- The database with one of its definitions changed. -/
def redefined (db : Database) : Definition → Database
  | .addTable t => { db with tables := db.tables ++ [t] }
  | .removeTable table => db.removeTable table
  | .reshape table shape form => db.edit table fun t => ⟨shape, t.rows.map form⟩
  | .addIndex i => { db with indexes := db.indexes ++ [i] }
  | .removeIndex name => { db with indexes := db.indexes.filter fun i => !sameName i.name name }
  | .addView name => { db with views := db.views ++ [name] }
  | .removeView name => { db with views := db.views.filter fun v => !sameName v name }

/-- The database after a change. -/
def changed (db : Database) : Change → Database
  | .add table row replaced => db.edit table fun t =>
      { t with rows := Table.place row (t.rows.filter fun r => !replaced r) }
  | .remove table selected => db.edit table fun t =>
      { t with rows := t.rows.filter fun r => !selected r }
  | .alter table selected form => db.edit table fun t =>
      { t with rows := t.rows.map fun r => if selected r then form r else r }
  | .define d => db.redefined d

/-- The number of rows that a change of a database adds, removes or changes. A row that replaces
others counts once. -/
def rowsChanged (db : Database) : Change → Nat
  | .add table _ _ => if (db.table? table).isSome then 1 else 0
  | .remove table selected | .alter table selected _ =>
    (db.table? table).elim 0 fun t => t.rows.countP selected
  | .define _ => 0

/-- The database after changes that are made one after the other. -/
def changedBy (db : Database) (changes : List Change) : Database :=
  changes.foldl changed db

/-- The number of rows that changes make different, each in the database that it is made to. -/
def rowsChangedBy (db : Database) : List Change → Nat
  | [] => 0
  | c :: cs => db.rowsChanged c + (db.changed c).rowsChangedBy cs

end Database

end ShipReport.Store
