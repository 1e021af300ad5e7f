import ShipReport.Store.Query

/-!
# Staging tables in the store

A staging table has columns for texts only. It is replaced as a whole, and so are its rows: a row
that is too short is filled up with empty texts, and one that is too long is cut. The name of the
table stands in quotes in each statement. A statement is only read up to a character with the number
zero, so that a table whose name has one is out of reach.
-/

namespace ShipReport.Store

/-- A name in quotes, which are written twice inside. -/
def quoted (name : String) : String :=
  "\"" ++ String.ofList (name.toList.flatMap fun c => if c = '"' then [c, c] else [c]) ++ "\""

/-- Names that are read to their ends where they stand in a statement. -/
def IsReadable (name : String) : Prop :=
  '\x00' ∉ name.toList

instance (name : String) : Decidable (IsReadable name) :=
  inferInstanceAs (Decidable (_ ∉ _))

/-- The failure to read a name in a statement, which is given by what stands before and after it. -/
def unreadableName (before name after : String) : Failure :=
  let token := String.ofList ((quoted name).toList.takeWhile (· != '\x00'))
  (Fault.unrecognized token).failureAt (before ++ quoted name ++ after) before.utf8ByteSize

/-- The name of a table can be read in a statement. -/
@[irreducible]
def checkName (before name after : String) : Except Failure Unit :=
  if IsReadable name then .ok () else .error (unreadableName before name after)

/-- The texts of a row fitted to a number of columns. -/
def fitted (count : Nat) (row : List String) : List String :=
  row.take count ++ List.replicate (count - row.length) ""

namespace Database

/-- Replaces a table by a new one without rows. -/
def recreateTable (db : Database) (table : String) (columns : List String) :
    Except StoreError Database :=
  if columns.isEmpty then .error (.fieldValue "columns" ("staging 表 " ++ table ++ " 至少需要一列"))
  else
    (do
      checkName "DROP TABLE IF EXISTS " table ""
      (← db.dropTable table).createTable table columns).mapError .ofFailure

/-- The failure to write rows without columns. -/
def noColumns (table : String) : Failure :=
  let start := "INSERT INTO " ++ quoted table ++ " ("
  (Fault.unexpected ")").failureAt (start ++ ") VALUES ()") start.utf8ByteSize

/-- A new row of texts, fitted to the columns. -/
def insertTexts (table : String) (columns : List String) (db : Database) (row : List String) :
    Except Failure Database :=
  db.insertInto table columns ((fitted columns.length row).map .text)

/-- Replaces the rows of a table; the answer is their number. -/
def replaceRows (db : Database) (table : String) (columns : List String)
    (rows : List (List String)) : Except StoreError (Database × Nat) :=
  (do
    checkName "DELETE FROM " table ""
    let cleared ← db.clear table
    if columns.isEmpty then throw (noColumns table)
    checkNames table (← cleared.writable table) columns
    return (← rows.foldlM (insertTexts table columns) cleared, rows.length)).mapError .ofFailure

/-- The names of the columns of a table or view, asked for by its name. -/
def tableColumns (db : Database) (table : String) : Except StoreError (List String) :=
  (do
    checkName "PRAGMA table_info(" table ")"
    return db.columnNames table).mapError .ofFailure

end Database

end ShipReport.Store
