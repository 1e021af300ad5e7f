import ShipReport.Store.Schema

/-!
# Starting the service

The service works on the database at a path. It is made if nothing is there yet, and gets the tables
of the schema that it lacks. A file is only looked into when the tables are made, so a file that is
no database is noticed then.
-/

namespace ShipReport.Service

open Store (Database Failure Fault)

/-- What stands where a database is expected. -/
inductive Site where
  /-- There can be no file: the path is a directory, or the directory for the file is missing. -/
  | nowhere
  /-- Nothing is there yet. -/
  | vacant
  | database (db : Database)
  /-- A file that is no database. -/
  | foreign

/-- Why the service does not start. -/
inductive StartError where
  | unopened (failure : Failure)
  | schemaFailed (failure : Failure)
deriving Repr, DecidableEq

namespace StartError

/-- What the database reported. -/
def failure : StartError → Failure
  | .unopened f | .schemaFailed f => f

def message : StartError → String
  | .unopened f => "无法打开数据库: " ++ f.message
  | .schemaFailed f => "建表失败: " ++ f.message

end StartError

/-- The database that the service works on. -/
def start (path : String) : Site → Except StartError Database
  | .nowhere => .error (.unopened (Fault.cannotOpen path).failure)
  | .vacant => .ok .new
  | .database db => .ok db.ensureSchema
  | .foreign => .error (.schemaFailed Fault.notDatabase.failure)

end ShipReport.Service
