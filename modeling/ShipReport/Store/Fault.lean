import ShipReport.Store.Error

/-!
# Faults of statements

What can be wrong with a statement, and the messages for it. A fault that the database can point to
is reported with the statement and the place in it.
-/

namespace ShipReport.Store

/-- What is wrong with a statement. -/
inductive Fault where
  | noTable (table : String)
  | noColumn (column : String)
  | noColumnNamed (table column : String)
  | valueCount (table : String) (columns values : Nat)
  | isView (view : String)
  | dropsView (view : String)
  | taken (kind token : String)
  | indexNamed (name : String)
  | tableNamed (name : String)
  | viewIndexed
  | reservedName (name : String)
  | duplicateColumn (column : String)
  | tooManyColumns (table : String)
  | noKey
  | mismatchedReference (child parent : String)
  | wrongKind
  | missing (table column : String)
  | notUnique (table : String) (columns : List String)
  | brokenReference
  | full
  | unexpected (token : String)
  | unrecognized (token : String)
  | givesRows
  | cannotOpen (path : String)
  | notDatabase
deriving Repr, DecidableEq

/-- The name of a column with its table. -/
def columnText (table column : String) : String :=
  table ++ "." ++ column

namespace Fault

def message : Fault → String
  | .noTable table => "no such table: " ++ table
  | .noColumn column => "no such column: " ++ column
  | .noColumnNamed table column => "table " ++ table ++ " has no column named " ++ column
  | .valueCount table columns values =>
    "table " ++ table ++ " has " ++ toString columns ++ " columns but " ++ toString values ++
      " values were supplied"
  | .isView view => "cannot modify " ++ view ++ " because it is a view"
  | .dropsView view => "use DROP VIEW to delete view " ++ view
  | .taken kind token => kind ++ " " ++ token ++ " already exists"
  | .indexNamed name => "there is already an index named " ++ name
  | .tableNamed name => "there is already a table named " ++ name
  | .viewIndexed => "views may not be indexed"
  | .reservedName name => "object name reserved for internal use: " ++ name
  | .duplicateColumn column => "duplicate column name: " ++ column
  | .tooManyColumns table => "too many columns on " ++ table
  | .noKey => "ON CONFLICT clause does not match any PRIMARY KEY or UNIQUE constraint"
  | .mismatchedReference child parent =>
    "foreign key mismatch - \"" ++ child ++ "\" referencing \"" ++ parent ++ "\""
  | .wrongKind => "datatype mismatch"
  | .missing table column => "NOT NULL constraint failed: " ++ columnText table column
  | .notUnique table columns =>
    "UNIQUE constraint failed: " ++ ", ".intercalate (columns.map (columnText table))
  | .brokenReference => "FOREIGN KEY constraint failed"
  | .full => "database or disk is full"
  | .unrecognized token => "unrecognized token: \"" ++ token ++ "\""
  | .unexpected token => "near \"" ++ token ++ "\": syntax error"
  | .givesRows => "Execute returned results - did you mean to call query?"
  | .cannotOpen path => "unable to open database file: " ++ path
  | .notDatabase => "file is not a database"

/-- The failure of a statement by a fault. -/
def failure (f : Fault) : Failure :=
  .engine f.message

/-- The failure of a statement by a fault at a place in it, counted in bytes. -/
def failureAt (f : Fault) (statement : String) (offset : Nat) : Failure :=
  .access (f.message ++ " in " ++ statement ++ " at offset " ++ toString offset)

end Fault

/-! ## Places in statements -/

/-- Characters that continue a word of a statement. -/
def isWordChar (c : Char) : Bool :=
  c.isAlphanum || c == '_' || c == '$' || '\x7f' < c

/-- The byte at which a word stands for the first time, given whether a word may begin here. -/
def wordOffsetFrom (word : List Char) (free : Bool) : List Char → Option Nat
  | [] => none
  | c :: cs =>
    let ends := match (c :: cs).drop word.length with
      | [] => true
      | d :: _ => !isWordChar d
    if free && word.isPrefixOf (c :: cs) && ends then some 0
    else
      (wordOffsetFrom word (!(isWordChar c || c == '.')) cs).map (c.utf8Size + ·)

/-- The byte at which a word stands in a statement for the first time. -/
def wordOffset (word statement : String) : Nat :=
  (wordOffsetFrom word.toList true statement.toList).getD 0

/-- The failure of a statement that uses a column there is not. -/
def missingColumn (statement column : String) : Failure :=
  (Fault.noColumn column).failureAt statement (wordOffset column statement)

end ShipReport.Store
