import ShipReport.Store.Datum
import ShipReport.Store.Fault
import ShipReport.Text.Case

/-!
# Tables

A table has named columns and rows. Rows are numbered and kept in the order of their numbers; the
values of a column are converted to the kind that it prefers. A row is only added if its number can
be told, the required values are there, and no key repeats; a key with a missing value repeats
nothing.
-/

namespace ShipReport.Store

/-- Names are equal without regard to the case of ASCII letters. -/
def sameName (a b : String) : Bool :=
  Text.eqIgnoringAsciiCase a b

structure Column where
  name : String
  affinity : Affinity
  /-- Whether a value has to be given. -/
  required : Bool := false
  /-- The value when none is given. -/
  default : Datum := .null
deriving Repr, DecidableEq

/-- A column whose values have to stand in a column of another table. -/
structure Reference where
  column : String
  table : String
  target : String
deriving Repr, DecidableEq

/-- What a table is made of. -/
structure Shape where
  name : String
  columns : List Column
  /-- The column that shows the number of a row. -/
  rowKey : Option String := none
  /-- Groups of columns whose values together do not repeat. -/
  keys : List (List String) := []
  references : List Reference := []
deriving Repr, DecidableEq

/-- A row with its number and a value for each column. -/
structure Row where
  number : Int
  values : List Datum
deriving Repr, DecidableEq

structure Table where
  shape : Shape
  rows : List Row
deriving Repr, DecidableEq

namespace Shape

def columnNames (s : Shape) : List String :=
  s.columns.map (·.name)

/-- The position of a column. -/
def position? (s : Shape) (name : String) : Option Nat :=
  s.columns.findIdx? fun c => sameName c.name name

def isKey (s : Shape) (column : String) : Bool :=
  s.rowKey.any (sameName column) || s.keys.any fun
    | [c] => sameName column c
    | _ => false

/-- The column that shows the number of a row as it is named in messages. -/
def rowKeyName (s : Shape) : String :=
  s.rowKey.getD "rowid"

end Shape

/-- The value for a name, if one is given; the first one counts. -/
def given? (names : List String) (values : List Datum) (name : String) : Option Datum :=
  ((names.zip values).find? fun p => sameName p.1 name).map (·.2)

/-- The words for the number of a row in tables that have no column for it. -/
def rowNumberNames : List String :=
  ["rowid", "_rowid_", "oid"]

/-- Decides whether a word stands for the number of a row. -/
def isRowNumber (name : String) : Bool :=
  rowNumberNames.any (sameName name)

namespace Table

def value (t : Table) (r : Row) (column : String) : Datum :=
  ((t.shape.position? column).bind (r.values[·]?)).getD .null

/-- The number after the last one. -/
def nextNumber (t : Table) : Int :=
  match t.rows.getLast? with
  | some r => r.number + 1
  | none => 1

/-- Decides whether a name stands for the number of a row: as the column that shows it, or as a word
for it that is not the name of a column. -/
def namesNumber (t : Table) (name : String) : Bool :=
  t.shape.rowKey.any (sameName name) || (isRowNumber name && (t.shape.position? name).isNone)

/-- The given number of a row, if there is one; the last one counts. -/
def givenNumber? (t : Table) (names : List String) (values : List Datum) : Option Datum :=
  ((names.zip values).reverse.find? fun p => t.namesNumber p.1).map (·.2)

/-- The number of a new row: the given one, or the next. -/
def numberFor (t : Table) (names : List String) (values : List Datum) : Except Fault Int :=
  match (t.givenNumber? names values).map Datum.toInteger with
  | none | some .null => .ok t.nextNumber
  | some (.integer n) => .ok n
  | some _ => .error .wrongKind

/-- The value of a new row in a column. -/
def cell (t : Table) (number : Int) (names : List String) (values : List Datum) (c : Column) :
    Datum :=
  if t.shape.rowKey.any (sameName c.name) then .integer number
  else
    match given? names values c.name with
    | some d => d.converted c.affinity
    | none => c.default

def newRow (t : Table) (number : Int) (names : List String) (values : List Datum) : Row :=
  ⟨number, t.shape.columns.map (t.cell number names values)⟩

/-- The first column that requires a value and gets none. -/
def missing? (t : Table) (r : Row) : Option Column :=
  ((t.shape.columns.zip r.values).find? fun p => p.1.required && p.2 == .null).map (·.1)

/-- Decides whether two rows repeat a key. -/
def repeats (t : Table) (key : List String) (a b : Row) : Bool :=
  key.all fun column => (t.value a column).equals (t.value b column)

/-- The columns of the first key that a new row repeats. -/
def repeated? (t : Table) (r : Row) : Option (List String) :=
  if t.rows.any (·.number == r.number) then some [t.shape.rowKeyName]
  else t.shape.keys.find? fun key => t.rows.any (t.repeats key r)

/-- A row put into rows in the order of their numbers. -/
def place (r : Row) : List Row → List Row
  | [] => [r]
  | s :: rows => if r.number < s.number then r :: s :: rows else s :: place r rows

/-- The table with a new row. -/
def insert (t : Table) (names : List String) (values : List Datum) : Except Fault (Row × Table) := do
  let number ← t.numberFor names values
  let r := t.newRow number names values
  if let some c := t.missing? r then throw (.missing t.shape.name c.name)
  if let some key := t.repeated? r then throw (.notUnique t.shape.name key)
  return (r, { t with rows := place r t.rows })

def assign (t : Table) (r : Row) (column : String) (value : Datum) : Row :=
  match t.shape.position? column with
  | none => r
  | some i =>
    let affinity := (t.shape.columns[i]?.map (·.affinity)).getD .text
    { r with values := r.values.set i (value.converted affinity) }

/-- The table with other values in the rows that a test selects. -/
def update (t : Table) (selected : Row → Bool) (changes : List (String × Datum)) : Table :=
  { t with rows := t.rows.map fun r =>
      if selected r then changes.foldl (fun r p => t.assign r p.1 p.2) r else r }

end Table

end ShipReport.Store
