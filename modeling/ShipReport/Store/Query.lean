import ShipReport.Store.Database

/-!
# Queries

A query selects columns of the rows of a table whose values in some columns are the given ones, in
the order of some columns. Its text is kept for the messages about columns that there are not. The
answer is a list of records; a value is taken out of a record as a certain kind, and another kind is
an error that names the column.
-/

namespace ShipReport.Store

/-- The value of a row at a position. -/
def valueAt (row : List Datum) (i : Nat) : Datum :=
  (row[i]?).getD .null

/-! ## Records -/

/-- A row of an answer: the names of its columns and their values. -/
structure Record where
  names : List String
  values : List Datum
deriving Repr, DecidableEq

namespace Record

variable {α : Type}

/-- The value in a column, counted from zero. -/
def value (r : Record) (i : Nat) : Datum :=
  valueAt r.values i

/-- The failure to take a value as another kind than it has. -/
def wrongKind (r : Record) (i : Nat) : Failure :=
  .access ("Invalid column type " ++ (r.value i).kindName ++ " at index: " ++ toString i ++
    ", name: " ++ (r.names[i]?).getD "")

/-- The value in a column as a certain kind. -/
def get (r : Record) (i : Nat) (take : Datum → Option α) : Except Failure α :=
  match take (r.value i) with
  | some a => .ok a
  | none => .error (r.wrongKind i)

def integer (r : Record) (i : Nat) : Except Failure Int :=
  r.get i fun
    | .integer n => some n
    | _ => none

/-- A number; an integer is one. -/
def real (r : Record) (i : Nat) : Except Failure Float :=
  r.get i fun
    | .integer n => some (Float.ofInt n)
    | .real x => some x
    | _ => none

def text (r : Record) (i : Nat) : Except Failure String :=
  r.get i fun
    | .text s => some s
    | _ => none

/-- An integer or nothing. -/
def integer? (r : Record) (i : Nat) : Except Failure (Option Int) :=
  r.get i fun
    | .null => some none
    | .integer n => some (some n)
    | _ => none

/-- A text or nothing. -/
def text? (r : Record) (i : Nat) : Except Failure (Option String) :=
  r.get i fun
    | .null => some none
    | .text s => some (some s)
    | _ => none

/-- An integer of 32 bits. -/
def integer32 (r : Record) (i : Nat) : Except Failure Int := do
  let n ← r.integer i
  if -0x80000000 ≤ n ∧ n < 0x80000000 then return n
  else throw (.access ("Integer " ++ toString n ++ " out of range at index " ++ toString i))

/-- The failure to take a text for what it should mean. -/
def unreadable (i : Nat) (reason : String) : Failure :=
  .access ("Conversion error from type Text at index: " ++ toString i ++ ", " ++ reason)

end Record

/-! ## Sources -/

/-- What a query reads from: the columns of a table or view, and the values of its rows. -/
structure Source where
  columns : List Column
  rows : List (List Datum)
deriving Repr, DecidableEq

namespace Source

/-- The column of every view. -/
def viewColumn : Column where
  name := "one"
  affinity := .integer

/-- The rows of a view. -/
def ofView : Source :=
  ⟨[viewColumn], [[.integer 1]]⟩

/-- The rows of a table. -/
def ofTable (t : Table) : Source :=
  ⟨t.shape.columns, t.rows.map (·.values)⟩

/-- The table or view of a name. -/
def named (db : Database) (name : String) : Except Failure Source :=
  match db.table? name, db.view? name with
  | some t, _ => .ok (.ofTable t)
  | none, some _ => .ok .ofView
  | none, none => .error (Fault.noTable name).failure

/-- The position of a column, or else a failure. -/
def position (s : Source) (name : String) (missing : Failure) : Except Failure Nat :=
  match s.columns.findIdx? fun c => sameName c.name name with
  | some i => .ok i
  | none => .error missing

/-- The name of the column at a position. -/
def nameAt (s : Source) (i : Nat) : String :=
  ((s.columns[i]?).map (·.name)).getD ""

/-- The kind that the column at a position prefers. -/
def affinityAt (s : Source) (i : Nat) : Affinity :=
  ((s.columns[i]?).map (·.affinity)).getD .text

/-- Decides whether the value at a position is the given one. -/
def hasValue (s : Source) (row : List Datum) (i : Nat) (given : Datum) : Bool :=
  Datum.equalsGiven (s.affinityAt i) (valueAt row i) given

end Source

/-- The order of two rows by the values at some positions. -/
def orderAt : List Nat → List Datum → List Datum → Ordering
  | [], _, _ => .eq
  | i :: is, a, b => ((valueAt a i).order (valueAt b i)).then (orderAt is a b)

/-- Rows sorted by the values at some positions; equal rows keep their order. -/
def sortedAt (is : List Nat) (rows : List (List Datum)) : List (List Datum) :=
  rows.mergeSort fun a b => orderAt is a b != .gt

/-- Rows sorted downwards by the values at some positions; equal rows keep their order. -/
def sortedDownAt (is : List Nat) (rows : List (List Datum)) : List (List Datum) :=
  rows.mergeSort fun a b => orderAt is a b != .lt

/-! ## Queries -/

/-- A query over one table. -/
structure Query where
  text : String
  table : String
  /-- The columns that the answer has. -/
  columns : List String
  /-- The columns whose values are given. -/
  given : List String := []
  /-- The columns by which the answer is sorted. -/
  sorting : List String := []
  descending : Bool := false
deriving Repr, DecidableEq

namespace Query

/-- The positions of columns that a query uses. -/
def positions (q : Query) (s : Source) (names : List String) : Except Failure (List Nat) :=
  names.mapM fun name => s.position name (missingColumn q.text name)

/-- The records that a query gives for the given values. -/
def run (q : Query) (db : Database) (values : List Datum) : Except Failure (List Record) := do
  let s ← Source.named db q.table
  let columns ← q.positions s q.columns
  let given ← q.positions s q.given
  let sorting ← q.positions s q.sorting
  let found := s.rows.filter fun row => (given.zip values).all fun p => s.hasValue row p.1 p.2
  let sorted := if q.descending then sortedDownAt sorting found else sortedAt sorting found
  return sorted.map fun row => ⟨columns.map s.nameAt, columns.map (valueAt row)⟩

end Query

end ShipReport.Store
