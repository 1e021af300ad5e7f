import ShipReport.Formula.Reference
import ShipReport.Formula.Value
import ShipReport.Number.Total

/-!
# Meaning of formulas

What an expression means, given a way to read cells. The way to read is a parameter, in any monad:
a reader may look cells up in a table, compute them on demand or record what it was asked for.

An expression has two meanings: a value, and a target, the range that it names. Only references and
`INDIRECT` name a range. Functions are given the meanings of their arguments and run the ones they
need, in the order they need them.
-/

namespace ShipReport.Formula

/-- A range on a sheet of the workbook, the sheet given by its place. -/
structure Target where
  sheet : Nat
  range : RangeRef
deriving Repr, DecidableEq

/-- The surroundings of a formula: the names of the sheets and a way to read a cell. -/
structure Surroundings (m : Type → Type) where
  sheetIndex : String → Option Nat
  read : Nat → Position → m Value

/-- The value of an expression and the range that it names, neither computed yet. -/
structure Meaning (m : Type → Type) where
  value : m Value
  target : m (Except Fault Target)

variable {m : Type → Type} [Monad m]

namespace Surroundings

/-- The sheet that a reference means: the current one unless it names another. -/
def resolve (s : Surroundings m) (current : Nat) : Option String → Except Fault Nat
  | none => .ok current
  | some name =>
    match s.sheetIndex name with
    | some i => .ok i
    | none => .error .reference

/-- The target of a range reference. -/
def targetOf (s : Surroundings m) (current : Nat) (r : RangeRef) : Except Fault Target :=
  (s.resolve current r.sheet).map (⟨·, r⟩)

/-- The target that the text of an address names. -/
def targetOfText (s : Surroundings m) (current : Nat) (address : String) : Except Fault Target :=
  match reference? address with
  | some r => s.targetOf current r
  | none => .error .reference

/-- The value of a target, which has to be a single cell. -/
def valueAt (s : Surroundings m) : Except Fault Target → m Value
  | .error f => pure (.fault f)
  | .ok t => if t.range.isCell then s.read t.sheet t.range.first else pure (.fault .value)

/-- The values of all cells of a target, row by row. -/
def valuesAt (s : Surroundings m) (t : Target) : m (List Value) :=
  t.range.positions.mapM (s.read t.sheet)

end Surroundings

namespace Meaning

/-- The meaning of an expression that names no range. -/
def ofValue (value : m Value) : Meaning m :=
  ⟨value, pure (.error .value)⟩

/-- The meaning of an expression that names a range. -/
def ofTarget (s : Surroundings m) (target : m (Except Fault Target)) : Meaning m :=
  ⟨do s.valueAt (← target), target⟩

/-- Runs an argument as a number and goes on with it, or ends with the fault. -/
def withNumber (a : Meaning m) (next : Float → m Value) : m Value := do
  match (← a.value).asNumber with
  | .ok x => next x
  | .error f => pure (.fault f)

/-- Runs an argument as a range and goes on with it, or ends with the fault. -/
def withTarget (a : Meaning m) (next : Target → m Value) : m Value := do
  match ← a.target with
  | .ok t => next t
  | .error f => pure (.fault f)

/-- The second value if the first is a fault. -/
def ifError : List (Meaning m) → m Value
  | [a, fallback] => do
    let v ← a.value
    if v.isFault then fallback.value else pure v
  | _ => pure (.fault .notAvailable)

/-- The row and column of an entry of a range, counted from one. A range of one row is counted along
its columns when only one number is given. -/
def entryPlace (r : RangeRef) (n : Int) (column : Option Int) : Int × Int :=
  match column with
  | none => if r.rows == 1 then (1, n) else (n, 1)
  | some k => (n, if k = 0 then 1 else k)

/-- The entry of a target at a place counted from one. -/
def entryAt (s : Surroundings m) (t : Target) (row col : Int) : m Value :=
  if row < 1 ∨ col < 1 ∨ (t.range.rows : Int) < row ∨ (t.range.cols : Int) < col then
    pure (.fault .reference)
  else s.read t.sheet (t.range.cellAt (row - 1).toNat (col - 1).toNat)

/-- The entry of a range that one or two numbers select. -/
def index (s : Surroundings m) : List (Meaning m) → m Value
  | a :: n :: rest =>
    a.withTarget fun t =>
      n.withNumber fun n =>
        let select (column : Option Int) : m Value :=
          let (row, col) := entryPlace t.range (Number.toInt64 n) column
          entryAt s t row col
        match rest with
        | [] => select none
        | k :: _ => k.withNumber fun k => select (some (Number.toInt64 k))
  | _ => pure (.fault .notAvailable)

/-- The place of the first value that is equal to the key, counted from one. -/
def placeOf (key : Value) (values : List Value) : Value :=
  match values.findIdx? fun v => key.order v == some .eq with
  | some i => .number (Float.ofNat (i + 1))
  | none => .fault .notAvailable

/-- The place of a key in a range of one row or one column; a blank key is nowhere. -/
def matchKey (s : Surroundings m) : List (Meaning m) → m Value
  | key :: a :: _ => do
    let key ← key.value
    if key.isFault then pure key
    else if key.isBlank then pure (.fault .notAvailable)
    else
      a.withTarget fun t => do
        if 1 < t.range.rows ∧ 1 < t.range.cols then pure (.fault .notAvailable)
        else return placeOf key (← s.valuesAt t)
  | _ => pure (.fault .notAvailable)

/-- Which coordinates of an address are absolute, row first. -/
def absoluteMarks (mode : Nat) : Bool × Bool :=
  match mode with
  | 1 => (true, true)
  | 2 => (true, false)
  | 3 => (false, true)
  | _ => (false, false)

/-- A row or column number of at least one, cut off at 32 bits. -/
def withOrdinal (a : Meaning m) (next : Nat → m Value) : m Value :=
  a.withNumber fun x => if 1 ≤ x then next x.toUInt32.toNat else pure (.fault .value)

/-- The text of an address. Columns go up to 65536. -/
def address : List (Meaning m) → m Value
  | row :: col :: rest =>
    row.withOrdinal fun row =>
      col.withOrdinal fun col =>
        let finish (mode : Nat) : m Value :=
          let (rowAbs, colAbs) := absoluteMarks mode
          if 65536 < col then pure (.fault .value)
          else
            let cell := coordinates (row - 1) (col - 1) rowAbs colAbs
            match rest[2]? with
            | none => pure (.text cell)
            | some sheet => do
              let name ← sheet.value
              if name.isFault then pure name
              else pure (.text (quoteSheet name.asText ++ "!" ++ cell))
        match rest[0]? with
        | none => finish 1
        | some mode => mode.withNumber fun x => finish x.toUInt32.toNat
  | _ => pure (.fault .notAvailable)

/-- How many cells the argument brings in: the filled cells of a range, or one for a value. -/
def countOne (s : Surroundings m) (a : Meaning m) : m Nat := do
  match ← a.target with
  | .ok t => return (← s.valuesAt t).countP (· != .empty)
  | .error _ => return if (← a.value) = .empty then 0 else 1

/-- The number of filled cells. -/
def countA (s : Surroundings m) (args : List (Meaning m)) : m Value := do
  let counts ← args.mapM (countOne s)
  return .number (Float.ofNat (Number.total counts))

/-- Runs arguments as truth values, all of them up to the first fault. -/
def bools : List (Meaning m) → m (Except Fault (List Bool))
  | [] => pure (.ok [])
  | a :: as => do
    match (← a.value).asBool with
    | .error f => pure (.error f)
    | .ok b => return (← bools as).map (b :: ·)

/-- A truth value computed from the truth values of the arguments. -/
def logical (combine : List Bool → Bool) (args : List (Meaning m)) : m Value := do
  match ← bools args with
  | .ok bs => pure (.bool (combine bs))
  | .error f => pure (.fault f)

/-- A number rounded to a number of decimal places, halves away from zero. -/
def round : List (Meaning m) → m Value
  | [a, places] =>
    a.withNumber fun x =>
      places.withNumber fun d =>
        let factor := Number.powTen (Number.toInt32 d)
        pure (.number (Number.roundHalfAway (x * factor) / factor))
  | _ => pure (.fault .notAvailable)

/-- The target whose address the argument computes. -/
def indirect (s : Surroundings m) (sheet : Nat) (a : Meaning m) : m (Except Fault Target) := do
  match ← a.value with
  | .fault f => pure (.error f)
  | v => pure (s.targetOfText sheet v.asText)

def call (s : Surroundings m) (sheet : Nat) (f : Function) (args : List (Meaning m)) :
    Meaning m :=
  match f with
  | .ifError => ofValue (ifError args)
  | .index => ofValue (index s args)
  | .match => ofValue (matchKey s args)
  | .address => ofValue (address args)
  | .countA => ofValue (countA s args)
  | .and => ofValue (logical (·.all id) args)
  | .or => ofValue (logical (·.any id) args)
  | .round => ofValue (round args)
  | .indirect =>
    match args with
    | [a] => ofTarget s (indirect s sheet a)
    | _ => ofValue (pure (.fault .value))

/-- The meaning of a conditional: only one branch is run. -/
def conditional (test yes no : Meaning m) : m Value := do
  match (← test.value).asBool with
  | .ok true => yes.value
  | .ok false => no.value
  | .error f => pure (.fault f)

/-- The meaning of a binary operation: the first fault wins. -/
def binary (op : Operator) (lhs rhs : Meaning m) : m Value := do
  let v ← lhs.value
  if v.isFault then pure v
  else
    let w ← rhs.value
    if w.isFault then pure w else pure (v.apply op w)

end Meaning

mutual

/-- The meaning of an expression on a sheet. -/
def Expr.meaning (s : Surroundings m) (sheet : Nat) : Expr → Meaning m
  | .literal l => .ofValue (pure l.value)
  | .cell ref => .ofTarget s (pure (s.targetOf sheet (RangeRef.cell ref.sheet ref.position)))
  | .range ref => .ofTarget s (pure (s.targetOf sheet ref))
  | .call f args => .call s sheet f (meanings s sheet args)
  | .conditional test yes no =>
    .ofValue (Meaning.conditional (test.meaning s sheet) (yes.meaning s sheet)
      (no.meaning s sheet))
  | .binary op lhs rhs =>
    .ofValue (Meaning.binary op (lhs.meaning s sheet) (rhs.meaning s sheet))

/-- The meanings of several expressions. -/
def meanings (s : Surroundings m) (sheet : Nat) : List Expr → List (Meaning m)
  | [] => []
  | e :: es => e.meaning s sheet :: meanings s sheet es

end

end ShipReport.Formula
