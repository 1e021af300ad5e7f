import ShipReport.Formula.Meaning
import Std.Data.HashMap

/-!
# Evaluation on a grid

The values of the cells of a grid. A formula is evaluated when its cell is first read, and the value
is kept. Formulas nest at most `depthLimit` deep; beyond that a cell reads as a cycle. So that long
chains down a column stay within the limit, the formulas of a sheet are evaluated row by row before
the first cell of the sheet is asked for.
-/

namespace ShipReport.Formula

/-- What stands in a cell: a plain value or a formula. -/
inductive Content where
  | value (v : Value)
  | formula (e : Expr)
deriving Repr

/-- The sheets of a workbook as formulas see them. -/
structure Grid where
  /-- The place of a sheet by its name. -/
  sheetIndex : String → Option Nat
  /-- What stands in a cell, if anything does. -/
  content : Nat → Position → Option Content
  /-- The cells of a sheet that hold formulas, row by row. -/
  formulas : Nat → List Position

/-- How many formulas may be nested in one another. -/
def depthLimit : Nat := 256

/-- The values known so far, and the sheets whose formulas have all been evaluated. -/
structure Cache where
  values : Std.HashMap (Nat × Position) Value
  primed : List Nat

/-- The cache at the start. -/
def Cache.empty : Cache :=
  ⟨∅, []⟩

/-- A computation that reads and fills the cache. -/
abbrev EvalM := StateM Cache

namespace Grid

/-- Keeps the value of a cell. -/
def remember (sheet : Nat) (p : Position) (v : Value) : EvalM Value := do
  modify fun c => { c with values := c.values.insert (sheet, p) v }
  return v

/-- A formula that ends in an absent cell has the value zero. -/
def settled : Value → Value
  | .empty => .number 0
  | v => v

/-- The value of a cell when formulas may still nest `depth` deep. -/
def read (g : Grid) (depth : Nat) (sheet : Nat) (p : Position) : EvalM Value := do
  match (← get).values[(sheet, p)]? with
  | some v => return v
  | none =>
    match g.content sheet p with
    | none => remember sheet p .empty
    | some (.value v) => remember sheet p v
    | some (.formula e) =>
      match depth with
      | 0 => return .fault .cycle
      | depth + 1 =>
        let v ← (e.meaning ⟨g.sheetIndex, g.read depth⟩ sheet).value
        remember sheet p (settled v)

/-- The surroundings of a formula that is not itself nested in another. -/
def surroundings (g : Grid) : Surroundings EvalM :=
  ⟨g.sheetIndex, g.read depthLimit⟩

/-- Evaluates all formulas of a sheet, once. -/
def prime (g : Grid) (sheet : Nat) : EvalM Unit := do
  unless (← get).primed.contains sheet do
    modify fun c => { c with primed := sheet :: c.primed }
    (g.formulas sheet).forM fun p => discard (g.read depthLimit sheet p)

/-- The value of a cell. -/
def valueAt (g : Grid) (sheet : Nat) (p : Position) : EvalM Value := do
  g.prime sheet
  g.read depthLimit sheet p

/-- The value of a cell of a named sheet. -/
def value (g : Grid) (sheet : String) (p : Position) : EvalM Value :=
  match g.sheetIndex sheet with
  | some i => g.valueAt i p
  | none => return .fault .reference

/-- The value of an expression that stands on a sheet. -/
def eval (g : Grid) (sheet : Nat) (e : Expr) : EvalM Value :=
  (e.meaning g.surroundings sheet).value

/-- The values of the range that an expression names. -/
def rangeValues (g : Grid) (sheet : Nat) (e : Expr) : EvalM (Except Fault (List Value)) := do
  g.prime sheet
  match ← (e.meaning g.surroundings sheet).target with
  | .error f => return .error f
  | .ok t => return .ok (← g.surroundings.valuesAt t)

end Grid

end ShipReport.Formula
