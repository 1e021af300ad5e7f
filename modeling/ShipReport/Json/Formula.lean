import ShipReport.Formula.Pattern
import ShipReport.Json.Decoding

/-!
# Formulas as documents

The JSON forms of references and formulas. A plain value stands for itself; everything else is an
object with one member that tells what it is, or the name of a pattern with its parts.
-/

namespace ShipReport.Json

open Formula (CellRef RangeRef Expr Operator Function Position)
open Document (boolean natural string)

/-- A value by its name among several. -/
def named {α : Type} (all : List α) (name : α → String) (d : Document) : Decoded α := do
  let word ← d.string
  match all.find? (name · == word) with
  | some a => return a
  | none => throw "name"

/-- A reference to a cell: sheet, row and column, and whether the row and the column are fixed. -/
def cellRef (d : Document) : Decoded CellRef := do
  match ← d.items with
  | sheet :: row :: col :: rest =>
    let flags ← rest.mapM boolean
    return ⟨← sheet.optional string, ← row.natural, ← col.natural, flags.getD 0 false,
      flags.getD 1 false⟩
  | _ => throw "cell"

/-- A reference to a range: sheet, and row and column of two corners. -/
def rangeRef (d : Document) : Decoded RangeRef := do
  match ← d.items with
  | [sheet, a, b, c, e] =>
    return .span (← sheet.optional string) (← a.natural) (← b.natural) (← c.natural) (← e.natural)
  | _ => throw "range"

/-- A formula of a pattern, of which the parts are read by `part`. -/
def patternOf (part : Document → Decoded Expr) (d : Document) : Decoded Expr := do
  let e (k : String) := d.get k part
  match ← d.get "pat" string with
  | "conditional_chain" => return Formula.Pattern.gated (← d.get "driver" cellRef) (← e "body")
  | "require_all" =>
    return Formula.Pattern.requireAll (← d.get "cells" (·.listOf cellRef)) (← e "body")
  | "keyed_lookup" =>
    return Formula.Pattern.keyedLookup (← e "key") (← d.get "keys" rangeRef)
      (← d.get "values" rangeRef)
  | "forward_propagation" =>
    return Formula.Pattern.carryDown (← d.get "source" cellRef) (← d.get? "above" cellRef)
  | "dynamic_range_address" =>
    return Formula.Pattern.slotAddress (← e "key") ⟨← d.get "sheet" string, ← d.get "keys" rangeRef,
      ← d.get "counts" rangeRef, ← d.get "first_slot_col" natural⟩
  | "indirect_list" => return Formula.Pattern.listAt (← d.get "helper" cellRef)
  | "any_of" => return .anyOf (← d.get "args" (·.listOf part))
  | "if_error" => return (← e "value").orElse (← e "fallback")
  | "exact_match" => return .exactMatch (← e "key") (← d.get "keys" rangeRef)
  | "index" => return .index (← d.get "range" rangeRef) (← e "n")
  | "round" => return (← e "x").round (← d.get "digits" natural)
  | "is_blank" => return (← e "x").isBlank
  | "is_present" => return (← e "x").isPresent
  | _ => throw "pattern"

/-- A formula in a document that is nested up to a depth. -/
def exprWithin : Nat → Document → Decoded Expr
  | _, .text s => .ok (.text s)
  | _, .bool b => .ok (.bool b)
  | _, .number t => do return .number (← (Document.number t).float)
  | _, .object [("n", n)] => do return .number (← (Document.object [("n", n)]).float)
  | 0, _ => .error "depth"
  | depth + 1, d => do
    let part := exprWithin depth
    if let some c := d.member? "c" then return .cell (← cellRef c)
    if let some r := d.member? "r" then return .range (← rangeRef r)
    if let some f := d.member? "f" then
      return .call (← named Function.all (·.name) f) (← d.get "a" (·.listOf part))
    if let some c := d.member? "if" then
      match ← c.listOf part with
      | [t, y, n] => return .conditional t y n
      | _ => throw "if"
    if let some b := d.member? "bin" then
      match ← b.items with
      | [op, l, r] => return .binary (← named Operator.all (·.symbol) op) (← part l) (← part r)
      | _ => throw "bin"
    patternOf part d

/-- How deep documents are nested at most. -/
def nestingLimit : Nat := 128

/-- A formula. -/
def expr (d : Document) : Decoded Expr :=
  exprWithin nestingLimit d

/-- The document of a position: the row and the column. -/
def ofPosition (p : Position) : Document :=
  .list [.ofNat p.row, .ofNat p.col]

def rangeMembers (r : RangeRef) : List (String × Document) :=
  [("sheet", .ofOption .text r.sheet), ("first_row", .ofNat r.firstRow),
    ("first_col", .ofNat r.firstCol), ("last_row", .ofNat r.lastRow), ("last_col", .ofNat r.lastCol),
    ("display", .text r.text)]

def sizedMembers (r : RangeRef) : List (String × Document) :=
  [("range", .object (rangeMembers r)), ("rows", .ofNat r.rows), ("cols", .ofNat r.cols)]

/-- The document of a reference to a cell. -/
def ofCellRef (r : CellRef) : Document :=
  .object [
    ("a1", .text r.localText),
    ("display", .text r.text),
    ("sheet", .ofOption .text r.sheet),
    ("row_abs", .bool r.rowAbs),
    ("col_abs", .bool r.colAbs)]

end ShipReport.Json
