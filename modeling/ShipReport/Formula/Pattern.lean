import ShipReport.Formula.Expr

/-!
# Formula patterns

The recurring shapes of report formulas: a row that stays blank until its driver cell is filled, a
look-up by key, a value carried down a column until a new one is entered, and the address of the
list of choices that belongs to a key.
-/

namespace ShipReport.Formula.Pattern

/-- Blank while the driver cell is blank. -/
def gated (driver : CellRef) (body : Expr) : Expr :=
  .conditional (Expr.cell driver).isBlank .blank body

/-- Blank while one of the cells is blank. -/
def requireAll (cells : List CellRef) (body : Expr) : Expr :=
  match cells with
  | [] => body
  | [c] => .conditional (Expr.cell c).isBlank .blank body
  | cs => .conditional (.anyOf (cs.map fun c => (Expr.cell c).isBlank)) .blank body

/-- The value that stands beside a key, or blank where the key is unknown. -/
def keyedLookup (key : Expr) (keys values : RangeRef) : Expr :=
  (Expr.index values (.exactMatch key keys)).orElse .blank

/-- The source cell if it is filled, and the carried cell above otherwise; in the first row there is
nothing above. -/
def carryDown (source : CellRef) : Option CellRef → Expr
  | none => .conditional (Expr.cell source).isBlank .blank (.cell source)
  | some above => .conditional (Expr.cell source).isPresent (.cell source) (.cell above)

/-- A block of rows that holds a key, a count, and as many slots as the count says. -/
structure SlotTable where
  sheet : String
  keys : RangeRef
  counts : RangeRef
  firstSlotCol : Nat
deriving Repr, DecidableEq

/-- The address of the filled slots of a key as a text; blank for a key without slots. -/
def slotAddress (key : Expr) (table : SlotTable) : Expr :=
  let place := Expr.exactMatch key table.keys
  let count := Expr.index table.counts place
  let row := Expr.binary .add place (.number (Float.ofNat table.keys.firstRow))
  let column := Float.ofNat table.firstSlotCol
  let first := Expr.call .address
    [row, .number (column + 1), .number 1, .bool true, .text table.sheet]
  let last := Expr.call .address
    [row, .binary .add (.number column) count, .number 1, .bool true]
  (Expr.conditional (.binary .lt count (.number 1)) .blank
    (.binary .concat (.binary .concat first (.text ":")) last)).orElse .blank

/-- The range whose address a helper cell holds. -/
def listAt (helper : CellRef) : Expr :=
  .call .indirect [.cell helper]

end ShipReport.Formula.Pattern
