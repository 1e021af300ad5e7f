import ShipReport.Formula.Address

/-!
# Formula expressions

Formulas as trees of literals, references, function calls, conditionals and binary operations,
with short names for the forms that the report sheets use, and the cells that an expression refers
to.
-/

namespace ShipReport.Formula

/-- A constant in a formula. -/
inductive Literal where
  | text (s : String)
  | number (x : Float)
  | bool (b : Bool)
deriving Repr, DecidableEq

/-- The worksheet functions that formulas call; the conditional has a form of its own. -/
inductive Function where
  | ifError
  | index
  | match
  | address
  | countA
  | indirect
  | and
  | or
  | round
deriving Repr, DecidableEq

/-- The name of a function in a formula. -/
def Function.name : Function → String
  | .ifError => "IFERROR"
  | .index => "INDEX"
  | .match => "MATCH"
  | .address => "ADDRESS"
  | .countA => "COUNTA"
  | .indirect => "INDIRECT"
  | .and => "AND"
  | .or => "OR"
  | .round => "ROUND"

/-- The functions of the language. -/
def Function.all : List Function :=
  [.ifError, .index, .match, .address, .countA, .indirect, .and, .or, .round]

/-- The binary operators. -/
inductive Operator where
  | eq
  | ne
  | lt
  | gt
  | concat
  | add
  | sub
  | mul
  | div
deriving Repr, DecidableEq

/-- The symbol of an operator in a formula. -/
def Operator.symbol : Operator → String
  | .eq => "="
  | .ne => "<>"
  | .lt => "<"
  | .gt => ">"
  | .concat => "&"
  | .add => "+"
  | .sub => "-"
  | .mul => "*"
  | .div => "/"

/-- How tightly an operator binds: the higher, the tighter. -/
def Operator.precedence : Operator → Nat
  | .eq | .ne | .lt | .gt => 1
  | .concat => 2
  | .add | .sub => 3
  | .mul | .div => 4

/-- The operators of the language, loosest first. -/
def Operator.all : List Operator :=
  [.eq, .ne, .lt, .gt, .concat, .add, .sub, .mul, .div]

/-- A formula. -/
inductive Expr where
  | literal (l : Literal)
  | cell (ref : CellRef)
  | range (ref : RangeRef)
  | call (f : Function) (args : List Expr)
  | conditional (test yes no : Expr)
  | binary (op : Operator) (lhs rhs : Expr)
deriving Repr

namespace Expr

/-- A text constant. -/
def text (s : String) : Expr :=
  .literal (.text s)

/-- A number constant. -/
def number (x : Float) : Expr :=
  .literal (.number x)

/-- A truth value. -/
def bool (b : Bool) : Expr :=
  .literal (.bool b)

/-- The empty text, which a cell shows as nothing. -/
def blank : Expr :=
  text ""

/-- The test that an expression is blank. -/
def isBlank (e : Expr) : Expr :=
  .binary .eq e blank

/-- The test that an expression is not blank. -/
def isPresent (e : Expr) : Expr :=
  .binary .ne e blank

/-- The expression rounded to a number of decimal places. -/
def round (e : Expr) (places : Nat) : Expr :=
  .call .round [e, number (Float.ofNat places)]

/-- The test that one of several tests holds. -/
def anyOf (tests : List Expr) : Expr :=
  .call .or tests

/-- An expression with a value to take in place of an error. -/
def orElse (e fallback : Expr) : Expr :=
  .call .ifError [e, fallback]

/-- The place of a key in a range, counted from one. -/
def exactMatch (key : Expr) (keys : RangeRef) : Expr :=
  .call .match [key, .range keys, number 0]

/-- The `n`-th entry of a range. -/
def index (r : RangeRef) (n : Expr) : Expr :=
  .call .index [.range r, n]

mutual

/-- The cells that an expression refers to, from left to right; ranges are not among them. -/
def cellRefs : Expr → List CellRef
  | .literal _ | .range _ => []
  | .cell ref => [ref]
  | .call _ args => cellRefsOfAll args
  | .conditional test yes no => test.cellRefs ++ yes.cellRefs ++ no.cellRefs
  | .binary _ lhs rhs => lhs.cellRefs ++ rhs.cellRefs

/-- The cells that a list of expressions refers to. -/
def cellRefsOfAll : List Expr → List CellRef
  | [] => []
  | e :: es => e.cellRefs ++ cellRefsOfAll es

end

end Expr

end ShipReport.Formula
