import ShipReport.Formula.Expr
import ShipReport.Number.Text

/-!
# Formula text

The text of a formula in the syntax of spreadsheets. Operands are put in parentheses where reading
the text back would group them otherwise: an operand that binds less tightly than its operator, and
a right operand that binds equally.
-/

namespace ShipReport.Formula

/-- A text constant between double quotes, inner quotes doubled. -/
def quoteText (s : String) : String :=
  String.ofList ('"' :: (doubled '"' s.toList ++ ['"']))

/-- The text of a truth value. -/
def boolText (b : Bool) : String :=
  if b then "TRUE" else "FALSE"

/-- The text of a constant. -/
def Literal.render : Literal → String
  | .text s => quoteText s
  | .number x => Number.cellText x
  | .bool b => boolText b

/-- The side of an operator on which an operand stands. -/
inductive Side where
  | left
  | right
deriving Repr, DecidableEq

/-- Decides whether an operand needs parentheses beside an operator. -/
def Expr.needsParens (op : Operator) (side : Side) : Expr → Bool
  | .binary inner _ _ =>
    decide (inner.precedence < op.precedence) ||
      (side == .right && inner.precedence == op.precedence)
  | _ => false

/-- Puts a text in parentheses if asked to. -/
def parenthesized (wanted : Bool) (s : String) : String :=
  if wanted then "(" ++ s ++ ")" else s

mutual

/-- The text of an expression, without a leading equals sign. -/
def Expr.render : Expr → String
  | .literal l => l.render
  | .cell ref => ref.text
  | .range ref => ref.text
  | .call f args => f.name ++ "(" ++ ",".intercalate (renderAll args) ++ ")"
  | .conditional test yes no =>
    "IF(" ++ test.render ++ "," ++ yes.render ++ "," ++ no.render ++ ")"
  | .binary op lhs rhs =>
    parenthesized (lhs.needsParens op .left) lhs.render ++ op.symbol ++
      parenthesized (rhs.needsParens op .right) rhs.render

/-- The texts of several expressions. -/
def renderAll : List Expr → List String
  | [] => []
  | e :: es => e.render :: renderAll es

end

/-- The text of a formula as it stands in a cell. -/
def Expr.formulaText (e : Expr) : String :=
  "=" ++ e.render

end ShipReport.Formula
