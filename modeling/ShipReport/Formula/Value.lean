import ShipReport.Formula.Render
import ShipReport.Text.Blank
import ShipReport.Text.Case

/-!
# Values

What formulas compute with. An absent cell counts as the empty text, as zero and as false, whichever
the other operand asks for; texts compare without regard to case; numbers come before texts and
texts before truth values.
-/

namespace ShipReport.Formula

/-- The ways in which a formula fails. -/
inductive Fault where
  | reference
  | value
  | notAvailable
  | divisionByZero
  | cycle
deriving Repr, DecidableEq

/-- The code that a cell shows for a fault. -/
def Fault.code : Fault → String
  | .reference => "#REF!"
  | .value => "#VALUE!"
  | .notAvailable => "#N/A"
  | .divisionByZero => "#DIV/0!"
  | .cycle => "#CYCLE!"

/-- The value of a cell or an expression. -/
inductive Value where
  | empty
  | text (s : String)
  | number (x : Float)
  | bool (b : Bool)
  | fault (f : Fault)
deriving Repr, DecidableEq

/-- The value of a constant. -/
def Literal.value : Literal → Value
  | .text s => .text s
  | .number x => .number x
  | .bool b => .bool b

namespace Value

/-- An absent cell and the empty text are blank. -/
def isBlank : Value → Bool
  | .empty => true
  | .text s => s.isEmpty
  | _ => false

def isFault : Value → Bool
  | .fault _ => true
  | _ => false

/-- The text that a value contributes to a longer text. -/
def asText : Value → String
  | .empty => ""
  | .text s => s
  | .number x => Number.cellText x
  | .bool b => boolText b
  | .fault f => f.code

/-- The number that a value stands for; a text has to be a number, blanks around it allowed. -/
def asNumber : Value → Except Fault Float
  | .empty => .ok 0
  | .number x => .ok x
  | .bool b => .ok (if b then 1 else 0)
  | .text s =>
    match Number.read? (Text.trim s) with
    | some x => .ok x
    | none => .error .value
  | .fault f => .error f

/-- The truth value that a value stands for. -/
def asBool : Value → Except Fault Bool
  | .empty => .ok false
  | .bool b => .ok b
  | .number x => .ok (x != 0)
  | .text s =>
    let word := Text.uppercase s
    if word = "TRUE" then .ok true
    else if word = "FALSE" then .ok false
    else .error .value
  | .fault f => .error f

/-- The place of a kind of value in the order of values. -/
def rank : Value → Nat
  | .number _ => 0
  | .text _ => 1
  | .bool _ => 2
  | .empty | .fault _ => 3

/-- What an absent cell counts as beside a value. -/
def zeroLike : Value → Value
  | .number _ => .number 0
  | .bool _ => .bool false
  | _ => .text ""

/-- The order of numbers; none when one of them is not a number. -/
def compareNumbers (x y : Float) : Option Ordering :=
  if x < y then some .lt
  else if y < x then some .gt
  else if x == y then some .eq
  else none

/-- The order of two values that are both there. -/
def comparePresent : Value → Value → Option Ordering
  | .number x, .number y => compareNumbers x y
  | .text s, .text t => some (compare (Text.lowercase s) (Text.lowercase t))
  | .bool a, .bool b => some (compare a b)
  | v, w => some (compare v.rank w.rank)

/-- The order of two values. -/
def order : Value → Value → Option Ordering
  | .empty, .empty => some .eq
  | .empty, w => comparePresent w.zeroLike w
  | v, .empty => comparePresent v v.zeroLike
  | v, w => comparePresent v w

/-- A number, or the fault that kept it from being computed. -/
def ofNumber : Except Fault Float → Value
  | .ok x => .number x
  | .error f => .fault f

/-- Division; by zero it fails. -/
def divide (x y : Float) : Except Fault Float :=
  if y == 0 then .error .divisionByZero else .ok (x / y)

/-- An arithmetic operation on what two values stand for. -/
def arithmetic (op : Float → Float → Except Fault Float) (v w : Value) : Value :=
  ofNumber do op (← v.asNumber) (← w.asNumber)

/-- A binary operation on two values that are not faults. -/
def apply (op : Operator) (v w : Value) : Value :=
  match op with
  | .eq => .bool (v.order w == some .eq)
  | .ne => .bool (v.order w != some .eq)
  | .lt => .bool (v.order w == some .lt)
  | .gt => .bool (v.order w == some .gt)
  | .concat => .text (v.asText ++ w.asText)
  | .add => arithmetic (fun x y => .ok (x + y)) v w
  | .sub => arithmetic (fun x y => .ok (x - y)) v w
  | .mul => arithmetic (fun x y => .ok (x * y)) v w
  | .div => arithmetic divide v w

end Value

end ShipReport.Formula
