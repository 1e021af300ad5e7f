import ShipReport.Json.Document
import ShipReport.Number.Reader

/-!
# Taking documents apart

Values of known kinds out of documents. What is missing or of another kind is an error that names
it.
-/

namespace ShipReport.Json

/-- A value, or the name of what is missing or of another kind. -/
abbrev Decoded (α : Type) := Except String α

namespace Document

variable {α : Type}

/-- A text. -/
def string : Document → Decoded String
  | .text s => .ok s
  | _ => .error "text"

/-- A truth value. -/
def boolean : Document → Decoded Bool
  | .bool b => .ok b
  | _ => .error "truth value"

def items : Document → Decoded (List Document)
  | .list ds => .ok ds
  | _ => .error "list"

/-- A whole number. -/
def integer : Document → Decoded Int
  | .number digits =>
    match digits.toInt? with
    | some n => .ok n
    | none => .error "whole number"
  | _ => .error "whole number"

/-- A natural number. -/
def natural (d : Document) : Decoded Nat := do
  let n ← d.integer
  if n < 0 then throw "natural number" else return n.toNat

/-- The number that a text gives. -/
def floatOf (s : String) : Decoded Float :=
  match Number.read? s with
  | some x => .ok x
  | none => .error "number"

/-- A number. One that JSON cannot write stands as a text in an object. -/
def float : Document → Decoded Float
  | .number digits => floatOf digits
  | .object [("n", .text s)] => floatOf s
  | _ => .error "number"

/-- A value or nothing. -/
def optional (f : Document → Decoded α) : Document → Decoded (Option α)
  | .null => .ok none
  | d => some <$> f d

/-- A list of values of one kind. -/
def listOf (f : Document → Decoded α) (d : Document) : Decoded (List α) := do
  (← d.items).mapM f

def texts (d : Document) : Decoded (List String) :=
  d.listOf string

/-- The member of a name. -/
def get (d : Document) (name : String) (f : Document → Decoded α) : Decoded α :=
  match d.member? name with
  | some v => f v
  | none => .error name

/-- The member of a name, or a default when it is missing or null. -/
def getD (d : Document) (name : String) (f : Document → Decoded α) (default : α) : Decoded α :=
  match d.member? name with
  | none | some .null => .ok default
  | some v => f v

/-- The member of a name, or nothing when it is missing or null. -/
def get? (d : Document) (name : String) (f : Document → Decoded α) : Decoded (Option α) :=
  d.getD name (optional f) none

end Document

end ShipReport.Json
