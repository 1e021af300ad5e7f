/-!
# JSON documents

Documents as they are stored and handed out. A number keeps its text, so that no digit is lost, and
the members of an object keep their order.
-/

namespace ShipReport.Json

/-- A JSON document. -/
inductive Document where
  | null
  | bool (b : Bool)
  | number (digits : String)
  | text (s : String)
  | list (items : List Document)
  | object (members : List (String × Document))
deriving Inhabited

namespace Document

/-- A natural number. -/
def ofNat (n : Nat) : Document :=
  .number (toString n)

/-- A whole number. -/
def ofInt (n : Int) : Document :=
  .number (toString n)

/-- A value that may be missing. -/
def ofOption {α : Type} (f : α → Document) : Option α → Document
  | some a => f a
  | none => .null

/-- A list of values. -/
def ofList {α : Type} (f : α → Document) (items : List α) : Document :=
  .list (items.map f)

def ofTexts (texts : List String) : Document :=
  ofList .text texts

/-- The member of a name, if the document is an object that has it. -/
def member? (d : Document) (name : String) : Option Document :=
  match d with
  | .object members => members.lookup name
  | _ => none

end Document

end ShipReport.Json
