import ShipReport.Number.General
import ShipReport.Number.Integer
import ShipReport.Text.Blank

/-!
# Stored values

What a column of a row holds: nothing, an integer, a number, a text or bytes. A column prefers one
kind, and a value that can be taken for that kind without loss is converted when it is stored or
compared. Values of different kinds are ordered by kind.
-/

namespace ShipReport.Store

/-- A stored value. -/
inductive Datum where
  | null
  | integer (n : Int)
  | real (x : Float)
  | text (s : String)
  | blob (bytes : List UInt8)
deriving Repr, DecidableEq, Inhabited

/-- The kind of value that a column prefers. -/
inductive Affinity where
  | text
  | integer
  | real
deriving Repr, DecidableEq

namespace Affinity

def all : List Affinity :=
  [.text, .integer, .real]

/-- The word for the kind that a column prefers. -/
def word : Affinity → String
  | .text => "TEXT"
  | .integer => "INTEGER"
  | .real => "REAL"

end Affinity

/-- The blanks that may surround a number. -/
def isNumberBlank (c : Char) : Bool :=
  c == ' ' || ('\t' ≤ c && c ≤ '\r')

/-- The integer of a text that is an optional sign and digits. -/
def readInteger? (cs : List Char) : Option Int :=
  let (negative, ds) := Number.splitSign cs
  (Number.readDigits? ds).map fun n => if negative then -(n : Int) else n

namespace Datum

/-- The word for the kind of a value. -/
def kindName : Datum → String
  | .null => "Null"
  | .integer _ => "Integer"
  | .real _ => "Real"
  | .text _ => "Text"
  | .blob _ => "Blob"

/-- A number as an integer if it is whole and the integer can be stored with room to spare. -/
def ofWhole (x : Float) : Datum :=
  match Number.integer? x with
  | some n => if Number.isInt64 (n - 1) && Number.isInt64 (n + 1) then .integer n else .real x
  | none => .real x

/-- The number that a text holds, blanks around it aside. -/
def ofNumeral? (s : String) : Option Datum :=
  let cs := ((s.toList.dropWhile isNumberBlank).reverse.dropWhile isNumberBlank).reverse
  match (readInteger? cs).filter Number.isInt64 with
  | some n => some (.integer n)
  | none =>
    let (negative, rest) := Number.splitSign cs
    (Number.readUnsigned? rest).map fun x => ofWhole (if negative then -x else x)

/-- A value as an integer, where that loses nothing. -/
def toInteger : Datum → Datum
  | .real x => ofWhole x
  | .text s => (ofNumeral? s).getD (.text s)
  | d => d

/-- A value as a number. -/
def toReal (d : Datum) : Datum :=
  match d.toInteger with
  | .integer n => .real (Float.ofInt n)
  | d => d

/-- A value as a text. -/
def toText : Datum → Datum
  | .integer n => .text (toString n)
  | .real x => .text (Number.general x)
  | d => d

/-- A value as a column of some preference stores it. -/
def converted (d : Datum) : Affinity → Datum
  | .text => d.toText
  | .integer => d.toInteger
  | .real => d.toReal

/-- The order of kinds. -/
def rank : Datum → Nat
  | .null => 0
  | .integer _ | .real _ => 1
  | .text _ => 2
  | .blob _ => 3

/-- The order of two numbers. -/
def compareReal (x y : Float) : Ordering :=
  if x < y then .lt else if y < x then .gt else .eq

/-- The order of an integer and a number: as numbers first, and exactly where those agree. -/
def compareMixed (n : Int) (x : Float) : Ordering :=
  match compareReal (Float.ofInt n) x, Number.integer? x with
  | .eq, some m => compare n m
  | o, _ => o

/-- The order of values: nothing first, then numbers, texts by code points, and bytes. -/
def order : Datum → Datum → Ordering
  | .integer a, .integer b => compare a b
  | .real a, .real b => compareReal a b
  | .integer a, .real b => compareMixed a b
  | .real a, .integer b => (compareMixed b a).swap
  | .text a, .text b => compare a b
  | .blob a, .blob b => compare a b
  | a, b => compare a.rank b.rank

/-- Equality of values in a condition: nothing equals nothing. -/
def equals (a b : Datum) : Bool :=
  match a with
  | .null => false
  | a => a.order b == .eq

/-- Equality of a column's value and a given one, which is taken for the kind of the column. -/
def equalsGiven (affinity : Affinity) (stored given : Datum) : Bool :=
  match affinity with
  | .text => stored.equals given.toText
  | .integer | .real => stored.equals given.toInteger

/-- Equality of the values of two columns. A text is taken for a number when the other column
prefers numbers. -/
def equalsColumn (affinity other : Affinity) (a b : Datum) : Bool :=
  match affinity, other with
  | .text, .text => a.equals b
  | .text, _ => a.toInteger.equals b
  | _, .text => a.equals b.toInteger
  | _, _ => a.equals b

end Datum

end ShipReport.Store
