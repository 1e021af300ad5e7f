import ShipReport.Formula.Address
import ShipReport.Text.Blank

/-!
# Reading addresses

The range that a text such as `Lookup!$A$1:$B$2`, `'Lube Oil'!C3` or `$A$1` names. Blanks around the
text are ignored, `$` may stand anywhere in a coordinate, the corners may come in any order, and a
single cell is a range of one cell. Rows fit in 32 bits and columns have at most three letters.
-/

namespace ShipReport.Formula

/-- Undoes the doubling of a character: of two that stand together the second is dropped. -/
def undoubled (q : Char) : List Char → List Char
  | [] => []
  | [c] => [c]
  | c :: d :: cs => if c = q ∧ d = q then q :: undoubled q cs else c :: undoubled q (d :: cs)

/-- The name that a sheet part stands for: the text between quotes, or the part itself. -/
def sheetOfPart (cs : List Char) : List Char :=
  match cs with
  | '\'' :: rest =>
    if rest.getLast? = some '\'' then undoubled '\'' rest.dropLast else cs
  | _ => cs

/-- Splits at the last occurrence of a character, which is dropped. -/
def splitAtLast? (sep : Char) (cs : List Char) : Option (List Char × List Char) :=
  let (after, before) := cs.reverse.span (· != sep)
  match before with
  | [] => none
  | _ :: before => some (before.reverse, after.reverse)

/-- Splits at every occurrence of a character, which is dropped. -/
def splitAll (sep : Char) : List Char → List (List Char)
  | [] => [[]]
  | c :: cs =>
    if c = sep then [] :: splitAll sep cs
    else
      match splitAll sep cs with
      | part :: parts => (c :: part) :: parts
      | [] => [[c]]

/-- A row number counted from one that fits in 32 bits, as a row counted from zero. -/
def rowIndex? (digits : List Char) : Option Nat :=
  if digits.isEmpty || !digits.all Char.isDigit then none
  else
    let n := digits.foldl (fun n c => 10 * n + (c.toNat - '0'.toNat)) 0
    if n = 0 ∨ 0x100000000 ≤ n then none else some (n - 1)

/-- The position that column letters and a row number name; `$` signs are ignored. -/
def position? (cs : List Char) : Option Position := do
  let (letters, digits) := (cs.filter (· != '$')).span (!·.isDigit)
  let col ← columnIndex? letters
  let row ← rowIndex? digits
  return ⟨row, col⟩

/-- The corners of a range: one cell, or two separated by a colon. -/
def corners? (cs : List Char) : Option (Position × Position) :=
  match splitAll ':' cs with
  | [cell] => (position? cell).map fun p => (p, p)
  | [first, last] => do return (← position? first, ← position? last)
  | _ => none

/-- The rectangle between two corners. -/
def RangeRef.between (sheet : Option String) (p q : Position) : RangeRef :=
  ⟨sheet, min p.row q.row, min p.col q.col, max p.row q.row, max p.col q.col⟩

/-- The range that a text names, if it names one. -/
def reference? (text : String) : Option RangeRef := do
  let cs := Text.trimList text.toList
  match splitAtLast? '!' cs with
  | some (part, rest) =>
    let (p, q) ← corners? rest
    return .between (some (String.ofList (sheetOfPart part))) p q
  | none =>
    let (p, q) ← corners? cs
    return .between none p q

end ShipReport.Formula
