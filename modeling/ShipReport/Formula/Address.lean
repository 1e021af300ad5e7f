/-!
# Cell addresses

Positions count rows and columns from zero; their texts use column letters and rows counted from
one. A reference to a cell may mark its row or its column as absolute; a reference to a range always
marks both. A sheet name that is not a plain word is quoted, with inner quotes doubled.
-/

namespace ShipReport.Formula

/-- The place of a cell on its sheet, counted from zero. -/
structure Position where
  row : Nat
  col : Nat
deriving Repr, DecidableEq, Hashable

/-- Positions run along the rows, the rows from top to bottom. -/
instance : Ord Position where
  compare a b := (compare a.row b.row).then (compare a.col b.col)

/-- The letters of the column that is `n`-th counted from one, last letter first. -/
def lettersReversed (n : Nat) : List Char :=
  if n = 0 then []
  else Char.ofNat ('A'.toNat + (n - 1) % 26) :: lettersReversed ((n - 1) / 26)
termination_by n
decreasing_by omega

/-- The letters of a column: `A` to `Z`, then `AA` and so on. -/
def columnLetters (col : Nat) : String :=
  String.ofList (lettersReversed (col + 1)).reverse

/-- The place of a letter in the alphabet, counted from one, whatever its case. -/
def letterValue (c : Char) : Nat :=
  c.toUpper.toNat - 'A'.toNat + 1

/-- The column that one to three ASCII letters name. -/
def columnIndex? (letters : List Char) : Option Nat :=
  if letters.isEmpty || 3 < letters.length || !letters.all Char.isAlpha then none
  else some (letters.foldl (fun n c => 26 * n + letterValue c) 0 - 1)

/-- Characters that a sheet name may hold without being quoted. -/
def isWordChar (c : Char) : Bool :=
  c.isAlphanum || c == '_'

/-- A plain sheet name holds word characters only and does not start with a digit. -/
def isPlainName : List Char → Bool
  | [] => false
  | c :: cs => !c.isDigit && (c :: cs).all isWordChar

/-- Doubles every occurrence of a character. -/
def doubled (q : Char) (cs : List Char) : List Char :=
  cs.flatMap fun c => if c = q then [q, q] else [c]

/-- A sheet name as it stands in a formula. -/
def quoteSheet (name : String) : String :=
  if isPlainName name.toList then name
  else String.ofList ('\'' :: (doubled '\'' name.toList ++ ['\'']))

/-- The sheet part of an address: nothing for the sheet that holds the formula. -/
def sheetPrefix : Option String → String
  | some sheet => quoteSheet sheet ++ "!"
  | none => ""

/-- The marker of an absolute coordinate. -/
def absoluteMark (absolute : Bool) : String :=
  if absolute then "$" else ""

/-- A row and a column as text, each with its marker. -/
def coordinates (row col : Nat) (rowAbs colAbs : Bool) : String :=
  absoluteMark colAbs ++ columnLetters col ++ absoluteMark rowAbs ++ toString (row + 1)

/-- A reference to one cell, on the formula's own sheet unless a sheet is named. -/
structure CellRef where
  sheet : Option String
  row : Nat
  col : Nat
  rowAbs : Bool
  colAbs : Bool
deriving Repr, DecidableEq

namespace CellRef

/-- A relative reference on the same sheet. -/
def here (row col : Nat) : CellRef :=
  ⟨none, row, col, false, false⟩

/-- A reference on the same sheet whose column is absolute. -/
def inColumn (row col : Nat) : CellRef :=
  ⟨none, row, col, false, true⟩

/-- A reference to another sheet whose column is absolute. -/
def onSheet (sheet : String) (row col : Nat) : CellRef :=
  ⟨some sheet, row, col, false, true⟩

/-- The place that is referred to. -/
def position (r : CellRef) : Position :=
  ⟨r.row, r.col⟩

/-- The address without the sheet. -/
def localText (r : CellRef) : String :=
  coordinates r.row r.col r.rowAbs r.colAbs

/-- The address with the sheet, if one is named. -/
def text (r : CellRef) : String :=
  sheetPrefix r.sheet ++ r.localText

end CellRef

/-- A reference to a rectangle of cells, both corners included. -/
structure RangeRef where
  sheet : Option String
  firstRow : Nat
  firstCol : Nat
  lastRow : Nat
  lastCol : Nat
deriving Repr, DecidableEq

namespace RangeRef

/-- The rectangle from one corner; a last row or column before the first is moved up to it. -/
def span (sheet : Option String) (firstRow firstCol lastRow lastCol : Nat) : RangeRef :=
  ⟨sheet, firstRow, firstCol, max lastRow firstRow, max lastCol firstCol⟩

/-- A part of one column of a sheet. -/
def column (sheet : String) (col firstRow lastRow : Nat) : RangeRef :=
  span (some sheet) firstRow col lastRow col

/-- The range that holds one cell. -/
def cell (sheet : Option String) (p : Position) : RangeRef :=
  ⟨sheet, p.row, p.col, p.row, p.col⟩

/-- The number of rows. -/
def rows (r : RangeRef) : Nat :=
  r.lastRow + 1 - r.firstRow

/-- The number of columns. -/
def cols (r : RangeRef) : Nat :=
  r.lastCol + 1 - r.firstCol

/-- The cell at an offset from the first corner. -/
def cellAt (r : RangeRef) (rowOffset colOffset : Nat) : Position :=
  ⟨r.firstRow + rowOffset, r.firstCol + colOffset⟩

/-- The first corner. -/
def first (r : RangeRef) : Position :=
  ⟨r.firstRow, r.firstCol⟩

/-- A range of one row and one column. -/
def isCell (r : RangeRef) : Bool :=
  r.rows == 1 && r.cols == 1

/-- All positions of the range, row by row. -/
def positions (r : RangeRef) : List Position :=
  (List.range r.rows).flatMap fun i => (List.range r.cols).map fun j => r.cellAt i j

/-- The address, with both coordinates of both corners absolute. -/
def text (r : RangeRef) : String :=
  sheetPrefix r.sheet ++ coordinates r.firstRow r.firstCol true true ++ ":" ++
    coordinates r.lastRow r.lastCol true true

end RangeRef

end ShipReport.Formula
