import ShipReport.Workbook.Basic
import ShipReport.Xlsx.Password

/-!
# Written sheets

What an xlsx file holds for a sheet: its cells with their look and the cached results of formulas,
the widths of its columns, the lists to choose from, and how the sheet is protected and shown.

Formulas are stored with their result, a fault as the empty text, so that a reader that does not
compute shows blanks. An empty text is written as a blank cell, and a blank cell is written only if
it looks different from an untouched one.
-/

namespace ShipReport.Xlsx

open Formula (Position CellRef Expr EvalM)
open Workbook (Cell Sheet Column ChoiceSource Validation Lock ProtectionPlan)

/-- How a cell is formatted. -/
inductive Look where
  | header
  | locked
  | lockedHidden
  | unlocked
deriving Repr, DecidableEq

/-- The look that goes with a lock. -/
def Look.ofLock : Lock → Look
  | .locked => .locked
  | .lockedHidden => .lockedHidden
  | .unlocked => .unlocked

/-- What is written into a cell. -/
inductive Written where
  | text (s : String)
  | number (x : Float)
  | formula (body : String) (result : String)
  | blank
deriving Repr, DecidableEq

/-- A cell of the file. -/
structure WrittenCell where
  position : Position
  look : Look
  content : Written
deriving Repr, DecidableEq

/-- Decides whether a text starts with a character code: `_x`, four hexadecimal digits, and at least
one character more. -/
def startsWithCode : List Char → Bool
  | '_' :: 'x' :: a :: b :: c :: d :: _ :: _ =>
    [a, b, c, d].all fun c => c.isDigit || ('a' ≤ c.toLower && c.toLower ≤ 'f')
  | _ => false

/-- The text as it is stored: an underscore that would start a character code is itself written as
one. -/
def escaped : List Char → List Char
  | [] => []
  | c :: cs =>
    if startsWithCode (c :: cs) then "_x005F".toList ++ c :: escaped cs else c :: escaped cs

/-- Decides whether the file cannot hold a character as it is: control characters other than tabs
and line feeds, and the two code points at the end of the first plane. -/
def isUnwritable (c : Char) : Bool :=
  (decide (c.toNat < 32) && c != '\t' && c != '\n') || c.toNat == 0xFFFE || c.toNat == 0xFFFF

/-- The code of a character: four hexadecimal digits between `_x` and `_`. -/
def characterCode (c : Char) : List Char :=
  let ds := (Nat.toDigits 16 c.toNat).map Char.toUpper
  "_x".toList ++ List.replicate (4 - ds.length) '0' ++ ds ++ ['_']

/-- A text as the file holds it: characters that cannot stand there are written as codes. -/
def stored (s : String) : String :=
  String.ofList (s.toList.flatMap fun c => if isUnwritable c then characterCode c else [c])

/-- The look of a cell under an optional plan. -/
def lookOf (plan : Option ProtectionPlan) (p : Position) : Look :=
  if p.row = 0 then .header
  else
    match plan with
    | none => .locked
    | some plan => .ofLock (plan.lockOf p)

/-- A blank cell, which is not written when it looks like an untouched one. -/
def writtenBlank (p : Position) (look : Look) : Option WrittenCell :=
  if look = .locked then none else some ⟨p, look, .blank⟩

def cachedResult (v : Formula.Value) : String :=
  if v.isFault then "" else v.asText

/-- What is written for a cell of the sheet at a place in the workbook. -/
def writtenCell (w : Workbook) (index : Nat) (s : Sheet) (p : Position) :
    EvalM (Option WrittenCell) := do
  let look := lookOf s.protection p
  match s.get? p with
  | some (.text t) =>
    if t.isEmpty then return writtenBlank p look
    else return some ⟨p, look, .text (stored (String.ofList (escaped t.toList)))⟩
  | some (.number x) =>
    if x.isNaN then return some ⟨p, .locked, .text "#NUM!"⟩ else return some ⟨p, look, .number x⟩
  | some (.formula e) => do
    let v ← w.grid.valueAt index p
    return some ⟨p, look, .formula (stored e.render) (stored (cachedResult v))⟩
  | none =>
    match s.protection with
    | some plan =>
      return if plan.lockOf p = .unlocked then some ⟨p, .unlocked, .blank⟩ else none
    | none => return none

/-- A run of neighbouring columns with one width, counted from one. -/
structure WrittenColumns where
  first : Nat
  last : Nat
  width : Float
  hidden : Bool
deriving Repr, DecidableEq

/-- The width of a column that nobody has set. -/
def defaultWidth : Float := 8.43

/-- The width of a column and whether it is hidden: a column without width is hidden, and so are
helpers. -/
def columnState (c : Column) : Float × Bool :=
  if c.width == 0 then (defaultWidth, true) else (c.width, c.role == .helper)

/-- The width in the units of the file, which count whole pixels of seven to a character. -/
def fileWidth (width : Float) (hidden : Bool) : Float :=
  if hidden && width == defaultWidth then 0
  else if 0 < width then
    if width < 1 then Number.floor (Number.roundHalfAway (width * 12) / 7 * 256) / 256
    else Number.floor ((Number.roundHalfAway (width * 7) + 5) / 7 * 256) / 256
  else width

/-- Joins a column to the runs before it if it is like the last of them. -/
def joinColumn (runs : List WrittenColumns) (c : Float × Bool) (number : Nat) :
    List WrittenColumns :=
  match runs with
  | run :: rest =>
    if run.width == c.1 && run.hidden == c.2 then { run with last := number } :: rest
    else ⟨number, number, c.1, c.2⟩ :: run :: rest
  | [] => [⟨number, number, c.1, c.2⟩]

/-- The columns of a sheet as runs, with the widths of the file. -/
def writtenColumns (columns : List Column) : List WrittenColumns :=
  let runs := columns.zipIdx.foldl (fun runs (c, i) => joinColumn runs (columnState c) (i + 1)) []
  runs.reverse.map fun run => { run with width := fileWidth run.width run.hidden }

/-- The items of a list as one text, quotes doubled. -/
def joinedItems (items : List String) : String :=
  ",".intercalate (items.map fun s => String.ofList (Formula.doubled '"' s.toList))

/-- The source of a list as a formula. A relative reference counts from the first row of the rule.
-/
def sourceFormula (v : Validation) : String :=
  match v.source with
  | .range r => r.text
  | .helper col => (Formula.Pattern.listAt (CellRef.inColumn v.firstRow col)).render
  | .words items => "\"" ++ joinedItems items ++ "\""

/-- The source of a list in the file. -/
def sourceText (v : Validation) : String :=
  stored (sourceFormula v)

/-- The cells of a rule as an address. -/
def coveredText (v : Validation) : String :=
  let first := (CellRef.here v.firstRow v.col).localText
  if v.firstRow = v.lastRow then first
  else first ++ ":" ++ (CellRef.here v.lastRow v.col).localText

/-- The rules of a sheet by the cells they cover; of two for the same cells the later counts. -/
def writtenChoices (validations : List Validation) : List (String × String) :=
  (Std.TreeMap.ofList (validations.map fun v => (coveredText v, sourceText v))).toList

/-- How a sheet is shown. -/
inductive Visibility where
  | visible
  | hidden
  | veryHidden
deriving Repr, DecidableEq

/-- The visibility of the sheet at a place: the first one can always be seen. -/
def visibilityOf (index : Nat) (s : Sheet) : Visibility :=
  if index = 0 then .visible
  else if s.veryHidden then .veryHidden
  else if s.hidden then .hidden
  else .visible

/-- A sheet of the file. -/
structure WrittenSheet where
  name : String
  visibility : Visibility
  cells : List WrittenCell
  columns : List WrittenColumns
  choices : List (String × String)
  password : Option String
  frozenHeader : Bool
deriving Repr, DecidableEq

/-- What is written for the sheet at a place in the workbook. -/
def writtenSheet (w : Workbook) (index : Nat) (s : Sheet) : EvalM WrittenSheet := do
  let cells ← s.grid.mapM (writtenCell w index s)
  return {
    name := s.name
    visibility := visibilityOf index s
    cells := cells.filterMap id
    columns := writtenColumns s.columns
    choices := writtenChoices s.validations
    password := s.protection.map (·.password)
    frozenHeader := s.freezeHeader }

end ShipReport.Xlsx
