import ShipReport.Report.Sheet

/-!
# Names of staging tables and columns

Staging tables take their names from the short code of the vessel and the sheet, and their columns
from the headers. Names keep ASCII letters, digits, underscores and number signs; other characters
become underscores, which are not repeated and do not stand at the ends. Names of columns differ
without regard to case.
-/

namespace ShipReport.Submission

/-- Characters that names keep. -/
def isNameChar (c : Char) : Bool :=
  c.isAlphanum || c == '_' || c == '#'

/-- Replaces characters that names do not keep. -/
def nameChar (c : Char) : Char :=
  if isNameChar c then c else '_'

/-- Writes runs of underscores as one. -/
def collapsed : List Char → List Char
  | [] => []
  | [c] => [c]
  | c :: d :: cs =>
    if c = '_' ∧ d = '_' then collapsed (d :: cs) else c :: collapsed (d :: cs)

/-- Drops underscores at both ends. -/
def stripped (cs : List Char) : List Char :=
  ((cs.dropWhile (· == '_')).reverse.dropWhile (· == '_')).reverse

/-- The name that a text gives; it may be empty. -/
def sanitized (raw : String) : String :=
  String.ofList (stripped (collapsed ((Text.trimList raw.toList).map nameChar)))

/-- The candidates for a name that may be taken: the name itself, then the name with a number. -/
def nameCandidate (base : String) (attempt : Nat) : String :=
  if attempt = 0 then base else base ++ "_" ++ toString (attempt + 1)

/-- The first candidate whose lower case is not taken. Among more candidates than taken names one is
free. -/
def freeName (taken : List String) (base : String) : String :=
  ((List.range (taken.length + 1)).map (nameCandidate base)).find?
    (fun name => !taken.contains (Text.lowercase name)) |>.getD base

/-- The names of columns from the one with a given number on, given the lower case of the names
before them. -/
def columnNamesFrom (taken : List String) (number : Nat) : List String → List String
  | [] => []
  | header :: headers =>
    let clean := sanitized header
    let base := if clean.isEmpty then "col_" ++ toString number else clean
    let name := freeName taken base
    name :: columnNamesFrom (Text.lowercase name :: taken) (number + 1) headers

def columnNames (headers : List String) : List String :=
  columnNamesFrom [] 1 headers

/-- The name of the staging table of a vessel's sheet. -/
def stagingTable (shortCode : String) (k : Report.ReportSheet) : String :=
  let code := Text.lowercase (sanitized shortCode)
  "stg_" ++ (if code.isEmpty then "vessel" else code) ++ "_" ++ k.fileStem

end ShipReport.Submission
