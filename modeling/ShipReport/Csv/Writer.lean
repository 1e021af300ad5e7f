/-!
# Writing CSV

Records of fields separated by commas, each record ended by carriage return and line feed. A field
is quoted if it holds a comma, a quote or a line end, with inner quotes doubled. A record that would
be an empty line is written as an empty quoted field. All records have as many fields as the first;
writing stops inside the first record that has not.
-/

namespace ShipReport.Csv

def lineEnd : String := "\r\n"

/-- Decides whether a character makes quotes necessary. -/
def isSpecial (c : Char) : Bool :=
  c == ',' || c == '"' || c == '\r' || c == '\n'

/-- A field between quotes, inner quotes doubled. -/
def quoted (cs : List Char) : List Char :=
  '"' :: (cs.flatMap fun c => if c = '"' then ['"', '"'] else [c]) ++ ['"']

/-- A field as it is written. -/
def field (s : String) : String :=
  if s.toList.any isSpecial then String.ofList (quoted s.toList) else s

/-- The fields of a record, without the end of the line. -/
def fields (record : List String) : String :=
  ",".intercalate (record.map field)

/-- A record with the end of its line. -/
def line (record : List String) : String :=
  (if record = [] ∨ record = [""] then "\"\"" else fields record) ++ lineEnd

/-- A record whose number of fields differs from the records before it. -/
structure LengthMismatch where
  found : Nat
  expected : Nat
deriving Repr, DecidableEq

def LengthMismatch.message (m : LengthMismatch) : String :=
  "CSV error: found record with " ++ toString m.found ++
    " fields, but the previous record has " ++ toString m.expected ++ " fields"

/-- What was written, and what stopped the writing if something did. -/
structure Output where
  text : String
  failure : Option LengthMismatch
deriving Repr, DecidableEq

/-- Writes records that have to have a given number of fields. -/
def writeRecords (width : Nat) : List (List String) → Output
  | [] => ⟨"", none⟩
  | record :: records =>
    if record.length = width then
      let rest := writeRecords width records
      ⟨line record ++ rest.text, rest.failure⟩
    else ⟨fields record, some ⟨record.length, width⟩⟩

def write (headers : List String) (rows : List (List String)) : Output :=
  writeRecords headers.length (headers :: rows)

end ShipReport.Csv
