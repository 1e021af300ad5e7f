/-!
# Limits of the file format

What keeps a workbook from being written to an xlsx file, and the messages for it.
-/

namespace ShipReport.Xlsx

/-- Why a workbook cannot be written. -/
inductive RenderError where
  | nameBlank (name : String)
  | nameTooLong (name : String)
  | nameInvalid (name : String)
  | nameQuoted (name : String)
  | nameReused (lowercaseName : String)
  | outsideLimits
  | textTooLong
  | choicesTooLong (length : Nat) (joined : String)
  | rowsReversed
deriving Repr, DecidableEq

/-- How messages name the attempt to give a sheet its name. -/
def nameAttempt (name : String) : String :=
  "Worksheet name 'worksheet.set_name(\"" ++ name ++ "\")'"

def RenderError.message : RenderError → String
  | .nameBlank name => nameAttempt name ++ " cannot be blank."
  | .nameTooLong name => nameAttempt name ++ " exceeds Excel's limit of 31 characters."
  | .nameInvalid name =>
    nameAttempt name ++ " cannot contain invalid characters: '[ ] : * ? / \\'."
  | .nameQuoted name => nameAttempt name ++ " cannot start or end with an apostrophe."
  | .nameReused name => "Worksheet name '" ++ name ++ "' has already been used in this workbook."
  | .outsideLimits => "Row or column exceeds Excel's allowed limits (1,048,576 x 16,384)."
  | .textTooLong => "String exceeds Excel's limit of 32,767 characters."
  | .choicesTooLong length joined =>
    "Data validation error: 'Validation list length '" ++ toString length ++
      "' including commas is greater than Excel's limit of 255 characters: " ++ joined ++ "'."
  | .rowsReversed => "First row or column in range is greater than last row or column."

end ShipReport.Xlsx
