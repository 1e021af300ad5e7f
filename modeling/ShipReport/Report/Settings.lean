import ShipReport.Report.Kind

/-!
# Settings

What can be set for all vessels or for one: the rules of the business, the layout of workbooks, and
where uploaded files are kept.
-/

namespace ShipReport.Report

/-- The rules of the business. -/
structure Rules where
  /-- The choices in the Operation column. -/
  operationTypes : List String
  /-- Words that count as nothing. -/
  placeholders : List String
  /-- How many notes of one type are offered. -/
  noteSlotLimit : Nat
  /-- The password that protects sheets. -/
  password : String
  /-- Headers of formula columns that stay editable. -/
  editableFormulas : List String
deriving Repr, DecidableEq

namespace Rules

/-- The rules when nothing is set. -/
def default : Rules where
  operationTypes := ["Sea Passage", "Maneuvering", "Port Stay", "Anchorage", "Drifting"]
  placeholders := ["N/A"]
  noteSlotLimit := 10
  password := "vessel-report"
  editableFormulas := ["Consumption (MT)"]

/-- A placeholder is recognised whatever the case of its ASCII letters and the blanks around it. -/
def isPlaceholder (r : Rules) (value : String) : Bool :=
  r.placeholders.any fun p => Text.eqIgnoringAsciiCase (Text.trim p) (Text.trim value)

/-- Decides whether the formulas under a header stay editable. -/
def isEditableFormula (r : Rules) (header : String) : Bool :=
  r.editableFormulas.contains header

end Rules

/-- The layout of workbooks. -/
structure Layout where
  /-- The last row of a standard template, counted from one. -/
  standardMaxRow : Nat
  /-- The last row of a bulk template, counted from one. -/
  bulkMaxRow : Nat
  columnWidth : Float
  helperWidth : Float
  lookupSheet : String
  tokenSheet : String
  freezeHeader : Bool
deriving Repr, DecidableEq

namespace Layout

/-- The layout when nothing is set. -/
def default : Layout where
  standardMaxRow := 100
  bulkMaxRow := 500
  columnWidth := 18
  helperWidth := 4
  lookupSheet := "Lookup"
  tokenSheet := "__token__"
  freezeHeader := true

/-- The last row of a template, counted from one. -/
def maxRow (l : Layout) : TemplateKind → Nat
  | .standard => l.standardMaxRow
  | .bulk => l.bulkMaxRow

end Layout

/-- Where exported files are kept: a root directory, and a second one that mirrors it. -/
structure Storage where
  uploadRoot : String
  mirrorRoot : Option String
deriving Repr, DecidableEq

/-- All settings together. -/
structure Settings where
  rules : Rules
  layout : Layout
  storage : Storage
deriving Repr, DecidableEq

end ShipReport.Report
