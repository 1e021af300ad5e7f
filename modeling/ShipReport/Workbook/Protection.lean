import ShipReport.Report.Settings
import ShipReport.Workbook.Sheet

/-!
# Protection

Which cells of a sheet the crew may edit: the headers are locked, formulas are locked and hidden
unless their column is named as editable, everything else is unlocked. A cell that has a list to
choose from must be editable; a sheet where one is not gets no protection at all.
-/

namespace ShipReport.Workbook

open Formula (Position CellRef)

/-- Why a sheet cannot be protected: a cell with a list to choose from would be locked. -/
inductive ProtectionError where
  | lockedChoice (sheet : String) (cell : String)
deriving Repr, DecidableEq

def ProtectionError.message : ProtectionError → String
  | .lockedChoice sheet cell =>
    "单元格配置不受支持 (sheet=" ++ sheet ++ ", cell=" ++ cell ++ "): 列表验证单元格被锁定"

namespace Sheet

/-- The header above a cell; empty outside the columns. -/
def headerOf (s : Sheet) (col : Nat) : String :=
  (s.columns[col]?.map (·.header)).getD ""

/-- The lock that a cell should have. -/
def lockFor (rules : Report.Rules) (s : Sheet) (p : Position) : Lock :=
  if p.row = 0 then .locked
  else
    match s.get? p with
    | some (.formula _) =>
      if rules.isEditableFormula (s.headerOf p.col) then .unlocked else .lockedHidden
    | _ => .unlocked

/-- The locks of all cells of the sheet. -/
def plan (rules : Report.Rules) (s : Sheet) : ProtectionPlan where
  password := rules.password
  locks := .ofList (s.grid.map fun p => (p, lockFor rules s p))

/-- The cells that a rule applies to. -/
def cellsOf (v : Validation) : List Position :=
  (List.range' v.firstRow (v.lastRow + 1 - v.firstRow)).map fun row => ⟨row, v.col⟩

/-- The first cell with a list to choose from that a plan locks. -/
def lockedChoice? (s : Sheet) (plan : ProtectionPlan) : Option Position :=
  s.validations.findSome? fun v => (cellsOf v).find? fun p => plan.lockOf p != .unlocked

/-- Protects the sheet. If that is not possible the sheet is left without protection, and the error
tells why. -/
def protect (rules : Report.Rules) (s : Sheet) : Sheet × Option ProtectionError :=
  let plan := s.plan rules
  match s.lockedChoice? plan with
  | some p =>
    ({ s with protection := none }, some (.lockedChoice s.name (CellRef.here p.row p.col).localText))
  | none => ({ s with protection := some plan }, none)

end Sheet

end ShipReport.Workbook
