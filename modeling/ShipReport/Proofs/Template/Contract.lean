import Mathlib.Data.List.TakeWhile
import ShipReport.Proofs.Template.Gate
import ShipReport.Proofs.Workbook.Protection

/-!
# Columns, formulas and locks

The contract of a report sheet says who fills each column. The sheet that is built keeps it in every
data row: formulas stand in the columns that are not for input, and only there, and all of them are
locked unless the rules say otherwise. So the columns in which something is chosen are unlocked,
which is why every report sheet can be protected, whatever the rules are.
-/

namespace ShipReport.Template

open Formula (Position)
open Report
open Workbook (Column ProtectionPlan Sheet Validation columnNumber)

/-- A sheet keeps the contract of a report sheet in the data rows before a row. -/
structure KeepsContract (rules : Rules) (rows : Nat) (k : ReportSheet) (s : Sheet)
    (plan : ProtectionPlan) : Prop where
  planned : s.protection = some plan
  /-- Formulas stand in the columns that are not for input. -/
  formula : ∀ {row col : Nat} {c : ColumnSpec}, 0 < row → row < rows → k.columns[col]? = some c →
    ((∃ e, s.get? ⟨row, col⟩ = some (.formula e)) ↔ c.role = .computed ∨ c.role = .helper)
  /-- The columns for input are empty. -/
  blank : ∀ {row col : Nat} {c : ColumnSpec}, 0 < row → row < rows → k.columns[col]? = some c →
    c.role = .input → s.get? ⟨row, col⟩ = none
  /-- Unlocked are the columns for input and those that the rules name. -/
  unlocked : ∀ {row col : Nat} {c : ColumnSpec}, 0 < row → row < rows → k.columns[col]? = some c →
    (plan.lockOf ⟨row, col⟩ = .unlocked ↔ c.role = .input ∨ c.header ∈ rules.editableFormulas)
  /-- Whatever is chosen from a list can be edited. -/
  choosable : ∀ v ∈ s.validations, ∀ p, v.covers p → plan.lockOf p = .unlocked
  /-- Helper columns are not exported. -/
  helpers : ∀ {col : Nat} {c : ColumnSpec}, k.columns[col]? = some c → c.role = .helper →
    k.columnLimit ≤ col

/-- The columns of a report sheet that offer choices. -/
def choiceColumns : ReportSheet → List Nat
  | .voyage => [0, 3, 4, 7, 10]
  | .machinery => [1, 8, 10]
  | .lubeOil => [1, 3, 5]
  | .bunkering => [1, 4]

variable {lk : Lookup} {rules : Rules} {layout : Layout} {maxRow : Nat} {k : ReportSheet}

/-- The columns with choices are those of the sheet. -/
lemma sheetChoices_columns (lk : Lookup) (rules : Rules) (k : ReportSheet) :
    (sheetChoices lk rules k).map (·.1) = choiceColumns k := by
  cases k <;> rfl

/-- Choices are offered in columns for input. -/
lemma choiceColumns_input {col : Nat} (h : col ∈ choiceColumns k) :
    ∃ c, k.columns[col]? = some c ∧ c.role = .input := by
  have roles : ∀ col ∈ choiceColumns k, k.columns[col]?.map (·.role) = some .input := by
    cases k <;> decide
  exact Option.map_eq_some_iff.mp (roles col h)

/-- The exported columns end before the first helper. -/
lemma columnLimit_le_helper {col : Nat} {c : ColumnSpec} (hc : k.columns[col]? = some c)
    (hrole : c.role = .helper) : k.columnLimit ≤ col := by
  by_contra hlt
  obtain ⟨hcol, rfl⟩ := List.getElem?_eq_some_iff.mp hc
  have hexport : col < k.exportColumns.length := Nat.lt_of_not_le hlt
  have same : k.exportColumns[col] = k.columns[col] :=
    (List.takeWhile_prefix _).getElem hexport
  have exported := List.mem_takeWhile_imp (List.getElem_mem hexport)
  rw [same, hrole] at exported
  cases exported

/-- The header over a column of a data sheet is that of the contract. -/
lemma dataSheet_header {col : Nat} {c : ColumnSpec} (hc : k.columns[col]? = some c) :
    (dataSheet lk rules layout maxRow k).headerOf col = c.header := by
  rw [dataSheet_eq]
  change ((sheetColumns layout k)[col]?.map (·.header)).getD "" = c.header
  simp [sheetColumns, hc]

/-- A cell inside the contract of a data sheet is one of its grid. -/
lemma dataSheet_grid {row col : Nat} {c : ColumnSpec} (hmax : row < maxRow)
    (hc : k.columns[col]? = some c) :
    ⟨row, col⟩ ∈ (dataSheet lk rules layout maxRow k).grid := by
  rw [dataSheet_eq, Sheet.mem_grid]
  change row < max maxRow 1 ∧ col < columnNumber (sheetColumns layout k).length
  rw [columnNumber_sheetColumns]
  have inside := (List.getElem?_eq_some_iff.mp hc).1
  exact ⟨by omega, inside⟩

/-- The plan of a data sheet unlocks the columns for input and those that the rules name. -/
lemma dataSheet_unlocked {row col : Nat} {c : ColumnSpec} (hrow : 0 < row) (hmax : row < maxRow)
    (hc : k.columns[col]? = some c) :
    ((dataSheet lk rules layout maxRow k).plan rules).lockOf ⟨row, col⟩ = .unlocked ↔
      c.role = .input ∨ c.header ∈ rules.editableFormulas := by
  rw [Sheet.plan_lockOf (dataSheet_grid hmax hc), Sheet.lockFor_unlocked (Nat.ne_of_gt hrow),
    dataSheet_header hc, Rules.isEditableFormula, List.contains_iff_mem]
  by_cases hcol : col ∈ formulaColumns k
  · obtain ⟨c', hc', hrole⟩ := mem_formulaColumns.mp hcol
    obtain rfl := Option.some.inj (hc.symm.trans hc')
    simp [dataSheet_filled hrow hmax hcol, hrole]
  · have hrole : c.role = .input := by
      by_contra hrole
      exact hcol (mem_formulaColumns.mpr ⟨c, hc, hrole⟩)
    simp [dataSheet_blank hrow hcol, hrole]

/-- Every cell of a data sheet with a list to choose from is unlocked. -/
lemma dataSheet_choosable :
    ∀ v ∈ (dataSheet lk rules layout maxRow k).validations, ∀ p, v.covers p →
      ((dataSheet lk rules layout maxRow k).plan rules).lockOf p = .unlocked := by
  intro v hv p hp
  rw [dataSheet_eq] at hv
  obtain ⟨⟨col, source⟩, hmem, rfl⟩ := List.mem_map.mp hv
  have offered : col ∈ choiceColumns k := by
    rw [← sheetChoices_columns lk rules k]
    exact List.mem_map_of_mem hmem
  obtain ⟨c, hc, hrole⟩ := choiceColumns_input offered
  simp only [Validation.covers, Bool.and_eq_true, beq_iff_eq, decide_eq_true_eq] at hp
  obtain ⟨rfl, hfirst, hlast⟩ := hp
  have hrow : 0 < p.row := hfirst
  exact (dataSheet_unlocked hrow (by omega) hc).mpr (.inl hrole)

/-- A data sheet can be protected by its plan. -/
lemma dataSheet_protect : (dataSheet lk rules layout maxRow k).protect rules =
    ({ dataSheet lk rules layout maxRow k with
        protection := some ((dataSheet lk rules layout maxRow k).plan rules) }, none) :=
  Sheet.protect_of_unlocked dataSheet_choosable

/-- A protected data sheet keeps its contract. -/
lemma dataSheet_keepsContract : KeepsContract rules maxRow k
    ((dataSheet lk rules layout maxRow k).protect rules).1
    ((dataSheet lk rules layout maxRow k).plan rules) := by
  rw [dataSheet_protect]
  have notInput : ∀ {c : ColumnSpec}, c.role ≠ .input ↔ c.role = .computed ∨ c.role = .helper :=
    fun {c} => by cases c.role <;> simp
  refine ⟨rfl, fun {row col c} hrow hmax hc => ?_, fun {row col c} hrow hmax hc hrole => ?_,
    dataSheet_unlocked, dataSheet_choosable, columnLimit_le_helper⟩
  · change (∃ e, (dataSheet lk rules layout maxRow k).get? _ = _) ↔ _
    rw [← notInput]
    constructor
    · rintro ⟨e, he⟩
      obtain ⟨c', hc', hrole⟩ :=
        mem_formulaColumns.mp (column_of_rowFormulas (dataSheet_formula.mp he).2.2)
      obtain rfl := Option.some.inj (hc.symm.trans hc')
      exact hrole
    · exact fun hrole => dataSheet_filled hrow hmax (mem_formulaColumns.mpr ⟨c, hc, hrole⟩)
  · change (dataSheet lk rules layout maxRow k).get? _ = none
    refine dataSheet_blank hrow fun hcol => ?_
    obtain ⟨c', hc', hinput⟩ := mem_formulaColumns.mp hcol
    obtain rfl := Option.some.inj (hc.symm.trans hc')
    exact hinput hrole

/-- The report sheets of a template are those that carry a kind. -/
lemma build_sheet_of_kind {catalog : Catalog} {kind : TemplateKind} {token : UploadToken}
    {s : Sheet} (hs : s ∈ (build catalog kind rules layout token).workbook.sheets)
    (hk : s.kind = some k) : s = ((builtSheet catalog kind rules layout k).protect rules).1 := by
  obtain ⟨i, hi⟩ := List.mem_iff_getElem?.mp hs
  rcases build_sheet_cases hi with ⟨k', -, rfl⟩ | rfl | rfl
  · rw [builtSheet, dataSheet_protect, dataSheet_eq] at hk
    obtain rfl : k' = k := Option.some.inj hk
    rfl
  · cases hk
  · cases hk

/-- Every report sheet of a template is protected and keeps its contract, whatever the catalog, the
rules and the layout are. -/
theorem columns_formulas_locks_agree (catalog : Catalog) (kind : TemplateKind) (rules : Rules)
    (layout : Layout) (token : UploadToken) :
    (build catalog kind rules layout token).unprotected = [] ∧
      (∀ k : ReportSheet, ∃ s,
        (build catalog kind rules layout token).workbook.sheet? k.title = some s ∧
          s.kind = some k) ∧
      ∀ s ∈ (build catalog kind rules layout token).workbook.sheets, ∀ k, s.kind = some k →
        ∃ plan, KeepsContract rules (layout.maxRow kind) k s plan := by
  refine ⟨?_, fun k => ?_, fun s hs k hk => ?_⟩
  · unfold build
    dsimp only
    rw [List.filterMap_map, List.filterMap_eq_nil_iff]
    intro k _
    simp only [Function.comp_apply, dataSheet_protect, Option.map_none]
  · refine ⟨((builtSheet catalog kind rules layout k).protect rules).1, ?_, ?_⟩
    · rw [Workbook.sheet?_eq, build_sheetIndex]
      exact build_sheet k
    · rw [builtSheet, dataSheet_protect, dataSheet_eq]
      rfl
  · rw [build_sheet_of_kind hs hk]
    exact ⟨_, dataSheet_keepsContract⟩

/-- On the Machinery sheet of the vessel the formula for the consumption stays editable, and the one
for the running hours does not. -/
theorem columns_formulas_locks_machinery :
    ∃ s ∈ Sample.workbook.sheets, s.kind = some .machinery ∧ ∃ plan, s.protection = some plan ∧
      plan.lockOf ⟨2, MachineryColumn.consumption⟩ = .unlocked ∧
      plan.lockOf ⟨2, MachineryColumn.runningHours⟩ ≠ .unlocked := by
  obtain ⟨-, present, kept⟩ := columns_formulas_locks_agree Sample.catalog .standard .default
    Sample.layout Sample.token
  obtain ⟨s, hs, hk⟩ := present .machinery
  have listed : s ∈ Sample.workbook.sheets := List.mem_of_find?_eq_some hs
  obtain ⟨plan, contract⟩ := kept s listed _ hk
  refine ⟨s, listed, hk, plan, contract.planned, ?_, ?_⟩
  · exact (contract.unlocked (by decide) (by decide) rfl).mpr (.inr (by decide))
  · exact fun h => absurd ((contract.unlocked (by decide) (by decide) rfl).mp h) (by decide)

end ShipReport.Template
