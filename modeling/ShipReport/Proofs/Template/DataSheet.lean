import Mathlib.Data.List.Nodup
import ShipReport.Proofs.Formula.Pattern
import ShipReport.Proofs.Template.Lookup
import ShipReport.Proofs.Workbook.Edit
import ShipReport.Template.DataSheet

/-!
# Contents of the data sheets

Where the formulas of a data sheet stand: in every data row, in the columns that are not for input.
The formulas of a row look at cells of the same row, at the lookup sheet, at the voyage number of
the same row on the Voyage sheet, and at the carried number in the row above. Most formulas look at
no other formula of their row; the few others look only at such formulas.
-/

namespace ShipReport.Template

open Formula (CellRef Expr Position RangeRef)
open Report
open Workbook (Cell ChoiceSource Sheet columnNumber)

variable {lk : Lookup} {rules : Rules} {layout : Layout} {maxRow : Nat} {k : ReportSheet}

/-- Adding choices changes nothing but the rules of a sheet. -/
lemma addChoices_all (s : Sheet) (choices : List (Nat × ChoiceSource)) :
    choices.foldl (fun s (col, source) => s.addChoices col source) s =
      { s with validations := s.validations ++
          choices.map fun (col, source) => ⟨col, 1, s.lastDataRow, source⟩ } := by
  induction choices generalizing s with
  | nil => simp
  | cons c cs ih =>
    rw [List.foldl_cons, ih]
    simp [Sheet.addChoices, Sheet.lastDataRow]

/-- A data sheet is an empty sheet with formulas and choices. -/
lemma dataSheet_eq : dataSheet lk rules layout maxRow k =
    { (Sheet.new k.title (some k) (sheetColumns layout k) maxRow).setAll
        (formulaCells (rowFormulas lk k) (List.range' 1 (max maxRow 1 - 1))) with
      validations := (sheetChoices lk rules k).map fun (col, source) =>
        ⟨col, 1, max maxRow 1 - 1, source⟩
      freezeHeader := layout.freezeHeader } := by
  unfold dataSheet
  simp only [addChoices_all]
  rfl

/-- The columns of a report sheet are counted without a remainder. -/
lemma columnNumber_sheetColumns (layout : Layout) (k : ReportSheet) :
    columnNumber (sheetColumns layout k).length = k.columns.length := by
  rw [sheetColumns, List.length_map]
  cases k <;> rfl

/-- The columns of a report sheet that hold formulas, in the order in which they are written. -/
def formulaColumns : ReportSheet → List Nat
  | .voyage => [1, 5, 8, 12, 13]
  | .machinery => [13, 0, 2, 3, 6, 9, 14, 11]
  | .lubeOil => [8, 0, 2, 4, 9]
  | .bunkering => [11, 0, 2, 5, 8, 9]

/-- Every row has formulas in the same columns. -/
lemma rowFormulas_columns (lk : Lookup) (k : ReportSheet) (row : Nat) :
    (rowFormulas lk k row).map (·.1) = formulaColumns k := by
  cases k <;> rfl

/-- No column has two formulas. -/
lemma formulaColumns_distinct (k : ReportSheet) : (formulaColumns k).Nodup := by
  cases k <;> decide

/-- Formulas stand in the columns that are not for input. -/
lemma mem_formulaColumns {k : ReportSheet} {col : Nat} :
    col ∈ formulaColumns k ↔ ∃ c, k.columns[col]? = some c ∧ c.role ≠ .input := by
  have within : ∀ col < k.columns.length,
      (col ∈ formulaColumns k ↔ (k.columns[col]?.map (·.role)).getD .input ≠ .input) := by
    cases k <;> decide
  have bound : ∀ col ∈ formulaColumns k, col < k.columns.length := by
    cases k <;> decide
  by_cases hcol : col < k.columns.length
  · rw [within col hcol, List.getElem?_eq_getElem hcol]
    simp
  · rw [List.getElem?_eq_none (by omega)]
    exact ⟨fun h => absurd (bound col h) hcol, nofun⟩

/-- The driver of a row is for input. -/
lemma driver_column (k : ReportSheet) : k.driver ∉ formulaColumns k := by
  cases k <;> decide

/-- The formulas of a row stand in the columns of formulas. -/
lemma column_of_rowFormulas {row col : Nat} {e : Expr} (h : (col, e) ∈ rowFormulas lk k row) :
    col ∈ formulaColumns k := by
  rw [← rowFormulas_columns lk k row]
  exact List.mem_map_of_mem h

/-- A row has a formula in every column that holds formulas. -/
lemma exists_rowFormulas {col : Nat} (h : col ∈ formulaColumns k) (row : Nat) :
    ∃ e, (col, e) ∈ rowFormulas lk k row := by
  rw [← rowFormulas_columns lk k row] at h
  obtain ⟨⟨_, e⟩, he, rfl⟩ := List.mem_map.mp h
  exact ⟨e, he⟩

/-- A row has at most one formula in a column. -/
lemma rowFormulas_unique {row col : Nat} {e e' : Expr} (h : (col, e) ∈ rowFormulas lk k row)
    (h' : (col, e') ∈ rowFormulas lk k row) : e = e' := by
  have distinct := formulaColumns_distinct k
  rw [← rowFormulas_columns lk k row] at distinct
  exact congrArg Prod.snd (List.inj_on_of_nodup_map distinct h h' rfl)

/-- A formula is among the cells of several rows if it is a formula of one of them. -/
lemma mem_formulaCells {rows : List Nat} {p : Position} {c : Cell} :
    (p, c) ∈ formulaCells (rowFormulas lk k) rows ↔
      p.row ∈ rows ∧ ∃ e, (p.col, e) ∈ rowFormulas lk k p.row ∧ c = .formula e := by
  unfold formulaCells
  simp only [List.mem_flatMap, List.mem_map, Prod.mk.injEq, Prod.exists]
  constructor
  · rintro ⟨row, hrow, col, e, he, rfl, rfl⟩
    exact ⟨hrow, e, he, rfl⟩
  · rintro ⟨hrow, e, he, rfl⟩
    exact ⟨p.row, hrow, p.col, e, he, rfl, rfl⟩

/-- A formula stands in a cell of a data sheet if and only if it is a formula of a data row. -/
theorem dataSheet_formula {p : Position} {e : Expr} :
    (dataSheet lk rules layout maxRow k).get? p = some (.formula e) ↔
      0 < p.row ∧ p.row < maxRow ∧ (p.col, e) ∈ rowFormulas lk k p.row := by
  have row : p.row ∈ List.range' 1 (max maxRow 1 - 1) ↔ 0 < p.row ∧ p.row < maxRow := by
    rw [List.mem_range'_1]
    omega
  rw [dataSheet_eq]
  change (Sheet.setAll _ _).get? p = _ ↔ _
  constructor
  · intro h
    rcases Sheet.mem_of_get?_setAll h with h | ⟨-, h⟩
    · obtain ⟨hrow, e', he, heq⟩ := mem_formulaCells.mp h
      obtain rfl := Cell.formula.inj heq
      exact ⟨(row.mp hrow).1, (row.mp hrow).2, he⟩
    · obtain ⟨-, _, heq⟩ := Sheet.get?_new h
      cases heq
  · rintro ⟨hpos, hlt, he⟩
    -- no other formula is written to the cell
    refine Sheet.get?_setAll_of_mem (mem_formulaCells.mpr ⟨row.mpr ⟨hpos, hlt⟩, e, he, rfl⟩) ?_
    intro d hd
    obtain ⟨-, e', he', rfl⟩ := mem_formulaCells.mp hd
    rw [rowFormulas_unique he he']

/-- A data row has a formula in every column that holds formulas. -/
lemma dataSheet_filled {row col : Nat} (hrow : 0 < row) (hmax : row < maxRow)
    (hcol : col ∈ formulaColumns k) :
    ∃ e, (dataSheet lk rules layout maxRow k).get? ⟨row, col⟩ = some (.formula e) := by
  obtain ⟨e, he⟩ : ∃ e, (col, e) ∈ rowFormulas lk k row := exists_rowFormulas hcol row
  exact ⟨e, dataSheet_formula.mpr ⟨hrow, hmax, he⟩⟩

/-- Nothing but formulas stands below the headers. -/
lemma dataSheet_blank {row col : Nat} (hrow : 0 < row) (hcol : col ∉ formulaColumns k) :
    (dataSheet lk rules layout maxRow k).get? ⟨row, col⟩ = none := by
  rw [dataSheet_eq]
  refine Option.eq_none_iff_forall_ne_some.mpr fun c hc => ?_
  rcases Sheet.mem_of_get?_setAll hc with hc | ⟨-, hc⟩
  · obtain ⟨-, e, he, -⟩ := mem_formulaCells.mp hc
    exact hcol (column_of_rowFormulas he)
  · exact absurd (Sheet.get?_new hc).1 (Nat.pos_iff_ne_zero.mp hrow)

/-- The columns whose formulas look at other formulas of their row. -/
def compositeColumns : ReportSheet → List Nat
  | .voyage => [13]
  | .machinery => [0, 11]
  | .lubeOil => [0]
  | .bunkering => [0, 9]

/-- The column that carries the voyage number; the Voyage sheet has none. -/
def carryColumn : ReportSheet → Option Nat
  | .voyage => none
  | .machinery => some MachineryColumn.voyageCarry
  | .lubeOil => some LubeOilColumn.voyageCarry
  | .bunkering => some BunkeringColumn.voyageCarry

/-- The first column of a sheet that carries the voyage number shows it. -/
def shownColumn : Nat := 0

/-- Of the two formulas for the voyage number, only the one that shows it is a composite one. -/
lemma shown_composite {carry : Nat} (h : carryColumn k = some carry) :
    shownColumn ∈ compositeColumns k := by
  cases k <;> cases h <;> decide

/-- The formula that carries down looks at no other formula of its row. -/
lemma carry_simple {carry : Nat} (h : carryColumn k = some carry) : carry ∉ compositeColumns k := by
  cases k <;> cases h <;> decide

/-- Of the formulas that bring the voyage number into a row, the one that carries it looks at the
number of the row on the Voyage sheet and at the number carried in the row above, and the one that
shows it at the driver and the carried number of the row. -/
lemma voyageFormulas_reads {index : String → Option Nat} {i : Nat} {A : Nat → Position → Prop}
    {row col visible carry driver : Nat} {e : Expr}
    (he : (col, e) ∈ voyageFormulas row visible carry (cellAt row driver))
    (voyage : col = carry → ∀ j, index ReportSheet.voyage.title = some j →
      A j ⟨row, VoyageColumn.voyageNo⟩)
    (above : col = carry → 1 < row → A i ⟨row - 1, carry⟩) (hdriver : A i ⟨row, driver⟩)
    (hcarry : col = visible → A i ⟨row, carry⟩) : e.ReadsWithin index i A := by
  simp only [voyageFormulas, List.mem_cons, Prod.mk.injEq, List.not_mem_nil, or_false] at he
  rcases he with ⟨hcol, rfl⟩ | ⟨hcol, rfl⟩
  · have above := above hcol
    have voyage := voyage hcol
    have source :
        (Expr.cell (.onSheet ReportSheet.voyage.title row VoyageColumn.voyageNo)).ReadsWithin
          index i A := by
      simpa [Expr.ReadsWithin, RangeRef.Within, CellRef.onSheet, RangeRef.cell,
        RangeRef.positions, RangeRef.rows, RangeRef.cols, RangeRef.cellAt, CellRef.position]
        using voyage
    simpa [cellAt, CellRef.inColumn, source] using above
  · simpa [valueAt, cellAt, CellRef.inColumn, hdriver] using hcarry hcol

/-- A formula of a row looks at the lookup sheet and at cells of the row: at input cells, and, if it
is a composite one, at formulas that are not. Only the formula that carries the voyage number looks
at the Voyage sheet and at the row above, and only the one that shows it at the carried number. -/
lemma rowFormulas_reads {index : String → Option Nat} {i : Nat} {A : Nat → Position → Prop}
    {row col : Nat} {e : Expr} (he : (col, e) ∈ rowFormulas lk k row)
    (lookup : ∀ r ∈ lk.formulaRanges, r.Within index i A)
    (voyage : carryColumn k = some col → ∀ j, index ReportSheet.voyage.title = some j →
      A j ⟨row, VoyageColumn.voyageNo⟩)
    (above : carryColumn k = some col → 1 < row → A i ⟨row - 1, col⟩)
    (input : ∀ c, c ∉ formulaColumns k → A i ⟨row, c⟩)
    (carried : col = shownColumn → ∀ c, carryColumn k = some c → A i ⟨row, c⟩)
    (simple : col ∈ compositeColumns k → ∀ c, c ∉ compositeColumns k → carryColumn k ≠ some c →
      A i ⟨row, c⟩) :
    e.ReadsWithin index i A := by
  simp only [Lookup.formulaRanges, List.forall_mem_cons] at lookup
  -- the child sheets begin with the formulas that carry the voyage number
  cases k with
  | voyage =>
    simp only [rowFormulas, voyageRow, List.mem_cons, Prod.mk.injEq, List.not_mem_nil,
      or_false] at he
    rcases he with ⟨rfl, rfl⟩ | ⟨rfl, rfl⟩ | ⟨rfl, rfl⟩ | ⟨rfl, rfl⟩ | ⟨rfl, rfl⟩ <;>
      simp (disch := decide) [valueAt, cellAt, CellRef.inColumn, lookup, input, simple, product,
        difference, quotient]
  | machinery =>
    rcases List.mem_append.mp he with he | he
    · exact voyageFormulas_reads he (fun h => voyage (by rw [h]; rfl))
        (fun h => h ▸ above (by rw [h]; rfl)) (input _ (by decide)) fun hcol => carried hcol _ rfl
    · simp only [List.mem_cons, Prod.mk.injEq, List.not_mem_nil, or_false] at he
      rcases he with ⟨rfl, rfl⟩ | ⟨rfl, rfl⟩ | ⟨rfl, rfl⟩ | ⟨rfl, rfl⟩ | ⟨rfl, rfl⟩ |
        ⟨rfl, rfl⟩ <;>
        simp (disch := decide) [valueAt, cellAt, CellRef.inColumn, lookup, input, simple, product,
          difference, quotient, consumptionFormula]
  | lubeOil =>
    rcases List.mem_append.mp he with he | he
    · exact voyageFormulas_reads he (fun h => voyage (by rw [h]; rfl))
        (fun h => h ▸ above (by rw [h]; rfl)) (input _ (by decide)) fun hcol => carried hcol _ rfl
    · simp only [List.mem_cons, Prod.mk.injEq, List.not_mem_nil, or_false] at he
      rcases he with ⟨rfl, rfl⟩ | ⟨rfl, rfl⟩ | ⟨rfl, rfl⟩ <;>
        simp (disch := decide) [valueAt, cellAt, CellRef.inColumn, lookup, input]
  | bunkering =>
    rcases List.mem_append.mp he with he | he
    · exact voyageFormulas_reads he (fun h => voyage (by rw [h]; rfl))
        (fun h => h ▸ above (by rw [h]; rfl)) (input _ (by decide)) fun hcol => carried hcol _ rfl
    · simp only [List.mem_cons, Prod.mk.injEq, List.not_mem_nil, or_false] at he
      rcases he with ⟨rfl, rfl⟩ | ⟨rfl, rfl⟩ | ⟨rfl, rfl⟩ | ⟨rfl, rfl⟩ <;>
        simp (disch := decide) [valueAt, cellAt, CellRef.inColumn, lookup, input, simple, sum]

end ShipReport.Template
