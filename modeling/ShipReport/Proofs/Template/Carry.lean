import Mathlib.Data.Nat.Init
import ShipReport.Proofs.Template.Gate

/-!
# The carried voyage number

The hidden column of a sheet carries the voyage number down: in each row it holds the number that
was entered last on the Voyage sheet, in that row or above. The visible column shows it as soon as
the driver of the row is filled.
-/

namespace ShipReport.Template

open Formula (CellRef Expr Grid Position Value)
open Formula.Pattern (gated carryDown)
open Report
open Workbook (Cell Edit)

/-- The two formulas that bring the voyage number into a row. -/
lemma mem_voyageFormulas (lk : Lookup) {k : ReportSheet} {carry : Nat}
    (hk : carryColumn k = some carry) (row : Nat) :
    (carry, carryDown (.onSheet ReportSheet.voyage.title row VoyageColumn.voyageNo)
        (if 1 < row then some (cellAt (row - 1) carry) else none)) ∈ rowFormulas lk k row ∧
      (shownColumn, gated (cellAt row k.driver) (valueAt row carry)) ∈ rowFormulas lk k row := by
  cases k <;> cases hk <;>
    simp [rowFormulas, machineryRow, lubeOilRow, bunkeringRow, voyageFormulas, shownColumn,
      ReportSheet.driver]

section

variable {catalog : Catalog} {kind : TemplateKind} {rules : Rules} {layout : Layout}
  {token : UploadToken} {w : Workbook}
  (hw : (build catalog kind rules layout token).workbook.EditOf w)
  (hname : ∀ k : ReportSheet, layout.lookupSheet ≠ k.title)
  {k : ReportSheet} {carry : Nat} (hk : carryColumn k = some carry)

include hw hname hk

/-- The carried number of a row is the one entered in the row, or else that of the row above. -/
lemma carry_step {n : Nat} (hn : 0 < n) (hmax : n < layout.maxRow kind) :
    Grid.Layered.values w.grid (place k) ⟨n, carry⟩ =
      match w.entry? ReportSheet.voyage.title ⟨n, VoyageColumn.voyageNo⟩ with
      | some v => v
      | none =>
        if 1 < n then Grid.Layered.values w.grid (place k) ⟨n - 1, carry⟩ else .text "" := by
  have formula : ∀ m, 0 < m → m < layout.maxRow kind →
      w.grid.content (place k) ⟨m, carry⟩ = some (.formula _) := fun m hm hmax =>
    (edited_formula hw).mpr ⟨k, rfl, hm, hmax, (mem_voyageFormulas _ hk m).1⟩
  -- the number of the row on the Voyage sheet
  have source : (Expr.cell (.onSheet ReportSheet.voyage.title n VoyageColumn.voyageNo)).valueUnder
      w.grid.sheetIndex (Grid.Layered.values w.grid) (place k) =
        Grid.Layered.values w.grid (place .voyage) ⟨n, VoyageColumn.voyageNo⟩ :=
    Expr.valueUnder_cell_of_sheet (edited_index hw .voyage)
  have hσ := edited_solves hw hname
  rw [hσ.formula (formula n hn hmax)]
  have hcol : VoyageColumn.voyageNo ∉ formulaColumns .voyage := by decide
  rcases input_value hw hname n hcol with ⟨hnone, hblank⟩ | ⟨hsome, hblank, hfault⟩
  · have hfault := Value.isFault_of_isBlank hblank
    rw [hnone, Formula.Pattern.carryDown_value (by rw [source]; exact hfault), source,
      if_pos hblank]
    by_cases h1 : 1 < n
    · simp only [h1, if_true, cellAt, CellRef.inColumn, Expr.valueUnder_cell]
      -- above stands a formula as well, whose value is never absent
      exact Grid.settled_of_ne (hσ.formula_ne_empty (formula (n - 1) (by omega) (by omega)))
    · simp only [h1, if_false]
      rfl
  · rw [hsome, Formula.Pattern.carryDown_value (by rw [source]; exact hfault), source]
    rw [hblank, if_neg Bool.false_ne_true]
    refine Grid.settled_of_ne fun hempty => ?_
    rw [hempty] at hblank
    cases hblank

/-- The carried number is the last one that was entered in the row or above. -/
lemma carry_of_entered {m n : Nat} {v : Value} (hm : 0 < m) (hmn : m ≤ n)
    (hmax : n < layout.maxRow kind)
    (hv : w.entry? ReportSheet.voyage.title ⟨m, VoyageColumn.voyageNo⟩ = some v)
    (last : ∀ j, m < j → j ≤ n →
      w.entry? ReportSheet.voyage.title ⟨j, VoyageColumn.voyageNo⟩ = none) :
    Grid.Layered.values w.grid (place k) ⟨n, carry⟩ = v := by
  -- the number is copied from row to row below the entry
  induction n, hmn using Nat.le_induction with
  | base => rw [carry_step hw hname hk hm hmax, hv]
  | succ n hmn ih =>
    rw [carry_step hw hname hk (Nat.succ_pos n) hmax, last (n + 1) (by omega) (Nat.le_refl _)]
    simp only [show 1 < n + 1 by omega, if_true]
    exact ih (by omega) fun j hj hjn => last j hj (by omega)

/-- While no number was entered, the carried number is the empty text. -/
lemma carry_of_none {n : Nat} (hn : 0 < n) (hmax : n < layout.maxRow kind)
    (none : ∀ j, 0 < j → j ≤ n →
      w.entry? ReportSheet.voyage.title ⟨j, VoyageColumn.voyageNo⟩ = none) :
    Grid.Layered.values w.grid (place k) ⟨n, carry⟩ = .text "" := by
  induction n, hn using Nat.le_induction with
  | base =>
    rw [carry_step hw hname hk Nat.one_pos hmax, none 1 Nat.one_pos (Nat.le_refl _)]
    rfl
  | succ n hn ih =>
    rw [carry_step hw hname hk (Nat.succ_pos n) hmax, none (n + 1) (by omega) (Nat.le_refl _)]
    simp only [show 1 < n + 1 by omega, if_true]
    exact ih (by omega) fun j hj hjn => none j hj (by omega)

/-- A carried number that is there stays there. -/
lemma carry_stays {n m : Nat} (hn : 0 < n) (hnm : n ≤ m) (hmax : m < layout.maxRow kind)
    (h : Grid.Layered.values w.grid (place k) ⟨n, carry⟩ ≠ .text "") :
    Grid.Layered.values w.grid (place k) ⟨m, carry⟩ ≠ .text "" := by
  induction m, hnm using Nat.le_induction with
  | base => exact h
  | succ m hnm ih =>
    rw [carry_step hw hname hk (Nat.succ_pos m) hmax]
    cases hv : w.entry? ReportSheet.voyage.title ⟨m + 1, VoyageColumn.voyageNo⟩ with
    | none =>
      simp only [show 1 < m + 1 by omega, if_true]
      exact ih (by omega)
    | some v =>
      rintro rfl
      exact absurd (Workbook.isBlank_of_entry? hv) (by decide)

/-- When the driver of a row is filled, the row shows the carried number. -/
lemma shown_of_driver {n : Nat} (hn : 0 < n) (hmax : n < layout.maxRow kind)
    (hdriver : w.entry? k.title ⟨n, k.driver⟩ ≠ none) :
    Grid.Layered.values w.grid (place k) ⟨n, shownColumn⟩ =
      Grid.Layered.values w.grid (place k) ⟨n, carry⟩ := by
  obtain ⟨hcarry, hshown⟩ := mem_voyageFormulas (.ofCatalog catalog layout.lookupSheet) hk n
  have carried : w.grid.content (place k) ⟨n, carry⟩ = some (.formula _) :=
    (edited_formula hw).mpr ⟨k, rfl, hn, hmax, hcarry⟩
  rw [gated_filled hw hname hn hmax hshown hdriver, valueAt, cellAt, CellRef.inColumn,
    Expr.valueUnder_cell]
  exact Grid.settled_of_ne ((edited_solves hw hname).formula_ne_empty carried)

end

/-- In every row of the other sheets the hidden column carries the voyage number that was entered
last on the Voyage sheet, in that row or above, or the empty text if there is none. The row shows it
when its driver is filled, and once there is a number there is one in all rows below. -/
theorem voyage_number_carried {catalog : Catalog} {kind : TemplateKind} {rules : Rules}
    {layout : Layout} {token : UploadToken}
    (hname : ∀ k : ReportSheet, layout.lookupSheet ≠ k.title) {es : List Edit}
    (hes : ∀ e ∈ es, (build catalog kind rules layout token).workbook.Admits e) {k : ReportSheet}
    {carry : Nat} (hk : carryColumn k = some carry) {n : Nat} (hn : 0 < n)
    (hmax : n < layout.maxRow kind) :
    let w := (build catalog kind rules layout token).workbook.editAll es
    let entered (row : Nat) := w.entry? ReportSheet.voyage.title ⟨row, VoyageColumn.voyageNo⟩
    let carried (row : Nat) := w.value k.title ⟨row, carry⟩
    (∀ m v, 0 < m → m ≤ n → entered m = some v → (∀ j, m < j → j ≤ n → entered j = none) →
        carried n = v) ∧
      ((∀ j, 0 < j → j ≤ n → entered j = none) → carried n = .text "") ∧
      (w.entry? k.title ⟨n, k.driver⟩ ≠ none →
        w.value k.title ⟨n, shownColumn⟩ = carried n) ∧
      (carried n ≠ .text "" →
        ∀ m, n ≤ m → m < layout.maxRow kind → carried m ≠ .text "") := by
  have hw := Workbook.EditOf.editAll hes
  simp only [edited_value hw hname]
  refine ⟨?_, ?_, ?_, ?_⟩
  · intro m v hm hmn hv last
    exact carry_of_entered hw hname hk hm hmn hmax hv last
  · intro none
    exact carry_of_none hw hname hk hn hmax none
  · intro hdriver
    exact shown_of_driver hw hname hk hn hmax hdriver
  · intro h m hnm hm
    exact carry_stays hw hname hk hn hnm hm h

/-- A voyage number in the first row is shown two rows further down beside an engine. -/
theorem voyage_number_carried_two_rows :
    (Sample.workbook.editAll [⟨"Voyage", ⟨1, 0⟩, some (.text "V001")⟩,
        ⟨"Machinery", ⟨3, 1⟩, some (.text "Main Engine")⟩]).value "Machinery" ⟨3, 13⟩ =
        .text "V001" ∧
      (Sample.workbook.editAll [⟨"Voyage", ⟨1, 0⟩, some (.text "V001")⟩,
        ⟨"Machinery", ⟨3, 1⟩, some (.text "Main Engine")⟩]).value "Machinery" ⟨3, 0⟩ =
        .text "V001" := by
  have admitted : ∀ e ∈ [(⟨"Voyage", ⟨1, 0⟩, some (.text "V001")⟩ : Edit),
      ⟨"Machinery", ⟨3, 1⟩, some (.text "Main Engine")⟩], Sample.workbook.Admits e := by
    intro e he
    simp only [List.mem_cons, List.not_mem_nil, or_false] at he
    rcases he with rfl | rfl
    · exact ⟨_, rfl, by decide, by decide, _, rfl, rfl⟩
    · exact ⟨_, rfl, by decide, by decide, _, rfl, rfl⟩
  obtain ⟨last, -, shown, -⟩ := voyage_number_carried (k := .machinery) (n := 3)
    Sample.lookupSheet_ne admitted rfl (by decide) (by decide)
  have carried := last 1 (.text "V001") (by decide) (by decide) rfl fun j hj hjn => by
    obtain rfl | rfl : j = 2 ∨ j = 3 := by omega
    · rfl
    · rfl
  exact ⟨carried, (shown (by exact nofun)).trans carried⟩

end ShipReport.Template
