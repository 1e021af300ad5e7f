import ShipReport.Proofs.Formula.Evaluation
import ShipReport.Proofs.Template.DataSheet
import ShipReport.Proofs.Template.Lookup
import ShipReport.Template.Build

/-!
# Contents of a built workbook

Where the sheets of a template stand and where its formulas are, in the workbook as it is built and
after any edits by the crew. Such a workbook is layered: a formula of a row is nested at most two
deep when the formulas of the rows above are known. So the cells have values in one solution, and
the evaluator finds them however long a sheet is.
-/

namespace ShipReport.Template

open Formula (CellRef Expr Grid Position RangeRef Value)
open Report
open Workbook (Cell Sheet)

/-- The place of a report sheet in a template. -/
def place : ReportSheet → Nat
  | .voyage => 0
  | .machinery => 1
  | .lubeOil => 2
  | .bunkering => 3

/-- The place of the lookup sheet in a template. -/
def lookupPlace : Nat := 4

/-- Report sheets of different kinds have different places. -/
lemma place_injective {k k' : ReportSheet} (h : place k = place k') : k = k' := by
  cases k <;> cases k' <;> first | rfl | cases h

/-- Protecting a sheet changes nothing else. -/
lemma protect_eq (rules : Rules) (s : Sheet) :
    ∃ plan, (s.protect rules).1 = { s with protection := plan } := by
  unfold Sheet.protect
  dsimp only
  split
  · exact ⟨_, rfl⟩
  · exact ⟨_, rfl⟩

/-- The token sheet holds no formulas. -/
lemma tokenSheet_plain {t : UploadToken} {layout : Layout} {p : Position} (e : Expr) :
    (tokenSheet t layout).get? p ≠ some (.formula e) := by
  intro h
  rcases Sheet.mem_of_get?_setAll h with h | ⟨-, h⟩
  · simp at h
  · obtain ⟨-, _, heq⟩ := Sheet.get?_new h
    cases heq

section

variable {catalog : Catalog} {kind : TemplateKind} {rules : Rules} {layout : Layout}
  {token : UploadToken}

/-- A report sheet of a template before it is protected. -/
def builtSheet (catalog : Catalog) (kind : TemplateKind) (rules : Rules) (layout : Layout)
    (k : ReportSheet) : Sheet :=
  dataSheet (Lookup.ofCatalog catalog layout.lookupSheet) rules layout (layout.maxRow kind) k

/-- The sheets of a template: the report sheets, protected where possible, and two hidden ones. -/
lemma build_sheets : (build catalog kind rules layout token).workbook.sheets =
    [((builtSheet catalog kind rules layout .voyage).protect rules).1,
      ((builtSheet catalog kind rules layout .machinery).protect rules).1,
      ((builtSheet catalog kind rules layout .lubeOil).protect rules).1,
      ((builtSheet catalog kind rules layout .bunkering).protect rules).1,
      lookupSheet catalog layout, tokenSheet token layout] := rfl

/-- A report sheet stands at its place. -/
lemma build_sheet (k : ReportSheet) :
    (build catalog kind rules layout token).workbook.sheets[place k]? =
      some ((builtSheet catalog kind rules layout k).protect rules).1 := by
  rw [build_sheets]
  cases k <;> rfl

/-- The lookup sheet comes after the report sheets. -/
lemma build_lookupSheet :
    (build catalog kind rules layout token).workbook.sheets[lookupPlace]? =
      some (lookupSheet catalog layout) := rfl

/-- Edits of other sheets leave the lookup sheet as it is built. -/
lemma editAll_lookupSheet {es : List Workbook.Edit}
    (hes : ∀ e ∈ es, (build catalog kind rules layout token).workbook.Admits e ∧
      e.sheet ≠ layout.lookupSheet) :
    ((build catalog kind rules layout token).workbook.editAll es).sheets[lookupPlace]? =
      some (lookupSheet catalog layout) :=
  Workbook.editAll_other build_lookupSheet fun e he => (hes e he).2

/-- A sheet of a template is a report sheet, the lookup sheet or the token sheet. -/
lemma build_sheet_cases {i : Nat} {s : Sheet}
    (h : (build catalog kind rules layout token).workbook.sheets[i]? = some s) :
    (∃ k, i = place k ∧ s = ((builtSheet catalog kind rules layout k).protect rules).1) ∨
      s = lookupSheet catalog layout ∨ s = tokenSheet token layout := by
  rw [build_sheets] at h
  rcases i with _ | _ | _ | _ | _ | _ | i <;>
    simp only [List.getElem?_cons_zero, List.getElem?_cons_succ, List.getElem?_nil,
      Option.some.injEq, reduceCtorEq, Nat.zero_add] at h <;> subst h
  · exact .inl ⟨.voyage, rfl, rfl⟩
  · exact .inl ⟨.machinery, rfl, rfl⟩
  · exact .inl ⟨.lubeOil, rfl, rfl⟩
  · exact .inl ⟨.bunkering, rfl, rfl⟩
  · exact .inr (.inl rfl)
  · exact .inr (.inr rfl)

/-- Protecting a sheet leaves its name. -/
lemma protect_name (k : ReportSheet) :
    ((builtSheet catalog kind rules layout k).protect rules).1.name = k.title := by
  obtain ⟨plan, h⟩ := protect_eq rules (builtSheet catalog kind rules layout k)
  rw [h, builtSheet, dataSheet_eq]
  rfl

/-- A report sheet is found at its place by its title. -/
lemma build_sheetIndex (k : ReportSheet) :
    (build catalog kind rules layout token).workbook.sheetIndex? k.title = some (place k) := by
  rw [Workbook.sheetIndex?, build_sheets]
  cases k <;> simp [List.findIdx?_cons, protect_name, ReportSheet.title, place]

/-- The lookup sheet is found at its place unless its name is a title. -/
lemma build_lookupIndex (h : ∀ k : ReportSheet, layout.lookupSheet ≠ k.title) :
    (build catalog kind rules layout token).workbook.sheetIndex? layout.lookupSheet =
      some lookupPlace := by
  have name : (lookupSheet catalog layout).name = layout.lookupSheet := rfl
  rw [Workbook.sheetIndex?, build_sheets]
  simp [List.findIdx?_cons, protect_name, name, Ne.symm (h _), lookupPlace]

/-- A cell of a sheet of a template holds a formula if the sheet is a report sheet and the formula
is one of a data row. -/
lemma build_sheet_formula {i : Nat} {s : Sheet}
    (hs : (build catalog kind rules layout token).workbook.sheets[i]? = some s) {p : Position}
    {e : Expr} :
    s.get? p = some (.formula e) ↔
      ∃ k, i = place k ∧ s = ((builtSheet catalog kind rules layout k).protect rules).1 ∧
        0 < p.row ∧ p.row < layout.maxRow kind ∧
        (p.col, e) ∈ rowFormulas (Lookup.ofCatalog catalog layout.lookupSheet) k p.row := by
  have report : ∀ k, ((builtSheet catalog kind rules layout k).protect rules).1.get? p =
      (builtSheet catalog kind rules layout k).get? p := fun k => by
    obtain ⟨plan, h⟩ := protect_eq rules (builtSheet catalog kind rules layout k)
    rw [h]
    rfl
  constructor
  · intro h
    rcases build_sheet_cases hs with ⟨k, hi, rfl⟩ | rfl | rfl
    · rw [report] at h
      exact ⟨k, hi, rfl, dataSheet_formula.mp h⟩
    · exact absurd h (lookupSheet_plain e)
    · exact absurd h (tokenSheet_plain e)
  · rintro ⟨k, -, rfl, h⟩
    rw [report]
    exact dataSheet_formula.mpr h

/-- The formulas of a template are those of the data rows of its report sheets. -/
lemma build_formula {i : Nat} {p : Position} {e : Expr} :
    (build catalog kind rules layout token).workbook.grid.content i p = some (.formula e) ↔
      ∃ k, i = place k ∧ 0 < p.row ∧ p.row < layout.maxRow kind ∧
        (p.col, e) ∈ rowFormulas (Lookup.ofCatalog catalog layout.lookupSheet) k p.row := by
  rw [Workbook.grid_formula]
  constructor
  · rintro ⟨s, hs, h⟩
    obtain ⟨k, hi, -, h⟩ := (build_sheet_formula hs).mp h
    exact ⟨k, hi, h⟩
  · rintro ⟨k, rfl, h⟩
    have hk : (build catalog kind rules layout token).workbook.sheets[place k]? = _ := build_sheet k
    exact ⟨_, hk, (build_sheet_formula hk).mpr ⟨k, rfl, rfl, h⟩⟩

/-- The input cells of a report sheet are those of the columns for input in the data rows. -/
lemma isInput_iff {k : ReportSheet} {p : Position} :
    ((builtSheet catalog kind rules layout k).protect rules).1.IsInput p ↔
      0 < p.row ∧ p.row < layout.maxRow kind ∧
        ∃ c, k.columns[p.col]? = some c ∧ c.role = .input := by
  obtain ⟨plan, h⟩ := protect_eq rules (builtSheet catalog kind rules layout k)
  rw [h, builtSheet, dataSheet_eq]
  change 0 < p.row ∧ p.row < max (layout.maxRow kind) 1 ∧
    (∃ c, (sheetColumns layout k)[p.col]? = some c ∧ c.role = .input) ↔ _
  -- a sheet has at least the row of the headers
  have rows : 0 < p.row → (p.row < max (layout.maxRow kind) 1 ↔ p.row < layout.maxRow kind) :=
    fun _ => by omega
  simp only [sheetColumns, List.getElem?_map, Option.map_eq_some_iff]
  constructor
  · rintro ⟨hpos, hlt, _, ⟨c, hc, rfl⟩, hrole⟩
    exact ⟨hpos, (rows hpos).mp hlt, c, hc, hrole⟩
  · rintro ⟨hpos, hlt, c, hc, hrole⟩
    exact ⟨hpos, (rows hpos).mpr hlt, _, ⟨c, hc, rfl⟩, hrole⟩

/-- The edits of a report sheet that are admitted are those of its input cells. -/
lemma build_admits {k : ReportSheet} {p : Position} {entry : Option Workbook.Entry} :
    (build catalog kind rules layout token).workbook.Admits ⟨k.title, p, entry⟩ ↔
      0 < p.row ∧ p.row < layout.maxRow kind ∧
        ∃ c, k.columns[p.col]? = some c ∧ c.role = .input := by
  have sheet : (build catalog kind rules layout token).workbook.sheet? k.title =
      some ((builtSheet catalog kind rules layout k).protect rules).1 := by
    rw [Workbook.sheet?_eq, build_sheetIndex]
    exact build_sheet k
  unfold Workbook.Admits
  rw [sheet]
  constructor
  · rintro ⟨s, hs, hp⟩
    obtain rfl := Option.some.inj hs
    exact isInput_iff.mp hp
  · exact fun hp => ⟨_, rfl, isInput_iff.mpr hp⟩

/-- No formula of a template stands in an input cell. -/
lemma build_inputsPlain : (build catalog kind rules layout token).workbook.InputsPlain := by
  intro s hs p e he hp
  obtain ⟨i, hi⟩ := List.mem_iff_getElem?.mp hs
  obtain ⟨k, -, rfl, -, -, hf⟩ := (build_sheet_formula hi).mp he
  obtain ⟨c, hc, hrole⟩ := mem_formulaColumns.mp (column_of_rowFormulas hf)
  obtain ⟨-, -, c', hc', hinput⟩ := isInput_iff.mp hp
  obtain rfl := Option.some.inj (hc.symm.trans hc')
  exact hrole hinput

end

section

variable {catalog : Catalog} {kind : TemplateKind} {rules : Rules} {layout : Layout}
  {token : UploadToken} {w : Workbook}
  (hw : (build catalog kind rules layout token).workbook.EditOf w)

include hw

/-- The formulas of an edited template are those of the data rows of its report sheets. -/
lemma edited_formula {i : Nat} {p : Position} {e : Expr} :
    w.grid.content i p = some (.formula e) ↔
      ∃ k, i = place k ∧ 0 < p.row ∧ p.row < layout.maxRow kind ∧
        (p.col, e) ∈ rowFormulas (Lookup.ofCatalog catalog layout.lookupSheet) k p.row :=
  (hw.formula_iff build_inputsPlain).trans build_formula

/-- A report sheet of an edited template is found at its place by its title. -/
lemma edited_index (k : ReportSheet) : w.sheetIndex? k.title = some (place k) :=
  (hw.sheetIndex?_eq _).trans (build_sheetIndex k)

/-- The cells of an edited template in which formulas stand. -/
lemma edited_formulaCell {k : ReportSheet} {row col : Nat} {e : Expr} (hrow : 0 < row)
    (hmax : row < layout.maxRow kind)
    (he : (col, e) ∈ rowFormulas (Lookup.ofCatalog catalog layout.lookupSheet) k row) :
    w.cell? k.title ⟨row, col⟩ = some (.formula e) := by
  have content : w.grid.content (place k) ⟨row, col⟩ = some (.formula e) :=
    (edited_formula hw).mpr ⟨k, rfl, hrow, hmax, he⟩
  obtain ⟨s, hs, hcell⟩ := Workbook.grid_formula.mp content
  rw [Workbook.cell?_eq (edited_index hw k), hs]
  exact hcell

/-- An input cell of an edited template holds no formula. -/
lemma edited_input {k : ReportSheet} (row : Nat) {col : Nat} (h : col ∉ formulaColumns k)
    (e : Expr) :
    w.grid.content (place k) ⟨row, col⟩ ≠ some (.formula e) := by
  intro he
  obtain ⟨k', hk, -, -, hf⟩ := (edited_formula hw).mp he
  obtain rfl := place_injective hk
  exact h (column_of_rowFormulas hf)

/-- The lookup sheet of an edited template holds no formulas. -/
lemma edited_lookup (p : Position) (e : Expr) :
    w.grid.content lookupPlace p ≠ some (.formula e) := by
  intro he
  obtain ⟨k, hk, -⟩ := (edited_formula hw).mp he
  cases k <;> cases hk

variable (hname : ∀ k : ReportSheet, layout.lookupSheet ≠ k.title)

include hname

/-- The lookup sheet is found under its name, also after edits. -/
lemma edited_lookupIndex : w.sheetIndex? layout.lookupSheet = some lookupPlace :=
  (hw.sheetIndex?_eq _).trans (build_lookupIndex hname)

/-- A formula of a row is nested one deeper than the formulas of the row that it looks at, when the
formulas of the row above are known. -/
lemma row_nests {known : Nat → Position → Prop} {n : Nat} {k : ReportSheet} {row col : Nat}
    {e : Expr} (he : (col, e) ∈ rowFormulas (Lookup.ofCatalog catalog layout.lookupSheet) k row)
    (hrow : row < layout.maxRow kind)
    (above : ∀ q e, q.row < row → w.grid.content (place k) q = some (.formula e) →
      known (place k) q)
    (simple : col ∈ compositeColumns k → ∀ c, c ∉ compositeColumns k →
      w.grid.NestsWithin known n (place k) ⟨row, c⟩) :
    e.ReadsWithin w.grid.sheetIndex (place k) (w.grid.NestsWithin known n) := by
  apply rowFormulas_reads he
  · -- ranges of the lookup sheet
    intro r hr
    unfold RangeRef.Within
    rw [formulaRanges_sheet catalog layout.lookupSheet r hr]
    intro j hj p _
    obtain rfl := Option.some.inj ((edited_lookupIndex hw hname).symm.trans hj)
    exact .of_plain (edited_lookup hw p)
  · -- the voyage number of the row, which is an input cell
    intro _ j hj
    obtain rfl := Option.some.inj ((edited_index hw .voyage).symm.trans hj)
    exact .of_plain (edited_input hw _ (by decide))
  · -- a formula of the row above
    intro _ h1
    obtain ⟨e', he'⟩ := exists_rowFormulas (column_of_rowFormulas he) (row - 1)
    apply Grid.NestsWithin.of_known
    apply above ⟨row - 1, col⟩ e' (Nat.sub_lt (by omega) Nat.one_pos)
    exact (edited_formula hw).mpr ⟨k, rfl, Nat.sub_pos_of_lt h1, by dsimp only; omega, he'⟩
  · -- input cells of the row
    intro c hc
    exact .of_plain (edited_input hw _ hc)
  · -- the carried number, whose formula looks at no other one of the row
    intro hcol c hc
    exact simple (hcol ▸ shown_composite hc) c (carry_simple hc)
  · exact fun hcol c hc _ => simple hcol c hc

/-- An edited template is layered. -/
theorem edited_layered : w.grid.Layered := by
  refine ⟨fun i p e he => Workbook.mem_grid_formulas.mpr ⟨e, he⟩, ?_⟩
  intro i before p after hl
  obtain ⟨e, he⟩ := Workbook.mem_grid_formulas.mp (hl ▸ List.mem_append_right before
    List.mem_cons_self)
  obtain ⟨k, rfl, hpos, hlt, hf⟩ := (edited_formula hw).mp he
  have above : ∀ q e, q.row < p.row → w.grid.content (place k) q = some (.formula e) →
      Grid.among (place k) before (place k) q := fun q e hq hc =>
    ⟨rfl, Workbook.mem_before_grid hl hc (Position.compare_eq_lt.mpr (.inl hq))⟩
  -- the formulas of the row that look at no other one
  have simple : ∀ c, c ∉ compositeColumns k →
      w.grid.NestsWithin (Grid.among (place k) before) 1 (place k) ⟨p.row, c⟩ := by
    intro c hc
    apply Grid.NestsWithin.of_formula
    intro e' he'
    obtain ⟨k', hk, -, -, hf'⟩ := (edited_formula hw).mp he'
    obtain rfl := place_injective hk
    exact row_nests hw hname hf' hlt above fun hc' => absurd hc' hc
  have nests : w.grid.NestsWithin (Grid.among (place k) before) 2 (place k) p := by
    apply Grid.NestsWithin.of_formula
    intro e' he'
    obtain ⟨k', hk, -, -, hf'⟩ := (edited_formula hw).mp he'
    obtain rfl := place_injective hk
    exact row_nests hw hname hf' hlt above fun _ => simple
  exact nests.mono (fun _ _ => id) (by decide)

/-- The cells of an edited template have values in one solution. -/
lemma edited_solves : w.grid.Solves (Grid.Layered.values w.grid) :=
  (edited_layered hw hname).values_solves

/-- The evaluator gives a cell its value in the solution. -/
lemma edited_valueAt (i : Nat) (p : Position) :
    Workbook.evaluate (w.grid.valueAt i p) = Grid.Layered.values w.grid i p :=
  (Grid.valueAt_solution (edited_layered hw hname) (edited_solves hw hname) i p .empty).1

/-- The evaluator gives a cell of a report sheet its value in the solution. -/
lemma edited_value (k : ReportSheet) (p : Position) :
    w.value k.title p = Grid.Layered.values w.grid (place k) p :=
  Grid.value_solution (edited_layered hw hname) (edited_solves hw hname) (edited_index hw k) p

/-- The value of an input cell is blank or what has been entered, and no fault. -/
lemma input_value {k : ReportSheet} (row : Nat) {col : Nat} (hcol : col ∉ formulaColumns k) :
    (w.entry? k.title ⟨row, col⟩ = none ∧
        (Grid.Layered.values w.grid (place k) ⟨row, col⟩).isBlank) ∨
      w.entry? k.title ⟨row, col⟩ = some (Grid.Layered.values w.grid (place k) ⟨row, col⟩) ∧
        (Grid.Layered.values w.grid (place k) ⟨row, col⟩).isBlank = false ∧
        (Grid.Layered.values w.grid (place k) ⟨row, col⟩).isFault = false := by
  have plain := edited_input hw row hcol
  rw [edited_solves hw hname, Grid.valueFrom]
  rw [Workbook.grid_content] at plain ⊢
  unfold Workbook.entry?
  rw [Workbook.cell?_eq (edited_index hw k)]
  generalize w.sheets[place k]?.bind (·.get? ⟨row, col⟩) = cell at plain ⊢
  cases cell with
  | none => exact .inl ⟨rfl, rfl⟩
  | some c =>
    cases c with
    | text s =>
      by_cases hs : s = ""
      · subst hs
        exact .inl ⟨rfl, rfl⟩
      · exact .inr ⟨by simp [hs, Cell.content], by simp [Value.isBlank, Cell.content, hs], rfl⟩
    | number x => exact .inr ⟨rfl, rfl, rfl⟩
    | formula e => exact absurd rfl (plain e)

/-- An input cell has the value that has been entered. -/
lemma entered_value {k : ReportSheet} {row col : Nat} (hcol : col ∉ formulaColumns k) {v : Value}
    (hv : w.entry? k.title ⟨row, col⟩ = some v) :
    Grid.Layered.values w.grid (place k) ⟨row, col⟩ = v := by
  rcases input_value hw hname row hcol with ⟨hnone, -⟩ | ⟨hsome, -⟩
  · exact absurd (hnone.symm.trans hv) nofun
  · exact Option.some.inj (hsome.symm.trans hv)

end

end ShipReport.Template
