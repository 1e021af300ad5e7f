import ShipReport.Proofs.Template.Build

/-!
# Rows without a driver

A row whose driver cell is blank shows nothing: all its formulas but the carried voyage number are
blank, whatever else has been entered anywhere.
-/

namespace ShipReport.Template

open Formula (CellRef Expr Grid Position Value)
open Formula.Pattern (gated)
open Report
open Workbook (Cell Edit)

/-- Of the formulas that bring the voyage number into a row, one carries it and one is gated. -/
lemma voyageFormulas_gated {row visible carry col : Nat} {driver : CellRef} {e : Expr}
    (h : (col, e) ∈ voyageFormulas row visible carry driver) :
    (∃ body, e = gated driver body) ∨ col = carry := by
  simp only [voyageFormulas, List.mem_cons, Prod.mk.injEq, List.not_mem_nil, or_false] at h
  rcases h with ⟨rfl, -⟩ | ⟨-, rfl⟩
  · exact .inr rfl
  · exact .inl ⟨_, rfl⟩

/-- A formula of a row is gated by the driver of the row, or it carries the voyage number. -/
lemma rowFormulas_gated {lk : Lookup} {k : ReportSheet} {row col : Nat} {e : Expr}
    (h : (col, e) ∈ rowFormulas lk k row) :
    (∃ body, e = gated (cellAt row k.driver) body) ∨
      k.columns[col]? = some (helperColumn "Voyage Carry") := by
  cases k with
  | voyage =>
    simp only [rowFormulas, voyageRow, List.mem_cons, Prod.mk.injEq, List.not_mem_nil,
      or_false] at h
    rcases h with ⟨-, rfl⟩ | ⟨-, rfl⟩ | ⟨-, rfl⟩ | ⟨-, rfl⟩ | ⟨-, rfl⟩ <;> exact .inl ⟨_, rfl⟩
  | machinery =>
    rcases List.mem_append.mp h with h | h
    · exact (voyageFormulas_gated h).imp_right fun hcol => by subst hcol; rfl
    · simp only [List.mem_cons, Prod.mk.injEq, List.not_mem_nil, or_false] at h
      rcases h with ⟨-, rfl⟩ | ⟨-, rfl⟩ | ⟨-, rfl⟩ | ⟨-, rfl⟩ | ⟨-, rfl⟩ | ⟨-, rfl⟩ <;>
        exact .inl ⟨_, rfl⟩
  | lubeOil =>
    rcases List.mem_append.mp h with h | h
    · exact (voyageFormulas_gated h).imp_right fun hcol => by subst hcol; rfl
    · simp only [List.mem_cons, Prod.mk.injEq, List.not_mem_nil, or_false] at h
      rcases h with ⟨-, rfl⟩ | ⟨-, rfl⟩ | ⟨-, rfl⟩ <;> exact .inl ⟨_, rfl⟩
  | bunkering =>
    rcases List.mem_append.mp h with h | h
    · exact (voyageFormulas_gated h).imp_right fun hcol => by subst hcol; rfl
    · simp only [List.mem_cons, Prod.mk.injEq, List.not_mem_nil, or_false] at h
      rcases h with ⟨-, rfl⟩ | ⟨-, rfl⟩ | ⟨-, rfl⟩ | ⟨-, rfl⟩ <;> exact .inl ⟨_, rfl⟩

/-- Computed columns and note ranges are not for input, and they do not carry the voyage number. -/
lemma shown_column {k : ReportSheet} {c : ColumnSpec} (hc : c ∈ k.columns)
    (h : c.role = .computed ∨ c.header = "Note Range") :
    c.role ≠ .input ∧ c ≠ helperColumn "Voyage Carry" := by
  revert c
  cases k <;> decide

section

variable {catalog : Catalog} {kind : TemplateKind} {rules : Rules} {layout : Layout}
  {token : UploadToken} {w : Workbook}
  (hw : (build catalog kind rules layout token).workbook.EditOf w)
  (hname : ∀ k : ReportSheet, layout.lookupSheet ≠ k.title)

include hw hname

/-- A blank cell has a blank value. -/
lemma blank_value {k : ReportSheet} {p : Position}
    (h : w.cell? k.title p = none ∨ w.cell? k.title p = some (.text "")) :
    (Grid.Layered.values w.grid (place k) p).isBlank := by
  rw [Workbook.cell?_eq (edited_index hw k)] at h
  rw [edited_solves hw hname, Grid.valueFrom, Workbook.grid_content]
  rcases h with h | h <;> rw [h] <;> rfl

/-- While the driver of a row is blank, so are the gated formulas of the row. -/
lemma gated_blank {k : ReportSheet} {row col : Nat} {body : Expr} (hrow : 0 < row)
    (hmax : row < layout.maxRow kind)
    (he : (col, gated (cellAt row k.driver) body) ∈
      rowFormulas (Lookup.ofCatalog catalog layout.lookupSheet) k row)
    (hdriver : (Grid.Layered.values w.grid (place k) ⟨row, k.driver⟩).isBlank) :
    Grid.Layered.values w.grid (place k) ⟨row, col⟩ = .text "" := by
  have content : w.grid.content (place k) ⟨row, col⟩ = some (.formula _) :=
    (edited_formula hw).mpr ⟨k, rfl, hrow, hmax, he⟩
  rw [(edited_solves hw hname).formula content]
  rw [Formula.Pattern.gated_of_blank]
  · rfl
  · rw [cellAt, CellRef.inColumn, Expr.valueUnder_cell]
    exact hdriver

/-- When the driver of a row is filled, a gated formula of the row has the value of its body. -/
lemma gated_filled {k : ReportSheet} {row col : Nat} {body : Expr} (hrow : 0 < row)
    (hmax : row < layout.maxRow kind)
    (he : (col, gated (cellAt row k.driver) body) ∈
      rowFormulas (Lookup.ofCatalog catalog layout.lookupSheet) k row)
    (hdriver : w.entry? k.title ⟨row, k.driver⟩ ≠ none) :
    Grid.Layered.values w.grid (place k) ⟨row, col⟩ =
      Grid.settled (body.valueUnder w.grid.sheetIndex (Grid.Layered.values w.grid) (place k)) := by
  have content : w.grid.content (place k) ⟨row, col⟩ = some (.formula _) :=
    (edited_formula hw).mpr ⟨k, rfl, hrow, hmax, he⟩
  rcases input_value hw hname row (driver_column k) with ⟨hnone, -⟩ | ⟨-, hblank, hfault⟩
  · exact absurd hnone hdriver
  · rw [(edited_solves hw hname).formula content, Formula.Pattern.gated_of_filled]
    · rwa [cellAt, CellRef.inColumn, Expr.valueUnder_cell]
    · rwa [cellAt, CellRef.inColumn, Expr.valueUnder_cell]

end

/-- As long as the driver cell of a row is absent or holds the empty text, all computed columns and
the note range of the row are blank, whatever the crew has entered elsewhere. -/
theorem blank_of_blank_driver {catalog : Catalog} {kind : TemplateKind} {rules : Rules}
    {layout : Layout} {token : UploadToken}
    (hname : ∀ k : ReportSheet, layout.lookupSheet ≠ k.title) {es : List Edit}
    (hes : ∀ e ∈ es, (build catalog kind rules layout token).workbook.Admits e) {k : ReportSheet}
    {row col : Nat} (hrow : 0 < row) (hmax : row < layout.maxRow kind) {c : ColumnSpec}
    (hc : k.columns[col]? = some c) (hrole : c.role = .computed ∨ c.header = "Note Range")
    (hdriver :
      ((build catalog kind rules layout token).workbook.editAll es).cell? k.title
          ⟨row, k.driver⟩ = none ∨
        ((build catalog kind rules layout token).workbook.editAll es).cell? k.title
          ⟨row, k.driver⟩ = some (.text "")) :
    ((build catalog kind rules layout token).workbook.editAll es).value k.title ⟨row, col⟩ =
      .text "" := by
  have hw := Workbook.EditOf.editAll hes
  rw [edited_value hw hname]
  obtain ⟨hinput, hcarry⟩ := shown_column (List.mem_of_getElem? hc) hrole
  obtain ⟨e, he⟩ := exists_rowFormulas (mem_formulaColumns.mpr ⟨c, hc, hinput⟩) row
  rcases rowFormulas_gated he with ⟨body, rfl⟩ | h
  · exact gated_blank hw hname hrow hmax he (blank_value hw hname hdriver)
  · exact absurd (Option.some.inj (hc.symm.trans h)) hcarry

namespace Sample

/-- A vessel with one engine and one voyage. -/
def catalog : Catalog :=
  .ofEntries ⟨7, "MVX", "MV Example"⟩ [⟨1, "Main Engine", "ENGINE", 5000, 170⟩]
    [⟨3, "HFO", .fuel, 120⟩, ⟨4, "SYS OIL", .lubeOil, 8⟩] [⟨1, "HFO", "N-1", none, 40⟩]
    [⟨9, "V001", none⟩] [⟨2, "Busan", none⟩] [⟨"UTC", 0⟩] 2

/-- The default layout with a few rows only. -/
def layout : Layout :=
  { Layout.default with standardMaxRow := 4 }

/-- The lookup sheet of the layout is none of the report sheets. -/
lemma lookupSheet_ne (k : ReportSheet) : layout.lookupSheet ≠ k.title := by
  cases k <;> decide

def token : UploadToken :=
  ⟨"token", 7, ⟨0, 0, 0⟩⟩

/-- The standard template of the vessel. -/
def workbook : Workbook :=
  (build catalog .standard .default layout token).workbook

end Sample

/-- A counter is entered into a row without an engine: the running hours stay blank. -/
theorem blank_hours_without_engine :
    (Sample.workbook.editAll [⟨"Machinery", ⟨2, 5⟩, some (.number 12)⟩]).value "Machinery" ⟨2, 6⟩ =
      .text "" := by
  have admitted : ∀ e ∈ [(⟨"Machinery", ⟨2, 5⟩, some (.number 12)⟩ : Edit)],
      Sample.workbook.Admits e := by
    intro e he
    obtain rfl := List.mem_singleton.mp he
    exact ⟨_, rfl, by decide, by decide, _, rfl, rfl⟩
  exact blank_of_blank_driver (k := .machinery) Sample.lookupSheet_ne admitted (by decide)
    (by decide) rfl (.inl rfl) (.inl rfl)

end ShipReport.Template
