import ShipReport.Proofs.Template.Returned

/-!
# Untouched templates

A template that comes back as it was handed out has no rows: its input cells are blank, the drivers
of the rows among them, so every formula that is exported shows nothing.
-/

namespace ShipReport.Template

open Formula (Grid Position Value)
open Report
open Submission (cellText isBlank)
open Workbook (Sheet)
open Xlsx (WrittenSheet seen)

variable {catalog : Catalog} {kind : TemplateKind} {rules : Rules} {layout : Layout}
  {token : UploadToken} {sheets : List WrittenSheet}

/-- Nothing but formulas stands in the data rows of a report sheet. -/
lemma untouched_cell {k : ReportSheet} {row col : Nat} (hrow : 0 < row)
    (hcol : col ∉ formulaColumns k) :
    (build catalog kind rules layout token).workbook.cell? k.title ⟨row, col⟩ = none := by
  obtain ⟨plan, h⟩ := protect_eq rules (builtSheet catalog kind rules layout k)
  rw [Workbook.cell?_eq (build_sheetIndex k), build_sheet k, Option.bind_some, h]
  exact dataSheet_blank hrow hcol

/-- The empty text as a cached result is read as the empty text. -/
lemma readResult_empty :
    Xlsx.readResult (Xlsx.stored (Xlsx.cachedResult (.text ""))) = .text "" := by
  decide

/-- A helper column is not exported. -/
lemma role_of_export {k : ReportSheet} {c : ColumnSpec} {col : Nat}
    (h : (c, col) ∈ k.exportColumns.zipIdx) : c.role ≠ .helper := by
  have listed := List.mem_of_getElem? (List.mk_mem_zipIdx_iff_getElem?.mp h)
  simpa using List.mem_takeWhile_imp listed

/-- An exported cell of a data row shows nothing. -/
lemma untouched_text (hname : ∀ k : ReportSheet, layout.lookupSheet ≠ k.title) {k : ReportSheet}
    {row col : Nat} (hrow : 0 < row) (hmax : row < layout.maxRow kind) {c : ColumnSpec}
    (hc : (c, col) ∈ k.exportColumns.zipIdx) :
    cellText c.kind
      (seen ((build catalog kind rules layout token).workbook.value k.title ⟨row, col⟩)
        ((build catalog kind rules layout token).workbook.cell? k.title ⟨row, col⟩)) = .ok "" := by
  have hw : (build catalog kind rules layout token).workbook.EditOf _ := .refl _
  by_cases hcol : col ∈ formulaColumns k
  · obtain ⟨e, he⟩ : ∃ e,
        (col, e) ∈ rowFormulas (Lookup.ofCatalog catalog layout.lookupSheet) k row :=
      exists_rowFormulas hcol row
    have shown : Grid.Layered.values (build catalog kind rules layout token).workbook.grid (place k)
        ⟨row, col⟩ = .text "" := by
      rcases rowFormulas_gated he with ⟨body, rfl⟩ | hcarry
      · exact gated_blank hw hname hrow hmax he
          (blank_value hw hname (.inl (untouched_cell hrow (driver_column k))))
      · obtain rfl := Option.some.inj ((column_of_export hc).symm.trans hcarry)
        exact absurd rfl (role_of_export hc)
    rw [edited_value hw hname, edited_formulaCell hw hrow hmax he, shown, seen, readResult_empty]
    rfl
  · rw [untouched_cell hrow hcol, seen]
    rfl

/-- A template that was written and not changed since is read as four sheets with the headers of the
contract and no rows, whatever counts as a placeholder. -/
lemma parse_untouched (rules' : Rules) {layout' : Layout}
    (hname : layout'.tokenSheet = layout.tokenSheet)
    (hr : Xlsx.render (build catalog kind rules layout token).workbook = .ok sheets) :
    ∃ t, Submission.parse rules' layout' (Xlsx.returned sheets) = .ok
        ⟨ReportSheet.all.map fun k =>
            ⟨k, k.title, k.exportHeaders, [], layout.maxRow kind - 1, none⟩,
          t, some (Number.toInt64 (Float.ofInt token.vesselId))⟩ ∧
      (token.token ≠ "" → Faithful token.token → t = some token.token) := by
  have hw : (build catalog kind rules layout token).workbook.EditOf _ := .refl _
  have blank : ∀ k row, 0 < row → row < layout.maxRow kind →
      exportedRow (build catalog kind rules layout token).workbook k row =
        .ok (k.exportColumns.zipIdx.map fun _ => "") := fun k row hrow hmax =>
    mapM_ok fun _ hc => untouched_text (lookupSheet_ne_title hw hr) hrow hmax hc
  obtain ⟨t, parsed, ht⟩ := parse_returned hw hr rules' hname build_tokenSheet blank
  refine ⟨t, parsed.trans ?_, ht⟩
  congr 2
  refine List.map_congr_left fun k _ => ?_
  have none : (((List.range' 1 (layout.maxRow kind - 1)).map fun _ =>
      k.exportColumns.zipIdx.map fun _ => "").filter fun row => !row.all (isBlank rules')) =
        [] := by
    refine List.filter_eq_nil_iff.mpr fun row hrow => ?_
    obtain ⟨_, -, rfl⟩ := List.mem_map.mp hrow
    simp [isBlank, Text.isBlankText]
  rw [readSheet, none, List.length_map, List.length_range', List.length_nil, Nat.sub_zero]

/-- A template that comes back as it was handed out has the four sheets in their order, each with
the headers of the contract, without rows and without a warning, and the token and the vessel for
which it was made. -/
theorem untouched_is_empty {catalog : Catalog} {kind : TemplateKind} {rules : Rules}
    {layout : Layout} {token : UploadToken} {sheets : List WrittenSheet}
    (hr : Xlsx.render (build catalog kind rules layout token).workbook = .ok sheets)
    (htoken : token.token ≠ "") (hfaithful : Faithful token.token)
    (hid : token.vesselId.natAbs ≤ 2 ^ 53) :
    ∃ parsed, Submission.parse rules layout (Xlsx.returned sheets) = .ok parsed ∧
      parsed.sheets.map (·.kind) = ReportSheet.all ∧
      (∀ s ∈ parsed.sheets, s.headers = s.kind.exportHeaders ∧ s.rows = [] ∧ s.warning = none) ∧
      parsed.uploadToken = some token.token ∧ parsed.tokenVesselId = some token.vesselId := by
  obtain ⟨t, parsed, ht⟩ := parse_untouched rules rfl hr
  refine ⟨_, parsed, rfl, ?_, ht htoken hfaithful, ?_⟩
  · intro s hs
    obtain ⟨k, -, rfl⟩ := List.mem_map.mp hs
    exact ⟨rfl, rfl, rfl⟩
  · exact congrArg some (Number.toInt64_ofInt (Number.held_of_le hid) (by omega))

namespace Sample

/-- The token of a vessel. -/
def tokenOf (id : Int) : UploadToken :=
  ⟨"token", id, ⟨0, 0, 0⟩⟩

/-- The standard template, made out for a vessel. -/
def template (id : Int) : Workbook :=
  (build Sample.catalog .standard .default Sample.layout (tokenOf id)).workbook

/-- The template can be written for a vessel if its token sheet can be. -/
lemma render_template (id : Int)
    (htoken : Xlsx.checkSheet (tokenSheet (tokenOf id) Sample.layout) = .ok ()) :
    Xlsx.render (template id) = .ok (Xlsx.writtenSheets (template id)) := by
  refine Xlsx.render_of_checks ?_ (by rw [template, build_names]; decide)
  have shared : ∀ s ∈ (template 0).sheets.take 5,
      Xlsx.checkSheet s = .ok () := by decide +kernel
  rw [template, build_sheets] at shared ⊢
  simp only [List.take_succ_cons, List.take_zero, List.forall_mem_cons] at shared ⊢
  obtain ⟨voyage, machinery, lubeOil, bunkering, lookup, -⟩ := shared
  exact ⟨voyage, machinery, lubeOil, bunkering, lookup, htoken, List.forall_mem_nil _⟩

/-- The template of the vessel can be written. -/
lemma render_workbook : Xlsx.render workbook = .ok (Xlsx.writtenSheets workbook) :=
  render_template 7 (by decide +kernel)

/-- The token of the sample is read back as it is. -/
lemma token_faithful : Faithful Sample.token.token :=
  ⟨by decide, by decide⟩

end Sample

/-- The template of the vessel comes back without rows. -/
theorem untouched_sample_is_empty :
    ∃ sheets, Xlsx.render Sample.workbook = .ok sheets ∧ Sample.token.token ≠ "" ∧
      Faithful Sample.token.token ∧ Sample.token.vesselId.natAbs ≤ 2 ^ 53 ∧
      ∃ parsed,
        Submission.parse .default Sample.layout (Xlsx.returned sheets) = .ok parsed ∧
        parsed.sheets.map (·.kind) = ReportSheet.all ∧
        (∀ s ∈ parsed.sheets,
          s.headers = s.kind.exportHeaders ∧ s.rows = [] ∧ s.warning = none) ∧
        parsed.uploadToken = some "token" ∧ parsed.tokenVesselId = some 7 := by
  have present : Sample.token.token ≠ "" := by decide
  have small : Sample.token.vesselId.natAbs ≤ 2 ^ 53 := by decide
  exact ⟨_, Sample.render_workbook, present, Sample.token_faithful, small,
    untouched_is_empty Sample.render_workbook present Sample.token_faithful small⟩

end ShipReport.Template
