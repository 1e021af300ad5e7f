import ShipReport.Proofs.Number.Integers
import ShipReport.Proofs.Template.Gate
import ShipReport.Proofs.Xlsx.Written

/-!
# Reading a template that comes back

What the parser makes of a template, or an edit of one, that was written and not changed since: it
finds all four report sheets with the headers of the contract, and each data row gives the texts of
its exported cells.
-/

namespace ShipReport.Template

open Calendar.Serial (Overflow)
open Formula (Expr Grid Position Value)
open Report
open Submission (CellRange FileSheet ParsedSheet cellText isBlank rowTexts)
open Workbook (Cell Sheet)
open Xlsx (WrittenSheet seen sheetWith)

variable {catalog : Catalog} {kind : TemplateKind} {rules : Rules} {layout : Layout}
  {token : UploadToken} {w : Workbook} {sheets : List WrittenSheet}

/-- The texts that a row of a report sheet gives when it is read. -/
def exportedRow (w : Workbook) (k : ReportSheet) (row : Nat) : Except Overflow (List String) :=
  k.exportColumns.zipIdx.mapM fun (spec, col) =>
    cellText spec.kind (seen (w.value k.title ⟨row, col⟩) (w.cell? k.title ⟨row, col⟩))

/-- What is read for a report sheet whose rows give some texts. -/
def readSheet (rules : Rules) (k : ReportSheet) (rows : List (List String)) : ParsedSheet where
  kind := k
  title := k.title
  headers := k.exportHeaders
  rows := rows.filter fun row => !row.all (isBlank rules)
  droppedRows := rows.length - (rows.filter fun row => !row.all (isBlank rules)).length
  warning := none

/-- Every report sheet has formulas. -/
lemma formulaColumns_nonempty (k : ReportSheet) : ∃ col, col ∈ formulaColumns k :=
  List.exists_mem_of_ne_nil _ (by cases k <;> decide)

/-! ## The sheets of a file -/

/-- The sheets of a built workbook by their names. -/
lemma build_names : (build catalog kind rules layout token).workbook.sheets.map (·.name) =
    ReportSheet.all.map (·.title) ++ [layout.lookupSheet, layout.tokenSheet] := by
  rw [build_sheets]
  simp only [List.map_cons, protect_name]
  rfl

/-- A template is written only if the names of its hidden sheets are no titles and not the same. -/
lemma hidden_names (hw : (build catalog kind rules layout token).workbook.EditOf w)
    (hr : Xlsx.render w = .ok sheets) :
    (∀ k : ReportSheet, layout.lookupSheet ≠ k.title ∧ layout.tokenSheet ≠ k.title) ∧
      layout.lookupSheet ≠ layout.tokenSheet := by
  have nodup := (Xlsx.render_ok hr).2.1
  rw [hw.names_eq, build_names] at nodup
  obtain ⟨-, hidden, apart⟩ := List.nodup_append.mp nodup
  have title : ∀ k : ReportSheet, k.title ∈ ReportSheet.all.map (·.title) := fun k =>
    List.mem_map_of_mem (by cases k <;> decide)
  refine ⟨fun k => ⟨(apart _ (title k) _ (by simp)).symm, (apart _ (title k) _ (by simp)).symm⟩, ?_⟩
  simpa using hidden

/-- A sheet of a returned file is found where it stands in the workbook. -/
lemma findSheet?_returned (σ : Nat → Position → Value) (w : Workbook) (name : String) :
    Submission.findSheet? ((w.sheets.zipIdx.map fun (s, i) => sheetWith σ i s).map
      fun s => ⟨s.name, .ok s.range⟩) name =
        (w.sheetIndex? name).bind fun i =>
          w.sheets[i]?.map fun s => ⟨s.name, .ok (sheetWith σ i s).range⟩ := by
  have index : w.sheets.zipIdx.findIdx? (fun x => x.1.name == name) = w.sheetIndex? name := by
    rw [Workbook.sheetIndex?]
    conv => rhs; rw [← List.zipIdx_map_fst 0 w.sheets, List.findIdx?_map]
    rfl
  rw [Submission.findSheet?, List.find?_eq_bind_findIdx?_getElem?, List.map_map, List.findIdx?_map]
  change (w.sheets.zipIdx.findIdx? fun x => x.1.name == name).bind _ = _
  rw [index]
  congr 1
  funext i
  rw [List.getElem?_map, List.getElem?_zipIdx]
  cases w.sheets[i]? with
  | none => rfl
  | some s =>
    rw [Option.map_some, Option.map_some, Option.map_some, Nat.zero_add]
    rfl

section

variable (hw : (build catalog kind rules layout token).workbook.EditOf w)

include hw

/-- A report sheet of an edited template stands at its place. -/
lemma edited_sheet (k : ReportSheet) :
    ∃ s, w.sheets[place k]? = some s ∧
      Sheet.EditOf ((builtSheet catalog kind rules layout k).protect rules).1 s := by
  have hi := hw (place k)
  rw [build_sheet] at hi
  generalize w.sheets[place k]? = x at hi
  cases hi with
  | some hs => exact ⟨_, rfl, hs⟩

/-- The parts of a report sheet that edits leave as they are. -/
lemma edited_frame {k : ReportSheet} {s : Sheet} (hs : w.sheets[place k]? = some s) :
    s.name = k.title ∧ s.columns = sheetColumns layout k ∧ s.maxRow = max (layout.maxRow kind) 1 ∧
      s.validations = (sheetChoices (Lookup.ofCatalog catalog layout.lookupSheet) rules k).map
        fun (col, source) => ⟨col, 1, max (layout.maxRow kind) 1 - 1, source⟩ := by
  obtain ⟨s', hs', edit⟩ := edited_sheet hw k
  obtain rfl := Option.some.inj (hs.symm.trans hs')
  obtain ⟨plan, h⟩ := protect_eq rules (builtSheet catalog kind rules layout k)
  rw [edit.frame, h, builtSheet, dataSheet_eq]
  exact ⟨rfl, rfl, rfl, rfl⟩

variable (hr : Xlsx.render w = .ok sheets)

include hr

/-- A template is written only if it has data rows. -/
lemma exists_dataRow : 1 < layout.maxRow kind := by
  obtain ⟨s, hs, -⟩ := edited_sheet hw .voyage
  obtain ⟨-, -, -, rules⟩ := edited_frame hw hs
  have checked := (Xlsx.render_ok hr).2.2 s (List.mem_of_getElem? hs)
  have rows := Xlsx.rows_of_checkSheet checked (v := ⟨_, 1, max (layout.maxRow kind) 1 - 1, _⟩)
    (by rw [rules]; exact List.mem_cons_self)
  dsimp only at rows
  omega

/-- The lookup sheet is not named like a report sheet. -/
lemma lookupSheet_ne_title (k : ReportSheet) : layout.lookupSheet ≠ k.title :=
  ((hidden_names hw hr).1 k).1

omit hw in
/-- A template is written only if the columns of its lookup sheet have numbers of their own. -/
lemma lookupSheet_few (hlookup : w.sheets[lookupPlace]? = some (lookupSheet catalog layout)) :
    (lookupSheet catalog layout).columns.length ≤ 0x10000 := by
  have checked := (Xlsx.render_ok hr).2.2 _ (List.mem_of_getElem? hlookup)
  exact Nat.le_trans (Xlsx.columns_of_checkSheet checked) (by decide)

/-- The sheets of the file are those of the workbook with its values. -/
lemma sheets_eq : sheets = w.sheets.zipIdx.map fun (s, i) =>
    sheetWith (Grid.Layered.values w.grid) i s := by
  have hname := lookupSheet_ne_title hw hr
  obtain ⟨s, hs, -⟩ := edited_sheet hw .voyage
  rw [(Xlsx.render_ok hr).1]
  have layered := (edited_layered hw hname).under (edited_solves hw hname)
  refine Xlsx.writtenSheets_eq layered fun h => ?_
  rw [h] at hs
  cases hs

/-- A report sheet is found in the file, with what its cells hold. -/
lemma findSheet?_report (k : ReportSheet) :
    ∃ range : CellRange,
      Submission.findSheet? (sheets.map fun s => ⟨s.name, .ok s.range⟩) k.title =
        some ⟨k.title, .ok range⟩ ∧
      range.lastRow = layout.maxRow kind - 1 ∧
      ∀ row col, row < layout.maxRow kind → col < k.columns.length →
        range.cell ⟨row, col⟩ =
          seen (w.value k.title ⟨row, col⟩) (w.cell? k.title ⟨row, col⟩) := by
  have hname := lookupSheet_ne_title hw hr
  have rows := exists_dataRow hw hr
  obtain ⟨s, hs, edit⟩ := edited_sheet hw k
  obtain ⟨name, columns, height, -⟩ := edited_frame hw hs
  have width : s.columnCount = k.columns.length := by
    rw [Sheet.columnCount, columns, columnNumber_sheetColumns]
  refine ⟨(sheetWith (Grid.Layered.values w.grid) (place k) s).range, ?_, ?_, ?_⟩
  · rw [sheets_eq hw hr, findSheet?_returned, edited_index hw k]
    dsimp only [Option.bind_some]
    rw [hs, Option.map_some, name]
  · -- every data row has a formula, the last one too
    obtain ⟨col, hcol⟩ := formulaColumns_nonempty k
    obtain ⟨e, he⟩ : ∃ e, (col, e) ∈ rowFormulas (Lookup.ofCatalog catalog layout.lookupSheet) k
        (layout.maxRow kind - 1) := exists_rowFormulas hcol _
    have content : w.grid.content (place k) ⟨layout.maxRow kind - 1, col⟩ = some (.formula e) :=
      (edited_formula hw).mpr ⟨k, rfl, by dsimp only; omega, by dsimp only; omega, he⟩
    obtain ⟨s', hs', hc⟩ := Workbook.grid_formula.mp content
    obtain rfl := Option.some.inj (hs.symm.trans hs')
    obtain ⟨c, hc', -⟩ := mem_formulaColumns.mp hcol
    exact Xlsx.range_lastRow _ _ hc (by rw [height]; dsimp only; omega)
      (by rw [width]; exact (List.getElem?_eq_some_iff.mp hc').1)
  · intro row col hrow hcol
    rw [Xlsx.range_cell _ _ (by rw [height]; dsimp only; omega) (by rw [width]; exact hcol),
      edited_value hw hname, Workbook.cell?_eq (edited_index hw k), hs]
    rfl

end

/-! ## Reading a report sheet -/

/-- A text that a file holds as it is. -/
structure Faithful (s : String) : Prop where
  escaped : Xlsx.escaped s.toList = s.toList
  stored : Xlsx.stored s = s

/-- A faithful text is seen as it was entered. -/
lemma Faithful.seen {s : String} (h : Faithful s) (v : Value) :
    seen v (some (.text s)) = if s.isEmpty then .empty else .text s := by
  unfold Xlsx.seen
  dsimp only
  rw [h.escaped, String.ofList_toList, h.stored]

/-- The headers of the contract can be read back as they are. -/
lemma header_faithful {k : ReportSheet} {c : ColumnSpec} (hc : c ∈ k.columns) :
    Faithful c.header ∧ Text.trim c.header = c.header ∧ c.header.isEmpty = false := by
  have all : ∀ c ∈ k.columns, (Xlsx.escaped c.header.toList = c.header.toList ∧
      Xlsx.stored c.header = c.header) ∧ Text.trim c.header = c.header ∧
        c.header.isEmpty = false := by
    cases k <;> decide +kernel
  obtain ⟨⟨escaped, stored⟩, rest⟩ := all c hc
  exact ⟨⟨escaped, stored⟩, rest⟩

/-- The headers of the contract are taken as they are. -/
lemma headerText_exportHeaders (k : ReportSheet) :
    k.exportColumns.zipWith Submission.headerText k.exportHeaders = k.exportHeaders := by
  have title : ∀ c ∈ k.exportColumns, Submission.headerText c c.header = c.header := by
    intro c hc
    obtain ⟨-, trimmed, present⟩ := header_faithful ((List.takeWhile_prefix _).mem hc)
    unfold Submission.headerText
    dsimp only
    rw [trimmed, present, if_neg Bool.false_ne_true]
  rw [ReportSheet.exportHeaders, List.zipWith_map_right, List.zipWith_self]
  exact List.map_congr_left title

/-- The exported columns are the first ones of a sheet. -/
lemma column_of_export {k : ReportSheet} {c : ColumnSpec} {col : Nat}
    (h : (c, col) ∈ k.exportColumns.zipIdx) : k.columns[col]? = some c := by
  obtain ⟨hcol, rfl⟩ := List.getElem?_eq_some_iff.mp (List.mk_mem_zipIdx_iff_getElem?.mp h)
  exact List.prefix_iff_getElem?.mp (List.takeWhile_prefix _) col hcol

section

variable (hw : (build catalog kind rules layout token).workbook.EditOf w)

include hw

/-- The first row of a report sheet holds the headers of its columns. -/
lemma header_cell {k : ReportSheet} {c : ColumnSpec} {col : Nat} (hc : k.columns[col]? = some c) :
    w.cell? k.title ⟨0, col⟩ = some (.text c.header) := by
  obtain ⟨s, hs, edit⟩ := edited_sheet hw k
  obtain ⟨plan, h⟩ := protect_eq rules (builtSheet catalog kind rules layout k)
  have column : (sheetColumns layout k)[col]? = some ⟨c.header, c.role,
      if c.role = .helper then layout.helperWidth else layout.columnWidth⟩ := by
    rw [sheetColumns, List.getElem?_map, hc, Option.map_some]
  rw [Workbook.cell?_eq (edited_index hw k), hs, Option.bind_some, edit.get?_eq, h, builtSheet,
    dataSheet_eq]
  · have few : (sheetColumns layout k).length ≤ 0x10000 := by
      rw [sheetColumns, List.length_map]
      cases k <;> decide
    -- the formulas stand below the headers
    refine (Sheet.get?_setAll_of_not_mem fun d hd => ?_).trans (Sheet.get?_new_header few column)
    have row := (List.mem_range'_1.mp (mem_formulaCells.mp hd).1).1
    exact absurd row (Nat.not_succ_le_zero 0)
  · exact fun input => absurd input.1 (Nat.lt_irrefl 0)

/-- The first row of a report sheet is read as the headers of the contract. -/
lemma rowTexts_headers {k : ReportSheet} {range : CellRange}
    (cells : ∀ col, col < k.columns.length →
      range.cell ⟨0, col⟩ = seen (w.value k.title ⟨0, col⟩) (w.cell? k.title ⟨0, col⟩)) :
    rowTexts range k 0 = .ok k.exportHeaders := by
  have columns : k.exportColumns.zipIdx.map (·.1) = k.exportColumns := List.zipIdx_map_fst 0 _
  have header : ∀ p ∈ k.exportColumns.zipIdx,
      cellText p.1.kind (range.cell ⟨0, p.2⟩) = .ok p.1.header := by
    rintro ⟨c, col⟩ hc
    have column := column_of_export hc
    obtain ⟨faithful, -, present⟩ := header_faithful (List.mem_of_getElem? column)
    dsimp only
    rw [cells col (List.getElem?_eq_some_iff.mp column).1, header_cell hw column, faithful.seen,
      present]
    rfl
  rw [rowTexts, mapM_ok header, ReportSheet.exportHeaders]
  conv => rhs; rw [← columns, List.map_map]
  rfl

variable (hr : Xlsx.render w = .ok sheets)

include hr

/-- A report sheet of a returned template is read with the headers of the contract, and with the
texts of its rows. -/
theorem parseReportSheet_returned (rules' : Rules) {k : ReportSheet} {texts : Nat → List String}
    (htexts : ∀ row, 0 < row → row < layout.maxRow kind → exportedRow w k row = .ok (texts row)) :
    Submission.parseReportSheet rules' (sheets.map fun s => ⟨s.name, .ok s.range⟩) k =
      .ok (readSheet rules' k ((List.range' 1 (layout.maxRow kind - 1)).map texts)) := by
  obtain ⟨range, found, last, cells⟩ := findSheet?_report hw hr k
  have dataRow := exists_dataRow hw hr
  have headers : rowTexts range k 0 = .ok k.exportHeaders :=
    rowTexts_headers hw fun col => cells 0 col (by omega)
  have rows : ∀ row ∈ List.range' 1 range.lastRow, rowTexts range k row = .ok (texts row) := by
    intro row hrow
    rw [List.mem_range'_1, last] at hrow
    rw [← htexts row (by omega) (by omega)]
    refine mapM_congr fun ⟨c, col⟩ hc => ?_
    dsimp only
    rw [cells row col (by omega) (List.getElem?_eq_some_iff.mp (column_of_export hc)).1]
  unfold Submission.parseReportSheet
  rw [found]
  dsimp only
  rw [Submission.parseSheet, headers, mapM_ok rows]
  change Except.ok _ = _
  rw [headerText_exportHeaders, last]
  rfl

end

/-! ## Reading the token -/

/-- The place of the token sheet in a template. -/
def tokenPlace : Nat := 5

/-- The sheet of the token comes last. -/
lemma build_tokenSheet : (build catalog kind rules layout token).workbook.sheets[tokenPlace]? =
    some (tokenSheet token layout) := rfl

/-- The token sheet holds the token and the number of the vessel below its headers. -/
lemma tokenSheet_cells (t : UploadToken) (layout : Layout) :
    (tokenSheet t layout).get? ⟨1, 0⟩ = some (.text t.token) ∧
      (tokenSheet t layout).get? ⟨1, 1⟩ = some (.number (Float.ofInt t.vesselId)) := by
  constructor
  · refine Sheet.get?_setAll_of_mem List.mem_cons_self fun d hd => ?_
    simpa using hd
  · refine Sheet.get?_setAll_of_mem (List.mem_cons_of_mem _ List.mem_cons_self) fun d hd => ?_
    simpa using hd

/-- What a reader finds in the cells of the token sheet. -/
lemma tokenSheet_range (σ : Nat → Position → Value) (i : Nat) (t : UploadToken) (layout : Layout) :
    (sheetWith σ i (tokenSheet t layout)).range.cell ⟨1, 0⟩ =
        seen (σ i ⟨1, 0⟩) (some (.text t.token)) ∧
      (sheetWith σ i (tokenSheet t layout)).range.cell ⟨1, 1⟩ =
        .number (Float.ofInt t.vesselId) := by
  obtain ⟨text, number⟩ := tokenSheet_cells t layout
  have rows : (tokenSheet t layout).maxRow = 2 := rfl
  have columns : (tokenSheet t layout).columnCount = 3 := rfl
  constructor
  · rw [Xlsx.range_cell _ _ (by rw [rows]; exact Nat.one_lt_two) (by rw [columns]; decide), text]
  · rw [Xlsx.range_cell _ _ (by rw [rows]; exact Nat.one_lt_two) (by rw [columns]; decide), number,
      seen, Number.isNaN_ofInt, if_neg Bool.false_ne_true]

/-- A token is read as it was written if the file holds it as it is. -/
lemma readToken_text {range : CellRange} {v : Value} {s : String} {x : Float}
    (text : range.cell ⟨1, 0⟩ = seen v (some (.text s))) (number : range.cell ⟨1, 1⟩ = .number x) :
    ∃ t, Submission.readToken range = .ok (t, some (Number.toInt64 x)) ∧
      (s ≠ "" → Faithful s → t = some s) := by
  unfold Submission.readToken
  rw [text, number]
  by_cases hs : s.isEmpty
  · have empty : s = "" := String.isEmpty_iff.mp hs
    refine ⟨none, ?_, fun h => absurd empty h⟩
    rw [seen, if_pos hs]
    rfl
  · rw [seen, if_neg hs]
    refine ⟨_, rfl, fun _ faithful => ?_⟩
    rw [faithful.escaped, String.ofList_toList, faithful.stored, if_neg hs]

section

variable (hw : (build catalog kind rules layout token).workbook.EditOf w)
  (hr : Xlsx.render w = .ok sheets)

include hw hr

/-- The token sheet is found at its place. -/
lemma edited_tokenIndex : w.sheetIndex? layout.tokenSheet = some tokenPlace := by
  obtain ⟨titles, hidden⟩ := hidden_names hw hr
  have name : (tokenSheet token layout).name = layout.tokenSheet := rfl
  have lookup : (lookupSheet catalog layout).name = layout.lookupSheet := rfl
  rw [hw.sheetIndex?_eq, Workbook.sheetIndex?, build_sheets]
  simp [List.findIdx?_cons, protect_name, name, lookup, Ne.symm (titles _).2, hidden, tokenPlace]

/-- The token of a returned template is read with the whole part of the number that was written for
the vessel. -/
lemma parseToken_returned (hs : w.sheets[tokenPlace]? = some (tokenSheet token layout)) :
    ∃ t, Submission.parseToken (sheets.map fun s => ⟨s.name, .ok s.range⟩) layout.tokenSheet =
        .ok (t, some (Number.toInt64 (Float.ofInt token.vesselId))) ∧
      (token.token ≠ "" → Faithful token.token → t = some token.token) := by
  unfold Submission.parseToken
  rw [sheets_eq hw hr, findSheet?_returned, edited_tokenIndex hw hr]
  dsimp only [Option.bind_some]
  rw [hs, Option.map_some]
  obtain ⟨text, number⟩ := tokenSheet_range (Grid.Layered.values w.grid) tokenPlace token layout
  exact readToken_text text number

/-- A returned template whose token sheet was not changed is read sheet by sheet, with the whole
part of the number that was written for the vessel. -/
theorem parse_returned (rules' : Rules) {layout' : Layout}
    (hname : layout'.tokenSheet = layout.tokenSheet)
    (hs : w.sheets[tokenPlace]? = some (tokenSheet token layout))
    {texts : ReportSheet → Nat → List String}
    (htexts : ∀ k row, 0 < row → row < layout.maxRow kind →
      exportedRow w k row = .ok (texts k row)) :
    ∃ t, Submission.parse rules' layout' (Xlsx.returned sheets) = .ok
        ⟨ReportSheet.all.map fun k =>
            readSheet rules' k ((List.range' 1 (layout.maxRow kind - 1)).map (texts k)),
          t, some (Number.toInt64 (Float.ofInt token.vesselId))⟩ ∧
      (token.token ≠ "" → Faithful token.token → t = some token.token) := by
  obtain ⟨t, htoken, ht⟩ := parseToken_returned hw hr hs
  refine ⟨t, ?_, ht⟩
  rw [Xlsx.returned, Submission.parse, hname, htoken,
    mapM_ok fun k _ => parseReportSheet_returned hw hr rules' (htexts k)]
  rfl

end

end ShipReport.Template
