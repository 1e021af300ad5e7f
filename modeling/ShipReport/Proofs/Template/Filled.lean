import ShipReport.Proofs.Calendar.Serial
import ShipReport.Proofs.Template.Carry
import ShipReport.Proofs.Template.Results
import ShipReport.Proofs.Template.Untouched

/-!
# Filled templates

A template that the crew has filled in comes back with the rows in which something is shown: texts
as they were entered, numbers as the texts of their kind of column, and the results of formulas,
with nothing in place of a fault.
-/

namespace ShipReport.Template

open Calendar.Serial (Overflow)
open Formula (Expr Grid Position Value)
open Report
open Submission (cellText isBlank)
open Workbook (Cell Edit Entry)
open Xlsx (WrittenSheet cachedResult readResult seen stored)

variable {catalog : Catalog} {kind : TemplateKind} {rules : Rules} {layout : Layout}
  {token : UploadToken} {w : Workbook} {sheets : List WrittenSheet}

/-! ## What is entered -/

/-- What the crew may enter into a column: a text that a file holds as it is, or a finite number,
which for a date is not negative and below a hundred million. -/
def Enterable (c : ColumnSpec) : Entry → Prop
  | .text s => Faithful s
  | .number x => x.isFinite ∧ (c.kind = .dateTime → 0 ≤ x ∧ x < 100000000)

/-- What a file can hold: a text that it holds as it is, or a finite number. -/
def Storable : Entry → Prop
  | .text s => Faithful s
  | .number x => x.isFinite

/-- What can be entered can be stored. -/
lemma Enterable.storable {c : ColumnSpec} {entry : Entry} (h : Enterable c entry) :
    Storable entry := by
  cases entry with
  | text s => exact h
  | number x => exact h.1

/-- The edit clears an input cell of a data row, or it enters what may stand there. -/
def Fills (kind : TemplateKind) (layout : Layout) (e : Edit) : Prop :=
  ∃ (k : ReportSheet) (c : ColumnSpec), e.sheet = k.title ∧ 0 < e.position.row ∧
    e.position.row < layout.maxRow kind ∧ k.columns[e.position.col]? = some c ∧ c.role = .input ∧
      ∀ entry ∈ e.entry, Enterable c entry

/-- A template that has been filled in: its hidden sheets are as they were, and in its input cells
stands what may be entered there. -/
structure Filled (catalog : Catalog) (kind : TemplateKind) (rules : Rules) (layout : Layout)
    (token : UploadToken) (w : Workbook) : Prop where
  edit : (build catalog kind rules layout token).workbook.EditOf w
  lookup : w.sheets[lookupPlace]? = some (lookupSheet catalog layout)
  few : (lookupSheet catalog layout).columns.length ≤ 0x10000
  token : w.sheets[tokenPlace]? = some (tokenSheet token layout)
  input : ∀ {k : ReportSheet} {row col : Nat} {c : ColumnSpec}, 0 < row →
    k.columns[col]? = some c → c.role = .input →
      w.cell? k.title ⟨row, col⟩ = none ∨
        ∃ entry : Entry, w.cell? k.title ⟨row, col⟩ = some entry.cell ∧ Enterable c entry

/-- Report sheets of different kinds have different titles. -/
lemma title_injective {k k' : ReportSheet} (h : k.title = k'.title) : k = k' := by
  revert h
  cases k <;> cases k' <;> decide

/-- What fills an input cell is an edit of one. -/
lemma Fills.admits {e : Edit} (h : Fills kind layout e) :
    (build catalog kind rules layout token).workbook.Admits e := by
  obtain ⟨k, c, sheet, hrow, hmax, hc, hrole, -⟩ := h
  obtain ⟨name, position, entry⟩ := e
  obtain rfl : name = k.title := sheet
  exact build_admits.mpr ⟨hrow, hmax, c, hc, hrole⟩

/-- An input cell of a data row is blank or holds what an edit has entered there. -/
lemma input_editAll {es : List Edit} {k : ReportSheet} {row col : Nat} {c : ColumnSpec}
    {P : Entry → Prop} (hrow : 0 < row) (hc : k.columns[col]? = some c) (hrole : c.role = .input)
    (entries : ∀ e ∈ es, e.sheet = k.title → e.position = ⟨row, col⟩ → ∀ entry ∈ e.entry, P entry) :
    ((build catalog kind rules layout token).workbook.editAll es).cell? k.title ⟨row, col⟩ = none ∨
      ∃ entry : Entry, ((build catalog kind rules layout token).workbook.editAll es).cell? k.title
        ⟨row, col⟩ = some entry.cell ∧ P entry := by
  have plain : col ∉ formulaColumns k := fun h => by
    obtain ⟨c', hc', hrole'⟩ := mem_formulaColumns.mp h
    obtain rfl := Option.some.inj (hc.symm.trans hc')
    exact hrole' hrole
  rcases Workbook.cell?_editAll (build catalog kind rules layout token).workbook es k.title
    ⟨row, col⟩ with kept | ⟨e, he, sheet, position, entered⟩
  · exact .inl (kept.trans (untouched_cell hrow plain))
  · cases hentry : e.entry with
    | none => exact .inl (by rw [entered, hentry]; rfl)
    | some entry =>
      exact .inr ⟨entry, by rw [entered, hentry]; rfl, entries e he sheet position entry hentry⟩

/-- The crew fills in report sheets, not the lookup sheet. -/
lemma lookup_filled {es : List Edit} (hes : ∀ e ∈ es, Fills kind layout e)
    (names : ∀ k : ReportSheet, layout.lookupSheet ≠ k.title ∧ layout.tokenSheet ≠ k.title) :
    ((build catalog kind rules layout token).workbook.editAll es).sheets[lookupPlace]? =
      some (lookupSheet catalog layout) :=
  Workbook.editAll_other build_lookupSheet fun e he => by
    obtain ⟨k, c, sheet, -⟩ := hes e he
    rw [sheet]
    exact (names k).1.symm

/-- The edits of the crew fill a template in that can be written. -/
theorem filled_editAll {es : List Edit} {sheets : List WrittenSheet}
    (hes : ∀ e ∈ es, Fills kind layout e)
    (hr : Xlsx.render ((build catalog kind rules layout token).workbook.editAll es) = .ok sheets)
    (names : ∀ k : ReportSheet, layout.lookupSheet ≠ k.title ∧ layout.tokenSheet ≠ k.title) :
    Filled catalog kind rules layout token
      ((build catalog kind rules layout token).workbook.editAll es) where
  edit := .editAll fun e he => (hes e he).admits
  lookup := lookup_filled hes names
  few := lookupSheet_few hr (lookup_filled hes names)
  token := Workbook.editAll_other build_tokenSheet fun e he => by
    obtain ⟨k, c, sheet, -⟩ := hes e he
    rw [sheet]
    exact (names k).2.symm
  input := by
    intro k row col c hrow hc hrole
    refine input_editAll hrow hc hrole fun e he sheet position => ?_
    -- the edit belongs to the same column
    obtain ⟨k', c', sheet', -, -, hc', -, enterable⟩ := hes e he
    obtain rfl := title_injective (sheet.symm.trans sheet')
    rw [position] at hc'
    obtain rfl := Option.some.inj (hc.symm.trans hc')
    exact enterable

/-! ## What is shown -/

/-- A text as a reader takes it that looks for numbers. -/
def reread (s : String) : String :=
  match Number.read? s with
  | some x => Number.cellText x
  | none => s

/-- The columns of a report sheet that are not helpers, each with its place. -/
def shownColumns (k : ReportSheet) : List (ColumnSpec × Nat) :=
  k.columns.zipIdx.filter fun (c, _) => c.role ≠ .helper

/-- The text that is exported for a cell: of an entry the text itself, or the text of the number in
its kind of column, and of a formula the text of its value, or nothing for a fault. The voyage
number that a sheet carries is read once more. -/
def exportText (w : Workbook) (k : ReportSheet) (row : Nat) :
    ColumnSpec × Nat → Except Overflow String
  | (c, col) =>
    match w.cell? k.title ⟨row, col⟩ with
    | none => .ok ""
    | some (.text s) => .ok s
    | some (.number x) => cellText c.kind (.number x)
    | some (.formula _) =>
      let result := cachedResult (w.value k.title ⟨row, col⟩)
      .ok (if c.header = "Voyage No" then reread result else result)

/-- The exported columns are those that are not helpers. -/
lemma zipIdx_exportColumns (k : ReportSheet) : k.exportColumns.zipIdx = shownColumns k := by
  cases k <;> rfl

/-- Formulas fill no column of dates. -/
lemma kind_of_computed {k : ReportSheet} {c : ColumnSpec} (hc : c ∈ k.columns)
    (hrole : c.role = .computed) : c.kind ≠ .dateTime := by
  have all : ∀ c ∈ k.columns, c.role = .computed → c.kind ≠ .dateTime := by
    cases k <;> decide
  exact all c hc hrole

/-- The carried voyage number is shown in the first column. -/
lemma voyageNo_column {k : ReportSheet} {col : Nat} {c : ColumnSpec} (hc : k.columns[col]? = some c)
    (hrole : c.role = .computed) (hheader : c.header = "Voyage No") :
    col = shownColumn ∧ ∃ carry, carryColumn k = some carry := by
  have all : ∀ p ∈ k.columns.zipIdx, p.1.role = .computed → p.1.header = "Voyage No" →
      p.2 = shownColumn ∧ (carryColumn k).isSome := by
    cases k <;> decide
  obtain ⟨first, carried⟩ :=
    all (c, col) (List.mk_mem_zipIdx_iff_getElem?.mpr hc) hrole hheader
  exact ⟨first, Option.isSome_iff_exists.mp carried⟩

/-- The cell of a stored text has the text that it is read back as. -/
lemma cellText_reread {kind : ValueKind} (hkind : kind ≠ .dateTime) (s : String) :
    cellText kind (readResult s) = .ok (reread s) := by
  unfold readResult reread
  cases Number.read? s with
  | none => rfl
  | some x => exact if_neg hkind

/-- A finite number is a number. -/
lemma isNaN_of_isFinite {x : Float} (h : x.isFinite) : x.isNaN = false := by
  change x.toModel.unpack.isFinite = true at h
  change x.toModel.unpack.isNaN = false
  cases hx : x.toModel.unpack with
  | notANumber => rw [hx] at h; cases h
  | _ => rfl

/-- What is entered has a text. -/
lemma Enterable.exists_text {c : ColumnSpec} {x : Float} (h : Enterable c (.number x)) :
    ∃ t, cellText c.kind (.number x) = .ok t := by
  change ∃ t, (if c.kind = .dateTime then Submission.serialText x else _) = .ok t
  split
  · next date =>
    obtain ⟨nonneg, hlt⟩ := h.2 date
    obtain ⟨t, ht⟩ := Calendar.Serial.dateTime?_ok nonneg hlt
    rw [Submission.serialText, ht]
    exact ⟨_, rfl⟩
  · exact ⟨_, rfl⟩

/-- What a file can hold is stored as it is. -/
lemma Storable.stored_eq {entry : Entry} (h : Storable entry) {sheet : String} {p : Position}
    (holds : w.cell? sheet p = some entry.cell) {v : Value} (hv : w.entry? sheet p = some v) :
    stored (cachedResult v) = cachedResult v := by
  rw [Workbook.entry?, holds] at hv
  cases entry with
  | text s =>
    have faithful : Faithful s := h
    simp only [Entry.cell] at hv
    split at hv
    · cases hv
    · obtain rfl := Option.some.inj hv
      exact faithful.stored
  | number x =>
    obtain rfl := Option.some.inj hv
    exact Xlsx.stored_cellText x

section

variable (hf : Filled catalog kind rules layout token w)
  (hname : ∀ k : ReportSheet, layout.lookupSheet ≠ k.title)

include hf

/-- An entry is stored as it is. -/
lemma stored_entry {k : ReportSheet} {row col : Nat} {c : ColumnSpec} (hrow : 0 < row)
    (hc : k.columns[col]? = some c) (hrole : c.role = .input) {v : Value}
    (hv : w.entry? k.title ⟨row, col⟩ = some v) : stored (cachedResult v) = cachedResult v := by
  rcases hf.input hrow hc hrole with none | ⟨entry, holds, enterable⟩
  · rw [Workbook.entry?, none] at hv
    cases hv
  · exact enterable.storable.stored_eq holds hv

include hname

/-- The voyage number that a row carries is stored as it is. -/
lemma stored_carried {k : ReportSheet} {carry : Nat} (hk : carryColumn k = some carry) {n : Nat}
    (hn : 0 < n) (hmax : n < layout.maxRow kind) :
    stored (cachedResult (Grid.Layered.values w.grid (place k) ⟨n, carry⟩)) =
      cachedResult (Grid.Layered.values w.grid (place k) ⟨n, carry⟩) := by
  -- the number is an entry of the row, or that of the row above
  induction n, hn using Nat.le_induction with
  | base =>
    rw [carry_step hf.edit hname hk Nat.one_pos hmax]
    cases hv : w.entry? ReportSheet.voyage.title ⟨1, VoyageColumn.voyageNo⟩ with
    | some v => exact stored_entry hf (k := .voyage) Nat.one_pos rfl rfl hv
    | none => rfl
  | succ n hn ih =>
    rw [carry_step hf.edit hname hk (Nat.succ_pos n) hmax]
    cases hv : w.entry? ReportSheet.voyage.title ⟨n + 1, VoyageColumn.voyageNo⟩ with
    | some v => exact stored_entry hf (k := .voyage) (Nat.succ_pos n) rfl rfl hv
    | none =>
      simp only [show 1 < n + 1 by omega, if_true]
      exact ih (by omega)

/-- The voyage number that a row shows is stored as it is. -/
lemma stored_shown {k : ReportSheet} {carry : Nat} (hk : carryColumn k = some carry) {n : Nat}
    (hn : 0 < n) (hmax : n < layout.maxRow kind) :
    stored (cachedResult (Grid.Layered.values w.grid (place k) ⟨n, shownColumn⟩)) =
      cachedResult (Grid.Layered.values w.grid (place k) ⟨n, shownColumn⟩) := by
  by_cases driver : w.entry? k.title ⟨n, k.driver⟩ = none
  · have blank : (Grid.Layered.values w.grid (place k) ⟨n, k.driver⟩).isBlank := by
      rcases input_value hf.edit hname n (driver_column k) with ⟨-, h⟩ | ⟨h, -⟩
      · exact h
      · rw [driver] at h
        cases h
    rw [gated_blank hf.edit hname hn hmax (mem_voyageFormulas _ hk n).2 blank]
    rfl
  · rw [shown_of_driver hf.edit hname hk hn hmax driver]
    exact stored_carried hf hname hk hn hmax

/-- In a data row the cell of an exported column is read as the text that is to be exported. -/
theorem cellText_exported {k : ReportSheet} {row col : Nat} {c : ColumnSpec} (hrow : 0 < row)
    (hmax : row < layout.maxRow kind) (hc : (c, col) ∈ k.exportColumns.zipIdx) :
    ∃ t, cellText c.kind (seen (w.value k.title ⟨row, col⟩) (w.cell? k.title ⟨row, col⟩)) = .ok t ∧
      exportText w k row (c, col) = .ok t := by
  have column := column_of_export hc
  unfold exportText
  dsimp only
  cases hrole : c.role with
  | helper => exact absurd hrole (role_of_export hc)
  | input =>
    rcases hf.input hrow column hrole with none | ⟨entry, holds, enterable⟩
    · rw [none]
      exact ⟨"", rfl, rfl⟩
    · rw [holds]
      cases entry with
      | text s =>
        have faithful : Faithful s := enterable
        refine ⟨s, ?_, rfl⟩
        rw [Entry.cell, faithful.seen]
        split
        · next empty => rw [String.isEmpty_iff.mp empty]; rfl
        · rfl
      | number x =>
        obtain ⟨t, ht⟩ := enterable.exists_text
        refine ⟨t, ?_, ht⟩
        rw [Entry.cell, seen, isNaN_of_isFinite enterable.1, if_neg Bool.false_ne_true]
        exact ht
  | computed =>
    -- the result was stored as a text, which a reader takes for a number where it reads as one
    obtain ⟨e, he⟩ : ∃ e,
        (col, e) ∈ rowFormulas (Lookup.ofCatalog catalog layout.lookupSheet) k row :=
      exists_rowFormulas (mem_formulaColumns.mpr ⟨c, column, by rw [hrole]; decide⟩) row
    have kind := kind_of_computed (List.mem_of_getElem? column) hrole
    rw [edited_formulaCell hf.edit hrow hmax he]
    refine ⟨_, ?_, rfl⟩
    by_cases voyage : c.header = "Voyage No"
    · obtain ⟨rfl, carry, hk⟩ := voyageNo_column column hrole voyage
      rw [if_pos voyage, seen, edited_value hf.edit hname, stored_shown hf hname hk hrow hmax]
      exact cellText_reread kind _
    · rw [if_neg voyage]
      exact Xlsx.cellText_readResult
        (result_numeric hf.edit hname hf.lookup hf.few hrow hmax column ⟨hrole, voyage⟩) kind

/-- A row is read as the texts that are to be exported. -/
lemma exportedRow_filled (k : ReportSheet) {row : Nat} (hrow : 0 < row)
    (hmax : row < layout.maxRow kind) :
    ∃ ts, exportedRow w k row = .ok ts ∧ (shownColumns k).mapM (exportText w k row) = .ok ts := by
  have text : ∀ p ∈ k.exportColumns.zipIdx,
      exportText w k row p = .ok ((exportText w k row p).toOption.getD "") := by
    intro p hp
    obtain ⟨t, -, ht⟩ := cellText_exported hf hname hrow hmax hp
    rw [ht]
    rfl
  refine ⟨_, ?_, by rw [← zipIdx_exportColumns]; exact mapM_ok text⟩
  refine Eq.trans (mapM_congr fun p hp => ?_) (mapM_ok text)
  obtain ⟨t, read, ht⟩ := cellText_exported hf hname hrow hmax hp
  rw [ht]
  exact read

end

/-- A template that the crew has filled in and that can be written comes back with the rows in which
some exported cell is not blank, in their order and with the texts of their cells. -/
theorem filled_comes_back {catalog : Catalog} {kind : TemplateKind} {rules : Rules}
    {layout : Layout} {token : UploadToken} {es : List Edit} {sheets : List WrittenSheet}
    (hes : ∀ e ∈ es, Fills kind layout e)
    (hr : Xlsx.render ((build catalog kind rules layout token).workbook.editAll es) = .ok sheets)
    (rules' : Rules) :
    let w := (build catalog kind rules layout token).workbook.editAll es
    ∃ (texts : ReportSheet → Nat → List String) (parsed : Submission.ParsedWorkbook),
      (∀ k row, 0 < row → row < layout.maxRow kind →
        (shownColumns k).mapM (exportText w k row) = .ok (texts k row)) ∧
      Submission.parse rules' layout (Xlsx.returned sheets) = .ok parsed ∧
      parsed.sheets.map (·.kind) = ReportSheet.all ∧
      ∀ s ∈ parsed.sheets, s.rows =
        ((List.range' 1 (layout.maxRow kind - 1)).map (texts s.kind)).filter fun row =>
          !row.all (isBlank rules') := by
  intro w
  have hw : (build catalog kind rules layout token).workbook.EditOf w :=
    .editAll fun e he => (hes e he).admits
  have names := (hidden_names hw hr).1
  have hf : Filled catalog kind rules layout token w := filled_editAll hes hr names
  have rows : ∀ k row, ∃ ts, 0 < row → row < layout.maxRow kind →
      exportedRow w k row = .ok ts ∧ (shownColumns k).mapM (exportText w k row) = .ok ts := by
    intro k row
    by_cases data : 0 < row ∧ row < layout.maxRow kind
    · obtain ⟨ts, h⟩ := exportedRow_filled hf (fun k => (names k).1) k data.1 data.2
      exact ⟨ts, fun _ _ => h⟩
    · exact ⟨[], fun hrow hmax => absurd ⟨hrow, hmax⟩ data⟩
  choose texts htexts using rows
  obtain ⟨t, parsed, -⟩ := parse_returned hw hr rules' rfl hf.token
    fun k row hrow hmax => (htexts k row hrow hmax).1
  refine ⟨texts, _, fun k row hrow hmax => (htexts k row hrow hmax).2, parsed, rfl, ?_⟩
  intro s hs
  obtain ⟨k, -, rfl⟩ := List.mem_map.mp hs
  rfl

namespace Sample

/-- A voyage with a time of departure, the engine two rows below, and a row with a placeholder. -/
def entries : List Edit :=
  [⟨"Voyage", ⟨1, 0⟩, some (.text "V001")⟩, ⟨"Voyage", ⟨1, 6⟩, some (.number 45000.5)⟩,
    ⟨"Machinery", ⟨2, 1⟩, some (.text "Main Engine")⟩,
    ⟨"Machinery", ⟨3, 12⟩, some (.text "N/A")⟩]

/-- A text that is stored as it is can be entered in any column. -/
lemma text_enterable {c : ColumnSpec} {s : String} (escaped : Xlsx.escaped s.toList = s.toList)
    (stored : stored s = s) : ∀ entry ∈ some (Entry.text s), Enterable c entry := by
  rintro _ ⟨⟩
  exact ⟨escaped, stored⟩

/-- The entries of the sample fill input cells. -/
lemma entries_fill : ∀ e ∈ entries, Fills .standard Sample.layout e := by
  have departure : Enterable (inputColumn "Departure Time" .dateTime) (.number 45000.5) :=
    ⟨by decide, fun _ => by decide +kernel⟩
  simp only [entries, List.forall_mem_cons]
  refine ⟨?_, ?_, ?_, ?_, List.forall_mem_nil _⟩
  · exact ⟨.voyage, _, rfl, by decide, by decide, rfl, rfl, text_enterable (by decide) (by decide)⟩
  · refine ⟨.voyage, _, rfl, by decide, by decide, rfl, rfl, ?_⟩
    rintro _ ⟨⟩
    exact departure
  · exact ⟨.machinery, _, rfl, by decide, by decide, rfl, rfl,
      text_enterable (by decide) (by decide)⟩
  · exact ⟨.machinery, _, rfl, by decide, by decide, rfl, rfl,
      text_enterable (by decide) (by decide)⟩

/-- A filled template of the vessel can be written if no text in it is too long. -/
lemma render_filled {es : List Edit} (hes : ∀ e ∈ es, Fills .standard Sample.layout e)
    (short : ∀ e ∈ es, ∀ t, e.entry = some (.text t) → Xlsx.isOverlong t = false) :
    Xlsx.render (workbook.editAll es) = .ok (Xlsx.writtenSheets (workbook.editAll es)) :=
  Xlsx.render_editAll render_workbook (.editAll fun e he => (hes e he).admits) short

/-- The sample can be written. -/
lemma render_entries : Xlsx.render (workbook.editAll entries) =
    .ok (Xlsx.writtenSheets (workbook.editAll entries)) := by
  refine render_filled entries_fill ?_
  simp only [entries, List.forall_mem_cons]
  refine ⟨?_, ?_, ?_, ?_, List.forall_mem_nil _⟩ <;> rintro _ ⟨⟩ <;> decide

end Sample

/-- The filled template of the vessel comes back. -/
theorem filled_sample_comes_back :
    ∃ sheets, Xlsx.render (Sample.workbook.editAll Sample.entries) = .ok sheets ∧
      (∀ e ∈ Sample.entries, Fills .standard Sample.layout e) ∧
      ∃ (texts : ReportSheet → Nat → List String) (parsed : Submission.ParsedWorkbook),
        (∀ k row, 0 < row → row < 4 →
          (shownColumns k).mapM (exportText (Sample.workbook.editAll Sample.entries) k row) =
            .ok (texts k row)) ∧
        Submission.parse .default Sample.layout (Xlsx.returned sheets) = .ok parsed ∧
        parsed.sheets.map (·.kind) = ReportSheet.all ∧
        ∀ s ∈ parsed.sheets, s.rows =
          ((List.range' 1 3).map (texts s.kind)).filter fun row => !row.all (isBlank .default) :=
  ⟨_, Sample.render_entries, Sample.entries_fill,
    filled_comes_back Sample.entries_fill Sample.render_entries .default⟩

end ShipReport.Template
