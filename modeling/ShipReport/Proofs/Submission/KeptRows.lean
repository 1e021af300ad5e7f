import ShipReport.Proofs.Submission.Exported
import ShipReport.Proofs.Text.Blank

/-!
# The rows that are kept

Which rows of a returned sheet are exported, and as what: those in which an exported cell says
something, in their order, with every text as it stands. What is not exported has no part in it, and
neither has how far a sheet reaches beyond the last row that says something.
-/

namespace ShipReport.Submission

open Report (ReportSheet Rules ValueKind ColumnSpec)

/-! ## Texts that say something -/

/-- A text says something: it is neither blank nor a placeholder, whatever the case of its ASCII
letters and the blanks around it. -/
def Filled (rules : Rules) (s : String) : Prop :=
  Text.trim s ≠ "" ∧ ∀ p ∈ rules.placeholders,
    Text.asciiLowercase (Text.trim p) ≠ Text.asciiLowercase (Text.trim s)
deriving Decidable

/-- A text is not blank exactly if it is filled. -/
lemma isBlank_eq_false {rules : Rules} {s : String} : isBlank rules s = false ↔ Filled rules s := by
  rw [isBlank, Bool.or_eq_false_iff, ← Bool.not_eq_true, Text.isBlankText_iff, Rules.isPlaceholder,
    List.any_eq_false]
  simp only [Text.eqIgnoringAsciiCase, beq_iff_eq]
  rfl

/-- The empty text is not filled. -/
lemma not_filled_empty (rules : Rules) : ¬ Filled rules "" :=
  fun filled => filled.1 (by decide)

/-! ## Texts of a range -/

/-- What stands in a range at a position: nothing after its last row. -/
def CellRange.get (range : CellRange) (p : Formula.Position) : CellData :=
  if p.row ≤ range.lastRow then range.cell p else .empty

/-- Ranges agree on the exported columns of a sheet. -/
def CellRange.Agree (k : ReportSheet) (range range' : CellRange) : Prop :=
  ∀ row, ∀ col < k.columnLimit, range.get ⟨row, col⟩ = range'.get ⟨row, col⟩

/-- The text of a cell, or none if its date cannot be counted. -/
def CellData.shown (kind : ValueKind) (c : CellData) : String :=
  (cellText kind c).toOption.getD ""

/-- The texts in the exported columns of a row. -/
def CellRange.shown (k : ReportSheet) (range : CellRange) (row : Nat) : List String :=
  k.exportColumns.zipIdx.map fun p => (range.get ⟨row, p.2⟩).shown p.1.kind

section

variable {rules : Rules} {k : ReportSheet} {range range' : CellRange} {row : Nat}

/-- A cell that can be counted has the text that it shows. -/
lemma CellData.Countable.cellText_eq {kind : ValueKind} {c : CellData} (h : c.Countable kind) :
    cellText kind c = .ok (c.shown kind) := by
  obtain ⟨s, hs⟩ := cellText_succeeds_iff.mpr h
  rw [CellData.shown, hs]
  rfl

/-- Down to the last row a range has its cells. -/
lemma CellRange.get_of_le {col : Nat} (h : row ≤ range.lastRow) :
    range.get ⟨row, col⟩ = range.cell ⟨row, col⟩ :=
  if_pos h

/-- Below the last row a range has no cells. -/
lemma CellRange.get_of_lt {col : Nat} (h : range.lastRow < row) :
    range.get ⟨row, col⟩ = .empty :=
  if_neg (Nat.not_le.mpr h)

/-- Dates can be counted wherever a range is read, also after its last row. -/
lemma CellRange.countable_iff_get : range.Countable k ↔
    ∀ row, ∀ p ∈ k.exportColumns.zipIdx, (range.get ⟨row, p.2⟩).Countable p.1.kind := by
  constructor
  · intro countable row p hp
    rcases Nat.lt_or_ge range.lastRow row with after | within
    · rw [CellRange.get_of_lt after]
      exact nofun
    · rw [CellRange.get_of_le within]
      exact countable row within p hp
  · intro countable row within p hp
    rw [← CellRange.get_of_le within]
    exact countable row p hp

/-- Nothing is shown after the last row. -/
lemma CellRange.shown_of_lt (h : range.lastRow < row) : ∀ s ∈ range.shown k row, s = "" := by
  intro s hs
  obtain ⟨p, -, rfl⟩ := List.mem_map.mp hs
  rw [CellRange.get_of_lt h]
  rfl

/-- Ranges that agree show the same rows. -/
lemma CellRange.Agree.shown_eq (agree : range.Agree k range') :
    range.shown k row = range'.shown k row := by
  refine List.map_congr_left fun p hp => ?_
  rw [agree row p.2 (List.snd_lt_of_mem_zipIdx hp)]

/-- Ranges that agree can both be counted or neither. -/
lemma CellRange.Agree.countable (agree : range.Agree k range') (countable : range.Countable k) :
    range'.Countable k := by
  rw [CellRange.countable_iff_get] at countable ⊢
  intro row p hp
  rw [← agree row p.2 (List.snd_lt_of_mem_zipIdx hp)]
  exact countable row p hp

/-- The texts of a row are those that it shows. -/
lemma rowTexts_of_countable (countable : range.Countable k) (within : row ≤ range.lastRow) :
    rowTexts range k row = .ok (range.shown k row) := by
  refine mapM_ok fun p hp => ?_
  rw [CellRange.get_of_le within]
  exact (countable row within p hp).cellText_eq

/-! ## Rows that say something -/

/-- The rows that say something, from the second row of a sheet to a last one. -/
def CellRange.filledRows (rules : Rules) (k : ReportSheet) (range : CellRange) (last : Nat) :
    List Nat :=
  (List.range' 1 last).filter fun row => ∃ s ∈ range.shown k row, Filled rules s

/-- No row says anything after the last one of the range. -/
lemma CellRange.filledRows_of_le {last : Nat} (h : range.lastRow ≤ last) :
    range.filledRows rules k last = range.filledRows rules k range.lastRow := by
  obtain ⟨rest, rfl⟩ := Nat.exists_eq_add_of_le h
  have none : (List.range' (1 + range.lastRow) rest).filter
      (fun row => ∃ s ∈ range.shown k row, Filled rules s) = [] := by
    refine List.filter_eq_nil_iff.mpr fun row hrow some => ?_
    obtain ⟨s, hs, filled⟩ := decide_eq_true_iff.mp some
    rw [CellRange.shown_of_lt (by rw [List.mem_range'_1] at hrow; omega) s hs] at filled
    exact not_filled_empty rules filled
  rw [filledRows, ← List.range'_append_1, List.filter_append, none, List.append_nil, filledRows]

/-- Ranges that agree have the same rows that say something, also where one ends before the
other. -/
lemma CellRange.Agree.filledRows_eq (agree : range.Agree k range') :
    range.filledRows rules k range.lastRow = range'.filledRows rules k range'.lastRow := by
  rw [← CellRange.filledRows_of_le (Nat.le_max_left range.lastRow range'.lastRow),
    ← CellRange.filledRows_of_le (Nat.le_max_right range.lastRow range'.lastRow)]
  refine List.filter_congr fun row _ => ?_
  simp only [agree.shown_eq]

/-- A row is dropped if and only if nothing in it says something. -/
lemma keeps_iff {texts : List String} :
    (!texts.all (isBlank rules)) = decide (∃ s ∈ texts, Filled rules s) := by
  simp only [← isBlank_eq_false, List.not_all_eq_any_not, List.any_eq, Bool.not_eq_true']

/-- What is read of a sheet whose dates can be counted. -/
lemma parseSheet_of_countable (rules : Rules) (countable : range.Countable k) :
    parseSheet rules k range = .ok {
      kind := k
      title := k.title
      headers := k.exportColumns.zipWith headerText (range.shown k 0)
      rows := (range.filledRows rules k range.lastRow).map (range.shown k)
      droppedRows := range.lastRow - (range.filledRows rules k range.lastRow).length
      warning := none } := by
  have rows : (List.range' 1 range.lastRow).mapM (rowTexts range k) =
      .ok ((List.range' 1 range.lastRow).map (range.shown k)) := by
    refine mapM_ok fun row hrow => rowTexts_of_countable countable ?_
    rw [List.mem_range'_1] at hrow
    omega
  have kept : ((List.range' 1 range.lastRow).map (range.shown k)).filter
      (fun row => !row.all (isBlank rules)) =
        (range.filledRows rules k range.lastRow).map (range.shown k) := by
    simp only [keeps_iff, List.filter_map]
    rfl
  rw [parseSheet, rowTexts_of_countable countable (Nat.zero_le _), rows]
  simp only [bind, Except.bind, pure, Except.pure, kept, List.length_map, List.length_range']

end

/-- Whether the dates of a sheet can be counted is found by reading it. -/
instance (k : ReportSheet) (range : CellRange) : Decidable (range.Countable k) :=
  decidable_of_iff ((parseSheet .default k range).isOk = true) (by
    rw [← @parseSheet_succeeds_iff .default]
    cases parseSheet .default k range with
    | ok s => exact iff_of_true rfl ⟨s, rfl⟩
    | error e => exact iff_of_false nofun nofun)

/-! ## What is extracted -/

/-- What is read of a sheet is the rows of its range that say something. -/
structure Extracted (rules : Rules) (k : ReportSheet) (range : CellRange) (s : ParsedSheet) :
    Prop where
  headers : s.headers.length = k.columnLimit
  fields : ∀ row ∈ s.rows, row.length = k.columnLimit
  /-- The headers and rows are made of the texts of cells as they stand. -/
  texts : ∃ texts : Nat → List String,
    (∀ row ≤ range.lastRow, List.Forall₂
      (fun p text => cellText p.1.kind (range.cell ⟨row, p.2⟩) = .ok text)
      k.exportColumns.zipIdx (texts row)) ∧
    s.headers = k.exportColumns.zipWith headerText (texts 0) ∧
    s.rows = ((List.range' 1 range.lastRow).filter fun row =>
      ∃ text ∈ texts row, Filled rules text).map texts
  counted : s.rows.length + s.droppedRows = range.lastRow
  /-- Columns that are not exported play no part. -/
  exported : ∀ range', range.Agree k range' → ∃ s', parseSheet rules k range' = .ok s' ∧
    s'.headers = s.headers ∧ s'.rows = s.rows

/-- Of every sheet whose dates can be counted, the rows that say something are extracted. -/
theorem extracted_of_countable (rules : Rules) {k : ReportSheet} {range : CellRange}
    (countable : range.Countable k) :
    ∃ s, parseSheet rules k range = .ok s ∧ Extracted rules k range s := by
  have read := parseSheet_of_countable rules countable
  have fits := fits_of_parseSheet read
  refine ⟨_, read, fits.headers, fits.rows, ⟨range.shown k, fun row within => ?_, rfl, rfl⟩,
    ?_, ?_⟩
  · exact mapM_eq_ok.mp (rowTexts_of_countable countable within)
  · have fewer : (range.filledRows rules k range.lastRow).length ≤ range.lastRow := by
      exact (List.length_filter_le _ _).trans_eq List.length_range'
    rw [List.length_map, Nat.add_sub_cancel' fewer]
  · intro range' agree
    refine ⟨_, parseSheet_of_countable rules (agree.countable countable), ?_, ?_⟩
    · dsimp only
      rw [agree.shown_eq]
    · dsimp only
      rw [agree.filledRows_eq]
      exact List.map_congr_left fun row _ => agree.shown_eq.symm

namespace Sample

/-- A bunkering sheet with a helper in its second row, a placeholder in its third one, and a date
beside a placeholder in its last one. -/
def bunkers : CellRange where
  lastRow := 3
  cell := fun
    | ⟨1, 11⟩ => .text "V001"
    | ⟨2, 1⟩ => .text " n/a "
    | ⟨3, 1⟩ => .text "N/A"
    | ⟨3, 3⟩ => .number 45292.5
    | _ => .empty

/-- The sample can be counted. -/
lemma bunkers_countable : bunkers.Countable .bunkering := by
  decide +kernel

end Sample

/-- Only the last row of the sample says something. -/
theorem bunkers_extracted : Sample.bunkers.Countable .bunkering ∧
    ∃ s, parseSheet .default .bunkering Sample.bunkers = .ok s ∧
      Extracted .default .bunkering Sample.bunkers s ∧
      s.rows = [["", "N/A", "", "2024-01-01 12:00:00", "", "", "", "", "", "", ""]] := by
  obtain ⟨s, read, extracted⟩ := extracted_of_countable .default Sample.bunkers_countable
  have rows : (parseSheet .default .bunkering Sample.bunkers).toOption.map (·.rows) =
      some [["", "N/A", "", "2024-01-01 12:00:00", "", "", "", "", "", "", ""]] := by
    decide +kernel
  rw [read] at rows
  exact ⟨Sample.bunkers_countable, s, read, extracted, Option.some.inj rows⟩

end ShipReport.Submission
