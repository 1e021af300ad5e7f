import ShipReport.Proofs.Outcome
import ShipReport.Submission.Workbook

/-!
# Sheets read on their own

A sheet that is missing or cannot be read, and whatever stands in a cell, takes nothing from the
other sheets, with one exception: a date of so many seconds that they cannot be counted. It ends the
reading of the whole workbook, and nothing else does.
-/

namespace ShipReport

namespace Calendar.Serial

/-- The seconds of a serial can be counted, if they are counted at all. -/
def Countable (x : Float) : Prop :=
  x.isFinite → ¬ x < 0 → seconds x ≤ maxSeconds

/-- Exactly the serials that can be counted give a date and a time. -/
lemma dateTime?_succeeds_iff {x : Float} : (∃ t, dateTime? x = .ok t) ↔ Countable x := by
  unfold dateTime? Countable
  by_cases counted : !x.isFinite || decide (x < 0)
  · rw [if_pos counted]
    refine iff_of_true ⟨none, rfl⟩ fun finite nonneg => ?_
    simp [finite, nonneg] at counted
  · rw [if_neg counted]
    simp only [Bool.or_eq_true, Bool.not_eq_true', decide_eq_true_eq, not_or,
      Bool.not_eq_false] at counted
    dsimp only
    rw [imp_iff_right counted.1, imp_iff_right counted.2]
    split
    · next many => exact iff_of_false nofun (Int.not_le.mpr many)
    · next few =>
      refine iff_of_true ?_ (Int.not_lt.mp few)
      split
      · exact ⟨_, rfl⟩
      · exact ⟨_, rfl⟩

end Calendar.Serial

namespace Submission

open Report (ReportSheet Rules Layout ValueKind)
open Calendar (Serial.Countable)

/-! ## Sheets -/

/-- The serial as which a cell of a column is read, if it is read as one. -/
def CellData.serial? (kind : ValueKind) : CellData → Option Float
  | .number x => if kind = .dateTime then some x else none
  | .int n => if kind = .dateTime then some (Float.ofInt n) else none
  | .serial x => some x
  | _ => none

/-- The date in a cell of a column, if there is one, can be counted. -/
def CellData.Countable (kind : ValueKind) (c : CellData) : Prop :=
  ∀ x ∈ c.serial? kind, Serial.Countable x

/-- Exactly the serials that can be counted have a text. -/
lemma serialText_succeeds_iff {x : Float} : (∃ s, serialText x = .ok s) ↔ Serial.Countable x := by
  rw [← Calendar.Serial.dateTime?_succeeds_iff]
  unfold serialText
  cases Calendar.Serial.dateTime? x with
  | ok t => exact iff_of_true ⟨_, rfl⟩ ⟨t, rfl⟩
  | error e => exact iff_of_false nofun nofun

/-- Exactly the cells that can be counted have a text. -/
lemma cellText_succeeds_iff {kind : ValueKind} {c : CellData} :
    (∃ s, cellText kind c = .ok s) ↔ c.Countable kind := by
  unfold CellData.Countable
  cases c with
  | number x =>
    by_cases h : kind = .dateTime
    · simp [cellText, CellData.serial?, h, serialText_succeeds_iff]
    · simp [cellText, CellData.serial?, h]
  | int n =>
    by_cases h : kind = .dateTime
    · simp [cellText, CellData.serial?, h, serialText_succeeds_iff]
    · simp [cellText, CellData.serial?, h]
  | serial x => simp [cellText, CellData.serial?, serialText_succeeds_iff]
  | _ => simp [cellText, CellData.serial?]

/-- The dates in the exported cells of a sheet can be counted. -/
def CellRange.Countable (k : ReportSheet) (range : CellRange) : Prop :=
  ∀ row ≤ range.lastRow, ∀ p ∈ k.exportColumns.zipIdx, (range.cell ⟨row, p.2⟩).Countable p.1.kind

/-- A row has texts exactly if each of its cells has one. -/
lemma rowTexts_succeeds_iff {range : CellRange} {k : ReportSheet} {row : Nat} :
    (∃ texts, rowTexts range k row = .ok texts) ↔
      ∀ p ∈ k.exportColumns.zipIdx, (range.cell ⟨row, p.2⟩).Countable p.1.kind := by
  unfold rowTexts
  simp only [mapM_succeeds_iff, cellText_succeeds_iff]

/-- A sheet is read if and only if its dates can be counted. -/
lemma parseSheet_succeeds_iff {rules : Rules} {k : ReportSheet} {range : CellRange} :
    (∃ s, parseSheet rules k range = .ok s) ↔ range.Countable k := by
  have read : (∃ s, parseSheet rules k range = .ok s) ↔
      (∃ texts, rowTexts range k 0 = .ok texts) ∧
        ∀ row ∈ List.range' 1 range.lastRow, ∃ texts, rowTexts range k row = .ok texts := by
    unfold parseSheet
    simp only [bind_eq_ok, ← mapM_succeeds_iff]
    constructor
    · rintro ⟨_, texts, first, rows, rest, -⟩
      exact ⟨⟨texts, first⟩, rows, rest⟩
    · rintro ⟨⟨texts, first⟩, rows, rest⟩
      exact ⟨_, texts, first, rows, rest, rfl⟩
  rw [read]
  simp only [rowTexts_succeeds_iff, List.mem_range'_1]
  unfold CellRange.Countable
  constructor
  · rintro ⟨first, rest⟩ row hrow
    rcases Nat.eq_zero_or_pos row with rfl | pos
    · exact first
    · exact rest row ⟨pos, by omega⟩
  · intro all
    exact ⟨all 0 (Nat.zero_le _), fun row hrow => all row (by omega)⟩

/-! ## Workbooks -/

/-- The cells of the sheet of a name, if it is there and can be read. -/
def range? (sheets : List FileSheet) (name : String) : Option CellRange :=
  (findSheet? sheets name).bind fun s => s.range.toOption

/-- The dates that are exported from a workbook, and one in place of the token, can be counted. -/
structure Countable (layout : Layout) (sheets : List FileSheet) : Prop where
  reports : ∀ k : ReportSheet, ∀ range ∈ range? sheets k.title, range.Countable k
  token : ∀ range ∈ range? sheets layout.tokenSheet, (range.cell ⟨1, 0⟩).Countable .text

section

variable {rules : Rules} {layout : Layout} {sheets sheets' : List FileSheet} {k : ReportSheet}

/-- What is read for a report sheet has its kind. -/
lemma parseReportSheet_kind {s : ParsedSheet} (h : parseReportSheet rules sheets k = .ok s) :
    s.kind = k := by
  unfold parseReportSheet at h
  split at h
  · cases h; rfl
  · split at h
    · cases h; rfl
    · obtain ⟨texts, -, h⟩ := bind_eq_ok.mp (mapError_eq_ok.mp h)
      obtain ⟨rows, -, h⟩ := bind_eq_ok.mp h
      cases h
      rfl

/-- A report sheet is read from the sheet of its name alone. -/
lemma parseReportSheet_congr (h : findSheet? sheets k.title = findSheet? sheets' k.title) :
    parseReportSheet rules sheets k = parseReportSheet rules sheets' k := by
  unfold parseReportSheet
  rw [h]

/-- A report sheet is parsed exactly if its cells can be counted or it is missing. -/
lemma parseReportSheet_succeeds_iff : (∃ s, parseReportSheet rules sheets k = .ok s) ↔
    ∀ range ∈ range? sheets k.title, range.Countable k := by
  unfold parseReportSheet range?
  cases findSheet? sheets k.title with
  | none => exact iff_of_true ⟨_, rfl⟩ nofun
  | some s =>
    obtain ⟨name, cells⟩ := s
    cases cells with
    | error reason => exact iff_of_true ⟨_, rfl⟩ nofun
    | ok range =>
      dsimp only
      simp only [mapError_eq_ok, parseSheet_succeeds_iff]
      exact ⟨fun h _ hr => by cases hr; exact h, fun h => h range rfl⟩

/-- A report sheet that is missing or cannot be read is empty, with the headers of the contract and
a warning. -/
lemma parseReportSheet_missing (rules : Rules) (h : range? sheets k.title = none) :
    ∃ warning, parseReportSheet rules sheets k = .ok (.missing k warning) := by
  unfold range? at h
  unfold parseReportSheet
  cases hs : findSheet? sheets k.title with
  | none => exact ⟨_, rfl⟩
  | some s =>
    obtain ⟨name, cells⟩ := s
    cases cells with
    | error reason => exact ⟨_, rfl⟩
    | ok range => simp [hs, Except.toOption] at h

/-- What the token sheet says is read if and only if the date in place of the token, if there is
one, can be counted. -/
lemma parseToken_succeeds_iff {name : String} : (∃ token, parseToken sheets name = .ok token) ↔
    ∀ range ∈ range? sheets name, (range.cell ⟨1, 0⟩).Countable .text := by
  unfold parseToken range?
  cases findSheet? sheets name with
  | none => exact iff_of_true ⟨_, rfl⟩ nofun
  | some s =>
    obtain ⟨name, cells⟩ := s
    cases cells with
    | error reason => exact iff_of_true ⟨_, rfl⟩ nofun
    | ok range =>
      have read : (∃ token, readToken range = .ok token) ↔
          ∃ s, cellText .text (range.cell ⟨1, 0⟩) = .ok s := by
        unfold readToken
        simp only [bind_eq_ok, mapError_eq_ok]
        constructor
        · rintro ⟨_, s, hs, -⟩
          exact ⟨s, hs⟩
        · rintro ⟨s, hs⟩
          exact ⟨_, s, hs, rfl⟩
      rw [cellText_succeeds_iff] at read
      refine read.trans ⟨fun h _ hr => ?_, fun h => h range rfl⟩
      cases hr
      exact h

/-- A workbook is read part by part. -/
lemma parse_eq_ok {w : ParsedWorkbook} : parse rules layout (.workbook sheets) = .ok w ↔
    ReportSheet.all.mapM (parseReportSheet rules sheets) = .ok w.sheets ∧
      parseToken sheets layout.tokenSheet = .ok (w.uploadToken, w.tokenVesselId) := by
  unfold parse
  simp only [bind_eq_ok]
  constructor
  · rintro ⟨parsed, hparsed, ⟨token, owner⟩, htoken, h⟩
    cases h
    exact ⟨hparsed, htoken⟩
  · rintro ⟨hparsed, htoken⟩
    exact ⟨_, hparsed, _, htoken, rfl⟩

/-- Reading a workbook fails only with a date that cannot be counted. -/
lemma parse_error {e : SubmissionError} (h : parse rules layout (.workbook sheets) = .error e) :
    e = .dateOverflow := by
  unfold parse at h
  rcases bind_eq_error.mp h with reports | ⟨parsed, -, h⟩
  · obtain ⟨k, -, failed⟩ := exists_of_mapM_error reports
    unfold parseReportSheet at failed
    split at failed
    · cases failed
    · split at failed
      · cases failed
      · obtain ⟨-, -, rfl⟩ := mapError_eq_error.mp failed
        rfl
  · rcases bind_eq_error.mp h with token | ⟨token, -, h⟩
    · unfold parseToken at token
      split at token
      · rcases bind_eq_error.mp token with text | ⟨text, -, token⟩
        · obtain ⟨-, -, rfl⟩ := mapError_eq_error.mp text
          rfl
        · cases token
      · cases token
    · cases h

/-- The entries of a workbook are found by their kinds. -/
lemma find?_kind {ks : List ReportSheet} {entries : List ParsedSheet}
    (h : List.Forall₂ (fun k s => parseReportSheet rules sheets k = .ok s) ks entries)
    (hk : k ∈ ks) :
    ∃ s, entries.find? (·.kind == k) = some s ∧ parseReportSheet rules sheets k = .ok s := by
  induction h with
  | nil => cases hk
  | @cons j s ks entries first _ ih =>
    rw [List.find?_cons]
    by_cases same : j = k
    · subst same
      simp [parseReportSheet_kind first, first]
    · have apart : (s.kind == k) = false := by simp [parseReportSheet_kind first, same]
      rw [apart]
      exact ih (List.mem_of_ne_of_mem (Ne.symm same) hk)

end

section

variable {rules : Rules} {layout : Layout} {sheets : List FileSheet} {w : ParsedWorkbook}
  (h : parse rules layout (.workbook sheets) = .ok w)

include h

/-- There is a parsed sheet for each kind, in their order. -/
lemma parse_kinds : w.sheets.map (·.kind) = ReportSheet.all := by
  have read := mapM_eq_ok.mp (parse_eq_ok.mp h).1
  generalize ReportSheet.all = ks at read ⊢
  generalize w.sheets = entries at read ⊢
  induction read with
  | nil => rfl
  | cons first _ ih => rw [List.map_cons, parseReportSheet_kind first, ih]

/-- The entry of a report sheet is what is read for it. -/
lemma parse_sheet? (k : ReportSheet) :
    ∃ s, w.sheet? k = some s ∧ parseReportSheet rules sheets k = .ok s :=
  find?_kind (mapM_eq_ok.mp (parse_eq_ok.mp h).1) (by cases k <;> decide)

end

/-- Each entry of a workbook that was read belongs to a sheet of its own. -/
structure Isolated (rules : Rules) (layout : Layout) (sheets : List FileSheet)
    (w : ParsedWorkbook) : Prop where
  kinds : w.sheets.map (·.kind) = ReportSheet.all
  missing : ∀ k : ReportSheet, range? sheets k.title = none →
    ∃ warning, w.sheet? k = some (.missing k warning)
  sheet : ∀ sheets' w', parse rules layout (.workbook sheets') = .ok w' →
    ∀ k : ReportSheet, findSheet? sheets' k.title = findSheet? sheets k.title →
      w'.sheet? k = w.sheet? k
  token : ∀ sheets' w', parse rules layout (.workbook sheets') = .ok w' →
    findSheet? sheets' layout.tokenSheet = findSheet? sheets layout.tokenSheet →
      w'.uploadToken = w.uploadToken ∧ w'.tokenVesselId = w.tokenVesselId

/-- The entries of every workbook that can be read belong to their sheets. -/
lemma isolated_of_parse {rules : Rules} {layout : Layout} {sheets : List FileSheet}
    {w : ParsedWorkbook} (h : parse rules layout (.workbook sheets) = .ok w) :
    Isolated rules layout sheets w where
  kinds := parse_kinds h
  missing k hk := by
    obtain ⟨s, found, read⟩ := parse_sheet? h k
    obtain ⟨warning, missing⟩ := parseReportSheet_missing rules hk
    cases read.symm.trans missing
    exact ⟨warning, found⟩
  sheet sheets' w' h' k same := by
    obtain ⟨s, found, read⟩ := parse_sheet? h k
    obtain ⟨s', found', read'⟩ := parse_sheet? h' k
    rw [parseReportSheet_congr same, read] at read'
    cases read'
    exact found'.trans found.symm
  token sheets' w' h' same := by
    have read := (parse_eq_ok.mp h).2
    have read' := (parse_eq_ok.mp h').2
    unfold parseToken at read read'
    rw [same, read] at read'
    exact Prod.mk.inj (Except.ok.inj read'.symm)

/-- A workbook is parsed exactly if all cells of its report sheets can be counted. -/
lemma parse_succeeds_iff (rules : Rules) (layout : Layout) (sheets : List FileSheet) :
    (∃ w, parse rules layout (.workbook sheets) = .ok w) ↔ Countable layout sheets := by
  have reports : (∃ entries, ReportSheet.all.mapM (parseReportSheet rules sheets) = .ok entries) ↔
      ∀ k : ReportSheet, ∀ range ∈ range? sheets k.title, range.Countable k := by
    simp only [mapM_succeeds_iff, parseReportSheet_succeeds_iff]
    exact ⟨fun all k => all k (by cases k <;> decide), fun all k _ => all k⟩
  constructor
  · rintro ⟨w, h⟩
    obtain ⟨entries, token⟩ := parse_eq_ok.mp h
    exact ⟨reports.mp ⟨_, entries⟩, parseToken_succeeds_iff.mp ⟨_, token⟩⟩
  · intro countable
    obtain ⟨entries, hentries⟩ := reports.mpr countable.reports
    obtain ⟨token, htoken⟩ := parseToken_succeeds_iff.mpr countable.token
    exact ⟨⟨entries, token.1, token.2⟩, parse_eq_ok.mpr ⟨hentries, htoken⟩⟩

/-- A workbook is read, each entry from a sheet of its own, if and only if its dates can be
counted. Otherwise nothing is read. -/
theorem isolated_iff_countable (rules : Rules) (layout : Layout) (sheets : List FileSheet) :
    ((∃ w, parse rules layout (.workbook sheets) = .ok w ∧ Isolated rules layout sheets w) ↔
        Countable layout sheets) ∧
      (¬ Countable layout sheets →
        parse rules layout (.workbook sheets) = .error .dateOverflow) := by
  constructor
  · rw [← parse_succeeds_iff rules layout sheets]
    constructor
    · rintro ⟨w, h, -⟩
      exact ⟨w, h⟩
    · rintro ⟨w, h⟩
      exact ⟨w, h, isolated_of_parse h⟩
  · rw [← parse_succeeds_iff rules layout sheets]
    intro unread
    cases h : parse rules layout (.workbook sheets) with
    | ok w => exact absurd ⟨w, h⟩ unread
    | error e => rw [parse_error h]

namespace Sample

/-- A voyage sheet with a departure in more seconds than can be counted. -/
def farDeparture : FileSheet where
  name := "Voyage"
  range := .ok ⟨1, fun p => if p = ⟨1, 6⟩ then .number 1e15 else .empty⟩

/-- A sheet with one machine. -/
def machine : FileSheet where
  name := "Machinery"
  range := .ok ⟨1, fun p => if p = ⟨1, 0⟩ then .text "V001" else .empty⟩

end Sample

/-- The machine is read from a workbook without voyages, and is lost with a departure that cannot be
counted. -/
theorem machine_lost_with_departure :
    parse .default .default (.workbook [Sample.farDeparture, Sample.machine]) =
        .error .dateOverflow ∧
      ((parse .default .default (.workbook [Sample.machine])).toOption.bind
        (·.sheet? .machinery)).map (·.rows.map (·.head?)) = some [some "V001"] := by
  decide +kernel

end Submission

end ShipReport
