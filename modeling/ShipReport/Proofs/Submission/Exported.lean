import ShipReport.Proofs.Csv.RoundTrip
import ShipReport.Proofs.Submission.Isolation
import ShipReport.Proofs.Submission.StagingNames
import ShipReport.Submission.Export

/-!
# Exported files

Each sheet of a submission is written to a file of its own, and the files of other sheets, and the
copies below the mirror root, leave it as it is. What is read back from the file is the sheet, with
its headers and its rows, unless a header starts with a byte order mark.
-/

namespace ShipReport.Submission

open Report (ReportSheet Rules)
open Storage (Files artifactPath join)

/-! ## The form of a sheet that was read -/

/-- The sheet has the title of its kind, a header for each exported column, and as many fields in
each row. -/
structure ParsedSheet.Fits (s : ParsedSheet) : Prop where
  title : s.title = s.kind.title
  headers : s.headers.length = s.kind.exportColumns.length
  rows : ∀ row ∈ s.rows, row.length = s.kind.exportColumns.length

/-- No header starts with a byte order mark. -/
def ParsedSheet.Unmarked (s : ParsedSheet) : Prop :=
  ∀ header ∈ s.headers, header.toList.head? ≠ some '\uFEFF'

section

variable {rules : Rules} {sheets : List FileSheet} {k : ReportSheet} {range : CellRange}
  {s : ParsedSheet}

/-- A row has a text for each exported column. -/
lemma length_rowTexts {row : Nat} {texts : List String} (h : rowTexts range k row = .ok texts) :
    texts.length = k.exportColumns.length := by
  rw [← (mapM_eq_ok.mp h).length_eq, List.length_zipIdx]

/-- A missing sheet has no rows that might not fit. -/
lemma fits_missing (k : ReportSheet) (warning : String) :
    (ParsedSheet.missing k warning).Fits :=
  ⟨rfl, List.length_map _, List.forall_mem_nil _⟩

/-- A sheet that was parsed has a text for each header. -/
lemma fits_of_parseSheet (h : parseSheet rules k range = .ok s) : s.Fits := by
  obtain ⟨written, first, h⟩ := bind_eq_ok.mp h
  obtain ⟨rows, rest, h⟩ := bind_eq_ok.mp h
  cases h
  refine ⟨rfl, ?_, fun row hrow => ?_⟩
  · rw [List.length_zipWith, length_rowTexts first, Nat.min_self]
  · obtain ⟨number, -, texts⟩ := exists_of_mem_mapM rest (List.mem_filter.mp hrow).1
    exact length_rowTexts texts

/-- A report sheet that was read has its form. -/
lemma fits_of_parseReportSheet (h : parseReportSheet rules sheets k = .ok s) : s.Fits := by
  unfold parseReportSheet at h
  split at h
  · cases h
    exact fits_missing k _
  · split at h
    · cases h
      exact fits_missing k _
    · exact fits_of_parseSheet (mapError_eq_ok.mp h)

end

/-- Each sheet has a column to export. -/
lemma exportColumns_ne_nil (k : ReportSheet) : k.exportColumns.length ≠ 0 := by
  cases k <;> decide

/-- The written form of a sheet is read as the sheet. -/
lemma ParsedSheet.Fits.read_write {s : ParsedSheet} (fits : s.Fits) (unmarked : s.Unmarked) :
    Csv.read (Csv.write s.headers s.rows).text = ⟨s.headers, s.rows⟩ := by
  refine Csv.read_write (fun row hrow => ?_) ?_ ?_
  · rw [fits.rows row hrow, fits.headers]
  · intro none
    have := fits.headers
    rw [none] at this
    exact exportColumns_ne_nil s.kind this.symm
  · rintro ⟨header, first, ⟨c, hc, mark⟩, -⟩
    obtain rfl : c = '\uFEFF' := Char.toNat_inj.mp mark
    exact unmarked header (List.mem_of_head? first) hc

/-! ## Paths -/

/-- A path ends with what was joined to it. -/
lemma suffix_join (root part : String) : part.toList <:+ (join root part).toList := by
  unfold join
  split
  · exact List.suffix_refl _
  · split
    · rw [String.toList_append]
      exact List.suffix_append _ _
    · rw [String.toList_append]
      exact List.suffix_append _ _

/-- The path of a file ends with the stem of the sheet. -/
lemma artifactPath_toList (root : String) (k : ReportSheet) (id : String) :
    ∃ front, (artifactPath root k id).toList = front ++ k.fileStem.toList ++ ".csv".toList := by
  obtain ⟨front, h⟩ := suffix_join (join root k.folder) (id ++ "_" ++ k.fileStem ++ ".csv")
  refine ⟨front ++ (id ++ "_").toList, ?_⟩
  unfold artifactPath
  rw [← h]
  simp only [String.toList_append, List.append_assoc]

/-- The files of different sheets have different paths, whatever their roots. -/
lemma kind_of_artifactPath {root root' id id' : String} {j k : ReportSheet}
    (h : artifactPath root j id = artifactPath root' k id') : j = k := by
  obtain ⟨front, hj⟩ := artifactPath_toList root j id
  obtain ⟨front', hk⟩ := artifactPath_toList root' k id'
  rw [h, hk] at hj
  have last := congrArg List.getLast? (List.append_cancel_right hj)
  have stem : ∀ i : ReportSheet, i.fileStem.toList ≠ [] := by
    intro i
    cases i <;> decide
  rw [List.getLast?_append_of_ne_nil _ (stem j), List.getLast?_append_of_ne_nil _ (stem k)] at last
  exact (fileStem_getLast_inj last).symm

/-! ## Files -/

section

variable {files after : Files} {path p : String} {headers : List String}
  {rows : List (List String)}

/-- A file that was written holds the text, and the other files are as they were. -/
lemma writeCsv_eq_ok (h : files.writeCsv path headers rows = (after, .ok ())) :
    after = files.insert path (Csv.write headers rows).text := by
  unfold Files.writeCsv at h
  split at h
  · cases (Prod.mk.inj h).2
  · exact (Prod.mk.inj h).1.symm

/-- Writing a file leaves those at other paths. -/
lemma writeCsv_other (files : Files) (headers : List String) (rows : List (List String))
    (hp : p ≠ path) : (files.writeCsv path headers rows).1[p]? = files[p]? := by
  unfold Files.writeCsv
  split
  · rfl
  · rw [Std.TreeMap.getElem?_insert, if_neg]
    rw [Std.LawfulEqOrd.compare_eq_iff_eq]
    exact Ne.symm hp

/-- Writing a text anywhere leaves it where it stands already. -/
lemma writeCsv_again (h : files[p]? = some (Csv.write headers rows).text) :
    (files.writeCsv path headers rows).1[p]? = some (Csv.write headers rows).text := by
  by_cases hp : p = path
  · subst hp
    unfold Files.writeCsv
    split
    · exact h
    · exact Std.TreeMap.getElem?_insert_self
  · rw [writeCsv_other _ _ _ hp, h]

end

section

variable {files after : Files} {storage : Report.Storage} {id p : String} {s : ParsedSheet}
  {sheets : List ParsedSheet} {a : Artifact} {artifacts : List Artifact}

/-- The exported file of a sheet is among the files and holds what is written for the sheet. -/
structure Exported (files : Files) (s : ParsedSheet) (a : Artifact) : Prop where
  title : a.title = s.title
  count : a.rowCount = s.rows.length
  text : files[a.path]? = some (Csv.write s.headers s.rows).text

/-- A copy is written as a file is. -/
lemma mirrorSheet_some (root : String) : (mirrorSheet files (some root) id s).1 =
    (files.writeCsv (artifactPath root s.kind id) s.headers s.rows).1 := by
  rw [mirrorSheet]

/-- The copy of a sheet leaves its file. -/
lemma mirrorSheet_again {mirror : Option String}
    (h : files[p]? = some (Csv.write s.headers s.rows).text) :
    (mirrorSheet files mirror id s).1[p]? = some (Csv.write s.headers s.rows).text := by
  cases mirror with
  | none => exact h
  | some root =>
    rw [mirrorSheet_some]
    exact writeCsv_again h

/-- The copy of a sheet leaves the files other than the copy. -/
lemma mirrorSheet_other {mirror : Option String}
    (hp : ∀ root, mirror = some root → p ≠ artifactPath root s.kind id) :
    (mirrorSheet files mirror id s).1[p]? = files[p]? := by
  cases mirror with
  | none => rfl
  | some root =>
    rw [mirrorSheet_some]
    exact writeCsv_other files s.headers s.rows (hp root rfl)

/-- A sheet that was exported stands in its file. -/
lemma exportSheet_eq_ok (h : exportSheet files storage id s = (after, .ok a)) :
    Exported after s a ∧ a.path = artifactPath storage.uploadRoot s.kind id ∧
      ∀ p, (∀ root, p ≠ artifactPath root s.kind id) → after[p]? = files[p]? := by
  unfold exportSheet at h
  dsimp only at h
  split at h
  · cases h
  · next written hwritten =>
    obtain rfl := writeCsv_eq_ok hwritten
    have stands : (files.insert (artifactPath storage.uploadRoot s.kind id)
        (Csv.write s.headers s.rows).text)[artifactPath storage.uploadRoot s.kind id]? =
          some (Csv.write s.headers s.rows).text :=
      Std.TreeMap.getElem?_insert_self
    obtain ⟨rfl, ha⟩ := Prod.mk.inj h
    cases ha
    refine ⟨⟨rfl, rfl, mirrorSheet_again stands⟩, rfl, fun p hp => ?_⟩
    have other := writeCsv_other files s.headers s.rows (hp storage.uploadRoot)
    rw [hwritten] at other
    exact (mirrorSheet_other fun root _ => hp root).trans other

/-- Sheets of different kinds that were exported all stand in their files. -/
lemma exportSheets_eq_ok (kinds : (sheets.map (·.kind)).Nodup)
    (h : exportSheets files storage id sheets = (after, .ok artifacts)) :
    List.Forall₂ (Exported after) sheets artifacts ∧
      ∀ p, (∀ s ∈ sheets, ∀ root, p ≠ artifactPath root s.kind id) → after[p]? = files[p]? := by
  induction sheets generalizing files artifacts with
  | nil =>
    cases h
    exact ⟨.nil, fun _ _ => rfl⟩
  | cons s sheets ih =>
    rw [List.map_cons, List.nodup_cons] at kinds
    unfold exportSheets at h
    split at h
    · cases h
    · next between a first =>
      obtain ⟨exported, path, others⟩ := exportSheet_eq_ok first
      cases hrest : exportSheets between storage id sheets with
      | mk last result =>
        rw [hrest] at h
        obtain ⟨rfl, h⟩ := Prod.mk.inj h
        cases result with
        | error e => cases h
        | ok rest =>
          cases h
          obtain ⟨each, kept⟩ := ih kinds.2 hrest
          -- the other sheets have other kinds, so they leave the file of the first
          have apart : ∀ t ∈ sheets, ∀ root, a.path ≠ artifactPath root t.kind id := by
            intro t ht root same
            rw [path] at same
            exact kinds.1 (kind_of_artifactPath same ▸ List.mem_map_of_mem ht)
          refine ⟨.cons ⟨exported.title, exported.count, ?_⟩ each, fun p hp => ?_⟩
          · rw [kept _ apart, exported.text]
          · obtain ⟨own, rest⟩ := List.forall_mem_cons.mp hp
            rw [kept p rest, others p own]

end

end ShipReport.Submission
