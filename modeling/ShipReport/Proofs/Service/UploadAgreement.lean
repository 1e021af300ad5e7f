import ShipReport.Proofs.Service.FailedUploads
import ShipReport.Proofs.Service.StagedRows
import ShipReport.Proofs.Store.Added
import ShipReport.Proofs.Submission.Exported

/-!
# What an upload leaves behind

An upload writes the rows of its sheets to files, counts them in a batch and loads them into the
staging tables that there are. Afterwards the batch is found under its id, each of its files is read
back as the sheet it was written for, and each staging table holds the rows of its sheet and nothing
else.
-/

namespace ShipReport

namespace Service

open Report (ReportSheet)
open Store (Apart Database Table)
open Submission (Artifact Batch Exported ParsedSheet ParsedWorkbook ReturnedFile columnNames
  exportSheets not_sameName_stagingTable stagingTable)

/-! ## Staging tables as they are made -/

/-- The staging tables of a vessel, as many as there are, have the columns they were made with. -/
def Provisioned (code : String) (db : Database) : Prop :=
  ∀ k t, db.table? (stagingTable code k) = some t →
    t.shape = Database.textShape (stagingTable code k) (columnNames k.exportHeaders)

/-- The columns of the staging tables have different names. -/
lemma apart_columnNames (k : ReportSheet) : Apart (columnNames k.exportHeaders) := by
  unfold Apart
  cases k <;> decide +kernel

/-- A staging table has a column for each exported column. -/
lemma length_columnNames (k : ReportSheet) :
    (columnNames k.exportHeaders).length = k.exportColumns.length := by
  have each : ∀ (taken : List String) (number : Nat) (headers : List String),
      (Submission.columnNamesFrom taken number headers).length = headers.length := by
    intro taken number headers
    induction headers generalizing taken number with
    | nil => rfl
    | cons header headers ih => exact congrArg (· + 1) (ih _ _)
  exact (each [] 1 k.exportHeaders).trans (List.length_map _)

/-- A staging table as it is made for a sheet. -/
lemma isStaging_of_shape {code : String} {k : ReportSheet} {t : Table}
    (h : t.shape = Database.textShape (stagingTable code k) (columnNames k.exportHeaders)) :
    IsStaging (stagingTable code k) t := by
  have names : t.shape.columnNames = columnNames k.exportHeaders := by
    rw [h, Table.columnNames_texts]
  refine ⟨by rw [names, h], by rw [names]; exact apart_columnNames k, fun none => ?_⟩
  rw [names] at none
  have length := length_columnNames k
  rw [none] at length
  exact Submission.exportColumns_ne_nil k length.symm

/-! ## The places where the rows of a sheet stand -/

/-- The staging table holds the rows of the sheet in their order, each field under the column of its
place, and no others. -/
structure StagedAs (s : ParsedSheet) (t : Table) : Prop where
  columns : t.shape.columnNames = columnNames s.kind.exportHeaders
  width : ∀ row ∈ s.rows, row.length = t.shape.columnNames.length
  rows : t.rows.map (·.values) = s.rows.map (·.map .text)

/-- The file of a batch counts the rows of the sheet, and is read back as its headers and rows. -/
structure FiledAs (files : Storage.Files) (s : ParsedSheet) (a : Artifact) : Prop where
  title : a.title = s.kind.title
  count : a.rowCount = s.rows.length
  content : ∃ text, files[a.path]? = some text ∧
    Csv.readBytes text.toByteArray.data.toList = .ok ⟨s.headers, s.rows⟩

/-- The batch, the files, the staging tables and the receipt of an upload agree with the workbook as
it was read. -/
structure Agreement (code : String) (vesselId : Int) (parsed : ParsedWorkbook) (receipt : Receipt)
    (after : Holdings) : Prop where
  kinds : parsed.sheets.map (·.kind) = ReportSheet.all
  batch : ∃ b, after.database.findBatch receipt.batchId = .ok (some b) ∧ b.status = .parsed ∧
    b.vesselId = vesselId ∧ b.artifacts = receipt.artifacts
  files : List.Forall₂ (FiledAs after.files) parsed.sheets receipt.artifacts
  total : receipt.totalRows = (parsed.sheets.map (·.rows.length)).sum
  counts : receipt.stagedTables = parsed.sheets.filterMap (stagedCount code after.database)
  tables : ∀ s ∈ parsed.sheets, ∀ t, after.database.table? (stagingTable code s.kind) = some t →
    StagedAs s t

section

variable {files : Storage.Files} {s : ParsedSheet} {a : Artifact}

/-- The file of a sheet is read back. -/
lemma filedAs_of_exported (exported : Exported files s a) (fits : s.Fits)
    (unmarked : s.Unmarked) : FiledAs files s a where
  title := exported.title.trans fits.title
  count := exported.count
  content := ⟨_, exported.text, by rw [Csv.readBytes_utf8, fits.read_write unmarked]⟩

/-- The rows of a sheet fit into its staging table. -/
lemma stagedAs_reloaded {code : String} {t : Table} (fits : s.Fits)
    (h : t.shape = Database.textShape (stagingTable code s.kind)
      (columnNames s.kind.exportHeaders)) : StagedAs s (reloaded s.rows t) := by
  have names : t.shape.columnNames = columnNames s.kind.exportHeaders := by
    rw [h, Table.columnNames_texts]
  have width : ∀ row ∈ s.rows, row.length = t.shape.columnNames.length := fun row hrow => by
    rw [fits.rows row hrow, names, length_columnNames]
  refine ⟨names, width, (holds_reloaded s.rows t).trans (List.map_congr_left fun row hrow => ?_)⟩
  unfold Table.texts
  rw [show (reloaded s.rows t).shape = t.shape from rfl, Store.fitted_self (width row hrow)]

end

/-! ## Uploads -/

section

variable {dataDirectory : String} {vesselId : Int} {file : ReturnedFile} {batchId : String}
  {now : Calendar.Instant} {h after : Holdings} {vessel vessel' : Catalog.Vessel}
  {settings settings' : Report.Settings} {parsed parsed' : ParsedWorkbook} {receipt : Receipt}

/-- What is read for an upload is read in one way only. -/
lemma ReadAs.unique (read : ReadAs dataDirectory vesselId file h vessel settings parsed)
    (read' : ReadAs dataDirectory vesselId file h vessel' settings' parsed') :
    vessel' = vessel ∧ settings' = settings ∧ parsed' = parsed := by
  cases read.found.symm.trans read'.found
  cases read.set.symm.trans read'.set
  cases read.opened.symm.trans read'.opened
  exact ⟨rfl, rfl, rfl⟩

/-- An upload that succeeds was noted as a batch, and its sheets were staged. -/
lemma noted_of_upload (read : ReadAs dataDirectory vesselId file h vessel settings parsed)
    (run : (upload dataDirectory vesselId file batchId now).runOn h = (.ok receipt, after)) :
    ∃ noted, NotedAs dataDirectory vesselId file batchId now h vessel settings parsed
        receipt.artifacts noted ∧
      (parsed.sheets.filterMapM (stageSheet vessel.shortCode)).runOn noted =
        (.ok receipt.stagedTables, after) ∧ receipt.batchId = batchId ∧
          receipt.totalRows = (Batch.new batchId vesselId receipt.artifacts now).totalRows := by
  rcases fails_or_noted dataDirectory vesselId file batchId now h with
    ⟨s, e, failed⟩ | ⟨vessel', settings', parsed', artifacts, noted, hn⟩
  · obtain ⟨files, failed, -⟩ := failed.runOn
    cases failed.symm.trans run
  · obtain ⟨rfl, rfl, rfl⟩ := read.unique hn.toReadAs
    rw [hn.runOn] at run
    cases hstaged : (parsed'.sheets.filterMapM (stageSheet vessel'.shortCode)).runOn noted with
    | mk result staged =>
      rw [hstaged] at run
      cases result with
      | error e => cases run
      | ok tables =>
        cases run
        exact ⟨noted, hn, hstaged, rfl, rfl⟩

/-- The sheets that were read have their kinds and their form. -/
lemma ReadAs.sheets (read : ReadAs dataDirectory vesselId file h vessel settings parsed) :
    parsed.sheets.map (·.kind) = ReportSheet.all ∧ ∀ s ∈ parsed.sheets, s.Fits := by
  have opened := read.opened
  cases file with
  | notWorkbook reason => cases opened
  | workbook sheets =>
    refine ⟨Submission.parse_kinds opened, fun s hs => ?_⟩
    obtain ⟨k, -, hk⟩ := exists_of_mem_mapM (Submission.parse_eq_ok.mp opened).1 hs
    exact Submission.fits_of_parseReportSheet hk

/-- Noting a batch leaves the staging tables. -/
lemma NotedAs.staging {artifacts : List Artifact} {noted : Holdings} {k : ReportSheet}
    (hn : NotedAs dataDirectory vesselId file batchId now h vessel settings parsed artifacts noted) :
    noted.database.table? (stagingTable vessel.shortCode k) =
      h.database.table? (stagingTable vessel.shortCode k) := by
  refine (Database.insertBatch_changesOnly hn.batched).tables _ fun name hname => ?_
  rw [Store.sameName_comm]
  simp only [List.mem_cons, List.not_mem_nil, or_false] at hname
  rcases hname with rfl | rfl
  · exact not_sameName_stagingTable (by decide)
  · exact not_sameName_stagingTable (by decide)

/-- Staging leaves batches and files. -/
lemma Staged.sameBatches {code : String} {sheets : List ParsedSheet} {noted : Holdings}
    {counts : List (String × Nat)} (staged : Staged code sheets noted after counts) :
    noted.database.SameBatches after.database := by
  have apart : ∀ name : String, (Text.asciiLowercase name).toList.head? ≠ some 's' →
      after.database.table? name = noted.database.table? name := by
    intro name first
    refine staged.others.tables _ fun table htable => ?_
    obtain ⟨s, -, rfl⟩ := List.mem_map.mp htable
    exact not_sameName_stagingTable first
  exact ⟨apart _ (by decide), apart _ (by decide)⟩

/-- After every upload that succeeds under a new id, the batch, the exported files, the staging
tables that there are and the receipt agree with the workbook as it was read, if no header starts
with a byte order mark. Numbers of rows have 64 bits, and the year of the upload has four digits. -/
theorem upload_agrees (read : ReadAs dataDirectory vesselId file h vessel settings parsed)
    (takes : h.database.TakesBatch batchId) (provisioned : Provisioned vessel.shortCode h.database)
    (plain : now.Plain) (rows : ∀ s ∈ parsed.sheets, s.rows.length < 2 ^ 64)
    (unmarked : ∀ s ∈ parsed.sheets, s.Unmarked)
    (run : (upload dataDirectory vesselId file batchId now).runOn h = (.ok receipt, after)) :
    Agreement vessel.shortCode vesselId parsed receipt after := by
  obtain ⟨noted, hn, run, id, total⟩ := noted_of_upload read run
  obtain ⟨kinds, fits⟩ := read.sheets
  have distinct : (parsed.sheets.map (·.kind)).Nodup := by
    rw [kinds]
    decide
  have shapes : ∀ s ∈ parsed.sheets, ∀ t,
      noted.database.table? (stagingTable vessel.shortCode s.kind) = some t →
        t.shape = Database.textShape (stagingTable vessel.shortCode s.kind)
          (columnNames s.kind.exportHeaders) := by
    intro s _ t ht
    rw [hn.staging] at ht
    exact provisioned s.kind t ht
  have staged := stageSheets_eq_ok distinct
    (fun s hs t ht => isStaging_of_shape (shapes s hs t ht)) run
  have files : List.Forall₂ (FiledAs after.files) parsed.sheets receipt.artifacts := by
    have written := (Submission.exportSheets_eq_ok distinct hn.written).1
    have whole : ∀ s ∈ parsed.sheets, s.Fits ∧ s.Unmarked := fun s hs => ⟨fits s hs, unmarked s hs⟩
    rw [staged.files]
    exact ((List.forall₂_and_left _ _).mpr ⟨whole, written⟩).imp fun s a filed =>
      filedAs_of_exported filed.2 filed.1.1 filed.1.2
  have counts : receipt.artifacts.map (·.rowCount) = parsed.sheets.map (·.rows.length) := by
    rw [← List.forall₂_eq_eq_eq, List.forall₂_map_left_iff, List.forall₂_map_right_iff]
    exact (files.imp fun s a filed => filed.count).flip
  refine ⟨kinds, ⟨.new batchId vesselId receipt.artifacts now, ?_, rfl, rfl, rfl⟩, files, ?_, ?_, ?_⟩
  · -- staging leaves the tables of batches, so that the new batch is found at the end
    have held := (takes.insertBatch (b := .new batchId vesselId receipt.artifacts now)
      hn.batched).congr staged.sameBatches
    rw [id]
    refine held.findBatch plain fun a ha => ?_
    have count : a.rowCount ∈ parsed.sheets.map (·.rows.length) := by
      rw [← counts]
      exact List.mem_map_of_mem ha
    obtain ⟨s, hs, length⟩ := List.mem_map.mp count
    rw [← length]
    exact rows s hs
  · rw [total, ← counts]
    rfl
  · -- a table that was there at the start is there at the end
    rw [staged.counts]
    refine List.filterMap_congr fun s hs => ?_
    rw [stagedCount, stagedCount, staged.rows s hs, Option.map_map]
    rfl
  · intro s hs t ht
    rw [staged.rows s hs, Option.map_eq_some_iff] at ht
    obtain ⟨u, hu, rfl⟩ := ht
    exact stagedAs_reloaded (fits s hs) (shapes s hs u hu)

end

namespace Sample

/-- A sheet with one delivery of lube oil. -/
def delivery : Submission.FileSheet where
  name := "Lube Oil"
  range := .ok ⟨1, fun p => if p = ⟨1, 0⟩ then .text "V001" else .empty⟩

/-- The columns of a staging table for lube oil. -/
def oilColumns : List String :=
  ["Voyage_No", "Machinery_Name", "Machinery_ID", "Lube_Oil_Type", "Lube_Oil_Type_ID",
    "Lube_Oil_Note", "Quantity_L", "Remarks"]

/-- A staging table with a delivery of an earlier upload. -/
def stagedDelivery : Table where
  shape := Database.textShape "stg_ocn_lube_oil" oilColumns
  rows := [⟨1, Table.texts oilColumns ["V000"]⟩]

/-- A vessel with a staging table for lube oil only. -/
def oilStore : Database where
  tables := [⟨Store.Schema.vessel, [⟨1, [.integer 1, .text "OCN", .text "Ocean Pioneer"]⟩]⟩,
    ⟨Store.Schema.settings, []⟩, ⟨Store.Schema.batch, []⟩, ⟨Store.Schema.artifact, []⟩,
    stagedDelivery]
  views := []
  enforcing := true

/-- A workbook with one delivery as it is read. -/
def deliveryWorkbook : ParsedWorkbook where
  sheets := [noSheet .voyage, noSheet .machinery,
    ⟨.lubeOil, "Lube Oil", ReportSheet.lubeOil.exportHeaders, ["V001" :: List.replicate 7 ""], 0,
      none⟩,
    noSheet .bunkering]
  uploadToken := none
  tokenVesselId := none

/-- The delivery is read as what was written. -/
lemma delivery_read : ReadAs "" 1 (.workbook [Sample.delivery]) ⟨oilStore, ∅⟩
    ⟨1, "OCN", "Ocean Pioneer"⟩ plain deliveryWorkbook where
  found := by
    rw [Database.vessel_eq rfl rfl]
    rfl
  set := Database.settings_of_none rfl "" _
  opened := by decide +kernel

/-- The store has the staging tables of the vessel. -/
lemma oilStore_provisioned : Provisioned "OCN" oilStore := by
  have tables : ∀ k, oilStore.table? (stagingTable "OCN" k) =
      if k = .lubeOil then some stagedDelivery else none := by
    intro k
    cases k <;> decide +kernel
  have shape : stagedDelivery.shape = Database.textShape (stagingTable "OCN" .lubeOil)
      (columnNames ReportSheet.lubeOil.exportHeaders) := by decide +kernel
  intro k t ht
  rw [tables k] at ht
  by_cases h : k = .lubeOil
  · subst h
    cases ht
    exact shape
  · rw [if_neg h] at ht
    cases ht

/-- The delivery is uploaded, and its row staged. -/
lemma delivery_uploaded : ∃ receipt after,
    (upload "" 1 (.workbook [Sample.delivery]) "b1" ⟨0, 0, 0⟩).runOn ⟨oilStore, ∅⟩ =
        (.ok receipt, after) ∧ receipt.stagedTables = [("stg_ocn_lube_oil", 1)] := by
  have counts : ((upload "" 1 (.workbook [Sample.delivery]) "b1" ⟨0, 0, 0⟩).runOn
      ⟨oilStore, ∅⟩).1.toOption.map (·.stagedTables) = some [("stg_ocn_lube_oil", 1)] := by
    decide +kernel
  cases run : (upload "" 1 (.workbook [Sample.delivery]) "b1" ⟨0, 0, 0⟩).runOn
      ⟨oilStore, ∅⟩ with
  | mk result after =>
    rw [run] at counts
    cases result with
    | error e => cases counts
    | ok receipt => exact ⟨receipt, after, rfl, Option.some.inj counts⟩

end Sample

/-- An upload with one delivery replaces the delivery that was staged before. -/
theorem delivery_agrees : ∃ receipt after,
    ReadAs "" 1 (.workbook [Sample.delivery]) ⟨Sample.oilStore, ∅⟩
        ⟨1, "OCN", "Ocean Pioneer"⟩ Sample.plain Sample.deliveryWorkbook ∧
      (upload "" 1 (.workbook [Sample.delivery]) "b1" ⟨0, 0, 0⟩).runOn
        ⟨Sample.oilStore, ∅⟩ = (.ok receipt, after) ∧
      receipt.stagedTables = [("stg_ocn_lube_oil", 1)] ∧
      Agreement "OCN" 1 Sample.deliveryWorkbook receipt after := by
  obtain ⟨receipt, after, run, counts⟩ := Sample.delivery_uploaded
  have takes : Sample.oilStore.TakesBatch "b1" :=
    ⟨⟨_, rfl, rfl, .nil, nofun⟩, ⟨_, rfl, rfl, .nil, nofun⟩⟩
  have unmarked : ∀ s ∈ Sample.deliveryWorkbook.sheets, s.Unmarked := by
    unfold ParsedSheet.Unmarked
    decide +kernel
  exact ⟨receipt, after, Sample.delivery_read, run, counts,
    upload_agrees Sample.delivery_read takes Sample.oilStore_provisioned
      ⟨by decide, by decide, by decide⟩ (by decide) unmarked run⟩

end Service

end ShipReport
