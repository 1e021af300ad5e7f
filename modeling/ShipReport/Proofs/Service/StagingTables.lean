import ShipReport.Proofs.Service.StagedRows
import ShipReport.Proofs.Store.ResolvedSettings

/-!
# Whose staging tables an operation changes

A download or an upload for a vessel changes the staging tables that its short code gives, and the
tables of batches. The staging tables of another vessel stay as they are in every run exactly if
names keep different texts of the two short codes.
-/

namespace ShipReport

namespace Service

open Report (ReportSheet TemplateKind Rules Layout)
open Store (Database Table sameName)
open Submission (Artifact ParsedSheet ReturnedFile exportSheets stagingTable tableCode
  sameName_stagingTable not_sameName_stagingTable)
open Template (UploadToken)

/-! ## The staging tables of a vessel -/

/-- The tables that operations for a vessel of a short code change. -/
def ownTables (code : String) : List String :=
  "import_batch" :: "batch_artifact" :: ReportSheet.all.map (stagingTable code)

/-- The staging tables of a vessel are among its own tables. -/
lemma stagingTable_mem (code : String) (k : ReportSheet) :
    stagingTable code k ∈ ownTables code := by
  cases k <;> simp [ownTables, ReportSheet.all]

instance (names : List String) : IsPreorder Database (Database.ChangesOnly names) where
  refl := .refl names
  trans _ _ _ h h' := h.trans h'

/-- Among the holdings only tables of the given names are changed. -/
def Holdings.ChangesOnly (names : List String) (h h' : Holdings) : Prop :=
  h.database.ChangesOnly names h'.database

instance (names : List String) : IsPreorder Holdings (Holdings.ChangesOnly names) where
  refl h := .refl names h.database
  trans _ _ _ h h' := Database.ChangesOnly.trans h h'

section

variable {ε α : Type} {names : List String} {code : String} {db : Database} {h : Holdings}

/-- Work on the database changes what it changes there. -/
lemma onDatabase_leads {work : Work Database ε α}
    (hw : work.Leads (Database.ChangesOnly names) h.database) :
    (onDatabase work).Leads (Holdings.ChangesOnly names) h :=
  hw

/-- Work on the files changes no table. -/
lemma onFiles_leads {work : Work Storage.Files ε α} :
    (onFiles work).Leads (Holdings.ChangesOnly names) h :=
  .refl names h.database

/-- Making a table changes only it. -/
lemma provisionTable_leads {table : String} (headers : List String) (ht : table ∈ names) :
    (provisionTable table headers).Leads (Database.ChangesOnly names) db := by
  refine .change fun after columns hstep => ?_
  obtain ⟨made, hmade, hdone⟩ := bind_eq_ok.mp hstep
  cases hdone
  exact (Database.recreateTable_changesOnly (mapError_eq_ok.mp hmade)).mono (by simpa using ht)

/-- Making the staging tables of a vessel changes only them. -/
lemma provisionVessel_leads :
    (provisionVessel code).Leads (Database.ChangesOnly (ownTables code)) db := by
  refine .mapM _ fun k _ db => .bind (.bind ?_ fun _ _ _ => .pure _) fun _ _ _ => .pure _
  exact provisionTable_leads _ (stagingTable_mem code k)

/-- Loading rows changes only their table. -/
lemma loadRows_leads {table : String} (rows : List (List String)) (ht : table ∈ names) :
    (loadRows table rows).Leads (Database.ChangesOnly names) db := by
  refine .change fun after count hstep => ?_
  obtain ⟨columns, -, hstep⟩ := bind_eq_ok.mp hstep
  split at hstep
  · cases hstep
    exact .refl names _
  · obtain ⟨⟨loaded, n⟩, hloaded, hdone⟩ := bind_eq_ok.mp hstep
    cases hdone
    exact (Database.replaceRows_changesOnly (mapError_eq_ok.mp hloaded)).mono (by simpa using ht)

/-- Staging a sheet changes only its table. -/
lemma stageSheet_leads {s : ParsedSheet} (hs : stagingTable code s.kind ∈ names) :
    (stageSheet code s).Leads (Holdings.ChangesOnly names) h :=
  .bind (onDatabase_leads (loadRows_leads s.rows hs)) fun _ _ _ => .pure _

/-- Making a template for a vessel changes only its own tables. -/
lemma makeTemplate_leads {kind : TemplateKind} {rules : Rules} {layout : Layout}
    {canProvision : Bool} {token : UploadToken}
    (hv : ∀ v, db.vessel token.vesselId = .ok v → v.shortCode = code) :
    (makeTemplate kind rules layout canProvision token).Leads
      (Database.ChangesOnly (ownTables code)) db := by
  refine .orError ?_ _
  refine .bind (.look _) fun catalog t hcatalog => ?_
  obtain ⟨hcatalog, rfl⟩ := Work.runOn_look hcatalog
  have own := hv _ (Database.catalog_vessel (mapError_eq_ok.mp hcatalog))
  refine .bind (.look _) fun file t _ => .bind ?_ fun tables t _ => .pure _
  unfold provisionFor
  split
  · exact .pure _
  · split
    · exact .throw _
    · rw [own]
      exact .orError provisionVessel_leads _

end

/-- An upload that is noted as a batch goes on to stage its sheets. -/
lemma upload_staging {db after : Database} {files written : Storage.Files}
    {dataDirectory batchId : String} {vesselId : Int} {file : ReturnedFile}
    {now : Calendar.Instant} {vessel : Catalog.Vessel} {settings : Report.Settings}
    {parsed : Submission.ParsedWorkbook} {artifacts : List Artifact}
    (hvessel : db.vessel vesselId = .ok vessel)
    (hsettings : db.settings dataDirectory (some vesselId) = .ok settings)
    (hparsed : Submission.parse settings.rules settings.layout file = .ok parsed)
    (howner : checkOwner vesselId parsed = .ok ())
    (hexport : exportSheets files settings.storage batchId parsed.sheets = (written, .ok artifacts))
    (hbatch : db.insertBatch (.new batchId vesselId artifacts now) = .ok after) :
    ((upload dataDirectory vesselId file batchId now).runOn ⟨db, files⟩).2 =
      ((parsed.sheets.filterMapM (stageSheet vessel.shortCode)).runOn ⟨after, written⟩).2 := by
  rw [upload_runOn]
  simp only [hvessel, hsettings, hparsed, howner, hexport, hbatch]
  split
  · next hstaged => rw [hstaged]
  · next hstaged => rw [hstaged]

/-! ## Operations -/

/-- An operation for a vessel that has to do with staging tables. -/
inductive Operation where
  | download (dataDirectory : String) (kind : TemplateKind) (token : UploadToken)
  | upload (dataDirectory : String) (vesselId : Int) (file : ReturnedFile) (batchId : String)
    (now : Calendar.Instant)

namespace Operation

/-- The vessel that the operation is for. -/
def vesselId : Operation → Int
  | download _ _ token => token.vesselId
  | upload _ vesselId _ _ _ => vesselId

/-- What is there after the operation, whether it succeeds or not. -/
def run (h : Holdings) : Operation → Holdings
  | download dataDirectory kind token => ((Service.download dataDirectory kind token).runOn h).2
  | upload dataDirectory vesselId file batchId now =>
    ((Service.upload dataDirectory vesselId file batchId now).runOn h).2

/-- The operation is for a vessel of a short code. -/
def IsFor (code : String) (h : Holdings) (o : Operation) : Prop :=
  ∃ v, h.database.vessel o.vesselId = .ok v ∧ v.shortCode = code

variable {o : Operation} {h : Holdings} {code : String}

/-- An operation changes only the tables of its vessel. -/
lemma changesOnly (hv : ∀ v, h.database.vessel o.vesselId = .ok v → v.shortCode = code) :
    h.ChangesOnly (ownTables code) (o.run h) := by
  cases o with
  | download dataDirectory kind token =>
    change (Service.download dataDirectory kind token).Leads (Holdings.ChangesOnly _) h
    unfold Service.download
    split
    · exact .bind (.throw _) fun _ _ hthrow => by cases hthrow
    · refine .bind (onDatabase_leads (.look _)) fun settings t hsettings => ?_
      obtain ⟨-, rfl⟩ := runOn_onDatabase_look hsettings
      exact .bind (onDatabase_leads (.orError (makeTemplate_leads hv) _)) fun _ _ _ => .pure _
  | upload dataDirectory vesselId file batchId now =>
    change (Service.upload dataDirectory vesselId file batchId now).Leads (Holdings.ChangesOnly _) h
    refine .bind (onDatabase_leads (.look _)) fun vessel t hvessel => ?_
    obtain ⟨hvessel, rfl⟩ := runOn_onDatabase_look hvessel
    obtain rfl := hv vessel (mapError_eq_ok.mp hvessel)
    refine .bind (onDatabase_leads (.look _)) fun settings t _ => ?_
    refine .bind (.look _) fun parsed t _ => .bind (.look _) fun _ t _ => ?_
    refine .bind onFiles_leads fun artifacts t _ => .bind ?_ fun _ t _ => ?_
    · refine onDatabase_leads (.change fun after _ hstep => ?_)
      obtain ⟨added, hadded, hdone⟩ := bind_eq_ok.mp hstep
      cases hdone
      exact (Database.insertBatch_changesOnly (mapError_eq_ok.mp hadded)).mono (by simp [ownTables])
    · exact .bind (.filterMapM _ fun s _ t =>
        stageSheet_leads (stagingTable_mem _ s.kind)) fun _ _ _ => .pure _

/-- The table of vessels is none of the tables that operations change. -/
lemma not_sameName_vessel : ∀ name ∈ ownTables code, ¬ sameName name "vessel" := by
  intro name hname
  simp only [ownTables, List.mem_cons, List.mem_map] at hname
  rcases hname with rfl | rfl | ⟨k, -, rfl⟩
  · decide
  · decide
  · exact not_sameName_stagingTable (by decide)

/-- An operation leaves the vessels. -/
lemma vessel_run (o : Operation) (h : Holdings) (id : Int) :
    (o.run h).database.vessel id = h.database.vessel id := by
  cases hv : h.database.vessel o.vesselId with
  | ok v =>
    have only : h.ChangesOnly (ownTables v.shortCode) (o.run h) := by
      refine changesOnly fun w hw => ?_
      rw [hv] at hw
      cases hw
      rfl
    exact Database.ChangesOnly.vessel only not_sameName_vessel id
  | error e =>
    have only : h.ChangesOnly (ownTables "") (o.run h) := changesOnly fun w hw => by
      rw [hv] at hw
      cases hw
    exact Database.ChangesOnly.vessel only not_sameName_vessel id

end Operation

/-- What is there after operations one after the other. -/
def runAll (h : Holdings) (operations : List Operation) : Holdings :=
  operations.foldl Operation.run h

/-- Operations leave the vessels. -/
lemma vessel_runAll (operations : List Operation) (h : Holdings) (id : Int) :
    (runAll h operations).database.vessel id = h.database.vessel id := by
  induction operations generalizing h with
  | nil => rfl
  | cons o operations ih => exact (ih (o.run h)).trans (o.vessel_run h id)

/-- Operations for a vessel leave the staging tables that go by another text. -/
lemma Operation.staging_kept {o : Operation} {h : Holdings} {a b : String}
    (apart : tableCode a ≠ tableCode b) (ho : o.IsFor a h) (k : ReportSheet) :
    (o.run h).database.table? (stagingTable b k) = h.database.table? (stagingTable b k) := by
  obtain ⟨v, hv, rfl⟩ := ho
  have only : h.ChangesOnly (ownTables v.shortCode) (o.run h) := by
    refine changesOnly fun w hw => ?_
    rw [hv] at hw
    cases hw
    rfl
  refine only.tables _ fun name hname => ?_
  simp only [ownTables, List.mem_cons, List.mem_map] at hname
  rcases hname with rfl | rfl | ⟨j, -, rfl⟩
  · rw [Store.sameName_comm]
    exact not_sameName_stagingTable (by decide)
  · rw [Store.sameName_comm]
    exact not_sameName_stagingTable (by decide)
  · exact fun hsame => apart (sameName_stagingTable.mp hsame).1

/-- There is a vessel of a short code. -/
def Holdings.HasVessel (h : Holdings) (code : String) : Prop :=
  ∃ id v, h.database.vessel id = .ok v ∧ v.shortCode = code

namespace Sample

/-- Two vessels of some short codes. -/
def vesselRows (a b : String) : List Store.Row :=
  [⟨1, [.integer 1, .text a, .text "A"]⟩, ⟨2, [.integer 2, .text b, .text "B"]⟩]

/-- A staging table of the second vessel, with a row. -/
def stagedRemark (b : String) : Table :=
  ⟨Database.textShape (stagingTable b .voyage) ["Remarks"], [⟨1, [.text "x"]⟩]⟩

/-- The rows of the tables of the schema: two vessels, and batches and files, if there are any. -/
def fleetRows (a b : String) (batches files : List Store.Row) (s : Store.Shape) :
    List Store.Row :=
  if s = Store.Schema.vessel then vesselRows a b
  else if s = Store.Schema.batch then batches
  else if s = Store.Schema.artifact then files
  else []

/-- Two vessels, and a staging table of the second with a row. -/
def fleet (a b : String) (batches files : List Store.Row) : Database where
  tables := Store.Schema.all.map (fun s => ⟨s, fleetRows a b batches files s⟩) ++ [stagedRemark b]
  views := []
  enforcing := true

/-- What is read for a sheet from a workbook without sheets. -/
def noSheet (k : ReportSheet) : ParsedSheet :=
  .missing k ("工作表缺失: " ++ k.title)

/-- The settings where nothing is set. -/
def plain : Report.Settings :=
  Database.plainSettings ""

/-- The file of a sheet of a workbook without sheets. -/
def noSheetFile (k : ReportSheet) : Artifact :=
  ⟨k.title, Storage.artifactPath plain.storage.uploadRoot k "b1", 0, false⟩

/-- The batch of a workbook without sheets. -/
def noSheetBatch : Submission.Batch :=
  .new "b1" 1 (ReportSheet.all.map noSheetFile) ⟨0, 0, 0⟩

/-- The row of the batch. -/
def batchRows : List Store.Row :=
  [⟨1, Database.batchValues noSheetBatch⟩]

/-- The rows of the first files of the batch. -/
def fileRows (count : Nat) : List Store.Row :=
  (ReportSheet.all.take count).zipIdx.map fun p =>
    ⟨p.2 + 1, Database.artifactValues "b1" (noSheetFile p.1)⟩

/-- How many sheets stand before a sheet. -/
def place : ReportSheet → Nat
  | .voyage => 0
  | .machinery => 1
  | .lubeOil => 2
  | .bunkering => 3

/-- The upload of a workbook without sheets for the first vessel. -/
def uploadOfNothing : Operation :=
  .upload "" 1 (.workbook []) "b1" ⟨0, 0, 0⟩

section

variable {a b : String} {batches files : List Store.Row}

/-- The tables of the schema are found. -/
lemma fleet_table {name : String} {s : Store.Shape}
    (hs : Store.Schema.all.find? (fun s => sameName s.name name) = some s) :
    (fleet a b batches files).table? name = some ⟨s, fleetRows a b batches files s⟩ := by
  unfold Database.table? fleet
  rw [List.find?_append, List.find?_map, Function.comp_def, hs]
  rfl

/-- The staging table is found. -/
lemma fleet_staged :
    (fleet a b batches files).table? (stagingTable b .voyage) = some (stagedRemark b) := by
  have others : ∀ s ∈ Store.Schema.all, ¬ sameName s.name (stagingTable b .voyage) := by
    have starts : ∀ s ∈ Store.Schema.all,
        (Text.asciiLowercase s.name).toList.head? ≠ some 's' := by decide
    intro s hs
    rw [Store.sameName_comm]
    exact not_sameName_stagingTable (starts s hs)
  unfold Database.table? fleet
  rw [List.find?_append, List.find?_map, Function.comp_def, List.find?_eq_none.mpr others]
  simp [stagedRemark, Database.textShape, sameName_stagingTable]

/-- Replacing a table of the schema by one with other rows. -/
lemma fleet_put {name : String} {s : Store.Shape} {rows batches' files' : List Store.Row}
    (hs : ∀ u ∈ Store.Schema.all, sameName u.name name = decide (u = s))
    (first : (Text.asciiLowercase name).toList.head? ≠ some 's')
    (hrows : ∀ u ∈ Store.Schema.all, fleetRows a b batches' files' u =
      if u = s then rows else fleetRows a b batches files u) :
    (fleet a b batches files).put name ⟨s, rows⟩ = fleet a b batches' files' := by
  have apart : sameName (stagedRemark b).shape.name name = false :=
    Bool.eq_false_iff.mpr (not_sameName_stagingTable first)
  have replaced : (Store.Schema.all.map fun u => (⟨u, fleetRows a b batches files u⟩ : Table)).map
      (fun t => if sameName t.shape.name name then ⟨s, rows⟩ else t) =
        Store.Schema.all.map fun u => ⟨u, fleetRows a b batches' files' u⟩ := by
    rw [List.map_map]
    refine List.map_congr_left fun u hu => ?_
    rw [Function.comp_apply, hs u hu, hrows u hu]
    by_cases h : u = s <;> simp [h]
  unfold Database.put fleet
  rw [List.map_append, List.map_singleton, apart, replaced]
  rfl

/-- Replacing the rows of batches gives the fleet with them. -/
lemma put_batches (rows : List Store.Row) :
    (fleet a b batches files).put "import_batch" ⟨Store.Schema.batch, rows⟩ =
      fleet a b rows files := by
  have vessel : Store.Schema.batch ≠ Store.Schema.vessel := by decide
  refine fleet_put (by decide) (by decide) fun u _ => ?_
  by_cases h : u = Store.Schema.batch <;> simp [fleetRows, h, vessel]

/-- Replacing the rows of files gives the fleet with them. -/
lemma put_files (rows : List Store.Row) :
    (fleet a b batches files).put "batch_artifact" ⟨Store.Schema.artifact, rows⟩ =
      fleet a b batches rows := by
  have vessel : Store.Schema.artifact ≠ Store.Schema.vessel := by decide
  have batch : Store.Schema.artifact ≠ Store.Schema.batch := by decide
  refine fleet_put (by decide) (by decide) fun u _ => ?_
  by_cases h : u = Store.Schema.artifact <;> simp [fleetRows, h, vessel, batch]

/-- Files refer to the batches. -/
lemma fleet_artifact_targets :
    (fleet a b batches files).targets ⟨Store.Schema.artifact, files⟩ =
      .ok [(⟨"batch_id", "import_batch", "batch_id"⟩, ⟨Store.Schema.batch, batches⟩)] := by
  have batch : (fleet a b batches files).target ⟨Store.Schema.artifact, files⟩
      ⟨"batch_id", "import_batch", "batch_id"⟩ = .ok ⟨Store.Schema.batch, batches⟩ := by
    have found : (fleet a b batches files).table? "import_batch" =
        some ⟨Store.Schema.batch, batches⟩ := fleet_table rfl
    unfold Database.target
    rw [found]
    rfl
  unfold Database.targets
  rw [show Store.Schema.artifact.references.reverse =
    [⟨"batch_id", "import_batch", "batch_id"⟩] from rfl, List.mapM_cons, batch]
  rfl

/-- The first vessel is found. -/
lemma fleet_vessel_one : (fleet a b batches files).vessel 1 = .ok ⟨1, a, "A"⟩ := by
  rw [Database.vessel_eq (fleet_table rfl) rfl]
  rfl

/-- The second vessel is found. -/
lemma fleet_vessel_two : (fleet a b batches files).vessel 2 = .ok ⟨2, b, "B"⟩ := by
  rw [Database.vessel_eq (fleet_table rfl) rfl]
  rfl

/-- The next file of the batch is added. -/
lemma fleet_insertArtifact (k : ReportSheet) :
    Database.insertArtifact "b1" (fleet a b batchRows (fileRows (place k))) (noSheetFile k) =
      .ok (fleet a b batchRows (fileRows (place k + 1))) := by
  rw [← put_files (fileRows (place k + 1))]
  refine Database.insertInto_eq (t := ⟨Store.Schema.artifact, fileRows (place k)⟩)
    (r := ⟨place k + 1, Database.artifactValues "b1" (noSheetFile k)⟩) (fleet_table rfl) rfl
    fleet_artifact_targets ?_ ?_
  · cases k <;> rfl
  · rw [List.forall_mem_singleton]
    cases k <;> rfl

/-- The batch and its files are added. -/
lemma fleet_insertBatch :
    (fleet a b [] []).insertBatch noSheetBatch = .ok (fleet a b batchRows (fileRows 4)) := by
  have added : (fleet a b [] []).insertInto "import_batch" Database.batchColumns
      (Database.batchValues noSheetBatch) = .ok (fleet a b batchRows (fileRows 0)) := by
    rw [← put_batches batchRows]
    exact Database.insertInto_eq (t := ⟨Store.Schema.batch, []⟩) (fleet_table rfl) rfl rfl rfl nofun
  have filed : noSheetBatch.artifacts.foldlM (Database.insertArtifact "b1")
      (fleet a b batchRows (fileRows (place .voyage))) =
        .ok (fleet a b batchRows (fileRows 4)) := by
    simp only [noSheetBatch, Submission.Batch.new, ReportSheet.all, List.map_cons, List.map_nil,
      List.foldlM_cons, List.foldlM_nil]
    refine bind_eq_ok.mpr ⟨_, fleet_insertArtifact .voyage, ?_⟩
    refine bind_eq_ok.mpr ⟨_, fleet_insertArtifact .machinery, ?_⟩
    refine bind_eq_ok.mpr ⟨_, fleet_insertArtifact .lubeOil, ?_⟩
    exact bind_eq_ok.mpr ⟨_, fleet_insertArtifact .bunkering, rfl⟩
  unfold Database.insertBatch
  rw [added]
  exact congrArg (Except.mapError Store.StoreError.ofFailure) filed

/-- The staging table of the second vessel is cleared. -/
lemma fleet_clear : (fleet a b batches files).clear (stagingTable b .voyage) =
    .ok ((fleet a b batches files).put (stagingTable b .voyage)
      { stagedRemark b with rows := [] }) := by
  refine Database.clear_eq fleet_staged rfl fun u hu r hr => ?_
  have starts : ∀ s ∈ Store.Schema.all, ∀ r ∈ s.references,
      (Text.asciiLowercase r.table).toList.head? ≠ some 's' := by decide
  rw [Store.sameName_comm]
  unfold fleet at hu
  rcases List.mem_append.mp hu with hu | hu
  · obtain ⟨s, hs, rfl⟩ := List.mem_map.mp hu
    exact not_sameName_stagingTable (starts s hs r hr)
  · obtain rfl := List.mem_singleton.mp hu
    cases hr

/-- The table of the second vessel is a staging table. -/
lemma stagedRemark_isStaging (b : String) :
    IsStaging (stagingTable b .voyage) (stagedRemark b) :=
  ⟨rfl, List.pairwise_singleton _ _, List.cons_ne_nil _ _⟩

/-- Staging no rows of the first sheet for the first vessel clears the table of the second if their
short codes give the same names. -/
lemma stage_first (same : tableCode a = tableCode b) (written : Storage.Files) :
    (stageSheet a (noSheet .voyage)).runOn ⟨fleet a b batches files, written⟩ =
      (.ok (some (stagingTable b .voyage, 0)),
        ⟨(fleet a b batches files).put (stagingTable b .voyage) { stagedRemark b with rows := [] },
          written⟩) := by
  have table : stagingTable a .voyage = stagingTable b .voyage := by
    rw [Submission.stagingTable_eq, Submission.stagingTable_eq, same]
  have loaded : (loadRows (stagingTable b .voyage) []).runOn (fleet a b batches files) =
      (.ok (some 0),
        (fleet a b batches files).put (stagingTable b .voyage)
          { stagedRemark b with rows := [] }) :=
    loadRows_of_clear (Submission.isReadable_stagingTable b .voyage) fleet_staged
      (stagedRemark_isStaging b) (Store.sameName_self _) fleet_clear []
  rw [stageSheet_runOn, show (noSheet .voyage).kind = .voyage from rfl,
    show (noSheet .voyage).rows = [] from rfl, table, loaded]
  rfl

/-- Staging the other sheets for one vessel leaves the table of the first sheet of any vessel. -/
lemma stage_others (a b : String) (h : Holdings) :
    (((ReportSheet.all.tail.map noSheet).filterMapM (stageSheet a)).runOn h).2.database.table?
      (stagingTable b .voyage) = h.database.table? (stagingTable b .voyage) := by
  have only : ((ReportSheet.all.tail.map noSheet).filterMapM (stageSheet a)).Leads
      (Holdings.ChangesOnly (ReportSheet.all.tail.map (stagingTable a))) h := by
    refine .filterMapM _ fun s hs h => stageSheet_leads ?_
    obtain ⟨k, hk, rfl⟩ := List.mem_map.mp hs
    exact List.mem_map_of_mem hk
  refine only.tables _ fun name hname same => ?_
  obtain ⟨k, hk, rfl⟩ := List.mem_map.mp hname
  obtain rfl := (sameName_stagingTable.mp same).2
  exact absurd hk (by decide)

/-- Staging no rows for the first vessel empties the staging table of the second if their short
codes give the same names. -/
lemma stage_nothing (same : tableCode a = tableCode b) (written : Storage.Files) :
    (((ReportSheet.all.map noSheet).filterMapM (stageSheet a)).runOn
      ⟨fleet a b batches files, written⟩).2.database.table? (stagingTable b .voyage) =
        some { stagedRemark b with rows := [] } := by
  have named : sameName (stagedRemark b).shape.name (stagingTable b .voyage) :=
    sameName_stagingTable.mpr ⟨rfl, rfl⟩
  have sheets : ReportSheet.all.map noSheet =
      noSheet .voyage :: ReportSheet.all.tail.map noSheet := rfl
  rw [sheets, Work.runOn_filterMapM_ok (stage_first same written)]
  dsimp only
  rw [stage_others]
  exact Database.table?_put_self fleet_staged named

/-- Nothing is read from a workbook without sheets. -/
lemma parse_nothing : Submission.parse plain.rules plain.layout (.workbook []) =
    .ok ⟨ReportSheet.all.map noSheet, none, none⟩ :=
  rfl

/-- The files of a workbook without sheets are written. -/
lemma exportSheets_nothing : ∃ files, exportSheets ∅ plain.storage "b1"
    (ReportSheet.all.map noSheet) = (files, .ok (ReportSheet.all.map noSheetFile)) := by
  have exported : (exportSheets ∅ plain.storage "b1" (ReportSheet.all.map noSheet)).2 =
      .ok (ReportSheet.all.map noSheetFile) := rfl
  exact ⟨_, Prod.ext rfl exported⟩

/-- An upload for the first vessel empties the staging table of the second if their short codes give
the same names. -/
lemma uploadOfNothing_run (same : tableCode a = tableCode b) :
    (uploadOfNothing.run ⟨fleet a b [] [], ∅⟩).database.table? (stagingTable b .voyage) =
      some { stagedRemark b with rows := [] } := by
  have vessel : (fleet a b [] []).vessel 1 = .ok ⟨1, a, "A"⟩ := fleet_vessel_one
  have settings : (fleet a b [] []).settings "" (some 1) = .ok plain :=
    Database.settings_of_none (fleet_table rfl) "" _
  have owned : checkOwner 1 ⟨ReportSheet.all.map noSheet, none, none⟩ = .ok () := rfl
  obtain ⟨files, written⟩ := exportSheets_nothing
  have run := upload_staging vessel settings parse_nothing owned written fleet_insertBatch
  have operation : uploadOfNothing.run ⟨fleet a b [] [], ∅⟩ =
    ((Service.upload "" 1 (.workbook []) "b1" ⟨0, 0, 0⟩).runOn ⟨fleet a b [] [], ∅⟩).2 := rfl
  rw [operation, run]
  dsimp only
  exact stage_nothing same files

end

end Sample

/-- In every run the operations for a vessel leave the staging tables of another vessel exactly if
the two short codes leave different texts in names. -/
theorem staging_kept_iff (a b : String) :
    (∀ h : Holdings, h.HasVessel b → ∀ (before : List Operation) (o : Operation), o.IsFor a h →
      ∀ k, (o.run (runAll h before)).database.table? (stagingTable b k) =
        (runAll h before).database.table? (stagingTable b k)) ↔
      tableCode a ≠ tableCode b := by
  constructor
  · intro kept same
    have unchanged := kept ⟨Sample.fleet a b [] [], ∅⟩ ⟨2, _, Sample.fleet_vessel_two, rfl⟩ []
      Sample.uploadOfNothing ⟨_, Sample.fleet_vessel_one, rfl⟩ .voyage
    have emptied := (Sample.uploadOfNothing_run same).symm.trans
      (unchanged.trans Sample.fleet_staged)
    cases emptied
  · intro apart h _ before o ho k
    refine Operation.staging_kept apart ?_ k
    obtain ⟨v, hv, hcode⟩ := ho
    exact ⟨v, (vessel_runAll before h _).trans hv, hcode⟩

/-- Two vessels with different short codes share a staging table: an upload for one removes the rows
of the other. -/
theorem staging_shared :
    let h : Holdings := ⟨Sample.fleet "MV-A" "MV A" [] [], ∅⟩
    h.database.vessel 1 = .ok ⟨1, "MV-A", "A"⟩ ∧ h.database.vessel 2 = .ok ⟨2, "MV A", "B"⟩ ∧
      h.database.table? (stagingTable "MV A" .voyage) = some (Sample.stagedRemark "MV A") ∧
      (Sample.uploadOfNothing.run h).database.table? (stagingTable "MV A" .voyage) =
        some { Sample.stagedRemark "MV A" with rows := [] } :=
  ⟨Sample.fleet_vessel_one, Sample.fleet_vessel_two, Sample.fleet_staged,
    Sample.uploadOfNothing_run (by decide)⟩

end Service

end ShipReport
