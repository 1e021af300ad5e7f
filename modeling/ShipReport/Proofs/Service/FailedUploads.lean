import ShipReport.Proofs.Service.StagingTables

/-!
# Uploads that fail

Whatever stops an upload before its sheets are staged, the database is as it was before; and before
the first file is written, so are the files. Afterwards the batch is there, and only the staging of
its sheets can still fail. A preview changes nothing.
-/

namespace ShipReport

namespace Service

open Report (ReportSheet)
open Store (Database)
open Submission (Artifact ParsedWorkbook ReturnedFile exportSheets)

/-! ## How far an upload comes -/

section

variable (dataDirectory : String) (vesselId : Int) (file : ReturnedFile) (batchId : String)
  (now : Calendar.Instant) (h : Holdings)

/-- The vessel of an upload, the settings for it and what its workbook holds. -/
structure ReadAs (vessel : Catalog.Vessel) (settings : Report.Settings)
    (parsed : ParsedWorkbook) : Prop where
  found : h.database.vessel vesselId = .ok vessel
  set : h.database.settings dataDirectory (some vesselId) = .ok settings
  opened : Submission.parse settings.rules settings.layout file = .ok parsed

/-- An upload that comes to be noted as a batch: its files, and what is there then. -/
structure NotedAs (vessel : Catalog.Vessel) (settings : Report.Settings) (parsed : ParsedWorkbook)
    (artifacts : List Artifact) (noted : Holdings) : Prop
    extends ReadAs dataDirectory vesselId file h vessel settings parsed where
  owned : checkOwner vesselId parsed = .ok ()
  written : exportSheets h.files settings.storage batchId parsed.sheets =
    (noted.files, .ok artifacts)
  batched : h.database.insertBatch (.new batchId vesselId artifacts now) = .ok noted.database

/-- What an upload does before its sheets are staged. -/
inductive Step where
  | findVessel
  | readSettings
  | readWorkbook
  | checkOwner
  | writeFiles
  | noteBatch
deriving DecidableEq

/-- Nothing has been written when the step is made. -/
def Step.OnlyLooks (s : Step) : Prop :=
  s ≠ .writeFiles ∧ s ≠ .noteBatch

/-- The upload fails with a step. -/
inductive FailsAt : Step → ServiceError → Prop
  | findVessel {e} (unknown : h.database.vessel vesselId = .error e) :
    FailsAt .findVessel (.ofStore e)
  | readSettings {vessel f} (found : h.database.vessel vesselId = .ok vessel)
    (unset : h.database.settings dataDirectory (some vesselId) = .error f) :
    FailsAt .readSettings (.ofSettings f.message)
  | readWorkbook {vessel settings e} (found : h.database.vessel vesselId = .ok vessel)
    (set : h.database.settings dataDirectory (some vesselId) = .ok settings)
    (unread : Submission.parse settings.rules settings.layout file = .error e) :
    FailsAt .readWorkbook (.ofSubmission e)
  | checkOwner {vessel settings parsed e}
    (read : ReadAs dataDirectory vesselId file h vessel settings parsed)
    (other : Service.checkOwner vesselId parsed = .error e) :
    FailsAt .checkOwner e
  | writeFiles {vessel settings parsed files e}
    (read : ReadAs dataDirectory vesselId file h vessel settings parsed)
    (owned : Service.checkOwner vesselId parsed = .ok ())
    (unwritten : exportSheets h.files settings.storage batchId parsed.sheets = (files, .error e)) :
    FailsAt .writeFiles (.ofSubmission e)
  | noteBatch {vessel settings parsed files artifacts e}
    (read : ReadAs dataDirectory vesselId file h vessel settings parsed)
    (owned : Service.checkOwner vesselId parsed = .ok ())
    (written : exportSheets h.files settings.storage batchId parsed.sheets = (files, .ok artifacts))
    (unnoted : h.database.insertBatch (.new batchId vesselId artifacts now) = .error e) :
    FailsAt .noteBatch (.ofStore e)

end

section

variable {dataDirectory : String} {vesselId : Int} {file : ReturnedFile} {batchId : String}
  {now : Calendar.Instant} {h : Holdings}

/-- A failure leaves the database, and the files too if none was to be written yet. -/
lemma FailsAt.runOn {s : Step} {e : ServiceError}
    (failed : FailsAt dataDirectory vesselId file batchId now h s e) :
    ∃ files, (upload dataDirectory vesselId file batchId now).runOn h =
        (.error e, ⟨h.database, files⟩) ∧ (s.OnlyLooks → files = h.files) := by
  rw [upload_runOn]
  cases failed with
  | findVessel unknown =>
    simp only [unknown]
    exact ⟨_, rfl, fun _ => rfl⟩
  | readSettings found unset =>
    simp only [found, unset]
    exact ⟨_, rfl, fun _ => rfl⟩
  | readWorkbook found set unread =>
    simp only [found, set, unread]
    exact ⟨_, rfl, fun _ => rfl⟩
  | checkOwner read other =>
    simp only [read.found, read.set, read.opened, other]
    exact ⟨_, rfl, fun _ => rfl⟩
  | writeFiles read owned unwritten =>
    simp only [read.found, read.set, read.opened, owned, unwritten]
    exact ⟨_, rfl, fun looks => absurd rfl looks.1⟩
  | noteBatch read owned written unnoted =>
    simp only [read.found, read.set, read.opened, owned, written, unnoted]
    exact ⟨_, rfl, fun looks => absurd rfl looks.2⟩

/-- What comes after a batch was noted is the staging of its sheets. -/
lemma NotedAs.runOn {vessel : Catalog.Vessel} {settings : Report.Settings} {parsed : ParsedWorkbook}
    {artifacts : List Artifact} {noted : Holdings}
    (hn : NotedAs dataDirectory vesselId file batchId now h vessel settings parsed artifacts noted) :
    (upload dataDirectory vesselId file batchId now).runOn h =
      (((parsed.sheets.filterMapM (stageSheet vessel.shortCode)).runOn noted).1.map fun tables =>
          { batchId, vesselId, artifacts
            totalRows := (Submission.Batch.new batchId vesselId artifacts now).totalRows
            stagedTables := tables
            uploadToken := parsed.uploadToken
            warnings := parsed.warnings },
        ((parsed.sheets.filterMapM (stageSheet vessel.shortCode)).runOn noted).2) := by
  rw [upload_runOn]
  simp only [hn.found, hn.set, hn.opened, hn.owned, hn.written, hn.batched]
  obtain ⟨result, staged⟩ := (parsed.sheets.filterMapM (stageSheet vessel.shortCode)).runOn noted
  cases result <;> rfl

variable (dataDirectory vesselId file batchId now h) in
/-- An upload fails with a step, or comes to be noted as a batch. -/
lemma fails_or_noted :
    (∃ s e, FailsAt dataDirectory vesselId file batchId now h s e) ∨
      ∃ vessel settings parsed artifacts noted,
        NotedAs dataDirectory vesselId file batchId now h vessel settings parsed artifacts noted := by
  cases hvessel : h.database.vessel vesselId with
  | error e => exact .inl ⟨_, _, .findVessel hvessel⟩
  | ok vessel =>
    cases hsettings : h.database.settings dataDirectory (some vesselId) with
    | error f => exact .inl ⟨_, _, .readSettings hvessel hsettings⟩
    | ok settings =>
      cases hparsed : Submission.parse settings.rules settings.layout file with
      | error e => exact .inl ⟨_, _, .readWorkbook hvessel hsettings hparsed⟩
      | ok parsed =>
        have read : ReadAs dataDirectory vesselId file h vessel settings parsed :=
          ⟨hvessel, hsettings, hparsed⟩
        cases howner : checkOwner vesselId parsed with
        | error e => exact .inl ⟨_, _, .checkOwner read howner⟩
        | ok owned =>
          cases hexported : exportSheets h.files settings.storage batchId parsed.sheets with
          | mk written exported =>
            cases exported with
            | error e => exact .inl ⟨_, _, .writeFiles read howner hexported⟩
            | ok artifacts =>
              cases hnoted : h.database.insertBatch (.new batchId vesselId artifacts now) with
              | error e => exact .inl ⟨_, _, .noteBatch read howner hexported hnoted⟩
              | ok noted =>
                exact .inr ⟨_, _, _, _, ⟨noted, written⟩, read, howner, hexported, hnoted⟩

end

/-- A preview changes nothing. -/
lemma preview_runOn (dataDirectory : String) (vessel : Option Int) (file : ReturnedFile)
    (h : Holdings) : ((preview dataDirectory vessel file).runOn h).2 = h := by
  unfold preview settingsFor
  rw [Work.runOn_bind, runOn_onDatabase_lookAt]
  split
  · next hr => exact (Prod.mk.inj hr).2 ▸ rfl
  · next hr => exact (Prod.mk.inj hr).2.symm

/-- An upload that fails with a step before its sheets are staged leaves the database, and the files
too if none was to be written yet. No upload fails otherwise unless its batch was noted and a sheet
could not be staged. A preview changes nothing. -/
theorem failed_upload_keeps (dataDirectory : String) (vesselId : Int) (file : ReturnedFile)
    (batchId : String) (now : Calendar.Instant) (h : Holdings) :
    (∀ s e, FailsAt dataDirectory vesselId file batchId now h s e →
        ∃ files, (upload dataDirectory vesselId file batchId now).runOn h =
          (.error e, ⟨h.database, files⟩) ∧ (s.OnlyLooks → files = h.files)) ∧
      (∀ e after, (upload dataDirectory vesselId file batchId now).runOn h = (.error e, after) →
        (∃ s, FailsAt dataDirectory vesselId file batchId now h s e) ∨
          ∃ vessel settings parsed artifacts noted,
            NotedAs dataDirectory vesselId file batchId now h vessel settings parsed artifacts
              noted ∧
            (parsed.sheets.filterMapM (stageSheet vessel.shortCode)).runOn noted =
              (.error e, after)) ∧
      ∀ vessel, ((preview dataDirectory vessel file).runOn h).2 = h := by
  refine ⟨fun s e => FailsAt.runOn, fun e after failed => ?_,
    fun vessel => preview_runOn dataDirectory vessel file h⟩
  -- an upload fails before its batch is noted, or while its sheets are staged
  rcases fails_or_noted dataDirectory vesselId file batchId now h with
    ⟨s, e', hs⟩ | ⟨vessel, settings, parsed, artifacts, noted, hn⟩
  · obtain ⟨files, run, -⟩ := hs.runOn
    cases run.symm.trans failed
    exact .inl ⟨s, hs⟩
  · refine .inr ⟨vessel, settings, parsed, artifacts, noted, hn, ?_⟩
    rw [hn.runOn] at failed
    cases hstaged : (parsed.sheets.filterMapM (stageSheet vessel.shortCode)).runOn noted with
    | mk result staged =>
      rw [hstaged] at failed
      cases result with
      | error cause =>
        cases failed
        rfl
      | ok tables => cases failed

namespace Sample

variable {a b : String}

/-- The batch cannot be added a second time. -/
lemma fleet_insertBatch_again : ∃ e,
    (fleet a b batchRows (fileRows 4)).insertBatch noSheetBatch = .error e := by
  have refused : (fleet a b batchRows (fileRows 4)).insertInto "import_batch"
      Database.batchColumns (Database.batchValues noSheetBatch) =
        .error (Store.Fault.notUnique "import_batch" ["batch_id"]).failure :=
    Database.insertInto_error (t := ⟨Store.Schema.batch, batchRows⟩) (fleet_table rfl) rfl rfl rfl
  unfold Database.insertBatch
  rw [refused]
  exact ⟨_, rfl⟩

/-- An upload of a workbook without sheets comes to be noted, under an id that is taken. -/
lemma uploadOfNothing_fails :
    ∃ e, FailsAt "" 1 (.workbook []) "b1" ⟨0, 0, 0⟩ ⟨fleet a b batchRows (fileRows 4), ∅⟩
      .noteBatch e := by
  have settings : (fleet a b batchRows (fileRows 4)).settings "" (some 1) = .ok plain :=
    Database.settings_of_none (fleet_table rfl) "" _
  have owned : checkOwner 1 ⟨ReportSheet.all.map noSheet, none, none⟩ = .ok () := rfl
  obtain ⟨files, written⟩ := exportSheets_nothing
  obtain ⟨e, refused⟩ := fleet_insertBatch_again (a := a) (b := b)
  exact ⟨_, .noteBatch ⟨fleet_vessel_one, settings, parse_nothing⟩ owned written refused⟩

end Sample

/-- A second upload under the id of a batch leaves the batch, its files and all staged rows. -/
theorem second_upload_keeps :
    ∃ e files, FailsAt "" 1 (.workbook []) "b1" ⟨0, 0, 0⟩
        ⟨Sample.fleet "MV-A" "MV-B" Sample.batchRows (Sample.fileRows 4), ∅⟩ .noteBatch e ∧
      (upload "" 1 (.workbook []) "b1" ⟨0, 0, 0⟩).runOn
          ⟨Sample.fleet "MV-A" "MV-B" Sample.batchRows (Sample.fileRows 4), ∅⟩ =
        (.error e, ⟨Sample.fleet "MV-A" "MV-B" Sample.batchRows (Sample.fileRows 4), files⟩) := by
  obtain ⟨e, failed⟩ := Sample.uploadOfNothing_fails (a := "MV-A") (b := "MV-B")
  obtain ⟨files, run, -⟩ := (failed_upload_keeps "" 1 (.workbook []) "b1" ⟨0, 0, 0⟩ _).1 _ _ failed
  exact ⟨e, files, failed, run⟩

end Service

end ShipReport
