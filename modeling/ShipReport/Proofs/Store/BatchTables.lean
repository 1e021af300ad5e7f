import ShipReport.Proofs.Store.Added

/-!
# The tables of batches

Batches and their files are kept in two tables that belong together: each file is one of a batch
that is there. A batch is then added exactly if its id is not used and no two of its files are for
one sheet, and noting how an import of it went changes its row only. Both leave the batches of other
ids as they are.
-/

namespace ShipReport.Store

open Report (BatchStatus ReportType)
open Submission (Artifact Batch)

namespace Table

variable {t u : Table} {names : List String} {values : List Datum} {r : Row}

/-- A row that was added repeats no key. -/
lemma repeated?_of_insert (h : t.insert names values = .ok (r, u)) : t.repeated? r = none := by
  unfold insert at h
  obtain ⟨number, -, h⟩ := bind_eq_ok.mp h
  dsimp only at h
  split at h
  · cases h
  · cases repeated : t.repeated? (t.newRow number names values) with
    | some key =>
      rw [repeated] at h
      cases h
    | none =>
      rw [repeated] at h
      cases h
      exact repeated

/-- A row that was added repeats no key. -/
lemma fresh_of_insert (h : t.insert names values = .ok (r, u)) :
    ∀ key ∈ t.shape.keys, ∀ s ∈ t.rows, ¬ t.repeats key r s := by
  have unrepeated := repeated?_of_insert h
  unfold repeated? at unrepeated
  split at unrepeated
  · cases unrepeated
  · intro key hkey s hs repeats
    exact List.find?_eq_none.mp unrepeated key hkey (List.any_eq_true.mpr ⟨s, hs, repeats⟩)

/-- A row that was added holds the values that were given for its columns. -/
lemma row_of_insert (key : t.shape.rowKey = none) (apart : Apart t.shape.columnNames)
    (keeps : List.Forall₂ Column.Keeps t.shape.columns values)
    (h : t.insert t.shape.columnNames values = .ok (r, u)) : r = ⟨t.nextNumber, values⟩ := by
  unfold insert at h
  rw [numberFor_columns key] at h
  simp only [bind, Except.bind, newRow_columns key apart keeps] at h
  split at h
  · cases h
  · split at h
    · cases h
    · cases h
      rfl

end Table

namespace Database

/-- The row is that of a file of a batch for a sheet. -/
def isFile (id title : String) (r : Row) : Prop :=
  isArtifact id r ∧ valueAt r.values 1 = .text title

variable {db after : Database} {b : Batch} {id : String} {a : Artifact} {files : List Artifact}
  {t p : Table} {rows : List Row} {n : Int} {s : Row}

/-! ## Keys -/

/-- A row of a batch repeats the key of the rows with its id. -/
lemma repeats_batch : (⟨Schema.batch, rows⟩ : Table).repeats ["batch_id"] ⟨n, batchValues b⟩ s ↔
    isBatch b.id s := by
  have columns : (⟨Schema.batch, rows⟩ : Table).repeats ["batch_id"] ⟨n, batchValues b⟩ s =
      ((Datum.text b.id).equals (valueAt s.values 0) && true) := rfl
  rw [columns, Bool.and_true, Datum.text_equals, isBatch, Datum.equals_text]

/-- A row of a file repeats the key of the rows for its batch and sheet. -/
lemma repeats_artifact : (⟨Schema.artifact, rows⟩ : Table).repeats ["batch_id", "sheet_name"]
    ⟨n, artifactValues id a⟩ s ↔ isFile id a.title s := by
  have columns : (⟨Schema.artifact, rows⟩ : Table).repeats ["batch_id", "sheet_name"]
      ⟨n, artifactValues id a⟩ s = ((Datum.text id).equals (valueAt s.values 0) &&
        ((Datum.text a.title).equals (valueAt s.values 1) && true)) := rfl
  rw [columns, Bool.and_true, Bool.and_eq_true, Datum.text_equals, Datum.text_equals, isFile,
    isArtifact, Datum.equals_text]

/-! ## The row of a batch -/

/-- A batch of a new id gets a row after the last one. -/
lemma insertInto_batch (ht : db.table? "import_batch" = some t) (hs : t.shape = Schema.batch)
    (ordered : t.Ordered) (fresh : ∀ r ∈ t.rows, ¬ isBatch b.id r) :
    db.insertInto "import_batch" batchColumns (batchValues b) =
      .ok (db.put "import_batch" (t.extended [batchValues b])) := by
  obtain ⟨shape, rows⟩ := t
  obtain rfl : shape = Schema.batch := hs
  have parents : db.targets ⟨Schema.batch, rows⟩ = .ok [] := rfl
  have inserted := ordered.insert_eq (Table.numberFor_columns rfl _)
    (Table.newRow_columns rfl apart_batch (keeps_batch b) _) rfl
    (List.forall_mem_singleton.mpr fun r hr repeats => fresh r hr (repeats_batch.mp repeats))
  exact insertInto_eq ht rfl parents inserted (List.forall_mem_nil _)

/-- The row of a batch that was added had a new id. -/
lemma fresh_of_insertInto_batch (ht : db.table? "import_batch" = some t)
    (hs : t.shape = Schema.batch)
    (h : db.insertInto "import_batch" batchColumns (batchValues b) = .ok after) :
    ∀ r ∈ t.rows, ¬ isBatch b.id r := by
  obtain ⟨shape, rows⟩ := t
  obtain rfl : shape = Schema.batch := hs
  unfold insertInto at h
  obtain ⟨u, hu, h⟩ := bind_eq_ok.mp h
  cases (writable_of_table ht).symm.trans hu
  obtain ⟨-, -, h⟩ := bind_eq_ok.mp h
  obtain ⟨row, v, hinsert, -⟩ := eq_of_insertRow h
  obtain rfl := Table.row_of_insert rfl apart_batch (keeps_batch b) hinsert
  intro r hr own
  exact Table.fresh_of_insert hinsert ["batch_id"] (List.mem_singleton.mpr rfl) r hr
    (repeats_batch.mpr own)

/-! ## The rows of files -/

/-- The references of files lead to the table of batches. -/
lemma targets_artifact (hp : db.table? "import_batch" = some p) (hps : p.shape = Schema.batch) :
    db.targets ⟨Schema.artifact, rows⟩ =
      .ok [(⟨"batch_id", "import_batch", "batch_id"⟩, p)] := by
  have target : db.target ⟨Schema.artifact, rows⟩ ⟨"batch_id", "import_batch", "batch_id"⟩ =
      .ok p := by
    unfold Database.target
    rw [hp]
    dsimp only
    rw [hps]
    rfl
  have references : (⟨Schema.artifact, rows⟩ : Table).shape.references.reverse =
      [⟨"batch_id", "import_batch", "batch_id"⟩] := rfl
  unfold targets
  rw [references, List.mapM_cons, target]
  rfl

/-- A file refers to the row of its batch. -/
lemma referenceHolds_artifact (hps : p.shape = Schema.batch) (own : ∃ r ∈ p.rows, isBatch id r) :
    referenceHolds ⟨Schema.artifact, rows⟩ ⟨"batch_id", "import_batch", "batch_id"⟩ p
      ⟨n, artifactValues id a⟩ := by
  obtain ⟨shape, batches⟩ := p
  obtain rfl : shape = Schema.batch := hps
  obtain ⟨r, hr, hid⟩ := own
  refine Bool.or_eq_true_iff.mpr (.inr (List.any_eq_true.mpr ⟨r, hr, ?_⟩))
  exact hid

/-- A file for another sheet gets a row after the last one. -/
lemma insertArtifact_eq (hp : db.table? "import_batch" = some p) (hps : p.shape = Schema.batch)
    (own : ∃ r ∈ p.rows, isBatch id r) (ht : db.table? "batch_artifact" = some t)
    (hs : t.shape = Schema.artifact) (ordered : t.Ordered)
    (fresh : ∀ r ∈ t.rows, ¬ isFile id a.title r) :
    insertArtifact id db a = .ok (db.put "batch_artifact" (t.extended [artifactValues id a])) := by
  obtain ⟨shape, rows⟩ := t
  obtain rfl : shape = Schema.artifact := hs
  have inserted := ordered.insert_eq (Table.numberFor_columns rfl _)
    (Table.newRow_columns rfl apart_artifact (keeps_artifact id a) _) rfl
    (List.forall_mem_singleton.mpr fun r hr repeats => fresh r hr (repeats_artifact.mp repeats))
  refine insertInto_eq ht rfl (targets_artifact hp hps) inserted ?_
  exact List.forall_mem_singleton.mpr (referenceHolds_artifact hps own)

/-- The row of a file that was added is the only one for its sheet. -/
lemma fresh_of_insertArtifact (ht : db.table? "batch_artifact" = some t)
    (hs : t.shape = Schema.artifact) (h : insertArtifact id db a = .ok after) :
    ∀ r ∈ t.rows, ¬ isFile id a.title r := by
  obtain ⟨shape, rows⟩ := t
  obtain rfl : shape = Schema.artifact := hs
  unfold insertArtifact insertInto at h
  obtain ⟨u, hu, h⟩ := bind_eq_ok.mp h
  cases (writable_of_table ht).symm.trans hu
  obtain ⟨-, -, h⟩ := bind_eq_ok.mp h
  obtain ⟨row, v, hinsert, -⟩ := eq_of_insertRow h
  obtain rfl := Table.row_of_insert rfl apart_artifact (keeps_artifact id a) hinsert
  intro r hr same
  exact Table.fresh_of_insert hinsert ["batch_id", "sheet_name"] (List.mem_singleton.mpr rfl) r hr
    (repeats_artifact.mpr same)

/-- The row of a file is the one for its batch and sheet. -/
lemma isFile_row {title : String} : isFile id title ⟨n, artifactValues id a⟩ ↔ a.title = title := by
  simp [isFile, isArtifact, artifactValues, valueAt, Datum.equals_text]

/-- The files of a batch are for different sheets, and for none that a file of the batch is for
already. -/
structure FreshFiles (id : String) (t : Table) (files : List Artifact) : Prop where
  titles : (files.map (·.title)).Nodup
  rows : ∀ a ∈ files, ∀ r ∈ t.rows, ¬ isFile id a.title r

/-- A file and then others are new if it is, and they are when it is there. -/
lemma freshFiles_cons : FreshFiles id t (a :: files) ↔
    (∀ r ∈ t.rows, ¬ isFile id a.title r) ∧
      FreshFiles id (t.extended [artifactValues id a]) files := by
  have grown : (t.extended [artifactValues id a]).rows =
      t.rows ++ [⟨t.nextNumber, artifactValues id a⟩] := rfl
  constructor
  · rintro ⟨titles, rows⟩
    obtain ⟨other, titles⟩ := List.nodup_cons.mp titles
    obtain ⟨first, rows⟩ := List.forall_mem_cons.mp rows
    refine ⟨first, titles, fun c hc r hr same => ?_⟩
    rw [grown] at hr
    rcases List.mem_append.mp hr with hr | hr
    · exact rows c hc r hr same
    · obtain rfl := List.mem_singleton.mp hr
      exact other (List.mem_map.mpr ⟨c, hc, (isFile_row.mp same).symm⟩)
  · rintro ⟨first, titles, rows⟩
    have apart : ∀ c ∈ files, a.title ≠ c.title := fun c hc same =>
      rows c hc _ (by rw [grown]; exact List.mem_append_right _ (List.mem_singleton.mpr rfl))
        (isFile_row.mpr same)
    refine ⟨List.nodup_cons.mpr ⟨fun mem => ?_, titles⟩, List.forall_mem_cons.mpr ⟨first, ?_⟩⟩
    · obtain ⟨c, hc, same⟩ := List.mem_map.mp mem
      exact apart c hc same.symm
    · exact fun c hc r hr =>
        rows c hc r (by rw [grown]; exact List.mem_append_left _ hr)

/-- Files of a batch that is there are added exactly if they are new. -/
lemma insertArtifacts_succeeds_iff (hp : db.table? "import_batch" = some p)
    (hps : p.shape = Schema.batch) (own : ∃ r ∈ p.rows, isBatch id r)
    (ht : db.table? "batch_artifact" = some t) (hs : t.shape = Schema.artifact)
    (ordered : t.Ordered) :
    (∃ after, files.foldlM (insertArtifact id) db = .ok after) ↔ FreshFiles id t files := by
  induction files generalizing db t with
  | nil => exact iff_of_true ⟨db, rfl⟩ ⟨.nil, List.forall_mem_nil _⟩
  | cons a files ih =>
    have named : sameName (t.extended [artifactValues id a]).shape.name "batch_artifact" := by
      rw [Table.extended_shape, hs]
      decide
    have batches : (db.put "batch_artifact" (t.extended [artifactValues id a])).table?
        "import_batch" = some p := by
      rw [table?_put_other named (by decide), hp]
    have rest := ih batches (table?_put_self ht named) hs (ordered.extend _)
    rw [freshFiles_cons, ← rest]
    simp only [List.foldlM_cons, bind_eq_ok]
    constructor
    · rintro ⟨after, next, first, others⟩
      have fresh := fresh_of_insertArtifact ht hs first
      rw [insertArtifact_eq hp hps own ht hs ordered fresh] at first
      cases first
      exact ⟨fresh, after, others⟩
    · rintro ⟨fresh, after, others⟩
      exact ⟨after, _, insertArtifact_eq hp hps own ht hs ordered fresh, others⟩

/-! ## Databases of batches -/

/-- The tables of batches and of files are as the schema has them, their rows stand in order, and
each file is one of a batch that is there. -/
structure BatchTables (db : Database) (t u : Table) : Prop where
  batches : db.table? "import_batch" = some t
  batchShape : t.shape = Schema.batch
  batchOrder : t.Ordered
  width : ∀ r ∈ t.rows, r.values.length = 6
  files : db.table? "batch_artifact" = some u
  fileShape : u.shape = Schema.artifact
  fileOrder : u.Ordered
  owned : ∀ id, ∀ r ∈ u.rows, isArtifact id r → ∃ s ∈ t.rows, isBatch id s

/-- The database keeps batches with their files. -/
def KeepsBatches (db : Database) : Prop :=
  ∃ t u, db.BatchTables t u

/-- A new database keeps no batch. -/
lemma new_keepsBatches : new.KeepsBatches :=
  ⟨⟨Schema.batch, []⟩, ⟨Schema.artifact, []⟩, by decide +kernel, rfl, .nil, List.forall_mem_nil _,
    by decide +kernel, rfl, .nil, fun _ => List.forall_mem_nil _⟩

namespace BatchTables

variable {u : Table}

/-- A batch is not found if no row has its id. -/
lemma findBatch_eq_none (tables : db.BatchTables t u) :
    db.findBatch id = .ok none ↔ ∀ r ∈ t.rows, ¬ isBatch id r := by
  rw [findBatch_eq tables.batches tables.batchShape, ← List.find?_eq_none]
  cases found : t.rows.find? (isBatch id) with
  | none => exact iff_of_true rfl rfl
  | some r =>
    refine iff_of_false (fun h => ?_) nofun
    unfold batchOfRow at h
    obtain ⟨stored, -, h⟩ := bind_eq_ok.mp h
    obtain ⟨files, -, h⟩ := bind_eq_ok.mp h
    obtain ⟨found, -, h⟩ := bind_eq_ok.mp h
    cases h

/-- An id without a batch can be used for one. -/
lemma takes (tables : db.BatchTables t u) (fresh : ∀ r ∈ t.rows, ¬ isBatch id r) :
    db.TakesBatch id := by
  refine ⟨⟨t, tables.batches, tables.batchShape, tables.batchOrder, fresh⟩,
    u, tables.files, tables.fileShape, tables.fileOrder, fun r hr own => ?_⟩
  obtain ⟨s, hs, hid⟩ := tables.owned id r hr own
  exact fresh s hs hid

/-- A batch is added exactly if its id is not used and its files are for different sheets. -/
lemma insertBatch_succeeds_iff (tables : db.BatchTables t u) :
    (∃ after, db.insertBatch b = .ok after) ↔
      db.findBatch b.id = .ok none ∧ (b.artifacts.map (·.title)).Nodup := by
  have named : sameName (t.extended [batchValues b]).shape.name "import_batch" := by
    rw [Table.extended_shape, tables.batchShape]
    decide
  have files : (db.put "import_batch" (t.extended [batchValues b])).table? "batch_artifact" =
      some u := by
    rw [table?_put_other named (by decide), tables.files]
  have own : ∃ r ∈ (t.extended [batchValues b]).rows, isBatch b.id r :=
    ⟨⟨t.nextNumber, batchValues b⟩, List.mem_append_right _ (List.mem_singleton.mpr rfl),
      isBatch_row.mpr rfl⟩
  have rest : (∃ after, b.artifacts.foldlM (insertArtifact b.id)
      (db.put "import_batch" (t.extended [batchValues b])) = .ok after) ↔
        FreshFiles b.id u b.artifacts :=
    insertArtifacts_succeeds_iff (table?_put_self tables.batches named) tables.batchShape own files
      tables.fileShape tables.fileOrder
  -- a file that is there under the id would belong to a batch that is there
  have fresh_iff : (∀ r ∈ t.rows, ¬ isBatch b.id r) →
      (FreshFiles b.id u b.artifacts ↔ (b.artifacts.map (·.title)).Nodup) := fun fresh => by
    refine ⟨FreshFiles.titles, fun titles => ⟨titles, fun a _ r hr same => ?_⟩⟩
    obtain ⟨s, hs, hid⟩ := tables.owned b.id r hr same.1
    exact fresh s hs hid
  unfold insertBatch
  simp only [mapError_eq_ok, bind_eq_ok, tables.findBatch_eq_none]
  constructor
  · rintro ⟨after, next, first, others⟩
    have fresh := fresh_of_insertInto_batch tables.batches tables.batchShape first
    rw [insertInto_batch tables.batches tables.batchShape tables.batchOrder fresh] at first
    cases first
    exact ⟨fresh, (fresh_iff fresh).mp (rest.mp ⟨after, others⟩)⟩
  · rintro ⟨fresh, titles⟩
    obtain ⟨after, others⟩ := rest.mpr ((fresh_iff fresh).mpr titles)
    exact ⟨after, _,
      insertInto_batch tables.batches tables.batchShape tables.batchOrder fresh, others⟩

/-- A batch that was added has its row and those of its files at the end of the tables. -/
lemma insertBatch (tables : db.BatchTables t u) (h : db.insertBatch b = .ok after) :
    after.BatchTables (t.extended [batchValues b])
      (u.extended (b.artifacts.map (artifactValues b.id))) := by
  obtain ⟨batches, files⟩ := eq_of_insertBatch tables.batches tables.batchShape tables.batchOrder
    tables.files tables.fileShape tables.fileOrder h
  refine ⟨batches, tables.batchShape, tables.batchOrder.extend _, fun r hr => ?_, files,
    tables.fileShape, tables.fileOrder.extend _, fun id r hr own => ?_⟩
  · rcases List.mem_append.mp hr with hr | hr
    · exact tables.width r hr
    · obtain rfl := List.mem_singleton.mp hr
      rfl
  · rcases List.mem_append.mp hr with hr | hr
    · obtain ⟨s, hs, hid⟩ := tables.owned id r hr own
      exact ⟨s, List.mem_append_left _ hs, hid⟩
    · exact ⟨⟨t.nextNumber, batchValues b⟩,
        List.mem_append_right _ (List.mem_singleton.mpr rfl),
        isBatch_row.mpr ((isArtifact_row hr).mp own)⟩

/-- The batches of other ids are found as before a batch was added. -/
lemma findBatch_inserted_other (tables : db.BatchTables t u) (h : db.insertBatch b = .ok after)
    (other : id ≠ b.id) : after.findBatch id = db.findBatch id := by
  have grown := tables.insertBatch h
  have batch : (t.extended [batchValues b]).rows.find? (isBatch id) = t.rows.find? (isBatch id) := by
    have new : [(⟨t.nextNumber, batchValues b⟩ : Row)].find? (isBatch id) = none :=
      List.find?_eq_none.mpr <| List.forall_mem_singleton.mpr fun own =>
        other (isBatch_row.mp own).symm
    rw [Table.extended, numbered, numbered, List.find?_append, new, Option.or_none]
  have files : (u.extended (b.artifacts.map (artifactValues b.id))).rows.filter (isArtifact id) =
      u.rows.filter (isArtifact id) := by
    rw [Table.extended, List.filter_append, filter_otherFiles other.symm, List.append_nil]
  rw [findBatch_eq grown.batches grown.batchShape, findBatch_eq tables.batches tables.batchShape,
    batch]
  unfold batchOfRow
  rw [artifacts_eq grown.files grown.fileShape, artifacts_eq tables.files tables.fileShape, files]

/-! ## Noting how an import went -/

variable {status : BatchStatus} {type : ReportType} {message : Option String}

/-- A status is noted for a batch that is there. -/
lemma updateStatus_of_found (tables : db.BatchTables t u) (found : db.findBatch id ≠ .ok none) :
    db.updateStatus id status type message =
      .ok (db.put "import_batch" (noteTable id status type message t)) := by
  rw [ne_eq, tables.findBatch_eq_none] at found
  push Not at found
  rw [updateStatus_eq tables.batches tables.batchShape, if_pos (List.any_eq_true.mpr found)]

/-- No status is noted for a batch that is not there. -/
lemma updateStatus_of_none (tables : db.BatchTables t u) (none : db.findBatch id = .ok none) :
    db.updateStatus id status type message = .error (.notFound "import_batch" id) := by
  rw [tables.findBatch_eq_none] at none
  rw [updateStatus_eq tables.batches tables.batchShape, if_neg]
  intro any
  obtain ⟨r, hr, own⟩ := List.any_eq_true.mp any
  exact none r hr own

/-- A row keeps its number when a status is noted. -/
lemma noted_number (r : Row) :
    (if isBatch id r then noteRow status type message r else r).number = r.number := by
  split <;> rfl

/-- A row keeps its id when a status is noted. -/
lemma isBatch_noted (other : String) (r : Row) :
    isBatch other (if isBatch id r then noteRow status type message r else r) =
      isBatch other r := by
  split
  · exact isBatch_noteRow
  · rfl

/-- After a status was noted the tables belong together as before. -/
lemma updateStatus (tables : db.BatchTables t u) :
    (db.put "import_batch" (noteTable id status type message t)).BatchTables
      (noteTable id status type message t) u := by
  have named : sameName (noteTable id status type message t).shape.name "import_batch" :=
    noteTable_name tables.batchShape
  refine ⟨table?_put_self tables.batches named, tables.batchShape, ?_, noteTable_width tables.width,
    (files_noted tables.batchShape).trans tables.files, tables.fileShape, tables.fileOrder,
    fun other r hr own => ?_⟩
  · refine List.pairwise_map.mpr (tables.batchOrder.imp fun {r s} before => ?_)
    rwa [noted_number, noted_number]
  · obtain ⟨s, hs, hid⟩ := tables.owned other r hr own
    exact ⟨_, List.mem_map_of_mem hs, (isBatch_noted other s).trans hid⟩

/-- The batches of other ids are found as before a status was noted. -/
lemma findBatch_updated_other (tables : db.BatchTables t u) {other : String} (hne : other ≠ id) :
    (db.put "import_batch" (noteTable id status type message t)).findBatch other =
      db.findBatch other :=
  findBatch_noted_other tables.batches tables.batchShape status type message tables.files hne

/-- The batch is found with the status that was noted. -/
lemma findBatch_updated (tables : db.BatchTables t u) (hb : db.findBatch id = .ok (some b)) :
    (db.put "import_batch" (noteTable id status type message t)).findBatch id =
      .ok (some { b with
        status := status, lastReportType := some type, lastMessage := message }) := by
  obtain ⟨r, hr, hrow⟩ := row_of_findBatch tables.batches tables.batchShape hb
  exact findBatch_noted tables.batches tables.batchShape status type message tables.files
    tables.width hr hrow

end BatchTables

end Database

end ShipReport.Store
