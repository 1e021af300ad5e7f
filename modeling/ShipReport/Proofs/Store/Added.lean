import ShipReport.Proofs.Calendar.Instants
import ShipReport.Proofs.Store.Rows

/-!
# Batches that were added

A batch is written with its files, as one row and a row for each file. Under a new id these rows are
the only ones of the batch, and what is read out of them is the batch as it was.
-/

namespace ShipReport.Store

open Submission (Artifact Batch)

/-! ## Stored values -/

/-- A natural number of 64 bits comes back as it was. -/
lemma ofSigned64_toSigned64 {n : Nat} (h : n < 2 ^ 64) : ofSigned64 (toSigned64 n) = n := by
  have rest : (toSigned64 n).emod 0x10000000000000000 = n := by
    unfold toSigned64
    rw [show ((n : Int).bmod 0x10000000000000000).emod 0x10000000000000000 =
      (n : Int).bmod 0x10000000000000000 % ((0x10000000000000000 : Nat) : Int) from rfl,
      Int.bmod_emod]
    omega
  unfold ofSigned64
  rw [rest, Int.toNat_natCast]

/-- A column of texts keeps a text that may be missing. -/
lemma keeps_ofText? {name : String} (s : Option String) :
    (textColumn name).Keeps (Database.ofText? s) := by
  cases s <;> rfl

namespace Database

/-- The columns of batches have different names. -/
lemma apart_batch : Apart Schema.batch.columnNames := by
  unfold Apart
  decide

/-- The columns of files have different names. -/
lemma apart_artifact : Apart Schema.artifact.columnNames := by
  unfold Apart
  decide

/-- The columns of a batch keep its values. -/
lemma keeps_batch (b : Batch) :
    List.Forall₂ Column.Keeps Schema.batch.columns (batchValues b) :=
  .cons rfl <| .cons rfl <| .cons rfl <| .cons rfl <| .cons (keeps_ofText? _) <|
    .cons (keeps_ofText? _) .nil

/-- The columns of a file keep its values. -/
lemma keeps_artifact (id : String) (a : Artifact) :
    List.Forall₂ Column.Keeps Schema.artifact.columns (artifactValues id a) :=
  .cons rfl <| .cons rfl <| .cons rfl <| .cons rfl <| .cons rfl .nil

/-- A file is read out of its row. -/
lemma artifactOf_row {id : String} {a : Artifact} (count : a.rowCount < 2 ^ 64) (n : Int) :
    artifactOf (artifactRecord ⟨n, artifactValues id a⟩) = .ok a := by
  obtain ⟨title, path, rowCount, mirrored⟩ := a
  have read : artifactOf (artifactRecord ⟨n, artifactValues id ⟨title, path, rowCount, mirrored⟩⟩) =
      .ok ⟨title, path, ofSigned64 (toSigned64 rowCount), mirrored⟩ := by
    cases mirrored <;> rfl
  rw [read, ofSigned64_toSigned64 count]

/-- Files are read out of their rows. -/
lemma mapM_artifactOf {id : String} {files : List Artifact} {rows : List Row}
    (counts : ∀ a ∈ files, a.rowCount < 2 ^ 64)
    (h : rows.map (·.values) = files.map (artifactValues id)) :
    (rows.map artifactRecord).mapM artifactOf = .ok files := by
  induction files generalizing rows with
  | nil =>
    obtain rfl := List.map_eq_nil_iff.mp h
    rfl
  | cons a files ih =>
    obtain ⟨count, counts⟩ := List.forall_mem_cons.mp counts
    obtain ⟨⟨n, values⟩, rest, rfl, rfl, others⟩ := List.map_eq_cons_iff.mp h
    rw [List.map_cons, List.mapM_cons, artifactOf_row count, ih counts others]
    rfl

/-- The stored form of a batch. -/
def storedBatch (b : Batch) : StoredBatch :=
  ⟨b.id, b.vesselId, b.status.word, b.createdAt.text, b.lastReportType.map (·.name), b.lastMessage⟩

/-- The stored form of a batch is read out of its row. -/
lemma ofRecord_row (b : Batch) (n : Int) :
    StoredBatch.ofRecord (batchRecord ⟨n, batchValues b⟩) = .ok (storedBatch b) := by
  obtain ⟨id, vesselId, status, artifacts, createdAt, type, message⟩ := b
  cases type <;> cases message <;> rfl

/-- A batch is what its stored values and files say. -/
lemma batch_stored {b : Batch} (plain : b.createdAt.Plain) :
    (storedBatch b).batch b.artifacts = .ok b := by
  obtain ⟨id, vesselId, status, artifacts, createdAt, type, message⟩ := b
  have typed : (type.map (·.name)).bind (fun t => (Report.ReportType.parse t).toOption) = type := by
    cases type with
    | none => rfl
    | some t => simp [Report.ReportType.parse_name, Except.toOption]
  unfold StoredBatch.batch storedBatch
  simp only [Report.BatchStatus.parse_word, Calendar.Instant.read_text plain, typed, mapError_ok,
    bind, Except.bind, pure, Except.pure]

/-! ## The rows of a batch -/

/-- The tables of batches and files have the form of the schema, their rows stand in order, and none
of them belongs to the id. -/
structure TakesBatch (db : Database) (id : String) : Prop where
  batches : ∃ t, db.table? "import_batch" = some t ∧ t.shape = Schema.batch ∧ t.Ordered ∧
    ∀ r ∈ t.rows, ¬ isBatch id r
  files : ∃ t, db.table? "batch_artifact" = some t ∧ t.shape = Schema.artifact ∧ t.Ordered ∧
    ∀ r ∈ t.rows, ¬ isArtifact id r

/-- The tables of batches and files hold the values of a batch, and no other row belongs to its
id. -/
structure HoldsBatch (db : Database) (b : Batch) : Prop where
  batch : ∃ t, db.table? "import_batch" = some t ∧ t.shape = Schema.batch ∧
    ∃ n, t.rows.filter (isBatch b.id) = [⟨n, batchValues b⟩]
  files : ∃ t, db.table? "batch_artifact" = some t ∧ t.shape = Schema.artifact ∧
    (t.rows.filter (isArtifact b.id)).map (·.values) = b.artifacts.map (artifactValues b.id)

section

variable {db after : Database} {b : Batch} {name : String} {t : Table}

/-- A batch is held as long as the tables of batches and files stay. -/
lemma HoldsBatch.congr (h : db.HoldsBatch b) (same : db.SameBatches after) :
    after.HoldsBatch b := by
  refine ⟨?_, ?_⟩
  · rw [same.batches]
    exact h.batch
  · rw [same.files]
    exact h.files

/-- A batch that the tables hold is found as it is. -/
lemma HoldsBatch.findBatch (h : db.HoldsBatch b) (plain : b.createdAt.Plain)
    (counts : ∀ a ∈ b.artifacts, a.rowCount < 2 ^ 64) : db.findBatch b.id = .ok (some b) := by
  obtain ⟨t, ht, hs, n, row⟩ := h.batch
  obtain ⟨u, hu, hu', files⟩ := h.files
  have found : t.rows.find? (isBatch b.id) = some ⟨n, batchValues b⟩ := by
    rw [← List.head?_filter, row]
    rfl
  have read : db.artifacts b.id = .ok b.artifacts := by
    rw [artifacts_eq hu hu']
    exact mapM_artifactOf counts files
  rw [findBatch_eq ht hs, found]
  unfold batchOfRow
  simp only [ofRecord_row, read, batch_stored plain, mapError_ok, bind, Except.bind, pure,
    Except.pure]

/-- A row with a value for each column comes last in its table. -/
lemma eq_of_insertInto (ht : db.table? name = some t) (ordered : t.Ordered)
    (key : t.shape.rowKey = none) (apart : Apart t.shape.columnNames) {values : List Datum}
    (keeps : List.Forall₂ Column.Keeps t.shape.columns values)
    (h : db.insertInto name t.shape.columnNames values = .ok after) :
    after = db.put name (t.extended [values]) := by
  unfold insertInto at h
  obtain ⟨u, hu, h⟩ := bind_eq_ok.mp h
  cases (writable_of_table ht).symm.trans hu
  obtain ⟨-, -, h⟩ := bind_eq_ok.mp h
  obtain ⟨r, v, hinsert, rfl⟩ := eq_of_insertRow h
  rw [ordered.eq_of_insert key apart keeps hinsert]

/-- Files are added after the last one, in their order. -/
lemma eq_of_insertArtifacts {id : String} {files : List Artifact}
    (ht : db.table? "batch_artifact" = some t) (hs : t.shape = Schema.artifact)
    (ordered : t.Ordered) (h : files.foldlM (insertArtifact id) db = .ok after) :
    after.table? "batch_artifact" = some (t.extended (files.map (artifactValues id))) ∧
      db.ChangesOnly ["batch_artifact"] after := by
  induction files generalizing db t with
  | nil =>
    cases h
    rw [List.map_nil, Table.extended_nil]
    exact ⟨ht, .refl _ _⟩
  | cons a files ih =>
    rw [List.foldlM_cons] at h
    obtain ⟨next, first, h⟩ := bind_eq_ok.mp h
    have grown : next = db.put "batch_artifact" (t.extended [artifactValues id a]) := by
      obtain ⟨shape, rows⟩ := t
      obtain rfl : shape = Schema.artifact := hs
      exact eq_of_insertInto ht ordered rfl apart_artifact (keeps_artifact id a) first
    have named : sameName (t.extended [artifactValues id a]).shape.name "batch_artifact" := by
      rw [Table.extended_shape, hs]
      decide
    have found : next.table? "batch_artifact" = some (t.extended [artifactValues id a]) := by
      rw [grown]
      exact table?_put_self ht named
    obtain ⟨last, only⟩ := ih found hs (ordered.extend _) h
    rw [List.map_cons, Table.extended_cons]
    refine ⟨last, .trans ?_ only⟩
    rw [grown]
    exact put_changesOnly named

/-- A batch and its files that were added come last in their tables. -/
lemma eq_of_insertBatch {u : Table} (ht : db.table? "import_batch" = some t)
    (hs : t.shape = Schema.batch) (ordered : t.Ordered) (hu : db.table? "batch_artifact" = some u)
    (hs' : u.shape = Schema.artifact) (ordered' : u.Ordered) (h : db.insertBatch b = .ok after) :
    after.table? "import_batch" = some (t.extended [batchValues b]) ∧
      after.table? "batch_artifact" = some (u.extended (b.artifacts.map (artifactValues b.id))) := by
  obtain ⟨added, first, rest⟩ := bind_eq_ok.mp (mapError_eq_ok.mp h)
  have grown : added = db.put "import_batch" (t.extended [batchValues b]) := by
    obtain ⟨shape, rows⟩ := t
    obtain rfl : shape = Schema.batch := hs
    exact eq_of_insertInto ht ordered rfl apart_batch (keeps_batch b) first
  have named : sameName (t.extended [batchValues b]).shape.name "import_batch" := by
    rw [Table.extended_shape, hs]
    decide
  have files : added.table? "batch_artifact" = some u := by
    rw [grown, table?_put_other named (by decide), hu]
  obtain ⟨last, only⟩ := eq_of_insertArtifacts files hs' ordered' rest
  refine ⟨?_, last⟩
  rw [only.tables "import_batch" (by decide), grown]
  exact table?_put_self ht named

/-- The row of a batch belongs to its id only. -/
lemma isBatch_row {id : String} {n : Int} : isBatch id ⟨n, batchValues b⟩ ↔ b.id = id := by
  simp [isBatch, batchValues, valueAt, Datum.equals_text]

/-- The rows of files belong to the id of their batch only. -/
lemma isArtifact_row {id own : String} {files : List Artifact} {n : Int} {r : Row}
    (hr : r ∈ numbered n (files.map (artifactValues own))) : isArtifact id r ↔ own = id := by
  have values := List.mem_map_of_mem (f := Row.values) hr
  rw [numbered_values] at values
  obtain ⟨a, -, ha⟩ := List.mem_map.mp values
  simp [isArtifact, ← ha, artifactValues, valueAt, Datum.equals_text]

/-- The rows of the files of a batch all belong to its id. -/
lemma filter_ownFiles {id : String} {files : List Artifact} {n : Int} :
    (numbered n (files.map (artifactValues id))).filter (isArtifact id) =
      numbered n (files.map (artifactValues id)) :=
  List.filter_eq_self.mpr fun _ hr => (isArtifact_row hr).mpr rfl

/-- None of the rows of the files of a batch belongs to another id. -/
lemma filter_otherFiles {id own : String} {files : List Artifact} {n : Int} (other : own ≠ id) :
    (numbered n (files.map (artifactValues own))).filter (isArtifact id) = [] :=
  List.filter_eq_nil_iff.mpr fun _ hr hit => other ((isArtifact_row hr).mp hit)

/-- A batch that was added under a new id is held with its files. -/
lemma TakesBatch.insertBatch (takes : db.TakesBatch b.id) (h : db.insertBatch b = .ok after) :
    after.HoldsBatch b := by
  obtain ⟨t, ht, hs, ordered, others⟩ := takes.batches
  obtain ⟨u, hu, hs', ordered', others'⟩ := takes.files
  obtain ⟨batches, files⟩ := eq_of_insertBatch ht hs ordered hu hs' ordered' h
  refine ⟨⟨_, batches, hs, t.nextNumber, ?_⟩, _, files, hs', ?_⟩
  · rw [Table.extended, List.filter_append, List.filter_eq_nil_iff.mpr others]
    simp [numbered, isBatch_row]
  · rw [Table.extended, List.filter_append, List.filter_eq_nil_iff.mpr others', List.nil_append,
      filter_ownFiles, numbered_values]

end

end Database

end ShipReport.Store
