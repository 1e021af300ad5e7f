import ShipReport.Proofs.Outcome
import ShipReport.Store.Batches

/-!
# Batches by their ids

A batch is looked up by its id, and its status is noted under its id. While the table of batches has
the form that the schema gives it and all batches can be read, the two fit together: a batch shows
what was noted last, and nothing else changes, neither another batch nor any file.
-/

namespace ShipReport

namespace Report

/-- The word of a status is read as the status. -/
lemma BatchStatus.parse_word (s : BatchStatus) : BatchStatus.parse s.word = .ok s := by
  cases s <;> rfl

/-- The name of a type is read as the type. -/
lemma ReportType.parse_name (t : ReportType) : ReportType.parse t.name = .ok t := by
  cases t <;> rfl

end Report

namespace Store

open Report (BatchStatus ReportType)
open Submission (Batch)

/-- Only an equal text equals a text. -/
lemma Datum.equals_text {d : Datum} {s : String} : d.equals (.text s) = true ↔ d = .text s := by
  cases d with
  | text a => simp [equals, order]
  | _ => simp [equals, order, rank]

/-- A text equals only itself. -/
lemma Datum.text_equals {s : String} {d : Datum} :
    (Datum.text s).equals d = true ↔ d = .text s := by
  cases d with
  | text a => rw [equals_text, eq_comm]
  | _ => simp [equals, order, rank]

/-- Names are the same if they are equal in lower case. -/
lemma sameName_iff {a b : String} :
    sameName a b = true ↔ Text.asciiLowercase a = Text.asciiLowercase b := by
  simp [sameName, Text.eqIgnoringAsciiCase]

/-- Sorting by no column changes nothing. -/
lemma sortedAt_nil (rows : List (List Datum)) : sortedAt [] rows = rows :=
  List.mergeSort_of_pairwise (List.pairwise_of_forall fun _ _ => rfl)

namespace Database

section

variable {db : Database} {name other : String} {t u : Table}

/-- A table can be written to. -/
lemma writable_of_table (ht : db.table? name = some t) : db.writable name = .ok t := by
  unfold writable
  rw [ht]

/-- A table that was replaced is found under its name. -/
lemma table?_put_self (ht : db.table? name = some t) (hu : sameName u.shape.name name) :
    (db.put name u).table? name = some u := by
  unfold table? put at *
  rw [List.find?_map]
  have same : ((fun v : Table => sameName v.shape.name name) ∘
      fun v => if sameName v.shape.name name then u else v) =
        fun v => sameName v.shape.name name := by
    funext v
    by_cases hv : sameName v.shape.name name <;> simp [hv, hu]
  have found := List.find?_some ht
  rw [same, ht, Option.map_some, if_pos found]

/-- Replacing a table leaves the tables of other names. -/
lemma table?_put_other (hu : sameName u.shape.name name) (h : ¬ sameName name other) :
    (db.put name u).table? other = db.table? other := by
  -- a table has at most one of the two names
  have apart : ∀ v : Table, sameName v.shape.name name → ¬ sameName v.shape.name other :=
    fun v hv ho => h (sameName_iff.mpr ((sameName_iff.mp hv).symm.trans (sameName_iff.mp ho)))
  unfold table? put
  rw [List.find?_map]
  have same : ((fun v : Table => sameName v.shape.name other) ∘
      fun v => if sameName v.shape.name name then u else v) =
        fun v => sameName v.shape.name other := by
    funext v
    by_cases hv : sameName v.shape.name name
    · simp [hv, apart v hv, apart u hu]
    · simp [hv]
  rw [same]
  cases hv : db.tables.find? fun v => sameName v.shape.name other with
  | none => rfl
  | some v =>
    have found := List.find?_some hv
    rw [Option.map_some, if_neg fun hn => apart v hn found]

end

/-! ## Looking a batch up -/

/-- The row is that of a batch. -/
def isBatch (id : String) (r : Row) : Bool :=
  (valueAt r.values 0).equals (.text id)

/-- A row of the table of batches as the answer to a query. -/
def batchRecord (r : Row) : Record :=
  ⟨batchColumns, [0, 1, 2, 3, 4, 5].map (valueAt r.values)⟩

/-- The batch that a row holds. -/
def batchOfRow (db : Database) (id : String) (r : Row) : Except StoreError (Option Batch) := do
  let stored ← (StoredBatch.ofRecord (batchRecord r)).mapError StoreError.ofFailure
  let artifacts ← (db.artifacts id).mapError StoreError.ofFailure
  return some (← stored.batch artifacts)

section

variable {db : Database} {t : Table}

/-- A query finds the rows with the given values, in the order of some columns. -/
lemma run_eq {q : Query} {s : Source} {columns given sorting : List Nat}
    (source : Source.named db q.table = .ok s)
    (hcolumns : q.positions s q.columns = .ok columns) (hgiven : q.positions s q.given = .ok given)
    (hsorting : q.positions s q.sorting = .ok sorting) (values : List Datum) :
    q.run db values =
      .ok ((if q.descending then
          sortedDownAt sorting
            (s.rows.filter fun row => (given.zip values).all fun p => s.hasValue row p.1 p.2)
        else
          sortedAt sorting
            (s.rows.filter fun row => (given.zip values).all fun p => s.hasValue row p.1 p.2)).map
        fun row => ⟨columns.map s.nameAt, columns.map (valueAt row)⟩) := by
  unfold Query.run
  simp only [source, hcolumns, hgiven, hsorting, bind, Except.bind, pure, Except.pure]

/-- A query of a table that is there finds the table. -/
lemma named_of_table {name : String} (ht : db.table? name = some t) :
    Source.named db name = .ok (.ofTable t) := by
  unfold Source.named
  rw [ht]

/-- A query of a table that sorts by nothing finds the rows that a test selects. -/
lemma run_of_table {q : Query} {columns given : List Nat} {values : List Datum} {test : Row → Bool}
    (ht : db.table? q.table = some t)
    (hcolumns : q.positions (.ofTable t) q.columns = .ok columns)
    (hgiven : q.positions (.ofTable t) q.given = .ok given)
    (hsorting : q.positions (.ofTable t) q.sorting = .ok []) (upwards : q.descending = false)
    (selected : ∀ r : Row, ((given.zip values).all fun p =>
      (Source.ofTable t).hasValue r.values p.1 p.2) = test r) :
    q.run db values = .ok ((t.rows.filter test).map fun r =>
      ⟨columns.map (Source.ofTable t).nameAt, columns.map (valueAt r.values)⟩) := by
  have rows : (Source.ofTable t).rows = t.rows.map (·.values) := rfl
  have same : (fun row => (given.zip values).all fun p =>
      (Source.ofTable t).hasValue row p.1 p.2) ∘ Row.values = test := funext selected
  rw [run_eq (named_of_table ht) hcolumns hgiven hsorting, upwards, if_neg Bool.false_ne_true,
    sortedAt_nil, rows, List.filter_map, same, List.map_map]
  rfl

/-- A query for a batch finds the rows with its id. -/
lemma batchQuery_run (ht : db.table? "import_batch" = some t) (hs : t.shape = Schema.batch)
    (id : String) :
    batchQuery.run db [.text id] = .ok ((t.rows.filter (isBatch id)).map batchRecord) := by
  obtain ⟨shape, rows⟩ := t
  obtain rfl : shape = Schema.batch := hs
  have columns : batchQuery.positions (.ofTable ⟨Schema.batch, rows⟩) batchQuery.columns =
      .ok [0, 1, 2, 3, 4, 5] := rfl
  have given : batchQuery.positions (.ofTable ⟨Schema.batch, rows⟩) batchQuery.given =
      .ok [0] := rfl
  have selected : ∀ r : Row, ([0].zip [Datum.text id]).all (fun p =>
      (Source.ofTable ⟨Schema.batch, rows⟩).hasValue r.values p.1 p.2) = isBatch id r :=
    fun _ => Bool.and_true _
  exact run_of_table (q := batchQuery) ht columns given rfl rfl selected

/-- The row is that of a file of a batch. -/
def isArtifact (id : String) (r : Row) : Bool :=
  (valueAt r.values 0).equals (.text id)

/-- A row of the table of files as the answer to a query. -/
def artifactRecord (r : Row) : Record :=
  ⟨artifactColumns, [1, 2, 3, 4].map (valueAt r.values)⟩

/-- The files of a batch are those in the rows with its id. -/
lemma artifacts_eq (ht : db.table? "batch_artifact" = some t) (hs : t.shape = Schema.artifact)
    (id : String) :
    db.artifacts id =
      ((t.rows.filter (isArtifact id)).map artifactRecord).mapM artifactOf := by
  obtain ⟨shape, rows⟩ := t
  obtain rfl : shape = Schema.artifact := hs
  have columns : artifactQuery.positions (.ofTable ⟨Schema.artifact, rows⟩)
      artifactQuery.columns = .ok [1, 2, 3, 4] := rfl
  have given : artifactQuery.positions (.ofTable ⟨Schema.artifact, rows⟩) artifactQuery.given =
      .ok [0] := rfl
  have selected : ∀ r : Row, ([0].zip [Datum.text id]).all (fun p =>
      (Source.ofTable ⟨Schema.artifact, rows⟩).hasValue r.values p.1 p.2) = isArtifact id r :=
    fun _ => Bool.and_true _
  unfold artifacts
  rw [run_of_table (q := artifactQuery) ht columns given rfl rfl selected]
  rfl

/-- A batch is looked up in the first row with its id. -/
lemma findBatch_eq (ht : db.table? "import_batch" = some t) (hs : t.shape = Schema.batch)
    (id : String) :
    db.findBatch id =
      match t.rows.find? (isBatch id) with
      | none => .ok none
      | some r => db.batchOfRow id r := by
  unfold findBatch
  rw [batchQuery_run ht hs, ← List.head?_filter]
  cases t.rows.filter (isBatch id) with
  | nil => rfl
  | cons r rows => rfl

/-- A batch that is found is read out of a row with its id. -/
lemma row_of_findBatch {id : String} {b : Batch} (ht : db.table? "import_batch" = some t)
    (hs : t.shape = Schema.batch) (hb : db.findBatch id = .ok (some b)) :
    ∃ r, t.rows.find? (isBatch id) = some r ∧ db.batchOfRow id r = .ok (some b) := by
  rw [findBatch_eq ht hs] at hb
  cases hr : t.rows.find? (isBatch id) with
  | none => simp [hr] at hb
  | some r => exact ⟨r, rfl, by simpa only [hr] using hb⟩

/-! ## Noting the status of a batch -/

/-- The row of a batch with another status, report type and message. -/
def noteRow (status : BatchStatus) (type : ReportType) (message : Option String) (r : Row) : Row :=
  let values := (r.values.set 2 (.text status.word)).set 4 (.text type.name)
  { r with values := values.set 5 (ofText? message) }

/-- The table of batches with the status of a batch noted. -/
def noteTable (id : String) (status : BatchStatus) (type : ReportType) (message : Option String)
    (t : Table) : Table :=
  { t with rows := t.rows.map fun r =>
      if isBatch id r then noteRow status type message r else r }

variable {id : String} {status : BatchStatus} {type : ReportType} {message : Option String}

/-- Noting a status changes the rows of the batch, of which there has to be one. -/
lemma updateStatus_eq (ht : db.table? "import_batch" = some t) (hs : t.shape = Schema.batch) :
    db.updateStatus id status type message =
      if t.rows.any (isBatch id) then
        .ok (db.put "import_batch" (noteTable id status type message t))
      else .error (.notFound "import_batch" id) := by
  have selected : (fun r => (t.value r "batch_id").equals (.text id)) = isBatch id := by
    funext r
    unfold Table.value
    rw [hs]
    rfl
  have noted : ∀ r, [("status", Datum.text status.word), ("last_report_type", .text type.name),
      ("last_message", ofText? message)].foldl (fun r p => t.assign r p.1 p.2) r =
        noteRow status type message r := by
    intro r
    unfold noteRow
    simp only [List.foldl_cons, List.foldl_nil, Table.assign, hs]
    cases message <;> rfl
  have writable : db.writable "import_batch" = .ok t := writable_of_table ht
  have update : t.update (isBatch id) [("status", Datum.text status.word),
      ("last_report_type", .text type.name), ("last_message", ofText? message)] =
        noteTable id status type message t := by
    unfold Table.update noteTable
    simp only [noted]
  have known : [("status", Datum.text status.word), ("last_report_type", .text type.name),
      ("last_message", ofText? message)].find?
        (fun c => (Schema.batch.position? c.1).isNone) = none := by
    have columns : ∀ c ∈ ["status", "last_report_type", "last_message"],
        (Schema.batch.position? c).isNone = false := by decide
    simp only [List.forall_mem_cons] at columns
    simp [columns]
  have keyed : (Schema.batch.position? "batch_id").isNone = false := rfl
  unfold updateStatus
  rw [writable]
  simp only [bind, Except.bind, mapError_ok, selected, update, hs, known, keyed]
  rfl

/-- The stored values of a batch are taken out of its record column by column. -/
lemma ofRecord_eq_ok {r : Record} {b : StoredBatch} :
    StoredBatch.ofRecord r = .ok b ↔
      r.text 0 = .ok b.id ∧ r.integer 1 = .ok b.vesselId ∧ r.text 2 = .ok b.status ∧
        r.text 3 = .ok b.createdAt ∧ r.text? 4 = .ok b.lastReportType ∧
          r.text? 5 = .ok b.lastMessage := by
  unfold StoredBatch.ofRecord
  simp only [bind_eq_ok, pure, Except.pure, Except.ok.injEq]
  constructor
  · rintro ⟨_, h0, _, h1, _, h2, _, h3, _, h4, _, h5, rfl⟩
    exact ⟨h0, h1, h2, h3, h4, h5⟩
  · rintro ⟨h0, h1, h2, h3, h4, h5⟩
    exact ⟨_, h0, _, h1, _, h2, _, h3, _, h4, _, h5, rfl⟩

/-- Noting a status leaves the id of a row. -/
lemma isBatch_noteRow {other : String} {r : Row} :
    isBatch other (noteRow status type message r) = isBatch other r := by
  simp [isBatch, noteRow, valueAt]

/-- A row belongs to one batch. -/
lemma isBatch_unique {other : String} {r : Row} (h : isBatch id r) (h' : isBatch other r) :
    other = id := by
  unfold isBatch at h h'
  rw [Datum.equals_text] at h h'
  exact (Datum.text.inj (h.symm.trans h')).symm

/-- Each row of the table is found as before, with the status noted if it is one of the batch. -/
lemma find?_noteTable (other : String) :
    (noteTable id status type message t).rows.find? (isBatch other) =
      (t.rows.find? (isBatch other)).map fun r =>
        if isBatch id r then noteRow status type message r else r := by
  unfold noteTable
  rw [List.find?_map]
  congr 2
  funext r
  dsimp only [Function.comp_apply]
  split
  · exact isBatch_noteRow
  · rfl

/-- The record of a row with a noted status. -/
lemma batchRecord_noteRow {r : Row} (hr : r.values.length = 6) :
    batchRecord (noteRow status type message r) =
      ⟨batchColumns, [valueAt r.values 0, valueAt r.values 1, .text status.word, valueAt r.values 3,
        .text type.name, ofText? message]⟩ := by
  obtain ⟨number, values⟩ := r
  match values, hr with
  | [_, _, _, _, _, _], _ => rfl

/-- A row with a noted status holds the batch with that status. -/
lemma batchOfRow_noteRow (status : BatchStatus) (type : ReportType) (message : Option String)
    {r : Row} (hr : r.values.length = 6) {b : Batch} (h : db.batchOfRow id r = .ok (some b)) :
    db.batchOfRow id (noteRow status type message r) =
      .ok (some { b with
        status := status, lastReportType := some type, lastMessage := message }) := by
  unfold batchOfRow at h ⊢
  simp only [bind_eq_ok, mapError_eq_ok, pure, Except.pure, Except.ok.injEq,
    Option.some.injEq] at h ⊢
  obtain ⟨stored, hstored, files, hfiles, _, hb, rfl⟩ := h
  refine ⟨{ stored with
    status := status.word, lastReportType := some type.name, lastMessage := message }, ?_, files,
    hfiles, _, ?_, rfl⟩
  · rw [ofRecord_eq_ok] at hstored ⊢
    obtain ⟨h0, h1, -, h3, -, -⟩ := hstored
    rw [batchRecord_noteRow hr]
    exact ⟨h0, h1, rfl, h3, rfl, by cases message <;> rfl⟩
  · unfold StoredBatch.batch at hb ⊢
    simp only [bind_eq_ok, mapError_eq_ok, pure, Except.pure, Except.ok.injEq] at hb ⊢
    obtain ⟨_, -, createdAt, hcreated, rfl⟩ := hb
    refine ⟨status, BatchStatus.parse_word status, createdAt, hcreated, ?_⟩
    simp [ReportType.parse_name, Except.toOption]

end

/-! ## Readable batches -/

/-- The table of batches is as the schema has it, there is one for the files, and all batches can be
read. -/
structure HasBatches (db : Database) : Prop where
  table : ∃ t, db.table? "import_batch" = some t ∧ t.shape = Schema.batch ∧
    ∀ r ∈ t.rows, r.values.length = 6
  files : ∃ t, db.table? "batch_artifact" = some t
  readable : ∀ id, ∃ b, db.findBatch id = .ok b

/-- Two databases have the same batches and files. -/
structure SameBatches (db db' : Database) : Prop where
  batches : db'.table? "import_batch" = db.table? "import_batch"
  files : db'.table? "batch_artifact" = db.table? "batch_artifact"

variable {db db' : Database} {id : String} {status : BatchStatus} {type : ReportType}
  {message : Option String}

/-- The files of a batch are read from their table. -/
lemma artifacts_congr {t : Table} (ht : db.table? "batch_artifact" = some t)
    (h : db'.table? "batch_artifact" = db.table? "batch_artifact") :
    db'.artifacts id = db.artifacts id := by
  have source : Source.named db' artifactQuery.table = Source.named db artifactQuery.table := by
    unfold Source.named
    rw [show artifactQuery.table = "batch_artifact" from rfl, h, ht]
  unfold artifacts Query.run
  rw [source]

namespace HasBatches

/-- With the same tables the same batches are found. -/
lemma findBatch_congr (hdb : db.HasBatches) (h : db.SameBatches db') (id : String) :
    db'.findBatch id = db.findBatch id := by
  obtain ⟨t, ht, hs, -⟩ := hdb.table
  obtain ⟨u, hu⟩ := hdb.files
  rw [findBatch_eq ht hs, findBatch_eq (h.batches.trans ht) hs]
  unfold batchOfRow
  rw [artifacts_congr hu h.files]

/-- All batches can be read as long as the tables of batches and files stay. -/
lemma congr (hdb : db.HasBatches) (h : db.SameBatches db') : db'.HasBatches := by
  refine ⟨?_, ?_, fun id => ?_⟩
  · rw [h.batches]
    exact hdb.table
  · rw [h.files]
    exact hdb.files
  · rw [hdb.findBatch_congr h]
    exact hdb.readable id

end HasBatches

section

variable {t u : Table} (ht : db.table? "import_batch" = some t) (hs : t.shape = Schema.batch)

/-- Noting an outcome leaves the name of the table. -/
lemma noteTable_name (hs : t.shape = Schema.batch) :
    sameName (noteTable id status type message t).shape.name "import_batch" := by
  rw [show (noteTable id status type message t).shape = t.shape from rfl, hs]
  decide

/-- Noting a status leaves the table of files. -/
lemma files_noted (hs : t.shape = Schema.batch) :
    (db.put "import_batch" (noteTable id status type message t)).table? "batch_artifact" =
      db.table? "batch_artifact" :=
  table?_put_other (noteTable_name hs) (by decide)

/-- Noting a status keeps the rows as wide as they are. -/
lemma noteTable_width (width : ∀ r ∈ t.rows, r.values.length = 6) :
    ∀ r ∈ (noteTable id status type message t).rows, r.values.length = 6 := by
  intro r hr
  obtain ⟨r', hmem, rfl⟩ := List.mem_map.mp hr
  split
  · simpa [noteRow] using width r' hmem
  · exact width r' hmem

include ht hs

/-- A batch whose status is noted is found with it. -/
lemma findBatch_noted (status : BatchStatus) (type : ReportType) (message : Option String)
    (hu : db.table? "batch_artifact" = some u) (width : ∀ r ∈ t.rows, r.values.length = 6) {r : Row}
    (hr : t.rows.find? (isBatch id) = some r) {b : Batch}
    (hb : db.batchOfRow id r = .ok (some b)) :
    (db.put "import_batch" (noteTable id status type message t)).findBatch id =
      .ok (some { b with
        status := status, lastReportType := some type, lastMessage := message }) := by
  rw [findBatch_eq (table?_put_self ht (noteTable_name hs)) hs, find?_noteTable, hr,
    Option.map_some, if_pos (List.find?_some hr)]
  have noted := batchOfRow_noteRow status type message (width r (List.mem_of_find?_eq_some hr)) hb
  unfold batchOfRow at noted ⊢
  rwa [artifacts_congr hu (files_noted hs)]

/-- The other batches are found as before. -/
lemma findBatch_noted_other (status : BatchStatus) (type : ReportType)
    (message : Option String) (hu : db.table? "batch_artifact" = some u) {other : String}
    (hne : other ≠ id) :
    (db.put "import_batch" (noteTable id status type message t)).findBatch other =
      db.findBatch other := by
  rw [findBatch_eq (table?_put_self ht (noteTable_name hs)) hs, findBatch_eq ht hs,
    find?_noteTable]
  cases ho : t.rows.find? (isBatch other) with
  | none => rfl
  | some r =>
    rw [Option.map_some, if_neg fun h => hne (isBatch_unique h (List.find?_some ho))]
    unfold batchOfRow
    rw [artifacts_congr hu (files_noted hs)]

end

/-- The status of a batch that is there can be noted. The batch then has it, and nothing else has
changed. -/
theorem HasBatches.updateStatus (hdb : db.HasBatches) (id : String) (status : BatchStatus)
    (type : ReportType) (message : Option String) {b : Batch}
    (hb : db.findBatch id = .ok (some b)) :
    ∃ db', db.updateStatus id status type message = .ok db' ∧ db'.HasBatches ∧
      db'.findBatch id = .ok (some { b with
        status := status, lastReportType := some type, lastMessage := message }) ∧
      (∀ other, other ≠ id → db'.findBatch other = db.findBatch other) ∧
      db'.table? "batch_artifact" = db.table? "batch_artifact" := by
  obtain ⟨t, ht, hs, width⟩ := hdb.table
  obtain ⟨u, hu⟩ := hdb.files
  obtain ⟨r, hr, hrow⟩ := row_of_findBatch ht hs hb
  have here := findBatch_noted ht hs status type message hu width hr hrow
  have elsewhere := fun other (hne : other ≠ id) =>
    findBatch_noted_other ht hs status type message hu hne
  refine ⟨_, ?_, ⟨⟨_, table?_put_self ht (noteTable_name hs), hs, noteTable_width width⟩,
    ⟨u, (files_noted hs).trans hu⟩, fun x => ?_⟩, here, elsewhere, files_noted hs⟩
  · rw [updateStatus_eq ht hs, if_pos]
    exact List.any_eq_true.mpr ⟨r, List.mem_of_find?_eq_some hr, List.find?_some hr⟩
  · by_cases hx : x = id
    · rw [hx]
      exact ⟨_, here⟩
    · rw [elsewhere x hx]
      exact hdb.readable x

end Database

end Store

end ShipReport
