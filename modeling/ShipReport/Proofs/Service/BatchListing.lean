import ShipReport.Proofs.Calendar.TextOrder
import ShipReport.Proofs.Service.BatchStore

/-!
# Batches listed

The batches of a vessel are listed by the texts of the points in time at which they were made, the
newest first. Each batch that was added and not refused is in the list of its vessel once, with what
was noted for it last and with its files as they were added; and since these texts are in the order
of time, no batch in the list was made after one before it.
-/

namespace ShipReport.Service

open Calendar (Instant)
open Report (BatchStatus ReportType)
open Store (Database Datum Record Row Source Table valueAt)
open Store.Database (StoredBatch artifactValues batchRecord batchValues batchesQuery isArtifact
  isBatch noteRow noteTable storedBatch)
open Submission (Batch)

/-! ## What there is -/

/-- The batches that there are after a request: one is added if its id is not used and its files are
for different sheets. -/
def BatchRequest.stored (bs : List Batch) : BatchRequest → List Batch
  | insert b =>
    if (∀ c ∈ bs, c.id ≠ b.id) ∧ (b.artifacts.map (·.title)).Nodup then bs ++ [b] else bs
  | update id status type message => bs.map fun b => (update id status type message).noted b

/-- The batches that there are after requests one after the other. -/
def storedAfter (bs : List Batch) (requests : List BatchRequest) : List Batch :=
  requests.foldl BatchRequest.stored bs

/-- The rows of the tables are those of batches with different ids in their order, and of the files
of each in their order. -/
structure BatchRows (db : Database) (t u : Table) (bs : List Batch) : Prop
    extends db.BatchTables t u where
  rows : t.rows.map (·.values) = bs.map batchValues
  fileRows : ∀ b ∈ bs,
    (u.rows.filter (isArtifact b.id)).map (·.values) = b.artifacts.map (artifactValues b.id)
  ids : (bs.map (·.id)).Nodup

/-- The database keeps these batches, in the order in which they were added. -/
def Stores (db : Database) (bs : List Batch) : Prop :=
  ∃ t u, BatchRows db t u bs

/-- A new database stores no batch. -/
lemma stores_new : Stores Database.new [] := by
  have batches : Database.new.table? "import_batch" = some ⟨Store.Schema.batch, []⟩ := by
    decide +kernel
  have files : Database.new.table? "batch_artifact" = some ⟨Store.Schema.artifact, []⟩ := by
    decide +kernel
  exact ⟨_, _, ⟨batches, rfl, .nil, List.forall_mem_nil _, files, rfl, .nil,
    fun _ => List.forall_mem_nil _⟩, rfl, List.forall_mem_nil _, .nil⟩

section

variable {db after : Database} {t u : Table} {bs : List Batch} {b : Batch} {id : String}

/-- Row by row the values are those of the batches. -/
lemma BatchRows.rowByRow (holds : BatchRows db t u bs) :
    List.Forall₂ (fun r b => batchValues b = r.values) t.rows bs := by
  have same := holds.rows
  rw [← List.forall₂_eq_eq_eq, List.forall₂_map_left_iff, List.forall₂_map_right_iff] at same
  exact same.imp fun _ _ => Eq.symm

/-- A row of batches has the values of a batch. -/
lemma BatchRows.exists_batch (holds : BatchRows db t u bs) {r : Row} (hr : r ∈ t.rows) :
    ∃ b ∈ bs, batchValues b = r.values := by
  have values := List.mem_map_of_mem (f := Row.values) hr
  rw [holds.rows] at values
  exact List.mem_map.mp values

/-- The row of a batch belongs to its id only. -/
lemma isBatch_of_values {r : Row} (h : batchValues b = r.values) : isBatch id r ↔ b.id = id := by
  rw [isBatch, ← h]
  exact Database.isBatch_row (n := 0)

/-- A batch is not found exactly if none of those that there are has its id. -/
lemma BatchRows.findBatch_eq_none (holds : BatchRows db t u bs) :
    db.findBatch id = .ok none ↔ ∀ b ∈ bs, b.id ≠ id := by
  rw [holds.toBatchTables.findBatch_eq_none]
  constructor
  · intro none b hb same
    have values := List.mem_map_of_mem (f := batchValues) hb
    rw [← holds.rows] at values
    obtain ⟨r, hr, h⟩ := List.mem_map.mp values
    exact none r hr ((isBatch_of_values h.symm).mpr same)
  · intro none r hr own
    obtain ⟨b, hb, h⟩ := holds.exists_batch hr
    exact none b hb ((isBatch_of_values h).mp own)

/-- A batch that is added comes last. -/
lemma BatchRows.insert (holds : BatchRows db t u bs) (fresh : ∀ c ∈ bs, c.id ≠ b.id)
    (h : db.insertBatch b = .ok after) :
    BatchRows after (t.extended [batchValues b])
      (u.extended (b.artifacts.map (artifactValues b.id))) (bs ++ [b]) := by
  have none : ∀ r ∈ u.rows, ¬ isArtifact b.id r := fun r hr own => by
    obtain ⟨s, hs, hid⟩ := holds.owned b.id r hr own
    exact holds.toBatchTables.findBatch_eq_none.mp (holds.findBatch_eq_none.mpr fresh) s hs hid
  refine ⟨holds.toBatchTables.insertBatch h, ?_, fun c hc => ?_, ?_⟩
  · rw [Table.extended, List.map_append, holds.rows, Store.numbered_values, List.map_append]
    rfl
  · rw [Table.extended, List.filter_append, List.map_append]
    rcases List.mem_append.mp hc with hc | hc
    · rw [Database.filter_otherFiles (fresh c hc).symm, holds.fileRows c hc, List.map_nil,
        List.append_nil]
    · obtain rfl := List.mem_singleton.mp hc
      rw [List.filter_eq_nil_iff.mpr none, Database.filter_ownFiles, Store.numbered_values,
        List.map_nil, List.nil_append]
  · rw [List.map_append, List.map_singleton]
    refine List.nodup_append.mpr ⟨holds.ids, List.nodup_singleton _, fun i hi j hj => ?_⟩
    obtain ⟨c, hc, rfl⟩ := List.mem_map.mp hi
    obtain rfl := List.mem_singleton.mp hj
    exact fresh c hc

/-- The row of a batch has the values of what is noted for it. -/
lemma noted_values {r : Row} {status : BatchStatus} {type : ReportType} {message : Option String}
    (h : batchValues b = r.values) :
    (if isBatch id r then noteRow status type message r else r).values =
      batchValues ((BatchRequest.update id status type message).noted b) := by
  rw [BatchRequest.noted]
  by_cases own : b.id = id
  · rw [if_pos ((isBatch_of_values h).mpr own), if_pos own.symm, noteRow, ← h]
    rfl
  · rw [if_neg (mt (isBatch_of_values h).mp own), if_neg (Ne.symm own), h]

/-- What is noted for a batch leaves its files. -/
lemma noted_artifacts (b : Batch) (r : BatchRequest) : (r.noted b).artifacts = b.artifacts := by
  cases r with
  | insert => rfl
  | update id =>
    rw [BatchRequest.noted]
    split <;> rfl

/-- A status is noted in the rows of its batch. -/
lemma BatchRows.update (holds : BatchRows db t u bs) (id : String) (status : BatchStatus)
    (type : ReportType) (message : Option String) :
    BatchRows (db.put "import_batch" (noteTable id status type message t))
      (noteTable id status type message t) u
      (bs.map (BatchRequest.update id status type message).noted) := by
  refine ⟨holds.toBatchTables.updateStatus, ?_, fun c hc => ?_, ?_⟩
  · rw [noteTable, List.map_map, List.map_map, ← List.forall₂_eq_eq_eq,
      List.forall₂_map_left_iff, List.forall₂_map_right_iff]
    exact holds.rowByRow.imp fun _ _ => noted_values
  · obtain ⟨b, hb, rfl⟩ := List.mem_map.mp hc
    rw [noted_id, noted_artifacts]
    exact holds.fileRows b hb
  · have same : (·.id) ∘ (BatchRequest.update id status type message).noted = (·.id) :=
      funext fun b => noted_id b _
    rw [List.map_map, same]
    exact holds.ids

/-- A request leaves the rows of the batches that there are then. -/
lemma BatchRows.run_stored (holds : BatchRows db t u bs) (r : BatchRequest) :
    Stores (r.run.runOn db).2 (r.stored bs) := by
  have outcome := batch_outcome holds.toBatchTables r
  generalize (r.run.runOn db).1 = answer, (r.run.runOn db).2 = after at outcome
  cases outcome with
  | @inserted b after fresh titles h =>
    have fresh := holds.findBatch_eq_none.mp fresh
    rw [BatchRequest.stored, if_pos ⟨fresh, titles⟩]
    exact ⟨_, _, holds.insert fresh h⟩
  | @refused b e taken =>
    rw [BatchRequest.stored, if_neg]
    · exact ⟨t, u, holds⟩
    · rintro ⟨fresh, titles⟩
      exact taken.elim (· (holds.findBatch_eq_none.mpr fresh)) (· titles)
  | @updated id status type message =>
    exact ⟨_, u, holds.update id status type message⟩
  | @missing id status type message none =>
    have others := holds.findBatch_eq_none.mp none
    have same : ∀ b ∈ bs, (BatchRequest.update id status type message).noted b = b :=
      fun b hb => if_neg (others b hb).symm
    rw [BatchRequest.stored, List.map_congr_left same, List.map_id']
    exact ⟨t, u, holds⟩

/-- After requests the database stores the batches that there are then. -/
lemma Stores.afterRequests (stores : Stores db bs) (requests : List BatchRequest) :
    Stores (afterRequests db requests) (storedAfter bs requests) := by
  induction requests generalizing db bs with
  | nil => exact stores
  | cons r requests ih =>
    obtain ⟨t, u, holds⟩ := stores
    exact ih (holds.run_stored r)

end

/-! ## The list of a vessel -/

/-- The texts of the points in time at which two batches were made are not in rising order. -/
def notBefore (a b : Batch) : Bool :=
  compare a.createdAt.text b.createdAt.text != .lt

/-- Texts compare by their code points. -/
lemma compare_text_eq_lt {s s' : String} : compare s s' = .lt ↔ s < s' :=
  compareOfLessAndEq_eq_lt

/-- Batches stand in the order of the list if their texts do not rise. -/
lemma notBefore_iff {a b : Batch} : notBefore a b ↔ b.createdAt.text ≤ a.createdAt.text := by
  rw [notBefore, bne_iff_ne, ne_eq, compare_text_eq_lt, String.not_lt]

/-- The batches of a vessel. -/
def ofVessel (vessel : Int) (bs : List Batch) : List Batch :=
  bs.filter fun b => b.vesselId == vessel

section

variable {db : Database} {t u : Table} {bs : List Batch} {vessel : Int}

/-- The record of a row of batches. -/
def rowRecord (row : List Datum) : Record :=
  batchRecord ⟨0, row⟩

/-- The rows of the batches of a vessel are found, sorted downwards. -/
lemma batchesQuery_run (tables : db.BatchTables t u) (vessel : Int) :
    batchesQuery.run db [.integer vessel] =
      .ok ((Store.sortedDownAt [3] ((t.rows.map (·.values)).filter fun row =>
        (valueAt row 1).equals (.integer vessel))).map rowRecord) := by
  obtain ⟨shape, rows⟩ := t
  obtain rfl : shape = Store.Schema.batch := tables.batchShape
  have source : Source.named db batchesQuery.table = .ok (.ofTable ⟨Store.Schema.batch, rows⟩) :=
    Database.named_of_table tables.batches
  have columns : batchesQuery.positions (.ofTable ⟨Store.Schema.batch, rows⟩)
      batchesQuery.columns = .ok [0, 1, 2, 3, 4, 5] := rfl
  have given : batchesQuery.positions (.ofTable ⟨Store.Schema.batch, rows⟩) batchesQuery.given =
      .ok [1] := rfl
  have sorting : batchesQuery.positions (.ofTable ⟨Store.Schema.batch, rows⟩)
      batchesQuery.sorting = .ok [3] := rfl
  have selected : ∀ row, ([1].zip [Datum.integer vessel]).all (fun p =>
      (Source.ofTable ⟨Store.Schema.batch, rows⟩).hasValue row p.1 p.2) =
        (valueAt row 1).equals (.integer vessel) := fun row => Bool.and_true _
  rw [Database.run_eq source columns given sorting]
  simp only [selected]
  rfl

/-- The rows of batches are selected and sorted as the batches are. -/
lemma sortedDownAt_batches (vessel : Int) (bs : List Batch) :
    Store.sortedDownAt [3] ((bs.map batchValues).filter fun row =>
        (valueAt row 1).equals (.integer vessel)) =
      ((ofVessel vessel bs).mergeSort notBefore).map batchValues := by
  have selected : ((fun row => (valueAt row 1).equals (.integer vessel)) ∘ batchValues) =
      fun b => b.vesselId == vessel := by
    funext b
    show (compare b.vesselId vessel == .eq) = (b.vesselId == vessel)
    rw [Bool.eq_iff_iff, beq_iff_eq, beq_iff_eq, Int.compare_eq_eq]
  rw [List.filter_map, selected, Store.sortedDownAt]
  refine (List.map_mergeSort fun a _ b _ => ?_).symm
  show (compare a.createdAt.text b.createdAt.text != .lt) = _
  simp [Store.orderAt, batchValues, valueAt, Datum.order]

/-- The files of a batch are read out of their rows. -/
lemma BatchRows.artifacts (holds : BatchRows db t u bs) {b : Batch} (hb : b ∈ bs)
    (counts : ∀ a ∈ b.artifacts, a.rowCount < 2 ^ 64) :
    db.artifacts b.id = .ok b.artifacts := by
  rw [Database.artifacts_eq holds.files holds.fileShape]
  exact Database.mapM_artifactOf counts (holds.fileRows b hb)

/-- The batches of a vessel are listed by the texts of their times. -/
lemma Stores.batchesOf (stores : Stores db bs)
    (plain : ∀ b ∈ bs, b.vesselId = vessel → b.createdAt.Plain)
    (counts : ∀ b ∈ bs, b.vesselId = vessel → ∀ a ∈ b.artifacts, a.rowCount < 2 ^ 64) :
    db.batchesOf vessel = .ok ((ofVessel vessel bs).mergeSort notBefore) := by
  obtain ⟨t, u, holds⟩ := stores
  have own : ∀ b ∈ (ofVessel vessel bs).mergeSort notBefore, b ∈ bs ∧ b.vesselId = vessel := by
    intro b hb
    rw [List.mem_mergeSort, ofVessel, List.mem_filter, beq_iff_eq] at hb
    exact hb
  -- the query sorts the rows, which is the same as sorting the batches
  have found := batchesQuery_run holds.toBatchTables vessel
  rw [holds.rows, sortedDownAt_batches] at found
  generalize (ofVessel vessel bs).mergeSort notBefore = listed at own found
  have read : ((listed.map batchValues).map rowRecord).mapM StoredBatch.ofRecord =
      .ok (listed.map storedBatch) := by
    rw [mapM_eq_ok, List.map_map, List.forall₂_map_left_iff, List.forall₂_map_right_iff]
    exact List.forall₂_same.mpr fun b _ => Database.ofRecord_row b 0
  unfold Database.batchesOf
  simp only [found, read, mapError_ok, bind, Except.bind]
  rw [mapM_eq_ok, List.forall₂_map_left_iff]
  refine List.forall₂_same.mpr fun b hb => ?_
  obtain ⟨mem, vessel⟩ := own b hb
  have files : db.artifacts (storedBatch b).id = .ok b.artifacts :=
    holds.artifacts mem (counts b mem vessel)
  simp only [files, mapError_ok]
  exact Database.batch_stored (plain b mem vessel)

/-- No batch of the list was made after one before it. -/
lemma pairwise_notBefore {bs : List Batch} (plain : ∀ b ∈ bs, b.createdAt.Plain) :
    (bs.mergeSort notBefore).Pairwise
      fun a b => b.createdAt.toNanos ≤ a.createdAt.toNanos := by
  have sorted : (bs.mergeSort notBefore).Pairwise fun a b => notBefore a b := by
    refine List.pairwise_mergeSort (fun a b c h h' => ?_) (fun a b => ?_) bs
    · rw [notBefore_iff] at *
      exact String.le_trans h' h
    · rw [Bool.or_eq_true, notBefore_iff, notBefore_iff]
      exact String.le_total _ _
  refine List.Pairwise.imp_of_mem (fun {a b} ha hb h => ?_) sorted
  rw [List.mem_mergeSort] at ha hb
  exact (Instant.text_le_iff (plain b hb) (plain a ha)).mp (notBefore_iff.mp h)

end

/-- The list of a vessel: each of its batches as it is kept, once, and none made after one before
it. -/
structure ListsNewestFirst (vessel : Int) (bs listed : List Batch) : Prop where
  /-- No batch is left out and there is no other one; each has its files as they were added. -/
  each : listed.Perm (ofVessel vessel bs)
  once : (listed.map (·.id)).Nodup
  downwards : listed.Pairwise fun a b => b.createdAt.toNanos ≤ a.createdAt.toNanos

/-- After any requests the batches of a vessel are listed with the newest first, if they were made
in the years 0 to 9999 and not in a leap second; the texts by which they are sorted are in the order
of time. -/
theorem batchesOf_newestFirst {db : Database} {bs : List Batch} (stores : Stores db bs)
    (requests : List BatchRequest) (vessel : Int)
    (plain : ∀ b ∈ storedAfter bs requests, b.vesselId = vessel → b.createdAt.Plain)
    (counts : ∀ b ∈ storedAfter bs requests, b.vesselId = vessel →
      ∀ a ∈ b.artifacts, a.rowCount < 2 ^ 64) :
    (∃ listed, (afterRequests db requests).batchesOf vessel = .ok listed ∧
      ListsNewestFirst vessel (storedAfter bs requests) listed) ∧
      ∀ t u : Instant, t.Plain → u.Plain → (t.text ≤ u.text ↔ t.toNanos ≤ u.toNanos) := by
  have after := stores.afterRequests requests
  have own : ∀ b ∈ ofVessel vessel (storedAfter bs requests), b.createdAt.Plain := fun b hb => by
    rw [ofVessel, List.mem_filter, beq_iff_eq] at hb
    exact plain b hb.1 hb.2
  have perm := List.mergeSort_perm (ofVessel vessel (storedAfter bs requests)) notBefore
  have ids : ((ofVessel vessel (storedAfter bs requests)).map (·.id)).Nodup := by
    obtain ⟨t, u, holds⟩ := after
    exact holds.ids.sublist (List.filter_sublist.map _)
  exact ⟨⟨_, after.batchesOf plain counts, perm, (perm.map _).nodup_iff.mpr ids,
    pairwise_notBefore own⟩, fun t u ht hu => Instant.text_le_iff ht hu⟩

namespace Sample

/-- A batch with two files that was made some nanoseconds after the first of January 1970. -/
def timedBatch (id : String) (vessel : Int) (nanos : Nat) : Batch where
  id := id
  vesselId := vessel
  status := .parsed
  artifacts := [⟨"Voyage", "/uploads/Voyage.csv", 3, true⟩,
    ⟨"Machinery", "/uploads/Machinery.csv", 0, false⟩]
  createdAt := ⟨0, 0, nanos⟩
  lastReportType := none
  lastMessage := none

/-- Batches of two vessels in one second, with fractions of no, three and nine digits; the import of
one of them is noted, and an id is used again in vain. -/
def timedRequests : List BatchRequest :=
  [.insert (timedBatch "b1" 7 0), .insert (timedBatch "b2" 7 500000000),
    .insert (timedBatch "b3" 8 0), .insert (timedBatch "b4" 7 123456789),
    .update "b1" .imported .single none, .insert (timedBatch "b1" 7 999999999)]

/-- The batches of a vessel with times of different lengths are listed with the newest first. -/
theorem batchesOf_timedRequests :
    Stores Database.new [] ∧
      (∀ b ∈ storedAfter [] timedRequests, b.vesselId = 7 → b.createdAt.Plain) ∧
      (∀ b ∈ storedAfter [] timedRequests, b.vesselId = 7 →
        ∀ a ∈ b.artifacts, a.rowCount < 2 ^ 64) ∧
      (∃ listed, (afterRequests Database.new timedRequests).batchesOf 7 = .ok listed ∧
        ListsNewestFirst 7 (storedAfter [] timedRequests) listed) ∧
      ∀ t u : Instant, t.Plain → u.Plain → (t.text ≤ u.text ↔ t.toNanos ≤ u.toNanos) := by
  have plain : ∀ b ∈ storedAfter [] timedRequests, b.vesselId = 7 → b.createdAt.Plain := by
    have bounds : ∀ b ∈ storedAfter [] timedRequests,
        b.createdAt.day = 0 ∧ b.createdAt.second < 86400 ∧ b.createdAt.nanos < 10 ^ 9 := by
      decide +kernel
    intro b hb _
    obtain ⟨day, second, nanos⟩ := bounds b hb
    exact ⟨by rw [day]; decide, second, nanos⟩
  have counts : ∀ b ∈ storedAfter [] timedRequests, b.vesselId = 7 →
      ∀ a ∈ b.artifacts, a.rowCount < 2 ^ 64 := by
    decide +kernel
  exact ⟨stores_new, plain, counts, batchesOf_newestFirst stores_new timedRequests 7 plain counts⟩

end Sample

end ShipReport.Service
