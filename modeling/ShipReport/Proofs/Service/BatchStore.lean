import ShipReport.Proofs.Store.BatchTables
import ShipReport.Service.Work

/-!
# Batches as a store

Batches are added and their status is noted by requests in any order. A batch that was added is
found as it was, with its files in their order, whatever happens to other batches before and after;
noting a status changes the three values that it is about, of that batch only; and a request that
fails leaves everything as it was.
-/

namespace ShipReport.Service

open Report (BatchStatus ReportType)
open Store (Database Row StoreError Table)
open Store.Database (BatchTables isBatch noteTable)
open Submission (Batch)

/-! ## Requests -/

/-- A request for a batch. -/
inductive BatchRequest where
  | insert (b : Batch)
  | update (id : String) (status : BatchStatus) (type : ReportType) (message : Option String)

namespace BatchRequest

/-- The id of the batch that the request is for. -/
def batchId : BatchRequest → String
  | insert b => b.id
  | update id _ _ _ => id

/-- The database after the request, if it succeeds. -/
def apply (db : Database) : BatchRequest → Except StoreError Database
  | insert b => db.insertBatch b
  | update id status type message => db.updateStatus id status type message

def run (r : BatchRequest) : Work Database StoreError Unit :=
  .change fun db => do return (← r.apply db, ())

/-- What a request makes of a batch that is there. -/
def noted (b : Batch) : BatchRequest → Batch
  | insert _ => b
  | update id status type message =>
    if id = b.id then
      { b with status := status, lastReportType := some type, lastMessage := message }
    else b

end BatchRequest

/-- What there is after requests one after the other. -/
def afterRequests (db : Database) (requests : List BatchRequest) : Database :=
  requests.foldl (fun db r => (r.run.runOn db).2) db

/-! ## What a request does -/

/-- What a request for a batch answers and makes of a database of batches. -/
inductive BatchOutcome (db : Database) (t : Table) :
    BatchRequest → Except StoreError Unit → Database → Prop where
  | inserted {b : Batch} {after : Database} (fresh : db.findBatch b.id = .ok none)
      (titles : (b.artifacts.map (·.title)).Nodup) (h : db.insertBatch b = .ok after) :
      BatchOutcome db t (.insert b) (.ok ()) after
  | refused {b : Batch} (e : StoreError)
      (taken : db.findBatch b.id ≠ .ok none ∨ ¬ (b.artifacts.map (·.title)).Nodup) :
      BatchOutcome db t (.insert b) (.error e) db
  | updated {id : String} {status : BatchStatus} {type : ReportType} {message : Option String}
      (found : db.findBatch id ≠ .ok none) :
      BatchOutcome db t (.update id status type message) (.ok ())
        (db.put "import_batch" (noteTable id status type message t))
  | missing {id : String} {status : BatchStatus} {type : ReportType} {message : Option String}
      (none : db.findBatch id = .ok none) :
      BatchOutcome db t (.update id status type message) (.error (.notFound "import_batch" id)) db

section

variable {db after : Database} {t u : Table} {r : BatchRequest} {b : Batch} {id : String}
  {answer : Except StoreError Unit}

/-- A request that fails leaves the database. -/
lemma run_runOn (r : BatchRequest) (db : Database) :
    r.run.runOn db =
      match r.apply db with
      | .ok after => (.ok (), after)
      | .error e => (.error e, db) := by
  unfold BatchRequest.run Work.runOn Work.change
  cases h : r.apply db <;> simp only [h] <;> rfl

/-- What each request does. -/
lemma batch_outcome (tables : db.BatchTables t u) (r : BatchRequest) :
    BatchOutcome db t r (r.run.runOn db).1 (r.run.runOn db).2 := by
  rw [run_runOn]
  cases r with
  | insert b =>
    have succeeds : (∃ after, db.insertBatch b = .ok after) ↔ _ := tables.insertBatch_succeeds_iff
    rw [BatchRequest.apply]
    cases h : db.insertBatch b with
    | ok after =>
      obtain ⟨fresh, titles⟩ := succeeds.mp ⟨after, h⟩
      exact .inserted fresh titles h
    | error e =>
      refine .refused e (not_and_or.mp fun new => ?_)
      obtain ⟨after, h'⟩ := succeeds.mpr new
      cases h.symm.trans h'
  | update id status type message =>
    rw [BatchRequest.apply]
    by_cases none : db.findBatch id = .ok none
    · rw [tables.updateStatus_of_none none]
      exact .missing none
    · rw [tables.updateStatus_of_found none]
      exact .updated none

/-- A request leaves a database of batches. -/
lemma BatchOutcome.keeps (h : BatchOutcome db t r answer after) (tables : db.BatchTables t u) :
    after.KeepsBatches := by
  cases h with
  | inserted _ _ h => exact ⟨_, _, tables.insertBatch h⟩
  | refused => exact ⟨t, u, tables⟩
  | updated => exact ⟨_, _, tables.updateStatus⟩
  | missing => exact ⟨t, u, tables⟩

/-- Batches of other ids are found as before. -/
lemma BatchOutcome.other (h : BatchOutcome db t r answer after) (tables : db.BatchTables t u)
    (other : id ≠ r.batchId) : after.findBatch id = db.findBatch id := by
  cases h with
  | inserted _ _ h => exact tables.findBatch_inserted_other h other
  | refused => rfl
  | updated => exact tables.findBatch_updated_other other
  | missing => rfl

/-- A batch that is there stays, with the status that is noted. -/
lemma BatchOutcome.noted (h : BatchOutcome db t r answer after) (tables : db.BatchTables t u)
    (found : db.findBatch b.id = .ok (some b)) :
    after.findBatch b.id = .ok (some (r.noted b)) := by
  by_cases same : b.id = r.batchId
  · cases h with
    | inserted fresh =>
      rw [BatchRequest.batchId] at same
      rw [← same, found] at fresh
      cases fresh
    | refused => exact found
    | updated =>
      rw [BatchRequest.batchId] at same
      rw [BatchRequest.noted, if_pos same.symm, ← same]
      exact tables.findBatch_updated found
    | missing none =>
      rw [BatchRequest.batchId] at same
      rw [← same, found] at none
      cases none
  · rw [h.other tables same, found]
    cases r with
    | insert => rfl
    | update id => rw [BatchRequest.noted, if_neg fun h => same h.symm]

end

/-! ## Series of requests -/

section

variable {db : Database} {b : Batch} {requests : List BatchRequest}

/-- Any series of requests leaves a database of batches. -/
lemma afterRequests_keeps (keeps : db.KeepsBatches) (requests : List BatchRequest) :
    (afterRequests db requests).KeepsBatches := by
  induction requests generalizing db with
  | nil => exact keeps
  | cons r requests ih =>
    obtain ⟨t, u, tables⟩ := keeps
    exact ih ((batch_outcome tables r).keeps tables)

/-- Noting an outcome leaves the id of a batch. -/
lemma noted_id (b : Batch) (r : BatchRequest) : (r.noted b).id = b.id := by
  cases r with
  | insert => rfl
  | update id =>
    rw [BatchRequest.noted]
    split <;> rfl

/-- A batch that is there stays in any series of requests, with what is noted for it. -/
lemma findBatch_afterRequests (keeps : db.KeepsBatches) (found : db.findBatch b.id = .ok (some b))
    (requests : List BatchRequest) :
    (afterRequests db requests).findBatch b.id =
      .ok (some (requests.foldl BatchRequest.noted b)) := by
  induction requests generalizing db b with
  | nil => exact found
  | cons r requests ih =>
    obtain ⟨t, u, tables⟩ := keeps
    have outcome := batch_outcome tables r
    have next := outcome.noted tables found
    rw [← noted_id b r] at next
    have last := ih (outcome.keeps tables) next
    rw [noted_id] at last
    exact last

/-- Requests for other batches note nothing for a batch. -/
lemma foldl_noted_of_other (others : ∀ r ∈ requests, r.batchId ≠ b.id) :
    requests.foldl BatchRequest.noted b = b := by
  induction requests with
  | nil => rfl
  | cons r requests ih =>
    obtain ⟨first, others⟩ := List.forall_mem_cons.mp others
    have same : r.noted b = b := by
      cases r with
      | insert => rfl
      | update id => exact if_neg first
    rw [List.foldl_cons, same, ih others]

end

/-- A batch that its stored form shows: it was made in the years 0 to 9999 and not in a leap second,
and the counts of rows have fewer than 64 bits. -/
structure Storable (b : Batch) : Prop where
  plain : b.createdAt.Plain
  counts : ∀ a ∈ b.artifacts, a.rowCount < 2 ^ 63

/-- What a database of batches does with requests. -/
structure StoresBatches (db : Database) : Prop where
  /-- A batch under an id that is not used, with files for different sheets, is added, and the
  batches of other ids stay. -/
  inserted : ∀ b : Batch, db.findBatch b.id = .ok none → (b.artifacts.map (·.title)).Nodup →
    ∃ after, (BatchRequest.insert b).run.runOn db = (.ok (), after) ∧
      (∀ id ≠ b.id, after.findBatch id = db.findBatch id) ∧
      (Storable b → ∀ later,
        (afterRequests after later).findBatch b.id =
          .ok (some (later.foldl BatchRequest.noted b)) ∧
        ((∀ r ∈ later, r.batchId ≠ b.id) →
          (afterRequests after later).findBatch b.id = .ok (some b)))
  /-- No other batch is added, and nothing is changed then. -/
  refused : ∀ b : Batch,
    db.findBatch b.id ≠ .ok none ∨ ¬ (b.artifacts.map (·.title)).Nodup →
      ∃ e, (BatchRequest.insert b).run.runOn db = (.error e, db)
  /-- Noting a status changes the status, the report type and the message of one batch. -/
  updated : ∀ id status type message, db.findBatch id ≠ .ok none →
    ∃ t after, db.table? "import_batch" = some t ∧
      (BatchRequest.update id status type message).run.runOn db = (.ok (), after) ∧
      after = db.put "import_batch" (noteTable id status type message t) ∧
      (∀ b, db.findBatch id = .ok (some b) → after.findBatch id =
        .ok (some { b with status := status, lastReportType := some type, lastMessage := message })) ∧
      (∀ other ≠ id, after.findBatch other = db.findBatch other) ∧
      db.ChangesOnly ["import_batch"] after
  /-- No status is noted for a batch that is not there. -/
  missing : ∀ id status type message, db.findBatch id = .ok none →
    (BatchRequest.update id status type message).run.runOn db =
      (.error (.notFound "import_batch" id), db)

/-- A batch that can be stored is found as it was after it was added. -/
lemma findBatch_of_inserted {db after : Database} {b : Batch} {t u : Table} (storable : Storable b)
    (tables : db.BatchTables t u) (fresh : db.findBatch b.id = .ok none)
    (h : db.insertBatch b = .ok after) : after.findBatch b.id = .ok (some b) := by
  have takes := tables.takes (tables.findBatch_eq_none.mp fresh)
  refine (takes.insertBatch h).findBatch storable.plain fun a ha => ?_
  have := storable.counts a ha
  omega

/-- A database of batches does with requests what it should. -/
lemma storesBatches_of_keeps {db : Database} (keeps : db.KeepsBatches) : StoresBatches db := by
  obtain ⟨t, u, tables⟩ := keeps
  refine ⟨fun b fresh titles => ?_, fun b taken => ?_, fun id status type message found => ?_,
    fun id status type message none => ?_⟩
  · obtain ⟨after, h⟩ := tables.insertBatch_succeeds_iff.mpr ⟨fresh, titles⟩
    have run : (BatchRequest.insert b).run.runOn db = (.ok (), after) := by
      rw [run_runOn, BatchRequest.apply, h]
    refine ⟨after, run, fun id => tables.findBatch_inserted_other h, fun storable later => ?_⟩
    have found := findBatch_of_inserted storable tables fresh h
    have last := findBatch_afterRequests ⟨_, _, tables.insertBatch h⟩ found later
    refine ⟨last, fun others => ?_⟩
    rw [last, foldl_noted_of_other others]
  · cases h : db.insertBatch b with
    | ok after =>
      have new := tables.insertBatch_succeeds_iff.mp ⟨after, h⟩
      exact absurd new (not_and_or.mpr taken)
    | error e =>
      refine ⟨e, ?_⟩
      rw [run_runOn, BatchRequest.apply, h]
  · refine ⟨t, _, tables.batches, ?_, rfl, fun b hb => tables.findBatch_updated hb,
      fun other hne => tables.findBatch_updated_other hne,
      Database.put_changesOnly (Database.noteTable_name tables.batchShape)⟩
    rw [run_runOn, BatchRequest.apply, tables.updateStatus_of_found found]
  · rw [run_runOn, BatchRequest.apply, tables.updateStatus_of_none none]

/-- After any series of requests a database of batches stores batches. -/
theorem storesBatches_afterRequests {db : Database} (keeps : db.KeepsBatches)
    (before : List BatchRequest) : StoresBatches (afterRequests db before) :=
  storesBatches_of_keeps (afterRequests_keeps keeps before)

namespace Sample

/-- A batch with two files. -/
def storedBatch : Batch where
  id := "b1"
  vesselId := 7
  status := .parsed
  artifacts := [⟨"Voyage", "/uploads/Voyage_b1.csv", 3, true⟩,
    ⟨"Machinery", "/uploads/Machinery_b1.csv", 0, false⟩]
  createdAt := ⟨0, 0, 0⟩
  lastReportType := none
  lastMessage := none

/-- A new database stores batches after a batch was added, its import noted, and the batch refused
the second time. -/
theorem storesBatches_new :
    Database.new.KeepsBatches ∧ Storable storedBatch ∧
      Database.new.findBatch storedBatch.id = .ok none ∧
      (storedBatch.artifacts.map (·.title)).Nodup ∧
      StoresBatches (afterRequests Database.new
        [.insert storedBatch, .update "b1" .imported .single none, .insert storedBatch]) := by
  have counts : ∀ a ∈ storedBatch.artifacts, a.rowCount < 2 ^ 63 := by decide
  have fresh : Database.new.findBatch storedBatch.id = .ok none := by decide +kernel
  exact ⟨Database.new_keepsBatches, ⟨⟨by decide, by decide, by decide⟩, counts⟩, fresh, by decide,
    storesBatches_afterRequests Database.new_keepsBatches _⟩

end Sample

end ShipReport.Service
