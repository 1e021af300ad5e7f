import ShipReport.Proofs.Service.Work
import ShipReport.Proofs.Store.Procedures

/-!
# Imports that are all or nothing

An import whose procedure fails leaves nothing of it: only the status of the batch is noted, with
the message of the procedure as it is, which is also what the caller is told. An import that
succeeds has run all statements of its procedure and counts the rows that they add, remove or
change. The exported files stay in both cases.
-/

namespace ShipReport.Service

open Report (BatchStatus ReportType)
open Store (Connection Database Engine Table)
open Store.Database (isBatch noteTable noteTable_name)
open Submission (Batch ImportOutcome SubmissionError)

/-! ## The requests of an import -/

section

variable {db : Database} {batchId : String} {type : ReportType} {t : Table} {b : Batch}

/-- A batch that is there and has not been imported may be. -/
lemma checkImportable_runOn (found : db.findBatch batchId = .ok (some b))
    (pending : b.status ≠ .imported) : (checkImportable batchId).runOn db = (.ok (), db) := by
  unfold checkImportable Work.runOn Work.look
  simp [found, pending, mapError_ok, bind, Except.bind, pure, Except.pure]

/-- The outcome is noted with the batch. -/
lemma noteOutcome_runOn (ht : db.table? "import_batch" = some t)
    (hs : t.shape = Store.Schema.batch) (stored : t.rows.any (isBatch batchId))
    (status : BatchStatus) (message : Option String) :
    (noteOutcome batchId status type message).runOn db =
      (.ok (), db.put "import_batch" (noteTable batchId status type message t)) := by
  have updated : db.updateStatus batchId status type message = _ :=
    (Database.updateStatus_eq ht hs).trans (if_pos stored)
  unfold noteOutcome Work.runOn Work.change
  simp only [updated]
  rfl

/-- After its procedure has run an import notes the outcome and answers it. -/
lemma settle_eq (ht : db.table? "import_batch" = some t) (hs : t.shape = Store.Schema.batch)
    (stored : t.rows.any (isBatch batchId)) (outcome : Except String Nat) :
    (settle batchId type outcome).runOn db =
      (answerTo batchId type outcome, db.put "import_batch"
        (noteTable batchId (statusAfter outcome) type (messageAfter outcome) t)) :=
  settle_runOn (noteOutcome_runOn ht hs stored _ _)

/-- Running a procedure has the outcome that the executor gives. -/
lemma runProcedure_runOn (procedure : String) (execute : Executor) :
    (runProcedure procedure batchId execute).runOn db =
      match execute db procedure batchId with
      | .ok (after, rows) => (.ok (.ok rows), after)
      | .error message => (.ok (.error message), db) := by
  unfold runProcedure Work.runOn Work.change
  cases h : execute db procedure batchId <;> simp only [h]

/-- An import of a batch that may be imported is settled with what its procedure left. -/
lemma importBatch_runOn (found : db.findBatch batchId = .ok (some b))
    (pending : b.status ≠ .imported) (execute : Executor) :
    (importBatch batchId type execute).runOn db =
      match execute db type.procedure batchId with
      | .ok (after, rows) => (settle batchId type (.ok rows)).runOn after
      | .error message => (settle batchId type (.error message)).runOn db := by
  unfold importBatch
  rw [Work.runOn_bind, checkImportable_runOn found pending]
  dsimp only
  rw [Work.runOn_bind, runProcedure_runOn]
  cases execute db type.procedure batchId <;> rfl

end

/-! ## All or nothing -/

/-- What an import of a batch gives and leaves, over a connection that has changed a number of rows
before. -/
structure AllOrNothing (engine : Engine) (total : Nat) (h : Holdings) (t : Table) (b : Batch)
    (type : ReportType) (result : Except SubmissionError ImportOutcome) (after : Holdings) :
    Prop where
  /-- The import succeeds or its procedure failed. -/
  ends : (∃ outcome, result = .ok outcome) ∨
    ∃ message, result = .error (.procedureFailed type.procedure message)
  /-- When the procedure failed, nothing but the status of the batch is changed, and the message of
  the procedure is noted and handed on. -/
  failed : ∀ procedure message, result = .error (.procedureFailed procedure message) →
    procedure = type.procedure ∧
      (∃ c, engine.perform type.procedure b.id ⟨h.database, total⟩ = (c, .error message) ∧
        c.database = h.database) ∧
      after.database =
        h.database.put "import_batch" (noteTable b.id .failed type (some message) t) ∧
      after.database.findBatch b.id = .ok (some { b with
        status := .failed, lastReportType := some type, lastMessage := some message }) ∧
      (ServiceError.ofSubmission (.procedureFailed procedure message)).message = message
  /-- A procedure that is not registered fails with a message that says so. -/
  unregistered : h.database.script? type.procedure = .ok none →
    result = .error (.procedureFailed type.procedure
      ("procedure " ++ type.procedure ++ " is not registered"))
  /-- When the import succeeds, all statements of the procedure were run, what they changed is there,
  and the rows that they added, removed or changed are counted. -/
  succeeded : ∀ outcome, result = .ok outcome →
    ∃ script statements left, h.database.script? type.procedure = .ok (some script) ∧
      engine.Runs b.id h.database script.toList statements left ∧
      left = h.database.changedBy (statements.flatMap (·.changes)) ∧
      after.database = left.put "import_batch" (noteTable b.id .imported type none t) ∧
      outcome.rowsChanged = (statements.map (·.changed)).sum ∧
      ∀ s ∈ statements, s.Counted b.id
  /-- The exported files stay. -/
  files : after.files = h.files

/-- The import of a stored batch that has not been imported is all or nothing, if its procedure
leaves the table of batches. -/
theorem importBatch_allOrNothing {engine : Engine} {total : Nat} {h : Holdings} {t u : Table}
    {b : Batch} {type : ReportType} (lawful : engine.Lawful)
    (ht : h.database.table? "import_batch" = some t) (hs : t.shape = Store.Schema.batch)
    (width : ∀ r ∈ t.rows, r.values.length = 6) (hu : h.database.table? "batch_artifact" = some u)
    (found : h.database.findBatch b.id = .ok (some b)) (pending : b.status ≠ .imported)
    (untouched : ∀ script statements left,
      h.database.script? type.procedure = .ok (some script) →
        engine.Runs b.id h.database script.toList statements left →
          left.table? "import_batch" = h.database.table? "import_batch") :
    AllOrNothing engine total h t b type
      ((onDatabase (importBatch b.id type (engine.executor total))).runOn h).1
      ((onDatabase (importBatch b.id type (engine.executor total))).runOn h).2 := by
  obtain ⟨r, hr, hrow⟩ := Database.row_of_findBatch ht hs found
  have stored : t.rows.any (isBatch b.id) :=
    List.any_eq_true.mpr ⟨r, List.mem_of_find?_eq_some hr, List.find?_some hr⟩
  have run : (onDatabase (importBatch b.id type (engine.executor total))).runOn h =
      (((importBatch b.id type (engine.executor total)).runOn h.database).1,
        { h with
          database := ((importBatch b.id type (engine.executor total)).runOn h.database).2 }) := rfl
  rw [run, importBatch_runOn found pending]
  unfold Engine.executor
  cases performed : engine.perform type.procedure b.id ⟨h.database, total⟩ with
  | mk c result =>
    cases result with
    | error message =>
      -- the outcome is noted in the database from before the procedure
      dsimp only
      rw [settle_eq ht hs stored]
      refine ⟨.inr ⟨message, rfl⟩, ?_, fun none => ?_, nofun, rfl⟩
      · rintro _ _ ⟨⟩
        refine ⟨rfl, ⟨c, performed, Engine.perform_error performed⟩, rfl, ?_, rfl⟩
        exact Database.findBatch_noted ht hs .failed type (some message) hu width hr hrow
      · unfold Engine.perform at performed
        rw [show (⟨h.database, total⟩ : Connection).database = h.database from rfl, none]
          at performed
        cases performed
        rfl
    | ok rows =>
      obtain ⟨script, statements, registered, ran, count⟩ := Engine.perform_ok lawful performed
      -- the procedure leaves the table of batches, so that the outcome is noted in what it left
      have ht' := (untouched script statements c.database registered ran).trans ht
      dsimp only
      rw [settle_eq ht' hs stored]
      refine ⟨.inl ⟨_, rfl⟩, nofun, fun none => ?_, ?_, rfl⟩
      · cases none.symm.trans registered
      · rintro _ ⟨⟩
        exact ⟨script, statements, c.database, registered, ran, ran.changedBy, rfl, count,
          ran.counted lawful⟩

namespace Sample

/-- A batch without files that has not been imported. -/
def pendingBatch : Batch :=
  .new "b1" 1 [] ⟨0, 0, 0⟩

/-- A procedure that adds two rows, and makes a table and an index of it. -/
def landingScript : String :=
  "INSERT INTO landed VALUES (:batch_id, 1); INSERT INTO landed VALUES (:batch_id, 2);
    CREATE TABLE IF NOT EXISTS audit (batch_id TEXT);
    CREATE INDEX IF NOT EXISTS idx_audit ON audit (batch_id);"

/-- The table for the rows. -/
def landed : Store.Shape where
  name := "landed"
  columns := [Store.textColumn "batch_id", Store.integerColumn "n"]

/-- A database with the batch, the procedure for reports on voyages, and the table for its rows. -/
def importable : Database where
  tables := [⟨Store.Schema.batch, [⟨1, Database.batchValues pendingBatch⟩]⟩,
    ⟨Store.Schema.artifact, []⟩,
    ⟨Store.Schema.procedure, [⟨1, [.text ReportType.voyage.procedure, .text landingScript]⟩]⟩,
    ⟨landed, []⟩]
  views := []
  enforcing := true

/-- The database without exported files. -/
def holding : Holdings :=
  ⟨importable, ∅⟩

/-- The import of the batch, over a connection that has changed five rows before. -/
def imported : Except SubmissionError ImportOutcome × Holdings :=
  (onDatabase (importBatch "b1" .voyage (Engine.statements.executor 5))).runOn holding

/-- The procedure that adds two rows, and makes a table and an index, runs as a whole or not at all.
Only the two rows count. -/
theorem importable_allOrNothing :
    Engine.statements.Lawful ∧ importable.findBatch pendingBatch.id = .ok (some pendingBatch) ∧
      AllOrNothing .statements 5 holding
        ⟨Store.Schema.batch, [⟨1, Database.batchValues pendingBatch⟩]⟩ pendingBatch .voyage
        imported.1 imported.2 ∧
      imported.1.map (·.rowsChanged) = .ok 2 := by
  have found : importable.findBatch pendingBatch.id = .ok (some pendingBatch) := by
    decide +kernel
  have registered : importable.script? ReportType.voyage.procedure = .ok (some landingScript) := by
    decide +kernel
  have kept : (Engine.statements.runFrom pendingBatch.id (landingScript.length + 1)
      ⟨holding.database, 5⟩ landingScript.toList).1.database.table? "import_batch" =
        holding.database.table? "import_batch" := by
    decide +kernel
  have files : importable.table? "batch_artifact" = some ⟨Store.Schema.artifact, []⟩ := by
    decide +kernel
  have rows : imported.1.map (·.rowsChanged) = .ok 2 := by
    decide +kernel
  refine ⟨Engine.statements_lawful, found, importBatch_allOrNothing Engine.statements_lawful
    (by decide +kernel) rfl (List.forall_mem_singleton.mpr rfl) files found (by decide)
    fun script statements left h run => ?_, rows⟩
  obtain rfl := Option.some.inj (Except.ok.inj (registered.symm.trans h))
  have enough : landingScript.toList.length < landingScript.length + 1 := by
    rw [String.length_toList]
    omega
  have ran : Engine.statements.runFrom pendingBatch.id (landingScript.length + 1)
      ⟨holding.database, 5⟩ landingScript.toList =
        (⟨left, 5 + (statements.map (·.changed)).sum⟩, .ok ()) :=
    (Engine.runFrom_eq_ok Engine.statements_lawful enough).mpr ⟨statements, run, rfl⟩
  rw [ran] at kept
  exact kept

end Sample

end ShipReport.Service
