import Mathlib.Data.List.Induction
import ShipReport.Proofs.Store.Batches
import ShipReport.Service.Import

/-!
# Imports one after the other

An import is a call that goes on by single requests: it is admitted or refused, its procedure is
carried out, and the outcome is noted. Procedures leave the batches alone, and otherwise do what
they like. When calls are made one after the other, the calls whose procedures were carried out
determine all batches: each shows the outcome of the last one for it, and one that has been imported
is never imported again.
-/

namespace ShipReport.Service

open Report (BatchStatus ReportType)
open Store (Database)
open Submission (Batch ImportOutcome SubmissionError)

/-- Work goes on with the result of its first part, unless that failed. -/
lemma Work.runOn_bind {σ ε α β : Type} (x : Work σ ε α) (f : α → Work σ ε β) (s : σ) :
    (x >>= f).runOn s =
      match x.runOn s with
      | (.ok a, t) => (f a).runOn t
      | (.error e, t) => (.error e, t) := by
  unfold Work.runOn
  simp only [bind, ExceptT.bind, ExceptT.mk, StateT.bind]
  obtain ⟨r, t⟩ := x s
  cases r <;> rfl

/-- A call for the import of a batch as reports of a type that a text gives. -/
structure Call where
  batchId : String
  typeText : String
  /-- What carries out the procedure of this call. -/
  execute : Executor

/-- How far a call has come. -/
inductive Progress where
  | called
  /-- The batch may be imported. -/
  | admitted (type : ReportType)
  /-- The procedure has run, with this outcome. -/
  | executed (type : ReportType) (outcome : Except String Nat)
  | ended (result : Except SubmissionError ImportOutcome)

namespace Call

/-- The next request of a call; a call that has ended makes none. -/
def advance (c : Call) : Progress → Database → Progress × Database
  | .called, db =>
    match ReportType.parse c.typeText with
    | .error _ => (.ended (.error (.reportTypeInvalid c.typeText)), db)
    | .ok type =>
      match (checkImportable c.batchId).runOn db with
      | (.ok (), db) => (.admitted type, db)
      | (.error e, db) => (.ended (.error e), db)
  | .admitted type, db =>
    match (runProcedure type.procedure c.batchId c.execute).runOn db with
    | (.ok outcome, db) => (.executed type outcome, db)
    | (.error e, db) => (.ended (.error e), db)
  | .executed type outcome, db =>
    let (result, db) := (settle c.batchId type outcome).runOn db
    (.ended result, db)
  | .ended result, db => (.ended result, db)

/-- The whole call, made without interruption. -/
def run (c : Call) (db : Database) : Except SubmissionError ImportOutcome × Database :=
  (importNamed c.batchId c.typeText c.execute).runOn db

variable {c : Call} {db db' : Database}

/-- A call that has ended makes no more requests. -/
@[simp] lemma advance_ended {result : Except SubmissionError ImportOutcome} :
    c.advance (.ended result) db = (.ended result, db) :=
  rfl

/-- A call that is not interrupted is the import: it ends with the third request at the latest. -/
theorem advance_three (c : Call) (db : Database) :
    let first := c.advance .called db
    let second := c.advance first.1 first.2
    c.advance second.1 second.2 = (.ended (c.run db).1, (c.run db).2) := by
  unfold run importNamed
  cases htype : ReportType.parse c.typeText with
  | error e =>
    simp only [advance, htype]
    rfl
  | ok type =>
    simp only [advance, htype, importBatch, Work.runOn_bind]
    cases (checkImportable c.batchId).runOn db with
    | mk checked db₁ =>
      cases checked with
      | error e => rfl
      | ok u =>
        dsimp only
        cases (runProcedure type.procedure c.batchId c.execute).runOn db₁ with
        | mk executed db₂ =>
          cases executed with
          | error e => rfl
          | ok outcome => rfl

end Call

/-! ## Single requests -/

/-- The status of a batch after its procedure has run. -/
def statusAfter : Except String Nat → BatchStatus
  | .ok _ => .imported
  | .error _ => .failed

/-- The message that stays with a batch after its procedure has run. -/
def messageAfter : Except String Nat → Option String
  | .ok _ => none
  | .error message => some message

/-- The batch with the outcome of its procedure noted. -/
def noteOf (type : ReportType) (outcome : Except String Nat) (b : Batch) : Batch :=
  { b with
    status := statusAfter outcome
    lastReportType := some type
    lastMessage := messageAfter outcome }

/-- The answer to a call whose procedure has run. -/
def answerTo (batchId : String) (type : ReportType) :
    Except String Nat → Except SubmissionError ImportOutcome
  | .ok rowsChanged =>
    .ok { batchId, reportType := type, procedure := type.procedure, rowsChanged }
  | .error message => .error (.procedureFailed type.procedure message)

/-- An import whose outcome is noted is answered with the outcome. -/
lemma settle_runOn {batchId : String} {type : ReportType} {outcome : Except String Nat}
    {db after : Database}
    (noted : (noteOutcome batchId (statusAfter outcome) type (messageAfter outcome)).runOn db =
      (.ok (), after)) :
    (settle batchId type outcome).runOn db = (answerTo batchId type outcome, after) := by
  cases outcome with
  | ok rows =>
    simp only [statusAfter, messageAfter] at noted
    simp only [settle, Work.runOn_bind, noted]
    rfl
  | error message =>
    simp only [statusAfter, messageAfter] at noted
    simp only [settle, Work.runOn_bind, noted]
    rfl

/-- Why a call is refused, if it is, when a batch or none is found. -/
def refusal? (batchId : String) : Option Batch → Option SubmissionError
  | none => some (.batchNotFound batchId)
  | some b => if b.status = .imported then some (.batchAlreadyImported batchId) else none

/-- A batch is not refused if it is there and has not been imported. -/
lemma refusal?_eq_none {batchId : String} {found : Option Batch} :
    refusal? batchId found = none ↔ ∃ b, found = some b ∧ b.status ≠ .imported := by
  cases found <;> simp [refusal?]

namespace Call

variable {c : Call} {db : Database}

/-- Whatever the executor does for the call leaves all batches and files. -/
def LeavesBatches (c : Call) (db : Database) : Prop :=
  ∀ (type : ReportType) (after : Database) (rows : Nat),
    c.execute db type.procedure c.batchId = .ok (after, rows) → db.SameBatches after

/-- The first request refuses a call or admits it, and changes nothing. -/
lemma advance_called {type : ReportType} (htype : ReportType.parse c.typeText = .ok type)
    {found : Option Batch}
    (hb : db.findBatch c.batchId = .ok found) :
    c.advance .called db =
      (match refusal? c.batchId found with
        | some e => .ended (.error e)
        | none => .admitted type, db) := by
  simp only [advance, htype, checkImportable, Work.runOn, Work.look, hb]
  cases found with
  | none => rfl
  | some b =>
    by_cases hs : b.status = .imported
    · simp [refusal?, hs, mapError_ok, bind, Except.bind, throw, throwThe,
        MonadExceptOf.throw]
    · simp [refusal?, hs, mapError_ok, bind, Except.bind, pure, Except.pure]

/-- The database after the executor has carried out the procedure, or failed to. -/
def afterExecution (c : Call) (type : ReportType) (db : Database) : Database :=
  match c.execute db type.procedure c.batchId with
  | .ok (after, _) => after
  | .error _ => db

/-- An executor that leaves the batches does so whether it succeeds or not. -/
lemma sameBatches_afterExecution (type : ReportType) (hc : c.LeavesBatches db) :
    db.SameBatches (c.afterExecution type db) := by
  unfold afterExecution
  cases hx : c.execute db type.procedure c.batchId with
  | ok result => exact hc type result.1 result.2 hx
  | error message => exact ⟨rfl, rfl⟩

/-- The second request has the outcome that the executor gives. -/
lemma advance_admitted (type : ReportType) :
    c.advance (.admitted type) db =
      (.executed type ((c.execute db type.procedure c.batchId).map (·.2)),
        c.afterExecution type db) := by
  simp only [advance, runProcedure, Work.runOn, Work.change, afterExecution]
  cases c.execute db type.procedure c.batchId <;> rfl

/-- The third request notes the outcome with the batch and changes no other. -/
lemma advance_executed (type : ReportType) (outcome : Except String Nat) (hdb : db.HasBatches)
    {b : Batch} (hb : db.findBatch c.batchId = .ok (some b)) :
    ∃ after, c.advance (.executed type outcome) db =
        (.ended (answerTo c.batchId type outcome), after) ∧
      after.HasBatches ∧ after.findBatch c.batchId = .ok (some (noteOf type outcome b)) ∧
      (∀ other, other ≠ c.batchId → after.findBatch other = db.findBatch other) ∧
      after.table? "batch_artifact" = db.table? "batch_artifact" := by
  obtain ⟨after, hupdate, hafter⟩ :=
    hdb.updateStatus c.batchId (statusAfter outcome) type (messageAfter outcome) hb
  refine ⟨after, ?_, hafter⟩
  have noted : (noteOutcome c.batchId (statusAfter outcome) type (messageAfter outcome)).runOn db =
      (.ok (), after) := by
    simp only [noteOutcome, Work.runOn, Work.change, hupdate]
    rfl
  simp only [advance, settle_runOn noted]

end Call

/-! ## Whole calls -/

/-- A procedure that the executor was asked to carry out, and how it ended. -/
structure Invocation where
  batchId : String
  type : ReportType
  outcome : Except String Nat

/-- The procedure was carried out. -/
def Invocation.Succeeded (i : Invocation) : Prop :=
  ∃ rows, i.outcome = .ok rows

/-- The procedure that a call for a batch has had carried out just now. -/
def Progress.invocation? (batchId : String) : Progress → Option Invocation
  | .executed type outcome => some ⟨batchId, type, outcome⟩
  | _ => none

/-- The invocation of the executor by a call, if the call comes to it. -/
def Call.invocation? (c : Call) (db : Database) : Option Invocation :=
  let first := c.advance .called db
  (c.advance first.1 first.2).1.invocation? c.batchId

namespace Call

variable {c : Call} {db : Database} {type : ReportType}

/-- A call that ends with its first request. -/
lemma run_of_ended {result : Except SubmissionError ImportOutcome}
    (h : c.advance .called db = (.ended result, db)) :
    c.invocation? db = none ∧ c.run db = (result, db) := by
  have three := c.advance_three db
  simp only [h, advance_ended, Prod.mk.injEq, Progress.ended.injEq] at three
  refine ⟨?_, Prod.ext three.1.symm three.2.symm⟩
  simp only [invocation?, h, advance_ended]
  rfl

/-- A call with a type that there is not is refused. -/
lemma run_of_no_type {message : String} (htype : ReportType.parse c.typeText = .error message) :
    c.invocation? db = none ∧ c.run db = (.error (.reportTypeInvalid c.typeText), db) := by
  have first : c.advance .called db =
      (.ended (.error (.reportTypeInvalid c.typeText)), db) := by
    simp only [advance, htype]
  exact run_of_ended first

/-- A call is refused when its batch is not there or has been imported. -/
lemma run_of_refusal (htype : ReportType.parse c.typeText = .ok type) {found : Option Batch}
    (hb : db.findBatch c.batchId = .ok found) {e : SubmissionError}
    (he : refusal? c.batchId found = some e) :
    c.invocation? db = none ∧ c.run db = (.error e, db) := by
  have first : c.advance .called db = (.ended (.error e), db) := by
    rw [advance_called htype hb, he]
  exact run_of_ended first

/-- A call that is not refused invokes the executor. -/
lemma invocation?_of_admitted (htype : ReportType.parse c.typeText = .ok type) {b : Batch}
    (hb : db.findBatch c.batchId = .ok (some b)) (hs : b.status ≠ .imported) :
    c.invocation? db =
      some ⟨c.batchId, type, (c.execute db type.procedure c.batchId).map (·.2)⟩ := by
  have first : c.advance .called db = (.admitted type, db) := by
    rw [advance_called htype hb]
    simp [refusal?, hs]
  simp only [invocation?, first, advance_admitted]
  rfl

/-- After a call that is not refused its batch shows the outcome, and nothing else has changed. -/
lemma run_of_admitted (hdb : db.HasBatches) (hc : c.LeavesBatches db)
    (htype : ReportType.parse c.typeText = .ok type) {b : Batch}
    (hb : db.findBatch c.batchId = .ok (some b)) (hs : b.status ≠ .imported) :
    let outcome := (c.execute db type.procedure c.batchId).map (·.2)
    (c.run db).2.HasBatches ∧
      (c.run db).2.findBatch c.batchId = .ok (some (noteOf type outcome b)) ∧
      (∀ other, other ≠ c.batchId → (c.run db).2.findBatch other = db.findBatch other) ∧
      (c.run db).2.table? "batch_artifact" = db.table? "batch_artifact" := by
  intro outcome
  have first : c.advance .called db = (.admitted type, db) := by
    rw [advance_called htype hb]
    simp [refusal?, hs]
  have same := sameBatches_afterExecution type hc
  obtain ⟨after, third, hafter, here, elsewhere, files⟩ := advance_executed type outcome
    (hdb.congr same) ((hdb.findBatch_congr same _).trans hb)
  have three := c.advance_three db
  simp only [first, advance_admitted] at three
  rw [third] at three
  rw [← (Prod.mk.inj three).2]
  refine ⟨hafter, here, fun other hne => ?_, files.trans same.files⟩
  exact (elsewhere other hne).trans (hdb.findBatch_congr same other)

/-- A call is refused and changes nothing, or its type is known and its batch may be imported. -/
lemma refused_or_admitted (hdb : db.HasBatches) (c : Call) :
    (c.invocation? db = none ∧ ∃ e, c.run db = (.error e, db)) ∨
      ∃ type b, ReportType.parse c.typeText = .ok type ∧ db.findBatch c.batchId = .ok (some b) ∧
        b.status ≠ .imported := by
  cases htype : ReportType.parse c.typeText with
  | error message =>
    obtain ⟨hnone, hrun⟩ := run_of_no_type htype
    exact .inl ⟨hnone, _, hrun⟩
  | ok type =>
    obtain ⟨found, hb⟩ := hdb.readable c.batchId
    cases he : refusal? c.batchId found with
    | some e =>
      obtain ⟨hnone, hrun⟩ := run_of_refusal htype hb he
      exact .inl ⟨hnone, _, hrun⟩
    | none =>
      obtain ⟨b, rfl, hs⟩ := refusal?_eq_none.mp he
      exact .inr ⟨type, b, rfl, hb, hs⟩

end Call

/-! ## Series of calls -/

/-- The invocations for a batch. -/
def invocationsFor (id : String) (history : List Invocation) : List Invocation :=
  history.filter (·.batchId == id)

/-- The batch with the outcome of the last invocation noted, if there is one. -/
def noteLast (invocations : List Invocation) (b : Batch) : Batch :=
  match invocations.getLast? with
  | none => b
  | some i => noteOf i.type i.outcome b

section

variable {history invocations : List Invocation} {i : Invocation} {id : String} {b : Batch}

/-- An invocation for the batch comes last among those for it. -/
lemma invocationsFor_append_self :
    invocationsFor i.batchId (history ++ [i]) = invocationsFor i.batchId history ++ [i] := by
  simp [invocationsFor]

/-- An invocation for another batch does not count. -/
lemma invocationsFor_append_other (h : i.batchId ≠ id) :
    invocationsFor id (history ++ [i]) = invocationsFor id history := by
  simp [invocationsFor, h]

/-- The invocation that came last is the one that is noted. -/
lemma noteLast_append : noteLast (invocations ++ [i]) b = noteOf i.type i.outcome b := by
  simp [noteLast]

/-- A batch is imported exactly if its procedure succeeded. -/
lemma statusAfter_imported {outcome : Except String Nat} :
    statusAfter outcome = .imported ↔ ∃ rows, outcome = .ok rows := by
  cases outcome <;> simp [statusAfter]

/-- An import has failed exactly if its procedure did. -/
lemma statusAfter_failed {outcome : Except String Nat} :
    statusAfter outcome = .failed ↔ ∃ message, outcome = .error message := by
  cases outcome <;> simp [statusAfter]

/-- Only the last outcome stays with a batch. -/
lemma noteOf_noteLast (type : ReportType) (outcome : Except String Nat) :
    noteOf type outcome (noteLast invocations b) = noteOf type outcome b := by
  unfold noteLast
  split <;> rfl

/-- A success among invocations is the last one, if those before have failed. -/
lemma getLast?_of_succeeded (once : ∀ i ∈ invocations.dropLast, ¬ i.Succeeded)
    (hi : i ∈ invocations) (hs : i.Succeeded) : invocations.getLast? = some i := by
  cases invocations using List.reverseRecOn with
  | nil => cases hi
  | append_singleton before j =>
    rw [List.dropLast_concat] at once
    rcases List.mem_append.mp hi with hi | hi
    · exact absurd hs (once i hi)
    · obtain rfl := List.mem_singleton.mp hi
      simp

/-- As long as the procedures before the last one have failed, a new batch shows that it is imported
if and only if some procedure was carried out. -/
lemma imported_noteLast (fresh : b.status = .parsed)
    (once : ∀ i ∈ invocations.dropLast, ¬ i.Succeeded) :
    (noteLast invocations b).status = .imported ↔ ∃ i ∈ invocations, i.Succeeded := by
  induction invocations using List.reverseRecOn with
  | nil => simp [noteLast, fresh]
  | append_singleton before i _ =>
    rw [List.dropLast_concat] at once
    rw [noteLast_append]
    constructor
    · intro h
      exact ⟨i, by simp, statusAfter_imported.mp h⟩
    · rintro ⟨j, hj, hs⟩
      have last := getLast?_of_succeeded (by rwa [List.dropLast_concat]) hj hs
      obtain rfl : i = j := by simpa using last
      exact statusAfter_imported.mpr hs

end

/-- What is true after calls on a database: the batches show their last outcomes, and an executor
was invoked only for batches that are there and never after it had succeeded. -/
structure Lifecycle (start db : Database) (history : List Invocation) : Prop where
  batches : db.HasBatches
  files : db.table? "batch_artifact" = start.table? "batch_artifact"
  shown : ∀ id, db.findBatch id =
    (start.findBatch id).map (·.map (noteLast (invocationsFor id history)))
  known : ∀ i ∈ history, ∃ b, start.findBatch i.batchId = .ok (some b)
  once : ∀ id, ∀ i ∈ (invocationsFor id history).dropLast, ¬ i.Succeeded

section

variable {start db : Database} {history : List Invocation}

/-- At the start nothing has happened. -/
lemma Lifecycle.refl (hstart : start.HasBatches) : Lifecycle start start [] := by
  refine ⟨hstart, rfl, fun id => ?_, nofun, nofun⟩
  obtain ⟨found, hb⟩ := hstart.readable id
  rw [hb]
  cases found <;> rfl

/-- A batch that is there now was there at the start. -/
lemma Lifecycle.found (h : Lifecycle start db history) {id : String} {b : Batch}
    (hb : db.findBatch id = .ok (some b)) :
    ∃ b₀, start.findBatch id = .ok (some b₀) ∧ b = noteLast (invocationsFor id history) b₀ := by
  rw [h.shown] at hb
  cases h₀ : start.findBatch id with
  | error e => simp [h₀, Except.map] at hb
  | ok found =>
    cases found with
    | none => simp [h₀, Except.map] at hb
    | some b₀ => exact ⟨b₀, rfl, by simpa [h₀, Except.map, eq_comm] using hb⟩

/-- A call that is admitted keeps to the lifecycle. -/
lemma Lifecycle.admitted (fresh : ∀ id b, start.findBatch id = .ok (some b) → b.status = .parsed)
    (h : Lifecycle start db history) {c : Call} (hc : c.LeavesBatches db) {type : ReportType}
    (htype : ReportType.parse c.typeText = .ok type) {b : Batch}
    (hb : db.findBatch c.batchId = .ok (some b)) (hs : b.status ≠ .imported) :
    Lifecycle start (c.run db).2 (history ++
      [⟨c.batchId, type, (c.execute db type.procedure c.batchId).map (·.2)⟩]) := by
  obtain ⟨b₀, h₀, rfl⟩ := h.found hb
  obtain ⟨hafter, here, elsewhere, files⟩ := Call.run_of_admitted h.batches hc htype hb hs
  generalize (c.execute db type.procedure c.batchId).map (·.2) = outcome at *
  have more : invocationsFor c.batchId (history ++ [⟨c.batchId, type, outcome⟩]) =
      invocationsFor c.batchId history ++ [⟨c.batchId, type, outcome⟩] :=
    invocationsFor_append_self (i := ⟨c.batchId, type, outcome⟩)
  have same : ∀ id, c.batchId ≠ id →
      invocationsFor id (history ++ [⟨c.batchId, type, outcome⟩]) = invocationsFor id history :=
    fun id hid => invocationsFor_append_other hid
  refine ⟨hafter, files.trans h.files, fun id => ?_, ?_, fun id => ?_⟩
  · by_cases hid : c.batchId = id
    · subst hid
      rw [here, h₀, noteOf_noteLast, more]
      simp [Except.map, noteLast_append]
    · rw [elsewhere id (Ne.symm hid), h.shown, same id hid]
  · intro j hj
    rcases List.mem_append.mp hj with hj | hj
    · exact h.known j hj
    · obtain rfl := List.mem_singleton.mp hj
      exact ⟨b₀, h₀⟩
  · by_cases hid : c.batchId = id
    · subst hid
      rw [more, List.dropLast_concat]
      -- an earlier success would have had the call refused
      intro j hj hsucc
      exact hs ((imported_noteLast (fresh _ _ h₀) (h.once _)).mpr ⟨j, hj, hsucc⟩)
    · rw [same id hid]
      exact h.once id

/-- One call keeps to the lifecycle. -/
lemma Lifecycle.call (fresh : ∀ id b, start.findBatch id = .ok (some b) → b.status = .parsed)
    (h : Lifecycle start db history) (c : Call) (hc : c.LeavesBatches db) :
    Lifecycle start (c.run db).2 (history ++ (c.invocation? db).toList) := by
  rcases c.refused_or_admitted h.batches with ⟨hnone, e, hrun⟩ | ⟨type, b, htype, hb, hs⟩
  · rw [hnone, hrun]
    simpa using h
  · rw [Call.invocation?_of_admitted htype hb hs]
    exact h.admitted fresh hc htype hb hs

section

variable (fresh : ∀ id b, start.findBatch id = .ok (some b) → b.status = .parsed)
  (h : Lifecycle start db history)

include fresh h

/-- A batch shows by its status whether a procedure ran for it, and how the last one ended. -/
lemma Lifecycle.status {id : String} {b₀ : Batch} (h₀ : start.findBatch id = .ok (some b₀)) :
    ∃ b, db.findBatch id = .ok (some b) ∧
      (b.status = .parsed ↔ ∀ i ∈ history, i.batchId ≠ id) ∧
      (b.status = .failed ↔ ∃ i message, (invocationsFor id history).getLast? = some i ∧
        i.outcome = .error message) ∧
      ∀ i message, (invocationsFor id history).getLast? = some i → i.outcome = .error message →
        b.lastMessage = some message := by
  have hb : db.findBatch id = .ok (some (noteLast (invocationsFor id history) b₀)) := by
    rw [h.shown, h₀]
    rfl
  refine ⟨_, hb, ?_⟩
  have never : invocationsFor id history = [] ↔ ∀ i ∈ history, i.batchId ≠ id := by
    simp [invocationsFor]
  rw [← never]
  unfold noteLast
  -- by the last invocation, whose outcome is the one that is noted
  cases hlast : (invocationsFor id history).getLast? with
  | none =>
    have hnil := List.getLast?_eq_none_iff.mp hlast
    simp [hnil, fresh id b₀ h₀]
  | some i =>
    have hne : invocationsFor id history ≠ [] := by
      rintro hnil
      simp [hnil] at hlast
    refine ⟨?_, ?_, ?_⟩
    · constructor
      · intro hparsed
        cases ho : i.outcome <;> simp [noteOf, statusAfter, ho] at hparsed
      · exact fun hnil => absurd hnil hne
    · simp [noteOf, statusAfter_failed]
    · rintro j message hj ho
      obtain rfl := Option.some.inj hj
      simp [noteOf, messageAfter, ho]

end

end

namespace Sample

/-- A batch with one file. -/
def batch : Batch :=
  Batch.new "b1" 7 [⟨"Voyage", "/u/b1/Voyage.csv", 3, false⟩] ⟨0, 0, 0⟩

/-- The row of the batch. -/
def batchRow : Store.Row :=
  ⟨1, Database.batchValues batch⟩

/-- The rows of the batch and its file in their tables. -/
def rowsOf (s : Store.Shape) : List Store.Row :=
  if s.name = "import_batch" then [batchRow]
  else if s.name = "batch_artifact" then
    batch.artifacts.map fun a => ⟨1, Database.artifactValues batch.id a⟩
  else []

/-- A database with the batch. -/
def stored : Database where
  tables := Store.Schema.all.map fun s => ⟨s, rowsOf s⟩
  views := []
  enforcing := true

/-- The stored batch is the only one. -/
lemma stored_batches :
    stored.table? "import_batch" = some ⟨Store.Schema.batch, [batchRow]⟩ := by
  rfl

/-- The table of files is there. -/
lemma stored_files :
    stored.table? "batch_artifact" =
      some ⟨Store.Schema.artifact, rowsOf Store.Schema.artifact⟩ := by
  rfl

/-- The stored batch is found. -/
lemma find_stored : stored.findBatch "b1" = .ok (some batch) := by
  have found : [batchRow].find? (Database.isBatch "b1") = some batchRow := rfl
  have files : stored.artifacts "b1" = .ok batch.artifacts := by
    rw [Database.artifacts_eq stored_files rfl]
    rfl
  rw [Database.findBatch_eq stored_batches rfl, found]
  unfold Database.batchOfRow
  rw [files]
  rfl

/-- There is no other batch. -/
lemma find_stored_other {id : String} (h : id ≠ "b1") : stored.findBatch id = .ok none := by
  have missing : [batchRow].find? (Database.isBatch id) = none := by
    rw [List.find?_singleton, if_neg]
    intro hb
    have own : Database.isBatch "b1" batchRow := rfl
    exact h (Database.isBatch_unique own hb)
  rw [Database.findBatch_eq stored_batches rfl, missing]

/-- The stored batches can be read. -/
lemma stored_hasBatches : stored.HasBatches := by
  refine ⟨⟨_, stored_batches, rfl, ?_⟩, ⟨_, stored_files⟩, fun id => ?_⟩
  · intro r hr
    obtain rfl := List.mem_singleton.mp hr
    rfl
  · by_cases h : id = "b1"
    · rw [h]
      exact ⟨_, find_stored⟩
    · exact ⟨_, find_stored_other h⟩

/-- A call for the batch whose procedure fails. -/
def failing : Call where
  batchId := "b1"
  typeText := "voyage"
  execute _ _ _ := .error "ORA-20001: no voyage"

/-- A call for the batch whose procedure changes four rows. -/
def succeeding : Call where
  batchId := "b1"
  typeText := " Bulk "
  execute db _ _ := .ok (db, 4)

/-- The call that fails leaves all batches. -/
lemma failing_leavesBatches (db : Database) : failing.LeavesBatches db := by
  intro type after rows h
  cases h

/-- The call that succeeds leaves all batches. -/
lemma succeeding_leavesBatches (db : Database) : succeeding.LeavesBatches db := by
  intro type after rows h
  obtain ⟨rfl, -⟩ := Prod.mk.inj (Except.ok.inj h)
  exact ⟨rfl, rfl⟩

end Sample

end ShipReport.Service
