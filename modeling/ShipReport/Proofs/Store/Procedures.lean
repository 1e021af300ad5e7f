import ShipReport.Proofs.Store.Statements

/-!
# Procedures run as a whole

A procedure that succeeds has run all statements of its script, one after the other, and answers how
many rows they changed together. One that fails leaves the database as it was, however many of its
statements ran.
-/

namespace ShipReport.Store

namespace Engine

/-! ## Runs of scripts -/

/-- A statement that was run: the script at whose front it stood, the database before it, and what
it changed there. -/
structure RanStatement where
  script : List Char
  before : Database
  changes : List Change

namespace RanStatement

/-- The database after the statement. -/
def after (s : RanStatement) : Database :=
  s.before.changedBy s.changes

/-- How many rows the statement changed. -/
def changed (s : RanStatement) : Nat :=
  s.before.rowsChangedBy s.changes

/-- What the statement counts: the rows that it adds, removes or changes. Where it is one of the
statements that there are, it does to the database what that does; where it makes a table or an
index, it counts none. -/
structure Counted (batchId : String) (s : RanStatement) : Prop where
  counts : ∀ statement rest changes, nextStatement s.script = .ok (some (statement, rest)) →
    s.before.runStatement batchId (String.ofList s.script) statement = .ok changes →
      s.before.Counts batchId statement s.after s.changed
  definitions : Defines s.script → s.changed = 0

end RanStatement

/-- The statements of a script run one after the other, all of them and to their ends. -/
inductive Runs (engine : Engine) (batchId : String) :
    Database → List Char → List RanStatement → Database → Prop where
  | done {db : Database} {script : List Char} (h : engine.step batchId db script = .done) :
      Runs engine batchId db script [] db
  | ran {db after : Database} {script rest : List Char} {changes : List Change}
      {statements : List RanStatement} (h : engine.step batchId db script = .ran changes rest)
      (others : Runs engine batchId (db.changedBy changes) rest statements after) :
      Runs engine batchId db script (⟨script, db, changes⟩ :: statements) after

/-- What engines keep to. A statement that is read is a part of the script. The statements that
there are change what they change with every engine that runs them, and count as many rows. What
makes a table or an index changes only what the database is made of. -/
structure Lawful (engine : Engine) : Prop where
  advances {batchId : String} {db : Database} {script rest : List Char} {changes : List Change} :
    engine.step batchId db script = .ran changes rest → rest.length < script.length
  agrees {batchId : String} {db : Database} {script rest rest' : List Char}
      {changes changes' : List Change} :
    engine.step batchId db script = .ran changes rest →
      statements.step batchId db script = .ran changes' rest' →
        db.changedBy changes = db.changedBy changes' ∧
          db.rowsChangedBy changes = db.rowsChangedBy changes'
  definitions {batchId : String} {db : Database} {script rest : List Char}
      {changes : List Change} :
    engine.step batchId db script = .ran changes rest → Defines script →
      ∀ c ∈ changes, c.IsDefinition

section

variable {engine : Engine} {batchId : String} {c last : Connection} {db after : Database}
  {script rest : List Char} {changes : List Change} {statements : List RanStatement}

/-- Where no statement is left, nothing is run. -/
lemma Runs.of_done (step : engine.step batchId db script = .done)
    (run : engine.Runs batchId db script statements after) : statements = [] ∧ after = db := by
  cases run with
  | done => exact ⟨rfl, rfl⟩
  | ran h => cases step.symm.trans h

/-- The statement at the front is run first, and the others after it. -/
lemma Runs.of_ran (step : engine.step batchId db script = .ran changes rest)
    (run : engine.Runs batchId db script statements after) :
    ∃ others, statements = ⟨script, db, changes⟩ :: others ∧
      engine.Runs batchId (db.changedBy changes) rest others after := by
  cases run with
  | done h => cases step.symm.trans h
  | ran h others =>
    cases step.symm.trans h
    exact ⟨_, rfl, others⟩

/-- A script whose first statement fails is not run to its end. -/
lemma Runs.not_of_failed {failure : Failure}
    (step : engine.step batchId db script = .failed changes failure) :
    ¬ engine.Runs batchId db script statements after := by
  intro run
  cases run with
  | done h => cases step.symm.trans h
  | ran h => cases step.symm.trans h

/-- With fuel for each character, exactly the whole script is run, and the rows that its statements
changed are added to the total. -/
lemma runFrom_eq_ok (lawful : engine.Lawful) {fuel : Nat} (enough : script.length < fuel) :
    engine.runFrom batchId fuel c script = (last, .ok ()) ↔
      ∃ statements, engine.Runs batchId c.database script statements last.database ∧
        last.total = c.total + (statements.map (·.changed)).sum := by
  -- on the fuel, for every connection, as each statement leaves a shorter script and another database
  induction fuel generalizing c script with
  | zero => omega
  | succ fuel ih =>
    rw [runFrom]
    cases step : engine.step batchId c.database script with
    | done =>
      dsimp only
      constructor
      · rintro ⟨⟩
        exact ⟨[], .done step, rfl⟩
      · rintro ⟨statements, run, total⟩
        obtain ⟨rfl, same⟩ := run.of_done step
        obtain ⟨db, n⟩ := c
        obtain ⟨left, m⟩ := last
        obtain rfl : left = db := same
        obtain rfl : m = n := total
        rfl
    | ran changes rest =>
      have shorter := lawful.advances step
      refine (ih (c := c.make changes) (by omega)).trans ⟨?_, ?_⟩
      · rintro ⟨statements, run, total⟩
        refine ⟨_, .ran step run, ?_⟩
        rw [total, List.map_cons, List.sum_cons, ← Nat.add_assoc]
        rfl
      · rintro ⟨statements, run, total⟩
        obtain ⟨others, rfl, later⟩ := run.of_ran step
        refine ⟨others, later, ?_⟩
        rw [total, List.map_cons, List.sum_cons, ← Nat.add_assoc]
        rfl
    | failed changes failure =>
      exact iff_of_false nofun fun ⟨_, run, _⟩ => Runs.not_of_failed step run

/-- The changes of all statements, made one after the other, lead to the database after a run. -/
lemma Runs.changedBy (run : engine.Runs batchId db script statements after) :
    after = db.changedBy (statements.flatMap (·.changes)) := by
  induction run with
  | done => rfl
  | ran h _ ih => rw [ih, List.flatMap_cons, Database.changedBy_append]

/-- The rows that the statements of a run changed are those of all their changes. -/
lemma Runs.rowsChangedBy (run : engine.Runs batchId db script statements after) :
    (statements.map (·.changed)).sum = db.rowsChangedBy (statements.flatMap (·.changes)) := by
  induction run with
  | done => rfl
  | ran h _ ih =>
    rw [List.map_cons, List.sum_cons, ih, List.flatMap_cons, Database.rowsChangedBy_append]
    rfl

/-- A statement that there is counts what it changes, whatever engine runs it. -/
lemma counts_of_step (lawful : engine.Lawful)
    (h : engine.step batchId db script = .ran changes rest) {statement : Statement}
    {rest' : List Char} {changes' : List Change}
    (found : nextStatement script = .ok (some (statement, rest')))
    (run : db.runStatement batchId (String.ofList script) statement = .ok changes') :
    db.Counts batchId statement (db.changedBy changes) (db.rowsChangedBy changes) := by
  have modelled : Engine.statements.step batchId db script = .ran changes' rest' := by
    unfold Engine.statements
    dsimp only
    rw [found]
    dsimp only
    rw [run]
  obtain ⟨same, count⟩ := lawful.agrees h modelled
  rw [same, count]
  exact Database.runStatement_counts run

/-- Each statement of a run counts the rows that it changes. -/
lemma Runs.counted (lawful : engine.Lawful)
    (run : engine.Runs batchId db script statements after) :
    ∀ s ∈ statements, s.Counted batchId := by
  induction run with
  | done => exact List.forall_mem_nil _
  | ran h _ ih =>
    refine List.forall_mem_cons.mpr ⟨⟨fun _ _ _ => counts_of_step lawful h, fun defines => ?_⟩, ih⟩
    exact Database.rowsChangedBy_of_definitions (lawful.definitions h defines)

end

/-! ## Transactions -/

section

variable {engine : Engine} {batchId procedure message : String} {c after : Connection} {rows : Nat}

/-- A script that fails leaves the database. -/
lemma runScript_error {body : String} {failure : Failure}
    (h : engine.runScript batchId c body = (after, .error failure)) :
    after.database = c.database := by
  unfold runScript at h
  split at h
  · cases h
    rfl
  · split at h
    · cases h
    · cases h
      rfl

/-- A script that succeeds has been run as a whole. -/
lemma runScript_ok (lawful : engine.Lawful) {body : String}
    (h : engine.runScript batchId c body = (after, .ok rows)) :
    ∃ statements, engine.Runs batchId c.database body.toList statements after.database ∧
      rows = (statements.map (·.changed)).sum := by
  unfold runScript at h
  split at h
  · cases h
  · next ran =>
    split at h
    · cases h
      have enough : body.toList.length < body.length + 1 := by
        rw [String.length_toList]
        omega
      obtain ⟨statements, run, total⟩ := (runFrom_eq_ok lawful enough).mp ran
      exact ⟨statements, run, by omega⟩
    · cases h

/-- A procedure that fails leaves the database. -/
lemma perform_error (h : engine.perform procedure batchId c = (after, .error message)) :
    after.database = c.database := by
  unfold perform at h
  split at h
  · cases h
    rfl
  · cases h
    rfl
  · next body _ =>
    cases ran : engine.runScript batchId c body with
    | mk last result =>
      rw [ran] at h
      cases result with
      | ok rows => cases h
      | error failure =>
        cases h
        exact runScript_error ran

/-- A procedure that succeeds is registered, and its script has been run as a whole. -/
lemma perform_ok (lawful : engine.Lawful)
    (h : engine.perform procedure batchId c = (after, .ok rows)) :
    ∃ body statements, c.database.script? procedure = .ok (some body) ∧
      engine.Runs batchId c.database body.toList statements after.database ∧
      rows = (statements.map (·.changed)).sum := by
  unfold perform at h
  split at h
  · cases h
  · cases h
  · next body registered =>
    cases ran : engine.runScript batchId c body with
    | mk last result =>
      rw [ran] at h
      cases result with
      | ok rows =>
        cases h
        obtain ⟨statements, run, count⟩ := runScript_ok lawful ran
        exact ⟨body, statements, registered, run, count⟩
      | error failure => cases h

end

/-! ## The engine for the statements that there are -/

section

variable {batchId script : String} {db : Database} {text rest : List Char} {changes : List Change}

/-- A step of the engine for the statements that there are runs the statement at the front. -/
lemma statements_step (h : statements.step batchId db text = .ran changes rest) :
    ∃ s, nextStatement text = .ok (some (s, rest)) ∧
      db.runStatement batchId (String.ofList text) s = .ok changes := by
  unfold statements at h
  dsimp only at h
  split at h
  · cases h
  · cases h
  · next s _ found =>
    split at h
    · next run =>
      cases h
      exact ⟨s, found, run⟩
    · cases h

/-- The engine for the statements that there are keeps to what is expected. -/
lemma statements_lawful : statements.Lawful where
  advances h := by
    obtain ⟨s, found, -⟩ := statements_step h
    exact nextStatement_shorter found
  agrees h h' := by
    cases h.symm.trans h'
    exact ⟨rfl, rfl⟩
  definitions h defines := by
    obtain ⟨s, found, run⟩ := statements_step h
    exact Database.definitions_of_runStatement (isDefinition_of_defines defines found) run

end

end Engine

end ShipReport.Store
