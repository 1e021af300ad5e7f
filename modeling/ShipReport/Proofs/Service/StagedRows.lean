import ShipReport.Proofs.Service.Work
import ShipReport.Proofs.Store.Rows
import ShipReport.Proofs.Submission.StagingNames

/-!
# Rows loaded into staging tables

Loading the rows of a sheet replaces the rows of its staging table, in one request that succeeds or
leaves everything as it was. The other staging tables stay as they are.
-/

namespace ShipReport

namespace Service

open Report (ReportSheet)
open Store (Database Table Apart numbered)
open Submission (ParsedSheet SubmissionError isReadable_stagingTable stagingTable
  sameName_stagingTable)

/-- A table for texts under a name, whose columns have different names. -/
structure IsStaging (table : String) (t : Table) : Prop where
  shape : t.shape = Database.textShape table t.shape.columnNames
  apart : Apart t.shape.columnNames
  given : t.shape.columnNames ≠ []

/-- The table holds the given rows, each text under its column, and no others. -/
def Holds (rows : List (List String)) (t : Table) : Prop :=
  t.rows.map (·.values) = rows.map (Table.texts t.shape.columnNames)

/-- The table with its rows replaced. -/
def reloaded (rows : List (List String)) (t : Table) : Table :=
  { t with rows := numbered 1 (rows.map (Table.texts t.shape.columnNames)) }

section

variable {table : String} {t : Table} {rows : List (List String)}

/-- A table whose rows were replaced holds the new ones. -/
lemma holds_reloaded (rows : List (List String)) (t : Table) : Holds rows (reloaded rows t) :=
  Store.numbered_values 1 _

/-- Replacing the rows leaves the shape. -/
lemma IsStaging.reload (h : IsStaging table t) (rows : List (List String)) :
    IsStaging table (reloaded rows t) :=
  ⟨h.shape, h.apart, h.given⟩

/-- A staging table has the name that its columns are under. -/
lemma IsStaging.name (h : IsStaging table t) : t.shape.name = table := by
  rw [h.shape]
  rfl

/-- A staging table is found under its name. -/
lemma IsStaging.named (h : IsStaging table t) : Store.sameName t.shape.name table := by
  rw [h.name]
  exact Store.sameName_self table

end

section

variable {db : Database} {table spelled : String} {t : Table}

/-- Under a name that is not read in a statement nothing is loaded. -/
lemma loadRows_unreadable (unreadable : ¬ Store.IsReadable table) (rows : List (List String)) :
    ∃ e, (loadRows table rows).runOn db = (.error e, db) := by
  refine ⟨.store (.ofFailure (Store.unreadableName "PRAGMA table_info(" table ")")), ?_⟩
  unfold loadRows Work.runOn Work.change
  simp only [Database.tableColumns_error unreadable]
  rfl

/-- Rows are loaded into a table that can be cleared, however its name is spelled. -/
lemma loadRows_of_clear {cleared : Database} (readable : Store.IsReadable table)
    (ht : db.table? table = some t)
    (staging : IsStaging spelled t) (same : Store.sameName spelled table)
    (h : db.clear table = .ok cleared) (rows : List (List String)) :
    (loadRows table rows).runOn db =
      (.ok (some rows.length), db.put table (reloaded rows t)) := by
  have columns : db.columnNames table = t.shape.columnNames := Database.columnNames_of_table ht
  have replaced : db.replaceRows table t.shape.columnNames rows =
      .ok (db.put table (reloaded rows t), rows.length) :=
    Database.replaceRows_eq readable ht staging.shape same staging.apart staging.given h rows
  have given : t.shape.columnNames.isEmpty = false :=
    List.isEmpty_eq_false_iff.mpr staging.given
  unfold loadRows Work.runOn Work.change
  simp only [Database.tableColumns_eq readable, mapError_ok, ok_bind, columns, replaced, given]
  rfl

/-- Rows are loaded into their table or nothing is changed. -/
lemma loadRows_cases (ht : db.table? table = some t) (staging : IsStaging table t)
    (rows : List (List String)) :
    (∃ e, (loadRows table rows).runOn db = (.error e, db)) ∨
      (loadRows table rows).runOn db =
        (.ok (some rows.length), db.put table (reloaded rows t)) := by
  by_cases readable : Store.IsReadable table
  swap
  · exact .inl (loadRows_unreadable readable rows)
  cases h : db.clear table with
  | ok cleared =>
    exact .inr (loadRows_of_clear readable ht staging (Store.sameName_self table) h rows)
  | error f =>
    have columns : db.columnNames table = t.shape.columnNames := Database.columnNames_of_table ht
    have given : t.shape.columnNames.isEmpty = false :=
      List.isEmpty_eq_false_iff.mpr staging.given
    have failed : db.replaceRows table t.shape.columnNames rows = .error (.ofFailure f) := by
      unfold Database.replaceRows
      rw [Database.checkName_eq readable, h]
      rfl
    refine .inl ⟨.staging table (Store.StoreError.ofFailure f).message, ?_⟩
    unfold loadRows Work.runOn Work.change
    simp only [Database.tableColumns_eq readable, mapError_ok, ok_bind, columns, failed, given]
    rfl

end

/-- Staging a sheet is loading its rows. -/
lemma stageSheet_runOn (code : String) (s : ParsedSheet) (h : Holdings) :
    (stageSheet code s).runOn h =
      match (loadRows (stagingTable code s.kind) s.rows).runOn h.database with
      | (.ok count, db) =>
        (.ok (count.map fun n => (stagingTable code s.kind, n)), { h with database := db })
      | (.error e, db) => (.error (.ofSubmission e), { h with database := db }) := by
  have loaded : ∀ work : Work Database SubmissionError (Option Nat),
      (onDatabase (work.orError ServiceError.ofSubmission)).runOn h =
        ((work.runOn h.database).1.mapError .ofSubmission,
          { h with database := (work.runOn h.database).2 }) := fun _ => rfl
  unfold stageSheet
  dsimp only
  rw [Work.runOn_bind, loaded]
  obtain ⟨result, db⟩ := (loadRows (stagingTable code s.kind) s.rows).runOn h.database
  cases result <;> rfl

/-- A sheet of a vessel is loaded into its table or nothing is changed. -/
lemma stageSheet_cases {code : String} {s : ParsedSheet} {h : Holdings} {t : Table}
    (ht : h.database.table? (stagingTable code s.kind) = some t)
    (staging : IsStaging (stagingTable code s.kind) t) :
    (∃ e, (stageSheet code s).runOn h = (.error e, h)) ∨
      (stageSheet code s).runOn h =
        (.ok (some (stagingTable code s.kind, s.rows.length)),
          { h with database :=
              h.database.put (stagingTable code s.kind) (reloaded s.rows t) }) := by
  rw [stageSheet_runOn]
  rcases loadRows_cases ht staging s.rows with ⟨e, failed⟩ | loaded
  · rw [failed]
    exact .inl ⟨_, rfl⟩
  · rw [loaded]
    exact .inr rfl

/-! ## The staging tables of a vessel -/

/-- All staging tables of a vessel are there. -/
def HasStaging (code : String) (db : Database) : Prop :=
  ∀ k : ReportSheet, ∃ t, db.table? (stagingTable code k) = some t ∧
    IsStaging (stagingTable code k) t

/-- The staging table of a sheet holds its rows and no others. -/
def HoldsSheet (code : String) (s : ParsedSheet) (db : Database) : Prop :=
  ∃ t, db.table? (stagingTable code s.kind) = some t ∧ Holds s.rows t

section

variable {code : String} {db : Database} {j k : ReportSheet} {t u : Table}

/-- Replacing the staging table of one sheet leaves those of the others. -/
lemma staging_put_other (hu : IsStaging (stagingTable code k) u) (hjk : j ≠ k) :
    (db.put (stagingTable code k) u).table? (stagingTable code j) =
      db.table? (stagingTable code j) :=
  Database.table?_put_other hu.named fun same => hjk (sameName_stagingTable.mp same).2.symm

/-- Replacing a staging table leaves all of them there. -/
lemma HasStaging.put (h : HasStaging code db) (hu : IsStaging (stagingTable code k) u) :
    HasStaging code (db.put (stagingTable code k) u) := by
  intro j
  by_cases hjk : j = k
  · subst hjk
    obtain ⟨t, ht, -⟩ := h j
    exact ⟨u, Database.table?_put_self ht hu.named, hu⟩
  · rw [staging_put_other hu hjk]
    exact h j

/-- Replacing the staging table of another kind leaves the rows of a sheet. -/
lemma HoldsSheet.put_other {s : ParsedSheet} (h : HoldsSheet code s db)
    (hu : IsStaging (stagingTable code k) u) (hk : s.kind ≠ k) :
    HoldsSheet code s (db.put (stagingTable code k) u) := by
  unfold HoldsSheet
  rw [staging_put_other hu hk]
  exact h

/-- A staging table that was loaded holds the rows of the sheet. -/
lemma holdsSheet_put {s : ParsedSheet} (ht : db.table? (stagingTable code s.kind) = some t)
    (staging : IsStaging (stagingTable code s.kind) t) :
    HoldsSheet code s (db.put (stagingTable code s.kind) (reloaded s.rows t)) :=
  ⟨_, Database.table?_put_self ht (staging.reload _).named, holds_reloaded s.rows t⟩

end

/-! ## Databases without references -/

/-- No table refers to another one. -/
def Unreferred (db : Database) : Prop :=
  ∀ t ∈ db.tables, t.shape.references = []

/-- A staging table refers to no other one. -/
lemma IsStaging.references {table : String} {t : Table} (h : IsStaging table t) :
    t.shape.references = [] := by
  rw [h.shape]
  rfl

/-- Replacing a table by one without references brings in none. -/
lemma Unreferred.put {db : Database} (h : Unreferred db) {name : String} {u : Table}
    (hu : u.shape.references = []) : Unreferred (db.put name u) := by
  intro t ht
  obtain ⟨v, hv, rfl⟩ := List.mem_map.mp ht
  split
  · exact hu
  · exact h v hv

/-- A sheet is always loaded into its table if no table refers to it. -/
lemma stageSheet_of_unreferred {code : String} {s : ParsedSheet} {h : Holdings} {t : Table}
    (free : Unreferred h.database)
    (ht : h.database.table? (stagingTable code s.kind) = some t)
    (staging : IsStaging (stagingTable code s.kind) t) :
    (stageSheet code s).runOn h =
      (.ok (some (stagingTable code s.kind, s.rows.length)),
        { h with database :=
            h.database.put (stagingTable code s.kind) (reloaded s.rows t) }) := by
  have cleared : h.database.clear (stagingTable code s.kind) =
      .ok (h.database.put (stagingTable code s.kind) { t with rows := [] }) := by
    refine Database.clear_eq ht staging.references fun u hu r hr => ?_
    rw [free u hu] at hr
    cases hr
  rw [stageSheet_runOn, loadRows_of_clear (isReadable_stagingTable code s.kind) ht staging
    (Store.sameName_self _) cleared]
  rfl

/-! ## All sheets of an upload -/

/-- Without a table no rows are loaded. -/
lemma loadRows_missing {db : Database} {table : String} (readable : Store.IsReadable table)
    (ht : db.table? table = none) (view : db.view? table = none) (rows : List (List String)) :
    (loadRows table rows).runOn db = (.ok none, db) := by
  have columns : db.columnNames table = [] := by
    unfold Database.columnNames
    rw [ht, view]
  unfold loadRows Work.runOn Work.change
  simp only [Database.tableColumns_eq readable, mapError_ok, ok_bind, columns]
  rfl

/-- Without a table no rows are loaded; under the name of a view it is an error. -/
lemma loadRows_of_none {db : Database} {table : String} (ht : db.table? table = none)
    (rows : List (List String)) :
    (loadRows table rows).runOn db = (.ok none, db) ∨
      ∃ e, (loadRows table rows).runOn db = (.error e, db) := by
  by_cases readable : Store.IsReadable table
  swap
  · exact .inr (loadRows_unreadable readable rows)
  cases view : db.view? table with
  | none => exact .inl (loadRows_missing readable ht view rows)
  | some v =>
    have columns : db.columnNames table = ["one"] := by
      unfold Database.columnNames
      rw [ht, view]
    have refused : db.replaceRows table ["one"] rows =
        .error (.ofFailure (Store.Fault.isView v).failure) := by
      unfold Database.replaceRows Database.clear Database.writable
      rw [Database.checkName_eq readable, ht, view]
      rfl
    refine .inr ⟨.staging table (Store.StoreError.ofFailure (Store.Fault.isView v).failure).message,
      ?_⟩
    unfold loadRows Work.runOn Work.change
    simp only [Database.tableColumns_eq readable, mapError_ok, ok_bind, columns, refused]
    rfl

/-- Without a staging table a sheet is not loaded. -/
lemma stageSheet_of_none {code : String} {s : ParsedSheet} {h after : Holdings}
    {count : Option (String × Nat)} (ht : h.database.table? (stagingTable code s.kind) = none)
    (run : (stageSheet code s).runOn h = (.ok count, after)) : count = none ∧ after = h := by
  rw [stageSheet_runOn] at run
  rcases loadRows_of_none ht s.rows with loaded | ⟨e, loaded⟩
  · rw [loaded] at run
    cases run
    exact ⟨rfl, rfl⟩
  · rw [loaded] at run
    cases run

/-- The staging table of a sheet and the number of its rows, if there is such a table. -/
def stagedCount (code : String) (db : Database) (s : ParsedSheet) : Option (String × Nat) :=
  (db.table? (stagingTable code s.kind)).map fun _ => (stagingTable code s.kind, s.rows.length)

/-- What the staging of sheets did: the tables that there are hold the rows of their sheets, and
nothing else has changed. -/
structure Staged (code : String) (sheets : List ParsedSheet) (h after : Holdings)
    (tables : List (String × Nat)) : Prop where
  counts : tables = sheets.filterMap (stagedCount code h.database)
  rows : ∀ s ∈ sheets, after.database.table? (stagingTable code s.kind) =
    (h.database.table? (stagingTable code s.kind)).map (reloaded s.rows)
  others : h.database.ChangesOnly (sheets.map fun s => stagingTable code s.kind) after.database
  files : after.files = h.files

section

variable {code : String} {h between after : Holdings}

/-- Staging sheets leaves the tables of the other kinds. -/
lemma Staged.table_other {sheets : List ParsedSheet} {counts : List (String × Nat)}
    {k : ReportSheet} (staged : Staged code sheets h after counts)
    (hk : k ∉ sheets.map (·.kind)) :
    after.database.table? (stagingTable code k) = h.database.table? (stagingTable code k) := by
  refine staged.others.tables _ fun name hname same => hk ?_
  obtain ⟨s, hs, rfl⟩ := List.mem_map.mp hname
  rw [← (sameName_stagingTable.mp same).2]
  exact List.mem_map_of_mem hs

/-- Staging a sheet leaves the tables for sheets of other kinds. -/
lemma Staged.table_rest {s t : ParsedSheet} {sheets : List ParsedSheet}
    {first : List (String × Nat)} (own : Staged code [s] h between first)
    (other : s.kind ∉ sheets.map (·.kind)) (ht : t ∈ sheets) :
    between.database.table? (stagingTable code t.kind) =
      h.database.table? (stagingTable code t.kind) := by
  refine own.table_other fun same => other ?_
  have kind : t.kind = s.kind := List.mem_singleton.mp same
  exact List.mem_map.mpr ⟨t, ht, kind⟩

/-- A sheet and then sheets of other kinds were staged. -/
lemma Staged.append {s : ParsedSheet} {sheets : List ParsedSheet}
    {first counts : List (String × Nat)} (own : Staged code [s] h between first)
    (other : s.kind ∉ sheets.map (·.kind)) (rest : Staged code sheets between after counts) :
    Staged code (s :: sheets) h after (first ++ counts) := by
  refine ⟨?_, List.forall_mem_cons.mpr ⟨?_, fun t ht => ?_⟩, ?_, rest.files.trans own.files⟩
  · have same : sheets.filterMap (stagedCount code between.database) =
        sheets.filterMap (stagedCount code h.database) :=
      List.filterMap_congr fun t ht => by rw [stagedCount, stagedCount, own.table_rest other ht]
    rw [own.counts, rest.counts, same, ← List.filterMap_append, List.singleton_append]
  · rw [rest.table_other other]
    exact own.rows s List.mem_cons_self
  · rw [rest.rows t ht, own.table_rest other ht]
  · exact (own.others.mono (by simp)).trans (rest.others.mono (by simp))

/-- A sheet that was staged is in its table, if there is one. -/
lemma stageSheet_eq_ok {s : ParsedSheet} {count : Option (String × Nat)}
    (tables : ∀ t, h.database.table? (stagingTable code s.kind) = some t →
      IsStaging (stagingTable code s.kind) t)
    (run : (stageSheet code s).runOn h = (.ok count, after)) :
    Staged code [s] h after count.toList := by
  cases found : h.database.table? (stagingTable code s.kind) with
  | none =>
    obtain ⟨rfl, rfl⟩ := stageSheet_of_none found run
    exact ⟨by simp [stagedCount, found], by simp [found], .refl _ _, rfl⟩
  | some t =>
    have staging := tables t found
    rcases stageSheet_cases found staging with ⟨e, failed⟩ | loaded
    · cases failed.symm.trans run
    · cases loaded.symm.trans run
      have named := (staging.reload s.rows).named
      refine ⟨by simp [stagedCount, found], ?_, Database.put_changesOnly named, rfl⟩
      rw [List.forall_mem_singleton, found]
      exact Database.table?_put_self found named

/-- Sheets of different kinds that were staged are all in their tables, where there are any. -/
lemma stageSheets_eq_ok {sheets : List ParsedSheet} {counts : List (String × Nat)}
    (kinds : (sheets.map (·.kind)).Nodup)
    (tables : ∀ s ∈ sheets, ∀ t, h.database.table? (stagingTable code s.kind) = some t →
      IsStaging (stagingTable code s.kind) t)
    (run : (sheets.filterMapM (stageSheet code)).runOn h = (.ok counts, after)) :
    Staged code sheets h after counts := by
  -- on the sheets, from any holdings: the first one leaves the tables of the others
  induction sheets generalizing h counts with
  | nil =>
    cases run
    exact ⟨rfl, List.forall_mem_nil _, .refl _ _, rfl⟩
  | cons s sheets ih =>
    rw [List.map_cons, List.nodup_cons] at kinds
    obtain ⟨table, tables⟩ := List.forall_mem_cons.mp tables
    cases first : (stageSheet code s).runOn h with
    | mk result between =>
      cases result with
      | error e =>
        rw [Work.runOn_filterMapM_error first] at run
        cases run
      | ok count =>
        rw [Work.runOn_filterMapM_ok first] at run
        cases rest : (sheets.filterMapM (stageSheet code)).runOn between with
        | mk result last =>
          rw [rest] at run
          obtain ⟨counted, rfl⟩ := Prod.mk.inj run
          cases result with
          | error e => cases counted
          | ok others =>
            cases counted
            have own := stageSheet_eq_ok table first
            have staged := ih kinds.2 (fun t ht u hu =>
              tables t ht u (own.table_rest kinds.1 ht ▸ hu)) rest
            exact own.append kinds.1 staged

end

end Service

end ShipReport
