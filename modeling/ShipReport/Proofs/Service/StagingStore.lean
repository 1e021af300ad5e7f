import ShipReport.Proofs.Service.StagedRows
import ShipReport.Proofs.Store.Recreated
import ShipReport.Proofs.Submission.ColumnNames
import ShipReport.Service.Staging

/-!
# Staging tables as a store

Staging tables are made, loaded and asked for their columns by requests in any order. Each request
either replaces what its table shows or leaves everything as it was, so that a table always shows
the columns of the last request that made it and the rows that were loaded last since then. A name
is written into the statements of a request, where it is only read up to a character with the number
zero: all requests for such a name fail.
-/

namespace ShipReport

namespace Service

open Store (Apart Database Datum IsReadable Table sameName sameName_iff)
open Store.Database (maxColumns textShape)
open Submission (SubmissionError columnNames)

/-! ## Names of staging tables -/

/-- Names that begin like those of staging tables. -/
def IsStagingName (name : String) : Prop :=
  sameName (String.ofList (name.toList.take 4)) "stg_"

instance (name : String) : Decidable (IsStagingName name) :=
  inferInstanceAs (Decidable (sameName _ _ = true))

section

variable {name other : String}

/-- The first four characters tell whether a name is one of a staging table. -/
lemma isStagingName_iff :
    IsStagingName name ↔ (name.toList.map Char.toLower).take 4 = ['s', 't', 'g', '_'] := by
  unfold IsStagingName
  rw [sameName_iff, ← String.toList_inj]
  simp only [Text.asciiLowercase, String.toList_ofList, List.map_take]
  rfl

/-- How a name is spelled does not matter. -/
lemma IsStagingName.congr (h : IsStagingName name) (same : sameName name other) :
    IsStagingName other := by
  have letters := congrArg String.toList (sameName_iff.mp same)
  simp only [Text.asciiLowercase, String.toList_ofList] at letters
  rw [isStagingName_iff, ← letters]
  exact isStagingName_iff.mp h

/-- No staging table has a name of the database's own tables. -/
lemma IsStagingName.not_reserved (h : IsStagingName name) : Database.isReserved name = false := by
  rw [Bool.eq_false_iff]
  intro reserved
  have letters := congrArg (·.toList.take 4) (sameName_iff.mp reserved)
  simp only [Text.asciiLowercase, String.toList_ofList, List.map_take, List.take_take] at letters
  rw [show min 4 7 = 4 from rfl, isStagingName_iff.mp h] at letters
  exact absurd letters (by decide)

end

/-! ## Requests and calls -/

/-- A request for a staging table. -/
inductive StagingRequest where
  | provision (table : String) (headers : List String)
  | load (table : String) (rows : List (List String))
  | columns (table : String)

/-- What is answered: names of columns, or the number of rows if there is such a table. -/
inductive StagingAnswer where
  | columns (names : List String)
  | count (rows : Option Nat)

namespace StagingRequest

/-- The table that the request is for. -/
def table : StagingRequest → String
  | provision table _ | load table _ | columns table => table

def run : StagingRequest → Work Database SubmissionError StagingAnswer
  | provision table headers => .columns <$> provisionTable table headers
  | load table rows => .count <$> loadRows table rows
  | columns table => .columns <$> columnsOf table

end StagingRequest

/-- A request with its answer. -/
structure StagingCall where
  request : StagingRequest
  answer : Except SubmissionError StagingAnswer

/-- A database and the calls that led to it, the last one first. -/
structure StagingSession where
  database : Database
  calls : List StagingCall

/-- The session with one more call. -/
def StagingSession.after (s : StagingSession) (r : StagingRequest) : StagingSession :=
  ⟨(r.run.runOn s.database).2, ⟨r, (r.run.runOn s.database).1⟩ :: s.calls⟩

/-- Requests that are made of a database one after the other. -/
def stagingSession (db : Database) (requests : List StagingRequest) : StagingSession :=
  requests.foldl StagingSession.after ⟨db, []⟩

/-! ## What calls amount to -/

/-- What a table shows: the names of its columns, and its rows in order. -/
structure Stock where
  columns : List String
  rows : List (List Datum)

/-- What there is in a table. -/
def stockOf (t : Table) : Stock :=
  ⟨t.shape.columnNames, t.rows.map (·.values)⟩

namespace StagingCall

/-- What a call makes of the stock under a name. Only a call that succeeded makes a difference: a
new table replaces everything, loaded rows replace the rows, each fitted to the columns. -/
def restock (name : String) (before : Option Stock) : StagingCall → Option Stock
  | ⟨.provision table headers, .ok _⟩ =>
    if sameName table name then some ⟨columnNames headers, []⟩ else before
  | ⟨.load table rows, .ok (.count (some _))⟩ =>
    if sameName table name then before.map fun s => ⟨s.columns, rows.map (Table.texts s.columns)⟩
    else before
  | _ => before

/-- The call made a table of the name, with at least one column. -/
def Provisions (name : String) (call : StagingCall) : Prop :=
  ∃ table headers answer, call = ⟨.provision table headers, .ok answer⟩ ∧ headers ≠ [] ∧
    sameName table name

end StagingCall

/-- The stock under a name after calls, of which the last one stands first. -/
def stock (name : String) (calls : List StagingCall) : Option Stock :=
  calls.foldr (fun call before => call.restock name before) none

/-! ## What a request does -/

/-- What a request for a table answers and makes of a database. -/
inductive Outcome (db : Database) :
    StagingRequest → Except SubmissionError StagingAnswer → Database → Prop where
  | provisioned {table : String} {headers : List String} (readable : IsReadable table)
      (given : headers ≠ []) (few : headers.length ≤ maxColumns) :
      Outcome db (.provision table headers) (.ok (.columns (columnNames headers)))
        (db.recreated table (columnNames headers))
  | refused {table : String} {headers : List String} (e : SubmissionError)
      (wrong : headers = [] ∨ maxColumns < headers.length) :
      Outcome db (.provision table headers) (.error e) db
  | loaded {table : String} {rows : List (List String)} {t : Table} (readable : IsReadable table)
      (found : db.table? table = some t) :
      Outcome db (.load table rows) (.ok (.count (some rows.length)))
        (db.put table (reloaded rows t))
  | missing {table : String} {rows : List (List String)} (readable : IsReadable table)
      (missing : db.table? table = none) :
      Outcome db (.load table rows) (.ok (.count none)) db
  | asked {table : String} (readable : IsReadable table) :
      Outcome db (.columns table)
        (.ok (.columns ((db.table? table).elim [] (·.shape.columnNames)))) db
  | unread {r : StagingRequest} (e : SubmissionError) (unreadable : ¬ IsReadable r.table) :
      Outcome db r (.error e) db

/-- Requests for staging tables find what they need: their names are not those of views or indexes,
no table refers to them, and the tables that there are under them are for texts. -/
structure Ready (db : Database) : Prop where
  views : ∀ v ∈ db.views, ¬ IsStagingName v
  indexes : ∀ i ∈ db.indexes, ¬ IsStagingName i.name
  references : ∀ t ∈ db.tables, ∀ r ∈ t.shape.references, ¬ IsStagingName r.table
  tables : ∀ name t, IsStagingName name → db.table? name = some t → IsStaging t.shape.name t

section

variable {db : Database} {table name : String} {headers : List String} {rows : List (List String)}
  {t : Table} {r : StagingRequest}

/-- No view has the name of a staging table. -/
lemma Ready.view (ready : Ready db) (hname : IsStagingName name) : db.view? name = none :=
  List.find?_eq_none.mpr fun v hv same => ready.views v hv (hname.congr same)

/-- No index has the name of a staging table. -/
lemma Ready.unindexed (ready : Ready db) (hname : IsStagingName name) :
    ∀ i ∈ db.indexes, ¬ sameName i.name name := by
  intro i hi same
  rw [Store.sameName_comm] at same
  exact ready.indexes i hi (hname.congr same)

/-- No table refers to a staging table. -/
lemma Ready.unreferred (ready : Ready db) (hname : IsStagingName name) :
    ∀ u ∈ db.tables, ∀ r ∈ u.shape.references, ¬ sameName r.table name := by
  intro u hu r hr same
  rw [Store.sameName_comm] at same
  exact ready.references u hu r hr (hname.congr same)

/-- Work whose answer is taken as something else leaves the same state. -/
lemma runOn_map {σ ε α β : Type} (f : α → β) (work : Work σ ε α) (s : σ) :
    (f <$> work).runOn s = ((work.runOn s).1.map f, (work.runOn s).2) := by
  have bound : f <$> work = work >>= fun a => pure (f a) := (bind_pure_comp f work).symm
  rw [bound, Work.runOn_bind]
  obtain ⟨result, after⟩ := work.runOn s
  cases result <;> rfl

/-- Making a table has the outcome that it has in the store. -/
lemma provisionTable_runOn (table : String) (headers : List String) (db : Database) :
    (provisionTable table headers).runOn db =
      match db.recreateTable table (columnNames headers) with
      | .ok after => (.ok (columnNames headers), after)
      | .error e => (.error (.staging table e.message), db) := by
  unfold provisionTable Work.runOn Work.change
  cases h : db.recreateTable table (columnNames headers) <;> simp only [h] <;> rfl

/-- A table is made unless its name is not read, there is no header for it or there are too many. -/
lemma provision_outcome (ready : Ready db) (hname : IsStagingName table) (headers : List String) :
    Outcome db (.provision table headers) ((StagingRequest.provision table headers).run.runOn db).1
      ((StagingRequest.provision table headers).run.runOn db).2 := by
  have apart := Submission.columnNames_apart headers
  have length := Submission.length_columnNames headers
  unfold StagingRequest.run
  rw [runOn_map, provisionTable_runOn]
  by_cases h : headers ≠ [] ∧ headers.length ≤ maxColumns
  · obtain ⟨given, few⟩ := h
    have columns : columnNames headers ≠ [] := by
      rw [ne_eq, ← List.length_eq_zero_iff, length, List.length_eq_zero_iff]
      exact given
    by_cases readable : IsReadable table
    · have made := Database.recreateTable_eq readable hname.not_reserved (ready.view hname)
        (ready.unindexed hname) (ready.unreferred hname) apart columns (by rwa [length])
      rw [made]
      exact .provisioned readable given few
    · rw [Database.recreateTable_unreadable readable columns]
      exact .unread _ readable
  · have wrong : headers = [] ∨ maxColumns < headers.length := by
      rwa [not_and_or, not_not, Nat.not_le] at h
    have none : columnNames headers = [] ∨ maxColumns < (columnNames headers).length := by
      rw [← List.length_eq_zero_iff, length, List.length_eq_zero_iff]
      exact wrong
    obtain ⟨e, failed⟩ : ∃ e, db.recreateTable table (columnNames headers) = .error e :=
      Database.recreateTable_error apart none
    rw [failed]
    exact .refused _ wrong

/-- Rows are loaded if there is a table for them. -/
lemma load_outcome (ready : Ready db) (hname : IsStagingName table) (rows : List (List String)) :
    Outcome db (.load table rows) ((StagingRequest.load table rows).run.runOn db).1
      ((StagingRequest.load table rows).run.runOn db).2 := by
  unfold StagingRequest.run
  rw [runOn_map]
  by_cases readable : IsReadable table
  · cases found : db.table? table with
    | some t =>
      have staging := ready.tables table t hname found
      have named : sameName t.shape.name table :=
        Database.writable_name (Database.writable_of_table found)
      have cleared := Database.clear_eq found staging.references (ready.unreferred hname)
      rw [loadRows_of_clear readable found staging named cleared]
      exact .loaded readable found
    | none =>
      rw [loadRows_missing readable found (ready.view hname)]
      exact .missing readable found
  · obtain ⟨e, failed⟩ := loadRows_unreadable readable rows
    rw [failed]
    exact .unread e readable

/-- The columns that are asked for are those of the table, if there is one. -/
lemma columns_outcome (ready : Ready db) (hname : IsStagingName table) :
    Outcome db (.columns table) ((StagingRequest.columns table).run.runOn db).1
      ((StagingRequest.columns table).run.runOn db).2 := by
  have columns : db.columnNames table = (db.table? table).elim [] (·.shape.columnNames) := by
    unfold Database.columnNames
    rw [ready.view hname]
    cases db.table? table <;> rfl
  have asked : (columnsOf table).runOn db =
      ((db.tableColumns table).mapError SubmissionError.store, db) := rfl
  unfold StagingRequest.run
  rw [runOn_map, asked]
  by_cases readable : IsReadable table
  · rw [Database.tableColumns_eq readable, columns]
    exact .asked readable
  · rw [Database.tableColumns_error readable]
    exact .unread _ readable

/-- What each request for a staging table does. -/
lemma run_outcome (ready : Ready db) (hname : IsStagingName r.table) :
    Outcome db r (r.run.runOn db).1 (r.run.runOn db).2 := by
  cases r with
  | provision table headers => exact provision_outcome ready hname headers
  | load table rows => exact load_outcome ready hname rows
  | columns table => exact columns_outcome ready hname

end

/-! ## What is answered -/

section

variable {db : Database} {table : String} {headers : List String} {rows : List (List String)}
  {result : Except SubmissionError StagingAnswer × Database}

/-- A table is made for headers of which there are enough and not too many. -/
lemma Outcome.made (h : Outcome db (.provision table headers) result.1 result.2)
    (readable : IsReadable table) (given : headers ≠ []) (few : headers.length ≤ maxColumns) :
    result.1 = .ok (.columns (columnNames headers)) := by
  obtain ⟨answer, after⟩ := result
  dsimp only at h ⊢
  cases h with
  | provisioned => rfl
  | refused e wrong => exact absurd few (by simpa [given] using wrong)
  | unread e unreadable => exact absurd readable unreadable

/-- Without headers, or with too many, making a table fails. -/
lemma Outcome.refused_of (h : Outcome db (.provision table headers) result.1 result.2)
    (wrong : headers = [] ∨ maxColumns < headers.length) : ∃ e, result = (.error e, db) := by
  obtain ⟨answer, after⟩ := result
  dsimp only at h
  cases h with
  | provisioned readable given few => exact absurd few (by simpa [given] using wrong)
  | refused e => exact ⟨e, rfl⟩
  | unread e => exact ⟨e, rfl⟩

/-- Loading rows into a table that is there answers their number. -/
lemma Outcome.count_of_some (h : Outcome db (.load table rows) result.1 result.2)
    (readable : IsReadable table) (found : (db.table? table).isSome) :
    result.1 = .ok (.count (some rows.length)) := by
  obtain ⟨answer, after⟩ := result
  dsimp only at h ⊢
  cases h with
  | loaded => rfl
  | missing readable none =>
    rw [none] at found
    cases found
  | unread e unreadable => exact absurd readable unreadable

/-- Loading rows into a table that is not there answers that there is none. -/
lemma Outcome.count_of_none (h : Outcome db (.load table rows) result.1 result.2)
    (readable : IsReadable table) (none : db.table? table = none) :
    result = (.ok (.count .none), db) := by
  obtain ⟨answer, after⟩ := result
  dsimp only at h
  cases h with
  | loaded readable found => cases none.symm.trans found
  | missing => rfl
  | unread e unreadable => exact absurd readable unreadable

/-- The columns of a table are answered, none if there is no table. -/
lemma Outcome.names (h : Outcome db (.columns table) result.1 result.2)
    (readable : IsReadable table) :
    result = (.ok (.columns ((db.table? table).elim [] (·.shape.columnNames))), db) := by
  obtain ⟨answer, after⟩ := result
  dsimp only at h
  cases h with
  | asked => rfl
  | unread e unreadable => exact absurd readable unreadable

/-- A request for a name that is not read fails. -/
lemma Outcome.error_of_unreadable {r : StagingRequest} (h : Outcome db r result.1 result.2)
    (unreadable : ¬ IsReadable r.table) : ∃ e, result = (.error e, db) := by
  obtain ⟨answer, after⟩ := result
  dsimp only at h
  cases h with
  | provisioned readable => exact absurd readable unreadable
  | refused e => exact ⟨e, rfl⟩
  | loaded readable => exact absurd readable unreadable
  | missing readable => exact absurd readable unreadable
  | asked readable => exact absurd readable unreadable
  | unread e => exact ⟨e, rfl⟩

end

/-! ## What a request keeps -/

section

variable {db after : Database} {table name : String} {rows : List (List String)} {t : Table}
  {r : StagingRequest} {answer : Except SubmissionError StagingAnswer}

/-- A new table for texts is a staging table. -/
lemma isStaging_texts {columns : List String} (apart : Apart columns) (given : columns ≠ []) :
    IsStaging table ⟨textShape table columns, []⟩ := by
  have names := Table.columnNames_texts table columns
  refine ⟨?_, ?_, ?_⟩
  · rw [names]
  · rw [names]
    exact apart
  · rw [names]
    exact given

/-- No request changes a table other than its own. -/
lemma Outcome.changesOnly (h : Outcome db r answer after) :
    db.ChangesOnly [r.table] after := by
  cases h with
  | provisioned => exact Database.recreated_changesOnly
  | refused => exact .refl _ _
  | @loaded table rows t readable found =>
    have named := Database.writable_name (Database.writable_of_table found)
    exact Database.put_changesOnly (u := reloaded rows t) named
  | missing => exact .refl _ _
  | asked => exact .refl _ _
  | unread => exact .refl _ _

/-- What the table of a name is after its rows were replaced. -/
lemma table?_reloaded (found : db.table? table = some t) :
    (db.put table (reloaded rows t)).table? name =
      if sameName table name then some (reloaded rows t) else db.table? name := by
  have named : sameName t.shape.name table :=
    Database.writable_name (Database.writable_of_table found)
  split
  · next same =>
    rw [← Database.table?_congr same]
    exact Database.table?_put_self found named
  · next other => exact Database.table?_put_other named other

/-- What the table of a name is after one was made. -/
lemma table?_recreated {columns : List String} :
    (db.recreated table columns).table? name =
      if sameName table name then some ⟨textShape table columns, []⟩ else db.table? name := by
  split
  · next same => exact Database.table?_recreated same
  · next other =>
    exact Database.recreated_changesOnly.tables name (List.forall_mem_singleton.mpr other)

/-- After a request the next one finds what it needs. -/
lemma Outcome.ready (h : Outcome db r answer after) (ready : Ready db)
    (hname : IsStagingName r.table) : Ready after := by
  cases h with
  | @provisioned table headers readable given few =>
    have views : (db.recreated table (columnNames headers)).views = db.views :=
      Database.recreated_changesOnly.views
    refine ⟨views ▸ ready.views, fun i hi => ready.indexes i (Database.dropped_indexes hi),
      fun t ht => ?_, fun name t hn ht => ?_⟩
    · rcases Database.mem_recreated ht with rfl | ht
      · exact fun _ hr => by cases hr
      · exact ready.references t ht
    · -- the new table is for texts, and the others were there
      rw [table?_recreated] at ht
      split at ht
      · cases ht
        refine isStaging_texts (Submission.columnNames_apart headers) ?_
        rwa [ne_eq, ← List.length_eq_zero_iff, Submission.length_columnNames,
          List.length_eq_zero_iff]
      · exact ready.tables name t hn ht
  | refused => exact ready
  | @loaded table rows t readable found =>
    have staging := ready.tables table t hname found
    refine ⟨ready.views, ready.indexes, fun u hu => ?_, fun name u hn hu => ?_⟩
    · obtain ⟨v, hv, rfl⟩ := List.mem_map.mp hu
      split
      · exact fun _ hr => by rw [(staging.reload rows).references] at hr; cases hr
      · exact ready.references v hv
    · rw [table?_reloaded found] at hu
      split at hu
      · cases hu
        exact staging.reload rows
      · exact ready.tables name u hn hu
  | missing => exact ready
  | asked => exact ready
  | unread => exact ready

/-- A request makes of each table what it makes of the stock. -/
lemma Outcome.stock (h : Outcome db r answer after) :
    (after.table? name).map stockOf =
      StagingCall.restock name ((db.table? name).map stockOf) ⟨r, answer⟩ := by
  cases h with
  | @provisioned table headers readable given few =>
    rw [table?_recreated, StagingCall.restock]
    split
    · rw [Option.map_some, stockOf, Table.columnNames_texts]
      rfl
    · rfl
  | refused => rfl
  | @loaded table rows t readable found =>
    rw [table?_reloaded found, StagingCall.restock]
    split
    · next same =>
      rw [← Database.table?_congr same, found]
      simp only [Option.map_some, stockOf, reloaded, Store.numbered_values]
    · rfl
  | missing => rfl
  | asked => rfl
  | unread => cases r <;> rfl

/-- There is a table of a name if the request made one or there was one before. -/
lemma Outcome.isSome (h : Outcome db r answer after) :
    (after.table? name).isSome ↔
      StagingCall.Provisions name ⟨r, answer⟩ ∨ (db.table? name).isSome := by
  cases h with
  | @provisioned table headers readable given few =>
    rw [table?_recreated]
    by_cases same : sameName table name
    · rw [if_pos same]
      exact iff_of_true rfl (.inl ⟨table, headers, _, rfl, given, same⟩)
    · rw [if_neg same]
      refine (or_iff_right ?_).symm
      rintro ⟨_, _, _, made, -, other⟩
      cases made
      exact same other
  | refused => exact (or_iff_right fun ⟨_, _, _, made, _⟩ => by cases made).symm
  | @loaded table rows t readable found =>
    rw [table?_reloaded found]
    split
    · next same =>
      rw [← Database.table?_congr same, found]
      exact iff_of_true rfl (.inr rfl)
    · exact (or_iff_right fun ⟨_, _, _, made, _⟩ => by cases made).symm
  | missing => exact (or_iff_right fun ⟨_, _, _, made, _⟩ => by cases made).symm
  | asked => exact (or_iff_right fun ⟨_, _, _, made, _⟩ => by cases made).symm
  | unread => exact (or_iff_right fun ⟨_, _, _, made, _⟩ => by cases made).symm

end

/-! ## Series of requests -/

/-- There are no staging tables yet, no view or index has the name of one, and no table refers to
one. -/
structure FreeOfStaging (db : Database) : Prop where
  tables : ∀ t ∈ db.tables, ¬ IsStagingName t.shape.name
  views : ∀ v ∈ db.views, ¬ IsStagingName v
  indexes : ∀ i ∈ db.indexes, ¬ IsStagingName i.name
  references : ∀ t ∈ db.tables, ∀ r ∈ t.shape.references, ¬ IsStagingName r.table

namespace StagingSession

/-- What a series of requests keeps: each table shows the stock that the calls amount to, there is a
table exactly if a call made one, and everything else is as it was at the start. -/
structure Kept (start : Database) (s : StagingSession) : Prop where
  ready : Ready s.database
  shown : ∀ name, IsStagingName name → (s.database.table? name).map stockOf = stock name s.calls
  provided : ∀ name, IsStagingName name →
    ((s.database.table? name).isSome ↔ ∃ call ∈ s.calls, call.Provisions name)
  others : ∀ name, ¬ IsStagingName name → s.database.table? name = start.table? name
  views : s.database.views = start.views

variable {db start : Database} {s : StagingSession} {r : StagingRequest}

/-- At the start there is no staging table and no call. -/
lemma Kept.nil (free : FreeOfStaging db) : Kept db ⟨db, []⟩ := by
  have none : ∀ name, IsStagingName name → db.table? name = none := by
    refine fun name hname => List.find?_eq_none.mpr fun t ht same => free.tables t ht ?_
    rw [Store.sameName_comm] at same
    exact hname.congr same
  refine ⟨⟨free.views, free.indexes, free.references, fun name t hname ht => ?_⟩,
    fun name hname => ?_, fun name hname => ?_, fun _ _ => rfl, rfl⟩
  · rw [none name hname] at ht
    cases ht
  · rw [none name hname]
    rfl
  · simp [none name hname]

/-- One more request keeps it. -/
lemma Kept.after (kept : s.Kept start) (hname : IsStagingName r.table) :
    (s.after r).Kept start := by
  have outcome := run_outcome kept.ready hname
  have only := outcome.changesOnly
  refine ⟨outcome.ready kept.ready hname, fun name hn => ?_, fun name hn => ?_, fun name hn => ?_,
    only.views.trans kept.views⟩
  · rw [StagingSession.after, outcome.stock, kept.shown name hn]
    rfl
  · rw [StagingSession.after, outcome.isSome, kept.provided name hn, List.exists_mem_cons_iff]
  · refine (only.tables name (List.forall_mem_singleton.mpr fun same => hn ?_)).trans
      (kept.others name hn)
    exact hname.congr same

/-- A series of requests for staging tables keeps it. -/
lemma Kept.foldl (kept : s.Kept start) {requests : List StagingRequest}
    (names : ∀ r ∈ requests, IsStagingName r.table) :
    (requests.foldl StagingSession.after s).Kept start := by
  induction requests generalizing s with
  | nil => exact kept
  | cons r requests ih =>
    obtain ⟨first, names⟩ := List.forall_mem_cons.mp names
    exact ih (kept.after first) names

/-- Staging tables are a store in which things are only replaced. A table exists exactly if a call
made one with at least one column; it shows the columns of the last such call and the rows of the
last load since then. Making a table fails without headers or with too many, loading rows and asking
for columns find the tables that there are, and each request leaves all other tables. A request for
a name that is not read in statements fails and changes nothing. -/
structure ReplaceOnly (start : Database) (s : StagingSession) : Prop where
  provided : ∀ name, IsStagingName name →
    ((s.database.table? name).isSome ↔ ∃ call ∈ s.calls, call.Provisions name)
  shown : ∀ name, IsStagingName name → (s.database.table? name).map stockOf = stock name s.calls
  others : ∀ name, ¬ IsStagingName name → s.database.table? name = start.table? name
  views : s.database.views = start.views
  made : ∀ table headers, IsStagingName table → IsReadable table → headers ≠ [] →
    headers.length ≤ maxColumns → ((StagingRequest.provision table headers).run.runOn s.database).1 =
      .ok (.columns (columnNames headers))
  refused : ∀ table headers, IsStagingName table → headers = [] ∨ maxColumns < headers.length →
    ∃ e, (StagingRequest.provision table headers).run.runOn s.database = (.error e, s.database)
  loaded : ∀ table rows, IsStagingName table → IsReadable table →
    (s.database.table? table).isSome → ((StagingRequest.load table rows).run.runOn s.database).1 =
      .ok (.count (some rows.length))
  missing : ∀ table rows, IsStagingName table → IsReadable table →
    s.database.table? table = none → (StagingRequest.load table rows).run.runOn s.database =
      (.ok (.count none), s.database)
  asked : ∀ table, IsStagingName table → IsReadable table →
    (StagingRequest.columns table).run.runOn s.database =
      (.ok (.columns ((stock table s.calls).elim [] (·.columns))), s.database)
  unread : ∀ r : StagingRequest, IsStagingName r.table → ¬ IsReadable r.table →
    ∃ e, r.run.runOn s.database = (.error e, s.database)
  alone : ∀ r : StagingRequest, IsStagingName r.table →
    s.database.ChangesOnly [r.table] (r.run.runOn s.database).2

/-- What is kept tells what the next request answers. -/
lemma Kept.replaceOnly (kept : s.Kept start) : s.ReplaceOnly start where
  provided := kept.provided
  shown := kept.shown
  others := kept.others
  views := kept.views
  made _ headers hname := (provision_outcome kept.ready hname headers).made
  refused _ headers hname := (provision_outcome kept.ready hname headers).refused_of
  loaded _ rows hname := (load_outcome kept.ready hname rows).count_of_some
  missing _ rows hname := (load_outcome kept.ready hname rows).count_of_none
  asked table hname readable := by
    have columns : (s.database.table? table).elim [] (·.shape.columnNames) =
        (stock table s.calls).elim [] (·.columns) := by
      rw [← kept.shown table hname]
      cases s.database.table? table <;> rfl
    rw [← columns]
    exact (columns_outcome kept.ready hname).names readable
  unread _ hname := (run_outcome kept.ready hname).error_of_unreadable
  alone := fun r hname => (run_outcome kept.ready hname).changesOnly

end StagingSession

/-- In a database without staging tables any series of requests for them uses a store in which
things are only replaced. -/
theorem stagingSession_replaceOnly {db : Database} {requests : List StagingRequest}
    (free : FreeOfStaging db) (names : ∀ r ∈ requests, IsStagingName r.table) :
    (stagingSession db requests).ReplaceOnly db :=
  ((StagingSession.Kept.nil free).foldl names).replaceOnly

namespace Sample

/-- A table is made, loaded under another spelling of its name, and made anew. -/
def stagingRequests : List StagingRequest :=
  [.provision "stg_ocn_voyage" ["Voyage No", "voyage no", ""],
    .load "STG_OCN_VOYAGE" [["001"], ["002", "x", "y", "z"]],
    .load "stg_ocn_bunker" [["1"]],
    .columns "Stg_ocn_voyage",
    .provision "stg_ocn_voyage" [],
    .provision "stg_ocn_voyage" ["Date"]]

/-- New databases have no staging tables. -/
lemma new_freeOfStaging : FreeOfStaging Database.new :=
  ⟨by decide, by decide, by decide, by decide⟩

/-- The requests use a new database as such a store. -/
theorem stagingRequests_replaceOnly :
    FreeOfStaging Database.new ∧ (∀ r ∈ stagingRequests, IsStagingName r.table) ∧
      (stagingSession Database.new stagingRequests).ReplaceOnly Database.new := by
  have names : ∀ r ∈ stagingRequests, IsStagingName r.table := by
    unfold stagingRequests
    decide
  exact ⟨new_freeOfStaging, names, stagingSession_replaceOnly new_freeOfStaging names⟩

end Sample

/-- Not every name that begins like those of staging tables is one that requests can be made for:
loading rows where there is no table fails for a name that is not read to its end. -/
theorem unreadable_table_not_answered :
    IsStagingName "stg_\x00x" ∧ Database.new.table? "stg_\x00x" = none ∧
      ((StagingRequest.load "stg_\x00x" []).run.runOn Database.new).1 ≠ .ok (.count none) := by
  refine ⟨by decide, by decide, fun answered => ?_⟩
  obtain ⟨e, failed⟩ := @loadRows_unreadable Database.new "stg_\x00x" (by decide) []
  have result : ((StagingRequest.load "stg_\x00x" []).run.runOn Database.new).1 = .error e := by
    unfold StagingRequest.run
    rw [runOn_map, failed]
    rfl
  cases result.symm.trans answered

end Service

end ShipReport
