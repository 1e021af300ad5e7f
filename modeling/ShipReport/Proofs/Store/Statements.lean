import ShipReport.Proofs.Store.Changes
import ShipReport.Proofs.Store.Scripts
import ShipReport.Store.Procedures

/-!
# What statements change

A statement that is run adds one row, or removes or changes the rows that it selects, and counts
them; one that makes a table or an index, or finds it there, counts none. The rows of a table that
is removed count only where they are removed one by one, as references to them are enforced.
-/

namespace ShipReport.Store

namespace Database

variable {db : Database} {batchId script : String} {changes : List Change}

/-- The rows that a condition of a statement selects. -/
def selects (t : Table) (column : Name) (value : Int) : Row → Bool :=
  hasValue t column.value (literal value)

/-- What a statement makes of a database, and the number of rows that it counts. -/
inductive Counts (db : Database) (batchId : String) : Statement → Database → Nat → Prop where
  | insert {table : Name} {values : List Argument} {t u : Table} {r : Row}
      (ht : db.table? table.value = some t)
      (added : t.insert t.shape.columnNames (values.map (argumentValue batchId)) = .ok (r, u)) :
      Counts db batchId (.insert table values) (db.put table.value u) 1
  | delete {table column : Name} {value : Int} {t : Table} (ht : db.table? table.value = some t) :
      Counts db batchId (.delete table column value)
        (db.put table.value { t with rows := t.rows.filter fun r => !selects t column value r })
        (t.rows.countP (selects t column value))
  | update {table column key : Name} {value old : Int} {t : Table}
      (ht : db.table? table.value = some t) (values : ¬ t.namesNumber column.value) :
      Counts db batchId (.update table column value key old)
        (db.put table.value (t.update (selects t key old) [(column.value, literal value)]))
        (t.rows.countP (selects t key old))
  /-- A row gets another number. -/
  | renumber {table column key : Name} {value old : Int} {t : Table} {r : Row}
      (ht : db.table? table.value = some t) (number : t.namesNumber column.value)
      (only : t.rows.filter (selects t key old) = [r]) :
      Counts db batchId (.update table column value key old)
        (db.put table.value { t with
          rows := Table.place (reformed t column.value (literal value) r)
            (t.rows.filter fun s => !selects t key old s) }) 1
  /-- No row gets another number. -/
  | keep {table column key : Name} {value old : Int} {t : Table}
      (ht : db.table? table.value = some t) (number : t.namesNumber column.value)
      (none : t.rows.filter (selects t key old) = []) :
      Counts db batchId (.update table column value key old) db 0
  | createTable {unlessThere : Bool} {table : Name} {columns : List (Name × Affinity)}
      (free : db.kindNamed? table.value = none) :
      Counts db batchId (.createTable unlessThere table columns)
        (db.addTable (newShape table columns)) 0
  | tableThere {table : Name} {columns : List (Name × Affinity)}
      (there : (db.kindNamed? table.value).isSome) :
      Counts db batchId (.createTable true table columns) db 0
  | createIndex {unlessThere : Bool} {index table : Name} {columns : List Name}
      (free : db.index? index.value = none) :
      Counts db batchId (.createIndex unlessThere index table columns)
        { db with indexes := db.indexes ++ [⟨index.value, table.value⟩] } 0
  | indexThere {index table : Name} {columns : List Name}
      (there : (db.index? index.value).isSome) :
      Counts db batchId (.createIndex true index table columns) db 0
  | dropTable {ifThere : Bool} {table : Name} {t : Table} (ht : db.table? table.value = some t) :
      Counts db batchId (.dropTable ifThere table) (db.removeTable table.value)
        (if db.enforcing && !(db.referencesTo table.value).isEmpty then t.rows.length else 0)
  | nothingDropped {table : Name} (none : db.table? table.value = none) :
      Counts db batchId (.dropTable true table) db 0

/-! ## Rows -/

/-- A new row is put into its table and counts as one. -/
lemma insert_counts {table : Name} {values : List Argument}
    (h : db.runStatement batchId script (.insert table values) = .ok changes) :
    db.Counts batchId (.insert table values) (db.changedBy changes) (db.rowsChangedBy changes) := by
  obtain ⟨⟨r, u⟩, accepted, h⟩ := bind_eq_ok.mp h
  obtain ⟨-, h⟩ := unless_eq_ok.mp h
  cases h
  unfold acceptedValues at accepted
  obtain ⟨t, writable, accepted⟩ := bind_eq_ok.mp accepted
  obtain ⟨-, accepted⟩ := guard_eq_ok.mp accepted
  have ht := table_of_writable writable
  have added := insert_of_acceptedRow accepted
  have all : (t.rows.filter fun _ => !false) = t.rows := by simp
  have after : db.changed (.add table.value r fun _ => false) = db.put table.value u := by
    rw [changed, edit_eq ht, all, Table.eq_of_insert_ok added]
  rw [changedBy_cons, changedBy_nil, after, rowsChangedBy_cons, rowsChanged_add ht]
  exact .insert ht added

/-- The rows that are selected are removed, and each counts. -/
lemma delete_counts {table column : Name} {value : Int}
    (h : db.runStatement batchId script (.delete table column value) = .ok changes) :
    db.Counts batchId (.delete table column value) (db.changedBy changes)
      (db.rowsChangedBy changes) := by
  obtain ⟨t, writable, h⟩ := bind_eq_ok.mp h
  obtain ⟨-, -, h⟩ := bind_eq_ok.mp h
  obtain ⟨-, -, h⟩ := bind_eq_ok.mp h
  cases h
  have ht := table_of_writable writable
  rw [changedBy_cons, changedBy_nil, changed, edit_eq ht, rowsChangedBy_cons, rowsChanged_remove ht]
  exact .delete ht

/-! ## Rows with other values -/

section

variable {t : Table} {column : String} {value : Datum} {selected : Row → Bool}

/-- Another value in a column that does not show the number is another value only. -/
lemma reformed_eq_assign (values : ¬ t.namesNumber column) :
    reformed t column value = fun r => t.assign r column value := by
  funext r
  exact if_neg values

/-- A row with another number has the one that is given. -/
lemma reformed_number {n : Int} (number : t.namesNumber column) (r : Row) :
    (reformed t column (.integer n) r).number = n := by
  unfold reformed
  rw [if_pos number]

/-- A row that repeats no key has another number than the other rows. -/
lemma number_ne_of_repeated? {r s : Row} (h : t.repeated? r = none) (hs : s ∈ t.rows) :
    s.number ≠ r.number := by
  intro same
  have repeats : (t.rows.any fun s => s.number == r.number) = true :=
    List.any_eq_true.mpr ⟨s, hs, beq_iff_eq.mpr same⟩
  unfold Table.repeated? at h
  rw [if_pos repeats] at h
  cases h

/-- When several rows are given one number, they repeat a key. -/
lemma repeatedAmong?_of_two {n : Int} {r s : Row} {rest : List Row}
    (number : t.namesNumber column) (several : t.rows.filter selected = r :: s :: rest) :
    repeatedAmong? (updated t column (.integer n) selected)
      (updatedRows t column (.integer n) selected) ≠ none := by
  intro unique
  have rows : updatedRows t column (.integer n) selected =
      reformed t column (.integer n) r :: reformed t column (.integer n) s ::
        rest.map (reformed t column (.integer n)) := by
    unfold updatedRows
    rw [several]
    rfl
  -- the rows that are given the number are among those of the table, each in its own place
  have among : (updatedRows t column (.integer n) selected).Sublist
      (updated t column (.integer n) selected).rows := by
    have same : updatedRows t column (.integer n) selected = (t.rows.filter selected).map fun r =>
        if selected r then reformed t column (.integer n) r else r :=
      List.map_congr_left fun r hr => (if_pos (List.mem_filter.mp hr).2).symm
    rw [same]
    exact List.filter_sublist.map _
  have first := List.findSome?_eq_none_iff.mp unique (reformed t column (.integer n) r)
    (rows ▸ List.mem_cons_self)
  have other : reformed t column (.integer n) s ∈
      (updated t column (.integer n) selected).rows.erase (reformed t column (.integer n) r) := by
    have left := among.erase (reformed t column (.integer n) r)
    rw [rows, List.erase_cons_head] at left
    exact left.mem List.mem_cons_self
  refine number_ne_of_repeated? first other ?_
  rw [reformed_number number, reformed_number number]

/-- At most one row is given another number. -/
lemma filter_of_checkKeys (h : checkKeys t column value selected = .ok ())
    (number : t.namesNumber column) :
    t.rows.filter selected = [] ∨ ∃ r, t.rows.filter selected = [r] := by
  cases rows : t.rows.filter selected with
  | nil => exact .inl rfl
  | cons r others =>
    cases others with
    | nil => exact .inr ⟨r, rfl⟩
    | cons s rest =>
      exfalso
      have some : t.rows.any selected := by
        have hr : r ∈ t.rows.filter selected := rows ▸ List.mem_cons_self
        exact List.any_eq_true.mpr ⟨r, List.mem_filter.mp hr⟩
      unfold checkKeys at h
      rw [number, some, Bool.true_and, Bool.true_and] at h
      cases value with
      | integer n =>
        cases unique : repeatedAmong? (updated t column (.integer n) selected)
            (updatedRows t column (.integer n) selected) with
        | none => exact repeatedAmong?_of_two number rows unique
        | some key =>
          rw [unique] at h
          cases h
      | null => cases h
      | real x => cases h
      | text s => cases h
      | blob bytes => cases h

/-- The rows that are selected get another value, and each counts. -/
lemma update_counts {table column key : Name} {value old : Int}
    (h : db.runStatement batchId script (.update table column value key old) = .ok changes) :
    db.Counts batchId (.update table column value key old) (db.changedBy changes)
      (db.rowsChangedBy changes) := by
  obtain ⟨t, writable, h⟩ := bind_eq_ok.mp h
  obtain ⟨-, -, h⟩ := bind_eq_ok.mp h
  obtain ⟨-, -, h⟩ := bind_eq_ok.mp h
  obtain ⟨⟨⟩, checked, h⟩ := bind_eq_ok.mp h
  cases h
  have ht := table_of_writable writable
  obtain ⟨links, -, checked⟩ := bind_eq_ok.mp checked
  obtain ⟨⟨⟩, keys, -⟩ := bind_eq_ok.mp checked
  unfold updating
  by_cases number : t.namesNumber column.value
  · rw [if_pos number]
    unfold updatedRows
    rcases filter_of_checkKeys keys number with none | ⟨r, only⟩
    · rw [none]
      exact .keep ht number none
    · rw [only, List.map_singleton, List.map_singleton, changedBy_cons, changedBy_nil, changed,
        edit_eq ht, rowsChangedBy_cons, rowsChanged_add ht]
      exact .renumber ht number only
  · rw [if_neg number, reformed_eq_assign number, changedBy_cons, changedBy_nil, changed,
      edit_eq ht, rowsChangedBy_cons, rowsChanged_alter ht]
    exact .update ht number

end

/-! ## Tables and indexes -/

/-- What a statement changes that makes a table: the table is new, or it is there already. -/
lemma createTable_cases {unlessThere : Bool} {table : Name} {columns : List (Name × Affinity)}
    (h : db.runStatement batchId script (.createTable unlessThere table columns) = .ok changes) :
    (db.kindNamed? table.value = none ∧
      changes = [.define (.addTable ⟨newShape table columns, []⟩)]) ∨
    ((db.kindNamed? table.value).isSome ∧ unlessThere = true ∧ changes = []) := by
  have name : (newShape table columns).name = table.value := rfl
  unfold runStatement at h
  dsimp only at h
  rw [name] at h
  obtain ⟨-, h⟩ := guard_eq_ok.mp h
  cases named : db.kindNamed? table.value with
  | some kind =>
    rw [named] at h
    cases unlessThere with
    | true =>
      cases h
      exact .inr ⟨rfl, rfl, rfl⟩
    | false => cases h
  | none =>
    rw [named] at h
    obtain ⟨-, -, h⟩ := bind_eq_ok.mp h
    cases h
    exact .inl ⟨rfl, rfl⟩

/-- What a statement changes that makes an index: the index is new, or it is there already. -/
lemma createIndex_cases {unlessThere : Bool} {index table : Name} {columns : List Name}
    (h : db.runStatement batchId script (.createIndex unlessThere index table columns) =
      .ok changes) :
    (db.index? index.value = none ∧
      changes = [.define (.addIndex ⟨index.value, table.value⟩)]) ∨
    ((db.index? index.value).isSome ∧ unlessThere = true ∧ changes = []) := by
  obtain ⟨t, -, h⟩ := bind_eq_ok.mp h
  obtain ⟨-, h⟩ := guard_eq_ok.mp h
  obtain ⟨-, h⟩ := guard_eq_ok.mp h
  by_cases there : (db.index? index.value).isSome
  · rw [if_pos there] at h
    cases unlessThere with
    | true =>
      cases h
      exact .inr ⟨there, rfl, rfl⟩
    | false => cases h
  · rw [if_neg there] at h
    dsimp only at h
    split at h
    · cases h
    · cases h
      exact .inl ⟨Option.not_isSome_iff_eq_none.mp there, rfl⟩

/-- A table is made, or it is there already, and no row counts. -/
lemma createTable_counts {unlessThere : Bool} {table : Name} {columns : List (Name × Affinity)}
    (h : db.runStatement batchId script (.createTable unlessThere table columns) = .ok changes) :
    db.Counts batchId (.createTable unlessThere table columns) (db.changedBy changes)
      (db.rowsChangedBy changes) := by
  rcases createTable_cases h with ⟨free, rfl⟩ | ⟨there, rfl, rfl⟩
  · exact .createTable free
  · exact .tableThere there

/-- An index is made, or it is there already, and no row counts. -/
lemma createIndex_counts {unlessThere : Bool} {index table : Name} {columns : List Name}
    (h : db.runStatement batchId script (.createIndex unlessThere index table columns) =
      .ok changes) :
    db.Counts batchId (.createIndex unlessThere index table columns) (db.changedBy changes)
      (db.rowsChangedBy changes) := by
  rcases createIndex_cases h with ⟨free, rfl⟩ | ⟨there, rfl, rfl⟩
  · exact .createIndex free
  · exact .indexThere there

/-- What makes a table or an index changes only what the database is made of. -/
lemma definitions_of_runStatement {s : Statement} (defined : s.IsDefinition)
    (h : db.runStatement batchId script s = .ok changes) : ∀ c ∈ changes, c.IsDefinition := by
  cases defined with
  | table unlessThere table columns =>
    rcases createTable_cases h with ⟨-, rfl⟩ | ⟨-, -, rfl⟩
    · exact List.forall_mem_singleton.mpr ⟨_, rfl⟩
    · exact List.forall_mem_nil _
  | index unlessThere index table columns =>
    rcases createIndex_cases h with ⟨-, rfl⟩ | ⟨-, -, rfl⟩
    · exact List.forall_mem_singleton.mpr ⟨_, rfl⟩
    · exact List.forall_mem_nil _

/-- Removing the rows of a table first leaves no more of it than removing it. -/
lemma removeTable_put {name : String} {t : Table} (named : sameName t.shape.name name) :
    (db.put name t).removeTable name = db.removeTable name := by
  unfold removeTable put
  congr 1
  induction db.tables with
  | nil => rfl
  | cons u tables ih =>
    rw [List.map_cons, List.filter_cons, List.filter_cons, ih]
    by_cases same : sameName u.shape.name name
    · simp [same, named]
    · simp [same]

/-- Without a table nothing of it is left. -/
lemma changedBy_dropping {name : String} {t : Table} (ht : db.table? name = some t) :
    db.changedBy (db.dropping name) = db.removeTable name := by
  unfold dropping
  split
  · have named : sameName t.shape.name name := writable_name (writable_of_table ht)
    rw [changedBy_cons, changed, edit_eq ht]
    exact removeTable_put named
  · rfl

/-- The rows of a table that is removed count if they are removed before it. -/
lemma rowsChangedBy_dropping {name : String} {t : Table} (ht : db.table? name = some t) :
    db.rowsChangedBy (db.dropping name) =
      if db.enforcing && !(db.referencesTo name).isEmpty then t.rows.length else 0 := by
  unfold dropping
  split
  · rw [rowsChangedBy_cons, rowsChanged_remove ht, List.countP_true]
    rfl
  · rfl

/-- The table that may be removed is the one of the name. -/
lemma eq_of_removable? {name : String} {found : Option Table}
    (h : db.removable? name = .ok found) : found = db.table? name := by
  unfold removable? at h
  cases ht : db.table? name with
  | some t =>
    rw [ht] at h
    dsimp only at h
    split at h
    · cases h
    · cases h
      rfl
  | none =>
    rw [ht] at h
    cases view : db.view? name with
    | some v =>
      rw [view] at h
      cases h
    | none =>
      rw [view] at h
      cases h
      rfl

/-- A table is removed, or there is none. Its rows count if they are removed before it. -/
lemma dropTable_counts {ifThere : Bool} {table : Name}
    (h : db.runStatement batchId script (.dropTable ifThere table) = .ok changes) :
    db.Counts batchId (.dropTable ifThere table) (db.changedBy changes)
      (db.rowsChangedBy changes) := by
  obtain ⟨found, removable, h⟩ := bind_eq_ok.mp h
  obtain rfl := eq_of_removable? removable
  cases ht : db.table? table.value with
  | none =>
    rw [ht] at h
    cases ifThere with
    | true =>
      cases h
      exact .nothingDropped ht
    | false => cases h
  | some t =>
    rw [ht] at h
    cases h
    rw [changedBy_dropping ht, rowsChangedBy_dropping ht]
    exact .dropTable ht

/-- A statement counts the rows that it adds, removes or changes. -/
theorem runStatement_counts {s : Statement}
    (h : db.runStatement batchId script s = .ok changes) :
    db.Counts batchId s (db.changedBy changes) (db.rowsChangedBy changes) := by
  cases s with
  | insert => exact insert_counts h
  | delete => exact delete_counts h
  | update => exact update_counts h
  | createTable => exact createTable_counts h
  | createIndex => exact createIndex_counts h
  | dropTable => exact dropTable_counts h
  | select => cases h

end Database

end ShipReport.Store
