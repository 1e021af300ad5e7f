import ShipReport.Proofs.Store.Rows

/-!
# Tables that are made anew

A table for texts takes the place of the one that had its name, with the rows and indexes of that
one gone. It is made if it has at least one column and not too many, unless another table refers to
the old one, the name is taken otherwise, or it is not read in a statement.
-/

namespace ShipReport.Store

namespace Database

variable {db : Database} {name table other : String} {columns before : List String} {t : Table}

/-- A table is found under each spelling of its name. -/
lemma table?_congr (same : sameName name other) : db.table? name = db.table? other := by
  unfold table?
  congr 1
  funext t
  rw [Bool.eq_iff_iff, sameName_iff, sameName_iff, sameName_iff.mp same]

/-- The database without the table of a name, if there is one. -/
def dropped (db : Database) (name : String) : Database :=
  if (db.table? name).isSome then db.removeTable name else db

/-- A table that no table refers to may be removed. -/
lemma removable?_eq (view : db.view? name = none)
    (free : ∀ u ∈ db.tables, ∀ r ∈ u.shape.references, ¬ sameName r.table name) :
    db.removable? name = .ok (db.table? name) := by
  unfold removable?
  cases ht : db.table? name with
  | none => rw [view]
  | some t =>
    have named : sameName t.shape.name name := writable_name (writable_of_table ht)
    have referred : db.isReferred t t.rows = false := by
      unfold isReferred
      rw [referencesTo_eq_nil named free]
      rfl
    simp [referred]

/-- A table that no table refers to is removed. -/
lemma dropTable_eq (view : db.view? name = none)
    (free : ∀ u ∈ db.tables, ∀ r ∈ u.shape.references, ¬ sameName r.table name) :
    db.dropTable name = .ok (db.dropped name) := by
  unfold dropTable dropped
  rw [removable?_eq view free, ok_bind]
  cases db.table? name <;> rfl

/-- Removing a table changes nothing else. -/
lemma dropped_changesOnly : db.ChangesOnly [name] (db.dropped name) := by
  unfold dropped
  split
  · exact removeTable_changesOnly db name
  · exact .refl [name] db

/-- The tables that are left were there, and none of them has the name. -/
lemma mem_dropped (ht : t ∈ (db.dropped name).tables) :
    t ∈ db.tables ∧ ¬ sameName t.shape.name name := by
  unfold dropped at ht
  split at ht
  · obtain ⟨there, other⟩ := List.mem_filter.mp ht
    exact ⟨there, by simpa using other⟩
  · next none =>
    rw [Option.not_isSome_iff_eq_none] at none
    exact ⟨ht, List.find?_eq_none.mp none t ht⟩

/-- The indexes that are left were there. -/
lemma dropped_indexes {i : Index} (hi : i ∈ (db.dropped name).indexes) : i ∈ db.indexes := by
  unfold dropped at hi
  split at hi
  · exact (List.mem_filter.mp hi).1
  · exact hi

/-- Columns whose names differ are as many as a table may have, or too many. -/
lemma checkColumns_eq (few : before.length ≤ maxColumns)
    (fresh : ∀ c ∈ columns, ∀ b ∈ before, ¬ sameName c b) (apart : Apart columns) :
    checkColumns table before columns =
      if before.length + columns.length ≤ maxColumns then .ok ()
      else .error (Fault.tooManyColumns table).failure := by
  induction columns generalizing before with
  | nil => rw [List.length_nil, Nat.add_zero, if_pos few, checkColumns]
  | cons c columns ih =>
    obtain ⟨first, rest⟩ := List.forall_mem_cons.mp fresh
    obtain ⟨others, apart⟩ := List.pairwise_cons.mp apart
    have new : before.any (sameName c) = false :=
      List.any_eq_false.mpr fun b hb => first b hb
    rw [checkColumns, new]
    by_cases full : maxColumns ≤ before.length
    · rw [if_pos full, if_neg (by rw [List.length_cons]; omega)]
    · have later : ∀ d ∈ columns, ∀ b ∈ c :: before, ¬ sameName d b := by
        intro d hd b hb
        rcases List.mem_cons.mp hb with rfl | hb
        · rw [sameName_comm]
          exact others d hd
        · exact rest d hd b hb
      rw [if_neg full, if_neg Bool.false_ne_true, ih (by rw [List.length_cons]; omega) later apart]
      simp only [List.length_cons, Nat.add_right_comm, Nat.add_assoc]

/-- The database with a new table for texts in the place of the table that had its name. -/
def recreated (db : Database) (table : String) (columns : List String) : Database :=
  (db.dropped table).addTable (textShape table columns)

/-- A table is made anew, unless it has no column or too many. -/
lemma recreateTable_eq (readable : IsReadable table) (unreserved : isReserved table = false)
    (view : db.view? table = none) (unindexed : ∀ i ∈ db.indexes, ¬ sameName i.name table)
    (free : ∀ u ∈ db.tables, ∀ r ∈ u.shape.references, ¬ sameName r.table table)
    (apart : Apart columns) (given : columns ≠ []) (few : columns.length ≤ maxColumns) :
    db.recreateTable table columns = .ok (db.recreated table columns) := by
  have nonempty : columns.isEmpty = false := List.isEmpty_eq_false_iff.mpr given
  have dropped := dropTable_eq view free
  have checked : checkColumns table [] columns = .ok () := by
    rw [checkColumns_eq (Nat.zero_le _) (fun _ _ => List.forall_mem_nil _) apart,
      List.length_nil, Nat.zero_add, if_pos few]
  have unnamed : (db.dropped table).index? table = none :=
    List.find?_eq_none.mpr fun i hi => unindexed i (dropped_indexes hi)
  have shaped : (db.dropped table).checkShape (textShape table columns) = .ok () := by
    unfold checkShape
    rw [show (textShape table columns).name = table from rfl, unnamed, Table.columnNames_texts,
      checked]
    rfl
  unfold recreateTable createTable
  simp only [nonempty, checkName_eq readable, dropped, unreserved, bind, Except.bind, shaped]
  rfl

/-- Under a name that is not read no table is made. -/
lemma recreateTable_unreadable (unreadable : ¬ IsReadable table) (given : columns ≠ []) :
    db.recreateTable table columns =
      .error (.ofFailure (unreadableName "DROP TABLE IF EXISTS " table "")) := by
  have nonempty : columns.isEmpty = false := List.isEmpty_eq_false_iff.mpr given
  unfold recreateTable
  rw [nonempty, if_neg Bool.false_ne_true, checkName_error unreadable]
  rfl

/-- Without columns, or with too many, a table is not made. -/
lemma recreateTable_error (apart : Apart columns)
    (wrong : columns = [] ∨ maxColumns < columns.length) :
    ∃ e, db.recreateTable table columns = .error e := by
  cases made : db.recreateTable table columns with
  | error e => exact ⟨e, rfl⟩
  | ok after =>
    unfold recreateTable at made
    rcases wrong with rfl | many
    · cases made
    · have nonempty : columns.isEmpty = false := by
        rw [List.isEmpty_eq_false_iff]
        rintro rfl
        exact absurd many (Nat.not_lt_zero _)
      rw [nonempty, if_neg Bool.false_ne_true] at made
      obtain ⟨-, -, made⟩ := bind_eq_ok.mp (mapError_eq_ok.mp made)
      obtain ⟨dropped, -, created⟩ := bind_eq_ok.mp made
      have checked : checkColumns table [] columns = _ :=
        checkColumns_eq (Nat.zero_le _) (fun _ _ => List.forall_mem_nil _) apart
      rw [List.length_nil, Nat.zero_add, if_neg (by omega)] at checked
      have refused : dropped.checkShape (textShape table columns) ≠ .ok () := by
        unfold checkShape
        rw [Table.columnNames_texts, show (textShape table columns).name = table from rfl, checked]
        intro accepted
        cases (guard_eq_ok.mp accepted).2
      unfold createTable at created
      obtain ⟨-, created⟩ := guard_eq_ok.mp created
      obtain ⟨⟨⟩, accepted, -⟩ := bind_eq_ok.mp created
      exact absurd accepted refused

/-- The new table is found under each spelling of its name. -/
lemma table?_recreated (same : sameName table name) : (db.recreated table columns).table? name =
    some ⟨textShape table columns, []⟩ := by
  have removed : (db.dropped table).tables.find? (fun t => sameName t.shape.name name) = none := by
    rw [List.find?_eq_none]
    intro t ht
    have other := (mem_dropped ht).2
    rw [sameName_iff] at other
    rwa [sameName_iff, ← sameName_iff.mp same]
  unfold recreated addTable table?
  rw [List.find?_append, removed, Option.none_or]
  exact List.find?_cons_of_pos same

/-- Nothing but the table that had the name is changed. -/
lemma recreated_changesOnly : db.ChangesOnly [table] (db.recreated table columns) :=
  dropped_changesOnly.trans (addTable_changesOnly _ (textShape table columns))

/-- The tables are the new one and those that were there. -/
lemma mem_recreated (ht : t ∈ (db.recreated table columns).tables) :
    t = ⟨textShape table columns, []⟩ ∨ t ∈ db.tables := by
  rcases List.mem_append.mp ht with ht | ht
  · exact .inr (mem_dropped ht).1
  · exact .inl (List.mem_singleton.mp ht)

end Database

end ShipReport.Store
