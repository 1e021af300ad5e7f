import ShipReport.Proofs.Store.Frames

/-!
# Rows added one after the other

Rows are kept in the order of their numbers, and a new row without a number of its own comes last.
So rows that are added one after the other follow those that are there, and each holds the values
that were given for it. A table for texts whose rows are replaced holds exactly the new ones, each
fitted to the columns.
-/

namespace ShipReport.Store

/-- Rows with numbers from a first one on. -/
def numbered (n : Int) : List (List Datum) → List Row
  | [] => []
  | values :: rest => ⟨n, values⟩ :: numbered (n + 1) rest

/-- The values of numbered rows are those that were numbered. -/
@[simp] lemma numbered_values (n : Int) (vs : List (List Datum)) :
    (numbered n vs).map (·.values) = vs := by
  induction vs generalizing n with
  | nil => rfl
  | cons v vs ih => rw [numbered, List.map_cons, ih]

/-- Rows are numbered upwards. -/
lemma le_number_of_mem {n : Int} {vs : List (List Datum)} {r : Row} (hr : r ∈ numbered n vs) :
    n ≤ r.number := by
  induction vs generalizing n with
  | nil => cases hr
  | cons v vs ih =>
    rcases List.mem_cons.mp hr with rfl | hr
    · exact Int.le_refl n
    · have := ih hr
      omega

/-- Numbered rows stand in order. -/
lemma numbered_ordered (n : Int) (vs : List (List Datum)) :
    (numbered n vs).Pairwise (·.number < ·.number) := by
  induction vs generalizing n with
  | nil => exact .nil
  | cons v vs ih =>
    refine .cons (fun r hr => ?_) (ih (n + 1))
    have := le_number_of_mem hr
    dsimp only
    omega

namespace Table

/-- The rows stand in the order of their numbers. -/
def Ordered (t : Table) : Prop :=
  t.rows.Pairwise (·.number < ·.number)

/-- The table with rows of given values after the last one. -/
def extended (t : Table) (vs : List (List Datum)) : Table :=
  { t with rows := t.rows ++ numbered t.nextNumber vs }

variable {t : Table} {names : List String} {values : List Datum} {v : List Datum}
  {vs : List (List Datum)}

/-- More rows leave the shape. -/
@[simp] lemma extended_shape : (t.extended vs).shape = t.shape :=
  rfl

/-- No more rows leave the table. -/
@[simp] lemma extended_nil : t.extended [] = t := by
  simp [extended, numbered]

/-- A row more uses up a number. -/
lemma nextNumber_extended : (t.extended [v]).nextNumber = t.nextNumber + 1 := by
  simp [extended, numbered, nextNumber]

/-- Rows may be added in two parts. -/
lemma extended_cons : t.extended (v :: vs) = (t.extended [v]).extended vs := by
  have next := nextNumber_extended (t := t) (v := v)
  unfold extended at next ⊢
  rw [next]
  simp [numbered]

/-- All numbers are below the next one. -/
lemma Ordered.lt_nextNumber (ht : t.Ordered) {r : Row} (hr : r ∈ t.rows) :
    r.number < t.nextNumber := by
  obtain ⟨shape, rows⟩ := t
  rcases List.eq_nil_or_concat rows with rfl | ⟨before, last, rfl⟩
  · cases hr
  · rw [List.concat_eq_append] at hr ht
    have next : (⟨shape, before ++ [last]⟩ : Table).nextNumber = last.number + 1 := by
      simp [nextNumber]
    rw [List.concat_eq_append, next]
    rcases List.mem_append.mp hr with hr | hr
    · have := (List.pairwise_append.mp ht).2.2 r hr last List.mem_cons_self
      omega
    · obtain rfl := List.mem_singleton.mp hr
      omega

/-- More rows stand in order after the others. -/
lemma Ordered.extend (ht : t.Ordered) (vs : List (List Datum)) : (t.extended vs).Ordered := by
  refine List.pairwise_append.mpr ⟨ht, numbered_ordered _ vs, fun r hr s hs => ?_⟩
  have := ht.lt_nextNumber hr
  have := le_number_of_mem hs
  omega

/-- A row with a greater number than all others comes last. -/
lemma place_last {r : Row} {rows : List Row} (h : ∀ s ∈ rows, s.number < r.number) :
    place r rows = rows ++ [r] := by
  induction rows with
  | nil => rfl
  | cons s rows ih =>
    obtain ⟨first, rest⟩ := List.forall_mem_cons.mp h
    rw [place, if_neg (by omega), ih rest, List.cons_append]

/-- A row that repeats no key and lacks no value is added after the last one. -/
lemma Ordered.insert_eq (ht : t.Ordered) (number : t.numberFor names values = .ok t.nextNumber)
    (row : t.newRow t.nextNumber names values = ⟨t.nextNumber, v⟩)
    (whole : t.missing? ⟨t.nextNumber, v⟩ = none)
    (fresh : ∀ key ∈ t.shape.keys, ∀ s ∈ t.rows, ¬ t.repeats key ⟨t.nextNumber, v⟩ s) :
    t.insert names values = .ok (⟨t.nextNumber, v⟩, t.extended [v]) := by
  have numbers : t.rows.any (·.number == t.nextNumber) = false := by
    rw [List.any_eq_false]
    intro s hs same
    have := ht.lt_nextNumber hs
    rw [beq_iff_eq] at same
    omega
  have keys : t.repeated? ⟨t.nextNumber, v⟩ = none := by
    unfold repeated?
    rw [numbers, if_neg Bool.false_ne_true, List.find?_eq_none]
    intro key hkey any
    obtain ⟨s, hs, repeats⟩ := List.any_eq_true.mp any
    exact fresh key hkey s hs repeats
  have last : place ⟨t.nextNumber, v⟩ t.rows = t.rows ++ [⟨t.nextNumber, v⟩] :=
    place_last fun s hs => ht.lt_nextNumber hs
  unfold insert
  simp only [number, bind, Except.bind, row, whole, keys, last, pure, Except.pure]
  rw [extended, numbered, numbered]

end Table

namespace Database

variable {db : Database} {name : String} {t u : Table}

/-- The columns under the name of a table are its own. -/
lemma columnNames_of_table (ht : db.table? name = some t) :
    db.columnNames name = t.shape.columnNames := by
  unfold columnNames
  rw [ht]

/-- A table that is replaced twice is replaced by the second one. -/
lemma put_put (hu : sameName u.shape.name name) (t : Table) :
    (db.put name u).put name t = db.put name t := by
  have replaced : (fun w : Table => if sameName w.shape.name name then t else w) ∘
      (fun w => if sameName w.shape.name name then u else w) =
        fun w => if sameName w.shape.name name then t else w := by
    funext w
    by_cases hw : sameName w.shape.name name <;> simp [hw, hu]
  unfold put
  rw [List.map_map, replaced]

end Database

/-! ## Values for columns -/

/-- Names that differ also without regard to case. -/
def Apart (columns : List String) : Prop :=
  columns.Pairwise fun a b => ¬ sameName a b

/-- A name is the same as itself. -/
lemma sameName_self (a : String) : sameName a a :=
  sameName_iff.mpr rfl

/-- Values that are given for different columns are found under their columns. -/
lemma map_given? {columns : List String} {values : List Datum} (apart : Apart columns)
    (h : columns.length = values.length) :
    columns.map (given? columns values) = values.map some := by
  induction columns generalizing values with
  | nil =>
    obtain rfl := List.eq_nil_of_length_eq_zero h.symm
    rfl
  | cons c columns ih =>
    match values, h with
    | d :: values, h =>
      obtain ⟨others, apart⟩ := List.pairwise_cons.mp apart
      have first : given? (c :: columns) (d :: values) c = some d := by
        simp [given?, sameName_self]
      have rest : ∀ c' ∈ columns, given? (c :: columns) (d :: values) c' =
          given? columns values c' := fun c' hc => by
        simp [given?, others c' hc]
      rw [List.map_cons, first, List.map_congr_left rest, ih apart (by simpa using h)]
      rfl

/-- The column keeps the value as it is given. -/
def Column.Keeps (c : Column) (d : Datum) : Prop :=
  d.converted c.affinity = d

namespace Table

variable {t : Table}

/-- The columns of a table are found. -/
lemma position?_column {s : Shape} {c : String} (hc : c ∈ s.columnNames) :
    (s.position? c).isNone = false := by
  obtain ⟨column, hcolumn, rfl⟩ := List.mem_map.mp hc
  unfold Shape.position?
  rw [Option.isNone_eq_false_iff, List.findIdx?_isSome, List.any_eq_true]
  exact ⟨column, hcolumn, sameName_self column.name⟩

/-- Where no column shows the number of a row, values for the columns do not give it. -/
lemma numberFor_columns (key : t.shape.rowKey = none) (values : List Datum) :
    t.numberFor t.shape.columnNames values = .ok t.nextNumber := by
  have none : t.givenNumber? t.shape.columnNames values = none := by
    unfold givenNumber?
    rw [Option.map_eq_none_iff, List.find?_eq_none]
    intro p hp
    have column := List.of_mem_zip (List.mem_reverse.mp hp)
    have found := position?_column column.1
    simp only [namesNumber, key, found, Option.any_none, Bool.and_false, Bool.or_false]
    exact Bool.false_ne_true
  unfold numberFor
  rw [none]
  rfl

/-- The cells of a new row are the given values if the columns keep them. -/
lemma map_cell (key : t.shape.rowKey = none) {names : List String} {values ds : List Datum}
    {cs : List Column} (n : Int) (keeps : List.Forall₂ Column.Keeps cs ds)
    (given : cs.map (given? names values ∘ (·.name)) = ds.map some) :
    cs.map (t.cell n names values) = ds := by
  induction keeps with
  | nil => rfl
  | @cons c d cs ds first _ ih =>
    rw [List.map_cons, List.map_cons, List.cons.injEq, Function.comp_apply] at given
    have value : t.cell n names values c = d := by
      unfold cell
      rw [key, given.1]
      exact first
    rw [List.map_cons, value, ih given.2]

/-- A new row holds the values that are given for its columns and that they keep. -/
lemma newRow_columns (key : t.shape.rowKey = none) (apart : Apart t.shape.columnNames)
    {values : List Datum} (keeps : List.Forall₂ Column.Keeps t.shape.columns values) (n : Int) :
    t.newRow n t.shape.columnNames values = ⟨n, values⟩ := by
  have length : t.shape.columnNames.length = values.length := by
    rw [Shape.columnNames, List.length_map, keeps.length_eq]
  have given := map_given? apart length
  rw [Shape.columnNames, List.map_map, ← Shape.columnNames] at given
  unfold newRow
  rw [map_cell key n keeps given]

/-- A row with a value for each column comes last. -/
lemma Ordered.eq_of_insert (ht : t.Ordered) (key : t.shape.rowKey = none)
    (apart : Apart t.shape.columnNames) {values : List Datum}
    (keeps : List.Forall₂ Column.Keeps t.shape.columns values) {r : Row} {u : Table}
    (h : t.insert t.shape.columnNames values = .ok (r, u)) : u = t.extended [values] := by
  have last : place ⟨t.nextNumber, values⟩ t.rows = t.rows ++ [⟨t.nextNumber, values⟩] :=
    place_last fun s hs => ht.lt_nextNumber hs
  have new := newRow_columns key apart keeps t.nextNumber
  unfold insert at h
  simp only [numberFor_columns key, bind, Except.bind, new, last] at h
  split at h
  · cases h
  · split at h
    · cases h
    · cases h
      rfl

end Table

/-! ## Tables for texts -/

/-- A fitted row has one text for each column. -/
lemma length_fitted (count : Nat) (row : List String) : (fitted count row).length = count := by
  simp only [fitted, List.length_append, List.length_take, List.length_replicate]
  omega

/-- A row with a text for each column stays as it is. -/
lemma fitted_self {count : Nat} {row : List String} (h : row.length = count) :
    fitted count row = row := by
  subst h
  simp [fitted]

namespace Table

/-- The values of a row of texts. -/
def texts (columns : List String) (row : List String) : List Datum :=
  (fitted columns.length row).map .text

variable {name : String} {columns : List String} {rows : List Row} {row : List String}

/-- A table for texts has the columns that it was made with. -/
lemma columnNames_texts (name : String) (columns : List String) :
    (Database.textShape name columns).columnNames = columns := by
  simp [Database.textShape, Shape.columnNames, Function.comp_def]

/-- The columns of a table for texts are found. -/
lemma position?_texts (name : String) {c : String} (hc : c ∈ columns) :
    ((Database.textShape name columns).position? c).isNone = false := by
  refine position?_column ?_
  rwa [columnNames_texts]

/-- A table for texts keeps texts. -/
lemma keeps_texts (row : List String) :
    List.Forall₂ Column.Keeps (Database.textShape name columns).columns (texts columns row) := by
  rw [List.forall₂_iff_zip]
  refine ⟨by simp [Database.textShape, texts, length_fitted], fun {c d} h => ?_⟩
  obtain ⟨hc, hd⟩ := List.of_mem_zip h
  obtain ⟨_, -, rfl⟩ := List.mem_map.mp hc
  obtain ⟨_, -, rfl⟩ := List.mem_map.mp hd
  rfl

/-- A row of texts is added after the last one. -/
lemma insert_texts (apart : Apart columns)
    (ordered : (⟨Database.textShape name columns, rows⟩ : Table).Ordered) :
    (⟨Database.textShape name columns, rows⟩ : Table).insert columns (texts columns row) =
      .ok (⟨(⟨Database.textShape name columns, rows⟩ : Table).nextNumber, texts columns row⟩,
        (⟨Database.textShape name columns, rows⟩ : Table).extended [texts columns row]) := by
  have names := columnNames_texts name columns
  rw [← names] at apart
  have number := numberFor_columns (t := ⟨Database.textShape name columns, rows⟩) rfl
    (texts columns row)
  have new := newRow_columns (t := ⟨Database.textShape name columns, rows⟩) rfl apart
    (keeps_texts row) (⟨Database.textShape name columns, rows⟩ : Table).nextNumber
  dsimp only at number new
  rw [names] at number new
  refine ordered.insert_eq number new ?_ (List.forall_mem_nil _)
  unfold missing?
  rw [Option.map_eq_none_iff, List.find?_eq_none]
  intro p hp
  obtain ⟨c, -, column⟩ := List.mem_map.mp (List.of_mem_zip hp).1
  rw [← column]
  exact Bool.false_ne_true

end Table

namespace Database

variable {db : Database} {table spelled : String} {columns : List String} {t : Table}

/-- The columns of a table for texts are there. -/
lemma checkNames_texts {rows : List Row} :
    checkNames table ⟨textShape spelled columns, rows⟩ columns = .ok () := by
  have none : columns.find? (fun c => ((textShape spelled columns).position? c).isNone &&
      !isRowNumber c) = none := by
    rw [List.find?_eq_none]
    intro c hc
    rw [Table.position?_texts spelled hc]
    exact Bool.false_ne_true
  unfold checkNames
  rw [none]

/-- A row of texts is added to its table. -/
lemma insertTexts_eq (ht : db.table? table = some t) (hs : t.shape = textShape spelled columns)
    (apart : Apart columns) (ordered : t.Ordered) (row : List String) :
    insertTexts table columns db row =
      .ok (db.put table (t.extended [Table.texts columns row])) := by
  obtain ⟨shape, rows⟩ := t
  obtain rfl : shape = textShape spelled columns := hs
  exact insertInto_eq ht checkNames_texts rfl (Table.insert_texts apart ordered)
    (List.forall_mem_nil _)

/-- Rows of texts are added to their table one after the other. -/
lemma foldlM_insertTexts {u : Table} (hu : db.table? table = some u)
    (hs : t.shape = textShape spelled columns) (same : sameName spelled table)
    (apart : Apart columns) (ordered : t.Ordered) (rows : List (List String)) :
    rows.foldlM (insertTexts table columns) (db.put table t) =
      .ok (db.put table (t.extended (rows.map (Table.texts columns)))) := by
  induction rows generalizing t with
  | nil =>
    rw [List.map_nil, Table.extended_nil]
    rfl
  | cons row rows ih =>
    have named : sameName t.shape.name table := hs ▸ same
    have first := insertTexts_eq (table?_put_self hu named) hs apart ordered row
    rw [put_put named] at first
    rw [List.foldlM_cons, List.map_cons, Table.extended_cons]
    exact bind_eq_ok.mpr ⟨_, first, ih hs (ordered.extend _)⟩

/-- A table that was cleared has no rows, and nothing else has changed. -/
lemma eq_of_clear {after : Database} (ht : db.table? table = some t)
    (h : db.clear table = .ok after) : after = db.put table { t with rows := [] } := by
  obtain ⟨u, hu, h⟩ := bind_eq_ok.mp h
  cases (writable_of_table ht).symm.trans hu
  rw [eq_of_removeRows h]
  simp

/-- A name without a character of number zero is read in a statement. -/
lemma checkName_eq (readable : IsReadable table) (start rest : String) :
    checkName start table rest = .ok () := by
  unfold checkName
  exact if_pos readable

/-- A name with a character of number zero is not read. -/
lemma checkName_error (unreadable : ¬ IsReadable table) (start rest : String) :
    checkName start table rest = .error (unreadableName start table rest) := by
  unfold checkName
  exact if_neg unreadable

/-- The rows of a table for texts that can be cleared are replaced by the given ones. -/
lemma replaceRows_eq {after : Database} (readable : IsReadable table) (ht : db.table? table = some t)
    (hs : t.shape = textShape spelled columns) (same : sameName spelled table)
    (apart : Apart columns) (given : columns ≠ []) (cleared : db.clear table = .ok after)
    (rows : List (List String)) :
    db.replaceRows table columns rows =
      .ok (db.put table ⟨t.shape, numbered 1 (rows.map (Table.texts columns))⟩, rows.length) := by
  obtain rfl := eq_of_clear ht cleared
  have named : sameName t.shape.name table := hs ▸ same
  have found : (db.put table { t with rows := [] }).table? table =
      some { t with rows := [] } := table?_put_self ht named
  have writable : (db.put table { t with rows := [] }).writable table =
      .ok { t with rows := [] } := writable_of_table found
  have names : checkNames table { t with rows := [] } columns = .ok () := by
    rw [hs]
    exact checkNames_texts
  have filled := foldlM_insertTexts (t := { t with rows := [] }) ht hs same apart .nil rows
  have nonempty : columns.isEmpty = false := List.isEmpty_eq_false_iff.mpr given
  unfold replaceRows
  simp only [checkName_eq readable, cleared, bind, Except.bind, nonempty, writable, names, filled]
  rfl

/-- The columns of a table are found under a name that is read in a statement. -/
lemma tableColumns_eq (readable : IsReadable table) :
    db.tableColumns table = .ok (db.columnNames table) := by
  unfold tableColumns
  rw [checkName_eq readable]
  rfl

/-- No columns are found under a name that is not read, whatever there is. -/
lemma tableColumns_error (unreadable : ¬ IsReadable table) :
    db.tableColumns table =
      .error (.ofFailure (unreadableName "PRAGMA table_info(" table ")")) := by
  unfold tableColumns
  rw [checkName_error unreadable]
  rfl

end Database

end ShipReport.Store
