import ShipReport.Proofs.Store.Lookups
import ShipReport.Proofs.Store.Rows
import ShipReport.Proofs.Text.Numerals

/-!
# Settings that were set one after the other

Any value can be set, in the row of its scope and key if there is one and else in a new row. The
first row that a query finds for a scope and a key therefore holds what was set last.
-/

namespace ShipReport.Store

/-- Different scopes have different words. -/
lemma Scope.word_inj {scope scope' : Scope} : scope.word = scope'.word ↔ scope = scope' := by
  refine ⟨fun h => ?_, congrArg Scope.word⟩
  have word (id : Int) : (Scope.vessel id).word.toList = "vessel:".toList ++ (toString id).toList :=
    String.toList_append
  cases scope with
  | everyone =>
    cases scope' with
    | everyone => rfl
    | vessel id =>
      have chars := congrArg String.toList h
      rw [word] at chars
      exact absurd (List.cons.inj chars).1 (by decide)
  | vessel id =>
    cases scope' with
    | everyone =>
      have chars := congrArg String.toList h
      rw [word] at chars
      exact absurd (List.cons.inj chars).1 (by decide)
    | vessel id' =>
      have chars := congrArg String.toList h
      rw [word, word, List.append_cancel_left_eq, String.toList_inj, Text.intText_inj] at chars
      rw [chars]

/-! ## What was set last -/

/-- A value that is set. -/
structure Write where
  scope : Scope
  key : String
  value : String
deriving Repr, DecidableEq

/-- The value is for a scope and a key. -/
def Write.sets (w : Write) (scope : Scope) (key : String) : Bool :=
  decide (w.scope = scope ∧ w.key = key)

/-- What was set last for a scope under a key. -/
def lastSet (writes : List Write) (scope : Scope) (key : String) : Option String :=
  ((writes.filter fun w => w.sets scope key).getLast?).map (·.value)

variable {writes : List Write} {scope : Scope} {key : String}

/-- One more value is set last for its scope and key only. -/
lemma lastSet_append (writes : List Write) (w : Write) (scope : Scope) (key : String) :
    lastSet (writes ++ [w]) scope key =
      if w.scope = scope ∧ w.key = key then some w.value else lastSet writes scope key := by
  unfold lastSet
  rw [List.filter_append, List.filter_singleton]
  by_cases own : w.scope = scope ∧ w.key = key
  · simp [Write.sets, own]
  · simp [Write.sets, own]

namespace Database

/-- The database after values were set one after the other. -/
def afterWrites (db : Database) (writes : List Write) : Except Failure Database :=
  writes.foldlM (fun db w => db.setSetting w.scope w.key w.value) db

/-! ## The rows of settings -/

/-- The row is that of a key of a scope. -/
def isSetting (word key : String) (r : Row) : Bool :=
  (valueAt r.values 0).equals (.text word) && (valueAt r.values 1).equals (.text key)

/-- The stored form of a value that is set. -/
def settingValues (w : Write) : List Datum :=
  [.text w.scope.word, .text w.key, .text w.value]

/-- The table with another value in the row of a key of a scope. -/
def withValue (w : Write) (t : Table) : Table :=
  { t with rows := t.rows.map fun r =>
      if isSetting w.scope.word w.key r then { r with values := r.values.set 2 (.text w.value) }
      else r }

section

variable {db : Database} {t : Table} {w : Write}

/-- A value is set in the row of its key, or in a new row if there is none. -/
lemma setSetting_eq (ht : db.table? "config_kv" = some t) (hs : t.shape = Schema.settings)
    (w : Write) :
    db.setSetting w.scope w.key w.value =
      if t.rows.any (isSetting w.scope.word w.key) then .ok (db.put "config_kv" (withValue w t))
      else db.insertRow "config_kv" t Schema.settings.columnNames (settingValues w) := by
  obtain ⟨shape, rows⟩ := t
  obtain rfl : shape = Schema.settings := hs
  have writable : db.writable "config_kv" = .ok ⟨Schema.settings, rows⟩ := writable_of_table ht
  -- what the parts of the statement come to in this table
  have scopes : ∀ r, (⟨Schema.settings, rows⟩ : Table).value r "scope_id" = valueAt r.values 0 :=
    fun _ => rfl
  have keys : ∀ r, (⟨Schema.settings, rows⟩ : Table).value r "key" = valueAt r.values 1 :=
    fun _ => rfl
  have selected : (fun r => [("scope_id", Datum.text w.scope.word), ("key", .text w.key)].all
      fun p => ((⟨Schema.settings, rows⟩ : Table).value r p.1).equals p.2) =
        isSetting w.scope.word w.key := by
    funext r
    rw [List.all_cons, List.all_cons, List.all_nil, Bool.and_true, scopes, keys, isSetting]
  have assigned : ∀ r, [("value", Datum.text w.value)].foldl
      (fun r p => (⟨Schema.settings, rows⟩ : Table).assign r p.1 p.2) r =
        { r with values := r.values.set 2 (.text w.value) } := by
    intro r
    simp only [List.foldl_cons, List.foldl_nil, Table.assign]
    rfl
  have update : (⟨Schema.settings, rows⟩ : Table).update (isSetting w.scope.word w.key)
      [("value", Datum.text w.value)] = withValue w ⟨Schema.settings, rows⟩ := by
    unfold Table.update withValue
    simp only [assigned]
  have columns : [("scope_id", Datum.text w.scope.word), ("key", .text w.key)].map (·.1) ++
      ["value"] = Schema.settings.columnNames := rfl
  have names : checkNames "config_kv" ⟨Schema.settings, rows⟩ Schema.settings.columnNames =
      .ok () := rfl
  have keyed : Schema.settings.keys.any (fun k =>
      decide (k.length = [("scope_id", Datum.text w.scope.word), ("key", .text w.key)].length) &&
        [("scope_id", Datum.text w.scope.word), ("key", .text w.key)].all
          fun p => k.any (sameName p.1)) = true := by
    simp only [List.all_cons, List.all_nil]
    rfl
  unfold setSetting upsert
  rw [writable]
  simp only [bind, Except.bind, columns, names, keyed, selected, update, if_true]
  rfl

/-- Values that were set belong to their scope and key only. -/
lemma isSetting_values {w : Write} {r : Row} (h : r.values = settingValues w) (scope : Scope)
    (key : String) : isSetting scope.word key r ↔ w.scope = scope ∧ w.key = key := by
  rw [isSetting, h]
  simp [settingValues, valueAt, Datum.equals_text, Scope.word_inj]

/-- Another value leaves the scope and the key of a row. -/
lemma isSetting_set {word key : String} {r : Row} {d : Datum} :
    isSetting word key { r with values := r.values.set 2 d } = isSetting word key r := by
  simp [isSetting, valueAt]

/-- Another value in a row leaves the rows in their order. -/
lemma ordered_withValue (order : t.Ordered) (w : Write) : (withValue w t).Ordered := by
  refine List.pairwise_map.mpr (order.imp fun {r s} before => ?_)
  have number (r : Row) : (if isSetting w.scope.word w.key r then
      { r with values := r.values.set 2 (.text w.value) } else r).number = r.number := by
    split <;> rfl
  rwa [number, number]

/-- A key finds the row that it found before another value was set in a row. -/
lemma find?_withValue (w : Write) (t : Table) (word key : String) :
    (withValue w t).rows.find? (isSetting word key) =
      (t.rows.find? (isSetting word key)).map fun r =>
        if isSetting w.scope.word w.key r then { r with values := r.values.set 2 (.text w.value) }
        else r := by
  have same : isSetting word key ∘ (fun r => if isSetting w.scope.word w.key r then
      { r with values := r.values.set 2 (.text w.value) } else r) = isSetting word key := by
    funext r
    rw [Function.comp_apply]
    split
    · exact isSetting_set
    · rfl
  rw [withValue, List.find?_map, same]

/-- The columns of settings have different names. -/
lemma apart_settings : Apart Schema.settings.columnNames := by
  unfold Apart
  decide

/-- The columns of settings keep texts. -/
lemma keeps_setting (w : Write) :
    List.Forall₂ Column.Keeps Schema.settings.columns (settingValues w) :=
  .cons rfl <| .cons rfl <| .cons rfl .nil

/-- A row of settings repeats the key of the rows for its scope and key. -/
lemma repeats_setting {rows : List Row} {n : Int} {s : Row} :
    (⟨Schema.settings, rows⟩ : Table).repeats ["scope_id", "key"] ⟨n, settingValues w⟩ s ↔
      isSetting w.scope.word w.key s := by
  have columns : (⟨Schema.settings, rows⟩ : Table).repeats ["scope_id", "key"]
      ⟨n, settingValues w⟩ s = ((Datum.text w.scope.word).equals (valueAt s.values 0) &&
        ((Datum.text w.key).equals (valueAt s.values 1) && true)) := rfl
  rw [columns, Bool.and_true, Bool.and_eq_true, Datum.text_equals, Datum.text_equals, isSetting,
    Bool.and_eq_true, Datum.equals_text, Datum.equals_text]

/-- Where a key of a scope has no row, it gets one after the last. -/
lemma insertRow_setting (hs : t.shape = Schema.settings) (order : t.Ordered)
    (fresh : ∀ r ∈ t.rows, ¬ isSetting w.scope.word w.key r) :
    db.insertRow "config_kv" t Schema.settings.columnNames (settingValues w) =
      .ok (db.put "config_kv" (t.extended [settingValues w])) := by
  obtain ⟨shape, rows⟩ := t
  obtain rfl : shape = Schema.settings := hs
  have parents : db.targets ⟨Schema.settings, rows⟩ = .ok [] := rfl
  have inserted := order.insert_eq (Table.numberFor_columns rfl _)
    (Table.newRow_columns rfl apart_settings (keeps_setting w) _) rfl
    (List.forall_mem_singleton.mpr fun r hr repeats => fresh r hr (repeats_setting.mp repeats))
  exact insertRow_eq parents inserted (List.forall_mem_nil _)

end

/-- The rows of the table hold what was set last. -/
structure SettingRows (t : Table) (writes : List Write) : Prop where
  shape : t.shape = Schema.settings
  order : t.Ordered
  rows : ∀ r ∈ t.rows, ∃ w : Write, r.values = settingValues w
  last : ∀ scope key, (t.rows.find? (isSetting scope.word key)).map (fun r => valueAt r.values 2) =
    (lastSet writes scope key).map .text

namespace SettingRows

variable {t : Table} {w : Write}

/-- The row of a key has the value that is set in it. -/
lemma withValue_own (rows : SettingRows t writes)
    (found : t.rows.any (isSetting w.scope.word w.key)) :
    ((Database.withValue w t).rows.find? (isSetting w.scope.word w.key)).map
      (fun r => valueAt r.values 2) = some (.text w.value) := by
  rw [find?_withValue]
  cases hr : t.rows.find? (isSetting w.scope.word w.key) with
  | none =>
    obtain ⟨r, mem, hit⟩ := List.any_eq_true.mp found
    exact absurd hit (List.find?_eq_none.mp hr r mem)
  | some r =>
    obtain ⟨u, values⟩ := rows.rows r (List.mem_of_find?_eq_some hr)
    rw [Option.map_some, Option.map_some, if_pos (List.find?_some hr), values]
    rfl

/-- The row of another key has the value it had. -/
lemma withValue_other (rows : SettingRows t writes)
    (other : ¬ (w.scope = scope ∧ w.key = key)) :
    ((Database.withValue w t).rows.find? (isSetting scope.word key)).map
      (fun r => valueAt r.values 2) =
        (t.rows.find? (isSetting scope.word key)).map fun r => valueAt r.values 2 := by
  rw [find?_withValue, Option.map_map]
  refine Option.map_congr fun r hr => ?_
  obtain ⟨u, values⟩ := rows.rows r (List.mem_of_find?_eq_some hr)
  have here := (isSetting_values values scope key).mp (List.find?_some hr)
  have kept : ¬ isSetting w.scope.word w.key r := fun hit => by
    obtain ⟨scope', key'⟩ := (isSetting_values values w.scope w.key).mp hit
    exact other ⟨scope'.symm.trans here.1, key'.symm.trans here.2⟩
  rw [Function.comp_apply, if_neg kept]

/-- Setting a value in the row of its key keeps the rows right. -/
lemma withValue (rows : SettingRows t writes)
    (found : t.rows.any (isSetting w.scope.word w.key)) :
    SettingRows (Database.withValue w t) (writes ++ [w]) := by
  refine ⟨rows.shape, ordered_withValue rows.order w, fun r hr => ?_, fun scope key => ?_⟩
  · obtain ⟨s, hs, rfl⟩ := List.mem_map.mp hr
    obtain ⟨old, values⟩ := rows.rows s hs
    split
    · exact ⟨{ old with value := w.value }, by rw [values]; rfl⟩
    · exact ⟨old, values⟩
  · rw [lastSet_append]
    by_cases own : w.scope = scope ∧ w.key = key
    · rw [if_pos own]
      obtain ⟨rfl, rfl⟩ := own
      exact rows.withValue_own found
    · rw [if_neg own, rows.withValue_other own]
      exact rows.last scope key

/-- Setting a value in a new row keeps the rows right. -/
lemma extended (rows : SettingRows t writes)
    (fresh : ∀ r ∈ t.rows, ¬ isSetting w.scope.word w.key r) :
    SettingRows (t.extended [settingValues w]) (writes ++ [w]) := by
  refine ⟨rows.shape, rows.order.extend _, fun r hr => ?_, fun scope key => ?_⟩
  · rcases List.mem_append.mp hr with hr | hr
    · exact rows.rows r hr
    · obtain rfl := List.mem_singleton.mp hr
      exact ⟨w, rfl⟩
  · have old := rows.last scope key
    have new := isSetting_values (r := ⟨t.nextNumber, settingValues w⟩) rfl scope key
    have single : numbered t.nextNumber [settingValues w] = [⟨t.nextNumber, settingValues w⟩] := rfl
    rw [Table.extended, single, List.find?_append, lastSet_append]
    by_cases own : w.scope = scope ∧ w.key = key
    · rw [if_pos own, List.find?_singleton, if_pos (new.mpr own)]
      obtain ⟨rfl, rfl⟩ := own
      rw [List.find?_eq_none.mpr fresh]
      rfl
    · rw [if_neg own, List.find?_singleton, if_neg (mt new.mp own), Option.or_none]
      exact old

end SettingRows

/-- The database holds what was set last. -/
def HoldsSettings (db : Database) (writes : List Write) : Prop :=
  ∃ t, db.table? "config_kv" = some t ∧ SettingRows t writes

variable {db : Database}

/-- Where nothing has been set, nothing is held. -/
lemma holdsSettings_nil (ht : db.table? "config_kv" = some ⟨Schema.settings, []⟩) :
    db.HoldsSettings [] :=
  ⟨_, ht, rfl, .nil, List.forall_mem_nil _, fun _ _ => rfl⟩

/-- Any value can be set, and is held then. -/
lemma HoldsSettings.setSetting (holds : db.HoldsSettings writes) (w : Write) :
    ∃ after, db.setSetting w.scope w.key w.value = .ok after ∧
      after.HoldsSettings (writes ++ [w]) := by
  obtain ⟨t, ht, rows⟩ := holds
  have named (u : Table) (hu : u.shape = t.shape) : sameName u.shape.name "config_kv" := by
    rw [hu, rows.shape]
    decide
  rw [setSetting_eq ht rows.shape]
  by_cases found : t.rows.any (isSetting w.scope.word w.key)
  · rw [if_pos found]
    exact ⟨_, rfl, _, table?_put_self ht (named _ rfl), rows.withValue found⟩
  · have fresh : ∀ r ∈ t.rows, ¬ isSetting w.scope.word w.key r := fun r hr hit =>
      found (List.any_eq_true.mpr ⟨r, hr, hit⟩)
    rw [if_neg found, insertRow_setting rows.shape rows.order fresh]
    exact ⟨_, rfl, _, table?_put_self ht (named _ rfl), rows.extended fresh⟩

/-- Values can be set one after the other, and what was set last is held. -/
lemma HoldsSettings.afterWrites (holds : db.HoldsSettings writes) (later : List Write) :
    ∃ after, db.afterWrites later = .ok after ∧ after.HoldsSettings (writes ++ later) := by
  induction later generalizing db writes with
  | nil =>
    rw [List.append_nil]
    exact ⟨db, rfl, holds⟩
  | cons w later ih =>
    obtain ⟨next, first, held⟩ := holds.setSetting w
    obtain ⟨after, rest, last⟩ := ih held
    rw [List.append_assoc, List.singleton_append] at last
    refine ⟨after, ?_, last⟩
    unfold Database.afterWrites
    rw [List.foldlM_cons, first]
    exact rest

/-! ## Settings looked up -/

/-- What was set last for a scope is found. -/
lemma HoldsSettings.scopedSetting (holds : db.HoldsSettings writes) (scope : Scope)
    (key : String) : db.scopedSetting scope key = .ok (lastSet writes scope key) := by
  obtain ⟨⟨shape, rows⟩, ht, held⟩ := holds
  obtain rfl : shape = Schema.settings := held.shape
  have columns : settingQuery.positions (.ofTable ⟨Schema.settings, rows⟩) settingQuery.columns =
      .ok [2] := rfl
  have given : settingQuery.positions (.ofTable ⟨Schema.settings, rows⟩) settingQuery.given =
      .ok [0, 1] := rfl
  have selected : ∀ r : Row, ([0, 1].zip [Datum.text scope.word, .text key]).all (fun p =>
      (Source.ofTable ⟨Schema.settings, rows⟩).hasValue r.values p.1 p.2) =
        isSetting scope.word key r := by
    intro r
    rw [List.zip_cons_cons, List.zip_cons_cons, List.zip_nil_right, List.all_cons, List.all_cons,
      List.all_nil, Bool.and_true]
    rfl
  have last := held.last scope key
  rw [← List.head?_filter] at last
  unfold Database.scopedSetting
  rw [run_of_table (q := settingQuery) ht columns given rfl rfl selected]
  cases h : rows.filter (isSetting scope.word key) with
  | nil =>
    rw [h] at last
    cases value : lastSet writes scope key with
    | none => rfl
    | some v =>
      rw [value] at last
      cases last
  | cons r rest =>
    rw [h] at last
    cases value : lastSet writes scope key with
    | none =>
      rw [value] at last
      cases last
    | some v =>
      rw [value] at last
      have text : valueAt r.values 2 = .text v := Option.some.inj last
      simp only [List.map_cons, List.map_nil, text]
      rfl

end Database

end ShipReport.Store
