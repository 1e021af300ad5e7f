import ShipReport.Proofs.Store.Batches
import ShipReport.Store.ReferenceData
import ShipReport.Store.Staging

/-!
# What requests to the store leave alone

Each operation that changes a table names it. The tables of other names stay as they are, rows,
indexes and all, and so do the views.
-/

namespace ShipReport.Store

open Catalog (Vessel)
open Submission (Batch Artifact)

/-- It does not matter which of two equal names comes first. -/
lemma sameName_comm (a b : String) : sameName a b = sameName b a := by
  rw [Bool.eq_iff_iff, sameName_iff, sameName_iff, eq_comm]

/-- The table with a new row has it among its rows. -/
lemma Table.eq_of_insert_ok {t after : Table} {names : List String} {values : List Datum} {r : Row}
    (h : t.insert names values = .ok (r, after)) :
    after = { t with rows := place r t.rows } := by
  unfold Table.insert at h
  obtain ⟨number, -, h⟩ := bind_eq_ok.mp h
  dsimp only at h
  split at h
  · cases h
  · split at h
    · cases h
    · cases h
      rfl

/-- A new row leaves the shape of its table. -/
lemma Table.insert_shape {t after : Table} {names : List String} {values : List Datum} {r : Row}
    (h : t.insert names values = .ok (r, after)) : after.shape = t.shape := by
  rw [eq_of_insert_ok h]

namespace Database

/-- Two databases differ at most in the tables of the given names and in their indexes. -/
structure ChangesOnly (names : List String) (db db' : Database) : Prop where
  tables : ∀ other, (∀ name ∈ names, ¬ sameName name other) → db'.table? other = db.table? other
  views : db'.views = db.views
  indexes : ∀ i : Index, (∀ name ∈ names, ¬ sameName name i.table) →
    (i ∈ db'.indexes ↔ i ∈ db.indexes)

variable {db db₁ db₂ after : Database} {name other : String} {names names' : List String}
  {t u : Table}

namespace ChangesOnly

/-- A database differs in nothing from itself. -/
lemma refl (names : List String) (db : Database) : db.ChangesOnly names db :=
  ⟨fun _ _ => rfl, rfl, fun _ _ => Iff.rfl⟩

/-- What two steps leave, they leave together. -/
lemma trans (h : db.ChangesOnly names db₁) (h' : db₁.ChangesOnly names db₂) :
    db.ChangesOnly names db₂ where
  tables other ho := (h'.tables other ho).trans (h.tables other ho)
  views := h'.views.trans h.views
  indexes i ho := (h'.indexes i ho).trans (h.indexes i ho)

/-- More names may be given. -/
lemma mono (h : db.ChangesOnly names after) (hsub : names ⊆ names') :
    db.ChangesOnly names' after where
  tables other ho := h.tables other fun n hn => ho n (hsub hn)
  views := h.views
  indexes i ho := h.indexes i fun n hn => ho n (hsub hn)

/-- Queries to other tables have the same source. -/
lemma source (h : db.ChangesOnly names after) (ho : ∀ name ∈ names, ¬ sameName name other) :
    Source.named after other = Source.named db other := by
  unfold Source.named view?
  rw [h.tables other ho, h.views]

end ChangesOnly

/-! ## Rows -/

/-- The table to write to is the one of the name. -/
lemma table_of_writable (h : db.writable name = .ok t) : db.table? name = some t := by
  unfold writable at h
  split at h
  · next found =>
    cases h
    exact found
  · cases h
  · cases h

/-- The table to write to has the name. -/
lemma writable_name (h : db.writable name = .ok t) : sameName t.shape.name name := by
  have found := table_of_writable h
  unfold table? at found
  have named := List.find?_some found
  exact named

/-- Replacing a table by one of its name leaves the others. -/
lemma put_changesOnly (hu : sameName u.shape.name name) :
    db.ChangesOnly [name] (db.put name u) :=
  ⟨fun _ ho => table?_put_other hu (ho name List.mem_cons_self), rfl, fun _ _ => Iff.rfl⟩

/-- A row that may be added is one that its table accepts. -/
lemma insert_of_acceptedRow {columns : List String} {values : List Datum} {r : Row}
    (h : db.acceptedRow t columns values = .ok (r, u)) : t.insert columns values = .ok (r, u) := by
  unfold acceptedRow at h
  obtain ⟨parents, -, h⟩ := bind_eq_ok.mp h
  split at h
  · cases h
  · next inserted =>
    split at h
    · cases h
      exact inserted
    · cases h

/-- A row that is added is one that its table accepts. -/
lemma eq_of_insertRow {columns : List String} {values : List Datum}
    (h : db.insertRow name t columns values = .ok after) :
    ∃ r u, t.insert columns values = .ok (r, u) ∧ after = db.put name u := by
  unfold insertRow at h
  obtain ⟨⟨r, u⟩, accepted, h⟩ := bind_eq_ok.mp h
  cases h
  exact ⟨r, u, insert_of_acceptedRow accepted, rfl⟩

/-- A new row changes only its table. -/
lemma insertRow_changesOnly {columns : List String} {values : List Datum}
    (ht : sameName t.shape.name name) (h : db.insertRow name t columns values = .ok after) :
    db.ChangesOnly [name] after := by
  obtain ⟨row, grown, hinsert, rfl⟩ := eq_of_insertRow h
  exact put_changesOnly ((Table.insert_shape hinsert).symm ▸ ht)

/-- A row with values under names changes only its table. -/
lemma insertInto_changesOnly {columns : List String} {values : List Datum}
    (h : db.insertInto name columns values = .ok after) : db.ChangesOnly [name] after := by
  unfold insertInto at h
  obtain ⟨t, ht, h⟩ := bind_eq_ok.mp h
  obtain ⟨-, -, h⟩ := bind_eq_ok.mp h
  exact insertRow_changesOnly (writable_name ht) h

/-- What the references of a table lead to is found, or nothing is looked for. -/
lemma enforcedTargets_eq {parents : List (Reference × Table)} (h : db.targets t = .ok parents) :
    db.enforcedTargets t = .ok (if db.enforcing then parents else []) := by
  unfold enforcedTargets
  split
  · exact h
  · rfl

/-- A row that the table accepts, and whose references hold, may be added. -/
lemma acceptedRow_eq {columns : List String} {values : List Datum} {r : Row}
    {parents : List (Reference × Table)} (hparents : db.targets t = .ok parents)
    (hinsert : t.insert columns values = .ok (r, u))
    (holds : ∀ p ∈ parents, referenceHolds t p.1 p.2 r) :
    db.acceptedRow t columns values = .ok (r, u) := by
  have all : ((if db.enforcing then parents else []).all fun p => referenceHolds t p.1 p.2 r) =
      true := by
    refine List.all_eq_true.mpr fun p hp => ?_
    split at hp
    · exact holds p hp
    · cases hp
  unfold acceptedRow
  rw [enforcedTargets_eq hparents, ok_bind, hinsert]
  exact if_pos all

/-- A row that the table refuses may not be added. -/
lemma acceptedRow_error {columns : List String} {values : List Datum} {f : Fault}
    {parents : List (Reference × Table)} (hparents : db.targets t = .ok parents)
    (hinsert : t.insert columns values = .error f) :
    db.acceptedRow t columns values = .error f.failure := by
  unfold acceptedRow
  rw [enforcedTargets_eq hparents, ok_bind, hinsert]
  rfl

/-- A row that may be added is added. -/
lemma insertRow_eq {columns : List String} {values : List Datum} {r : Row}
    {parents : List (Reference × Table)} (hparents : db.targets t = .ok parents)
    (hinsert : t.insert columns values = .ok (r, u))
    (holds : ∀ p ∈ parents, referenceHolds t p.1 p.2 r) :
    db.insertRow name t columns values = .ok (db.put name u) := by
  unfold insertRow
  rw [acceptedRow_eq hparents hinsert holds, ok_bind]
  rfl

/-- A new row that the table accepts, and whose references hold, is added. -/
lemma insertInto_eq {columns : List String} {values : List Datum} {r : Row}
    {parents : List (Reference × Table)} (ht : db.table? name = some t)
    (hnames : checkNames name t columns = .ok ()) (hparents : db.targets t = .ok parents)
    (hinsert : t.insert columns values = .ok (r, u))
    (holds : ∀ p ∈ parents, referenceHolds t p.1 p.2 r) :
    db.insertInto name columns values = .ok (db.put name u) := by
  unfold insertInto
  rw [writable_of_table ht, ok_bind, hnames, ok_bind]
  exact insertRow_eq hparents hinsert holds

/-- A new row that the table refuses is not added. -/
lemma insertInto_error {columns : List String} {values : List Datum} {f : Fault}
    {parents : List (Reference × Table)} (ht : db.table? name = some t)
    (hnames : checkNames name t columns = .ok ()) (hparents : db.targets t = .ok parents)
    (hinsert : t.insert columns values = .error f) :
    db.insertInto name columns values = .error f.failure := by
  unfold insertInto insertRow
  rw [writable_of_table ht, ok_bind, hnames, ok_bind, acceptedRow_error hparents hinsert]
  rfl

/-- Rows that are removed are those that are selected. -/
lemma eq_of_removeRows {selected : Row → Bool} (h : db.removeRows name t selected = .ok after) :
    after = db.put name { t with rows := t.rows.filter fun r => !selected r } := by
  unfold removeRows at h
  obtain ⟨-, -, h⟩ := bind_eq_ok.mp h
  cases h
  rfl

/-- Removing rows changes only their table. -/
lemma removeRows_changesOnly {selected : Row → Bool} (ht : sameName t.shape.name name)
    (h : db.removeRows name t selected = .ok after) : db.ChangesOnly [name] after := by
  rw [eq_of_removeRows h]
  exact put_changesOnly ht

/-- Where no table refers to a name, no reference leads to a table of that name. -/
lemma referencesTo_eq_nil (same : sameName other name)
    (free : ∀ u ∈ db.tables, ∀ r ∈ u.shape.references, ¬ sameName r.table name) :
    db.referencesTo other = [] := by
  unfold referencesTo
  rw [List.flatMap_eq_nil_iff]
  intro u hu
  rw [List.map_eq_nil_iff, List.filter_eq_nil_iff]
  intro r hr
  rw [sameName_iff, sameName_iff.mp same, ← sameName_iff]
  exact free u (List.mem_reverse.mp hu) r hr

/-- Rows of a table that no table refers to may be removed. -/
lemma checkRemoval_eq {selected : Row → Bool} (named : sameName t.shape.name name)
    (own : t.shape.references = [])
    (free : ∀ u ∈ db.tables, ∀ r ∈ u.shape.references, ¬ sameName r.table name) :
    db.checkRemoval name t selected = .ok () := by
  have unreferred := referencesTo_eq_nil (sameName_iff.mpr rfl) free
  have targets : db.targets t = .ok [] := by
    unfold Database.targets
    rw [own]
    rfl
  have referred : db.isReferred t (t.rows.filter selected) = false := by
    unfold isReferred
    rw [referencesTo_eq_nil named free]
    rfl
  unfold checkRemoval
  rw [targets, unreferred, referred]
  cases db.enforcing <;> rfl

/-- A table that no table refers to can be cleared. -/
lemma clear_eq (ht : db.table? name = some t) (own : t.shape.references = [])
    (free : ∀ u ∈ db.tables, ∀ r ∈ u.shape.references, ¬ sameName r.table name) :
    db.clear name = .ok (db.put name { t with rows := [] }) := by
  have writable : db.writable name = .ok t := writable_of_table ht
  have allowed : db.checkRemoval name t (fun _ => true) = .ok () :=
    checkRemoval_eq (writable_name writable) own free
  have emptied : (t.rows.filter fun _ => !true) = [] := by simp
  unfold clear removeRows
  rw [writable, ok_bind, allowed, ok_bind, emptied]
  rfl

/-- Clearing a table changes only it. -/
lemma clear_changesOnly (h : db.clear name = .ok after) : db.ChangesOnly [name] after := by
  unfold clear at h
  obtain ⟨t, ht, h⟩ := bind_eq_ok.mp h
  exact removeRows_changesOnly (writable_name ht) h

/-- Steps that each leave other tables leave them together. -/
lemma foldlM_changesOnly {ε α : Type} {f : Database → α → Except ε Database}
    (step : ∀ db a after, f db a = .ok after → db.ChangesOnly names after) (as : List α)
    (h : as.foldlM f db = .ok after) : db.ChangesOnly names after := by
  induction as generalizing db with
  | nil =>
    cases h
    exact .refl names _
  | cons a as ih =>
    rw [List.foldlM_cons] at h
    obtain ⟨next, hnext, h⟩ := bind_eq_ok.mp h
    exact (step db a next hnext).trans (ih h)

/-! ## Tables -/

/-- Without a table the others are as they were, with their indexes. -/
lemma removeTable_changesOnly (db : Database) (name : String) :
    db.ChangesOnly [name] (db.removeTable name) := by
  refine ⟨fun other ho => ?_, rfl, fun i ho => ?_⟩
  swap
  · have other := ho name List.mem_cons_self
    rw [sameName_comm] at other
    simp [removeTable, other]
  have apart : ∀ v : Table, sameName v.shape.name other → !sameName v.shape.name name := by
    intro v hv
    rw [Bool.not_eq_true']
    refine Bool.eq_false_iff.mpr fun hn => ho name List.mem_cons_self ?_
    exact sameName_iff.mpr ((sameName_iff.mp hn).symm.trans (sameName_iff.mp hv))
  unfold removeTable table?
  rw [List.find?_filter]
  congr 1
  funext v
  by_cases hv : sameName v.shape.name other <;> simp [hv, apart]

/-- A new table leaves those of other names. -/
lemma addTable_changesOnly (db : Database) (s : Shape) :
    db.ChangesOnly [s.name] (db.addTable s) := by
  refine ⟨fun other ho => ?_, rfl, fun _ _ => Iff.rfl⟩
  have apart : ¬ sameName s.name other := ho s.name List.mem_cons_self
  unfold addTable table?
  rw [List.find?_append]
  simp [apart]

/-- A table that is removed is the only one that changes. -/
lemma dropTable_changesOnly (h : db.dropTable name = .ok after) :
    db.ChangesOnly [name] after := by
  unfold dropTable at h
  obtain ⟨found, -, h⟩ := bind_eq_ok.mp h
  cases found with
  | some t =>
    cases h
    exact removeTable_changesOnly db name
  | none =>
    cases h
    exact .refl _ db

/-- A table that is made is the only one that changes. -/
lemma createTable_changesOnly {columns : List String}
    (h : db.createTable name columns = .ok after) : db.ChangesOnly [name] after := by
  unfold createTable at h
  split at h
  · cases h
  · obtain ⟨-, -, h⟩ := bind_eq_ok.mp h
    cases h
    exact addTable_changesOnly db (textShape name columns)

/-! ## Requests -/

/-- A table that is made anew is the only one that changes. -/
lemma recreateTable_changesOnly {columns : List String}
    (h : db.recreateTable name columns = .ok after) : db.ChangesOnly [name] after := by
  unfold recreateTable at h
  split at h
  · cases h
  · obtain ⟨-, -, h⟩ := bind_eq_ok.mp (mapError_eq_ok.mp h)
    obtain ⟨dropped, hdropped, h⟩ := bind_eq_ok.mp h
    exact (dropTable_changesOnly hdropped).trans (createTable_changesOnly h)

/-- A table whose rows are replaced is the only one that changes. -/
lemma replaceRows_changesOnly {columns : List String} {rows : List (List String)} {count : Nat}
    (h : db.replaceRows name columns rows = .ok (after, count)) :
    db.ChangesOnly [name] after := by
  unfold replaceRows at h
  obtain ⟨-, -, h⟩ := bind_eq_ok.mp (mapError_eq_ok.mp h)
  obtain ⟨cleared, hcleared, h⟩ := bind_eq_ok.mp h
  split at h
  · cases h
  · obtain ⟨t, -, h⟩ := bind_eq_ok.mp h
    obtain ⟨-, -, h⟩ := bind_eq_ok.mp h
    obtain ⟨filled, hfilled, h⟩ := bind_eq_ok.mp h
    cases h
    refine (clear_changesOnly hcleared).trans ?_
    exact foldlM_changesOnly (fun db row after => insertInto_changesOnly) rows hfilled

/-- A new batch changes only the tables of batches and of their files. -/
lemma insertBatch_changesOnly {b : Batch} (h : db.insertBatch b = .ok after) :
    db.ChangesOnly ["import_batch", "batch_artifact"] after := by
  unfold insertBatch at h
  obtain ⟨added, hadded, h⟩ := bind_eq_ok.mp (mapError_eq_ok.mp h)
  refine ((insertInto_changesOnly hadded).mono (by simp)).trans ?_
  refine foldlM_changesOnly (fun db a after step => ?_) b.artifacts h
  exact (insertInto_changesOnly step).mono (by simp)

/-- A vessel is the same while only other tables change. -/
lemma ChangesOnly.vessel (h : db.ChangesOnly names after)
    (ho : ∀ name ∈ names, ¬ sameName name "vessel") (id : Int) :
    after.vessel id = db.vessel id := by
  unfold Database.vessel Query.run
  rw [show vesselQuery.table = "vessel" from rfl, h.source ho]

/-- The vessel of a catalogue is the one with the id. -/
lemma catalog_vessel {id : Int} {limit : Nat} {c : Catalog} (h : db.catalog id limit = .ok c) :
    db.vessel id = .ok c.vessel := by
  unfold catalog at h
  simp only [bind_eq_ok] at h
  obtain ⟨v, hv, _, -, _, -, _, -, _, -, _, -, _, -, h⟩ := h
  cases h
  exact hv

end Database

end ShipReport.Store
