import ShipReport.Proofs.Store.Frames
import ShipReport.Store.Change

/-!
# Changes made one after the other

What a list of changes leaves and how many rows it counts is what its first part leaves and counts,
and then the rest in the database after it. Changes of what a database is made of count no row.
-/

namespace ShipReport.Store

/-- The change is one of what a database is made of. -/
def Change.IsDefinition (c : Change) : Prop :=
  ∃ d, c = .define d

namespace Database

variable {db : Database} {name : String} {t : Table} {selected : Row → Bool}

/-! ## Lists of changes -/

/-- No changes leave the database. -/
@[simp] lemma changedBy_nil (db : Database) : db.changedBy [] = db :=
  rfl

/-- The first of several changes is made first. -/
@[simp] lemma changedBy_cons (db : Database) (c : Change) (cs : List Change) :
    db.changedBy (c :: cs) = (db.changed c).changedBy cs :=
  rfl

/-- No changes count no row. -/
@[simp] lemma rowsChangedBy_nil (db : Database) : db.rowsChangedBy [] = 0 :=
  rfl

/-- The others of several changes count in the database after the first. -/
@[simp] lemma rowsChangedBy_cons (db : Database) (c : Change) (cs : List Change) :
    db.rowsChangedBy (c :: cs) = db.rowsChanged c + (db.changed c).rowsChangedBy cs :=
  rfl

/-- Changes in two parts are made one part after the other. -/
lemma changedBy_append (db : Database) (cs ds : List Change) :
    db.changedBy (cs ++ ds) = (db.changedBy cs).changedBy ds :=
  List.foldl_append

/-- The rows of changes in two parts are counted one part after the other. -/
lemma rowsChangedBy_append (db : Database) (cs ds : List Change) :
    db.rowsChangedBy (cs ++ ds) = db.rowsChangedBy cs + (db.changedBy cs).rowsChangedBy ds := by
  induction cs generalizing db with
  | nil => rw [List.nil_append, rowsChangedBy_nil, Nat.zero_add, changedBy_nil]
  | cons c cs ih =>
    rw [List.cons_append, rowsChangedBy_cons, ih, rowsChangedBy_cons, changedBy_cons, Nat.add_assoc]

/-- No row counts where a database is only defined anew. -/
lemma rowsChangedBy_of_definitions {cs : List Change} (h : ∀ c ∈ cs, c.IsDefinition) :
    db.rowsChangedBy cs = 0 := by
  induction cs generalizing db with
  | nil => rfl
  | cons c cs ih =>
    obtain ⟨first, rest⟩ := List.forall_mem_cons.mp h
    obtain ⟨d, rfl⟩ := first
    rw [rowsChangedBy_cons, ih rest]
    rfl

/-! ## Changes of a table that is there -/

/-- Editing a table replaces it. -/
lemma edit_eq (ht : db.table? name = some t) (f : Table → Table) :
    db.edit name f = db.put name (f t) := by
  unfold edit
  rw [ht]

/-- A new row counts as one. -/
lemma rowsChanged_add (ht : db.table? name = some t) (r : Row) (replaced : Row → Bool) :
    db.rowsChanged (.add name r replaced) = 1 := by
  rw [rowsChanged, ht]
  rfl

/-- Of removed rows each counts. -/
lemma rowsChanged_remove (ht : db.table? name = some t) :
    db.rowsChanged (.remove name selected) = t.rows.countP selected := by
  rw [rowsChanged, ht]
  rfl

/-- Of rows in another form each counts. -/
lemma rowsChanged_alter (ht : db.table? name = some t) (form : Row → Row) :
    db.rowsChanged (.alter name selected form) = t.rows.countP selected := by
  rw [rowsChanged, ht]
  rfl

end Database

end ShipReport.Store
