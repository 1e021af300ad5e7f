import Mathlib.Tactic.Lemma
import ShipReport.Catalog.Basic

/-!
# Lists of a catalogue

In which order the machinery of a catalogue is listed, and which notes are offered for a type of
supply.
-/

namespace ShipReport.Catalog

/-- The order in which machinery is listed: by name, and by id for equal names. -/
def Machine.Before (a b : Machine) : Prop :=
  a.name < b.name ∨ a.name = b.name ∧ a.id ≤ b.id

/-- Machinery is compared by name first. -/
lemma machine_isLE {a b : Machine} :
    ((compare a.name b.name).then (compare a.id b.id)).isLE ↔ a.Before b := by
  have name : compare a.name b.name = .lt ↔ a.name < b.name :=
    compareOfLessAndEq_eq_lt
  rw [Ordering.isLE_then_iff_or, Std.compare_eq_iff_eq, Std.isLE_compare, name]
  rfl

/-- The machinery of a catalogue is listed by name and id. -/
theorem machineryByName_ordered (c : Catalog) : c.machineryByName.Pairwise Machine.Before := by
  have order : Std.TransCmp (compareLex (compareOn Machine.name) (compareOn Machine.id)) :=
    inferInstance
  refine List.Pairwise.imp machine_isLE.mp (List.pairwise_mergeSort ?_ ?_ _)
  · exact fun a b d hab hbd => order.isLE_trans hab hbd
  · intro a b
    change ((compareLex (compareOn Machine.name) (compareOn Machine.id) a b).isLE ||
      (compareLex (compareOn Machine.name) (compareOn Machine.id) b a).isLE) = true
    rw [order.eq_swap (a := b)]
    generalize compareLex (compareOn Machine.name) (compareOn Machine.id) a b = o
    cases o <;> rfl

/-- All machinery of a catalogue is listed. -/
lemma machineryByName_perm (c : Catalog) : c.machineryByName.Perm c.machinery.values :=
  List.mergeSort_perm _ _

variable {vessel : Vessel} {machinery : List Machine} {itemTypes : List ItemType}
  {notes : List BunkerNote} {voyages : List Voyage} {ports : List Port}
  {timezones : List Timezone} {limit : Nat}

/-- The notes that a catalogue offers for a type are the first ones of the available notes of the
type, and there is at least one. -/
theorem numbers_of_offered {g : NoteGroup}
    (hg : g ∈ (ofEntries vessel machinery itemTypes notes voyages ports timezones
      limit).offeredNotes) :
    g.numbers ≠ [] ∧
      g.numbers = ((notesOfType (availableNotes notes) g.typeKey).take limit).map (·.number) := by
  obtain ⟨hmem, hne⟩ := List.mem_filter.mp hg
  obtain ⟨key, -, rfl⟩ := List.mem_map.mp hmem
  exact ⟨by simpa using hne, rfl⟩

end ShipReport.Catalog
