import ShipReport.Catalog.Notes
import ShipReport.Number.Text
import ShipReport.Number.Total
import Std.Data.TreeMap

/-!
# The catalogue of a vessel

A snapshot of the reference data of one vessel: what the lists of a report offer, and what its
look-ups find. Machinery is kept by id and types of supplies by key, so that of two entries with one
key the later stays.
-/

namespace ShipReport

open Catalog (Vessel Machine ItemType NoteGroup Voyage Port Timezone) in
/-- Everything that a report of a vessel refers to. -/
structure Catalog where
  vessel : Vessel
  machinery : Std.TreeMap Int Machine
  itemTypes : Std.TreeMap String ItemType
  notes : List NoteGroup
  voyages : List Voyage
  ports : List Port
  timezones : List Timezone
  noteSlotLimit : Nat

namespace Catalog

/-- The catalogue of lists of entries. -/
def ofEntries (vessel : Vessel) (machinery : List Machine) (itemTypes : List ItemType)
    (notes : List BunkerNote) (voyages : List Voyage) (ports : List Port)
    (timezones : List Timezone) (noteSlotLimit : Nat) : Catalog where
  vessel := vessel
  machinery := .ofList (machinery.map fun m => (m.id, m))
  itemTypes := .ofList (itemTypes.map fun t => (t.key, t))
  notes := noteGroups notes noteSlotLimit
  voyages := voyages
  ports := ports
  timezones := timezones
  noteSlotLimit := noteSlotLimit

/-- The machinery in the order in which it is offered: by name, and by id for equal names. -/
def machineryByName (c : Catalog) : List Machine :=
  c.machinery.values.mergeSort fun a b => ((compare a.name b.name).then (compare a.id b.id)).isLE

/-- The types of supplies in the order of their keys. -/
def items (c : Catalog) : List ItemType :=
  c.itemTypes.values

/-- The keys of the types of a category. -/
def keysOf (c : Catalog) (category : Report.ItemCategory) : List String :=
  (c.items.filter (·.category == category)).map (·.key)

def fuelKeys (c : Catalog) : List String :=
  c.keysOf .fuel

/-- The keys of the lubricating oils. -/
def lubeKeys (c : Catalog) : List String :=
  c.keysOf .lubeOil

/-- The numbers of the notes that are offered for a type. -/
def notesFor (c : Catalog) (key : String) : List String :=
  ((c.notes.find? (·.typeKey == key)).map (·.numbers)).getD []

/-- The groups that offer at least one note. -/
def offeredNotes (c : Catalog) : List NoteGroup :=
  c.notes.filter (!·.numbers.isEmpty)

/-- How many notes are left out. -/
def droppedNotes (c : Catalog) : Nat :=
  Number.total (c.notes.map (·.dropped))

/-- The lists side by side, the shorter ones filled up with blanks. The entries of one row belong
together by their place only. -/
def positionalRows (c : Catalog) : List (List String) :=
  let columns := [
    c.machineryByName.map (·.name),
    c.items.map (·.key),
    c.items.map fun t => Number.text t.remainingOnBoard,
    c.voyages.map (·.number),
    c.ports.map (·.name),
    c.timezones.map (·.label)]
  let height := (columns.map (·.length)).foldl max 0
  (List.range height).map fun i => columns.map fun column => column.getD i ""

end Catalog

end ShipReport
