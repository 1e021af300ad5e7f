import ShipReport.Catalog.Entry
import Std.Data.TreeSet

/-!
# Notes by type

The delivery notes that a report may choose from, one group per type of supply. Only notes with a
positive remaining quantity are offered. Within a group the earliest delivery comes first, notes
without a date last, and notes of one day by number; notes beyond the limit are left out and
counted.
-/

namespace ShipReport.Catalog

/-- The order of dates with the missing date last. -/
def compareDates : Option Calendar.Date → Option Calendar.Date → Ordering
  | some a, some b => compare a b
  | some _, none => .lt
  | none, some _ => .gt
  | none, none => .eq

/-- The order in which notes of a type are offered. -/
def BunkerNote.le (a b : BunkerNote) : Bool :=
  ((compareDates a.date b.date).then (compare a.number b.number)).isLE

/-- The notes that still have something left. -/
def availableNotes (notes : List BunkerNote) : List BunkerNote :=
  notes.filter fun n => decide (0 < n.remaining)

/-- The types that notes belong to, each once and in order. -/
def noteTypes (notes : List BunkerNote) : List String :=
  (Std.TreeSet.ofList (notes.map (·.typeKey))).toList

/-- The notes of one type in the order in which they are offered. -/
def notesOfType (notes : List BunkerNote) (key : String) : List BunkerNote :=
  (notes.filter (·.typeKey == key)).mergeSort BunkerNote.le

/-- The notes of one type that are offered, and how many more there are. -/
structure NoteGroup where
  typeKey : String
  numbers : List String
  dropped : Nat
deriving Repr, DecidableEq

/-- The group of a type. -/
def noteGroup (notes : List BunkerNote) (limit : Nat) (key : String) : NoteGroup :=
  let ordered := notesOfType notes key
  ⟨key, (ordered.take limit).map (·.number), ordered.length - limit⟩

/-- The groups of all types with available notes, in the order of the types. -/
def noteGroups (notes : List BunkerNote) (limit : Nat) : List NoteGroup :=
  let available := availableNotes notes
  (noteTypes available).map (noteGroup available limit)

/-- How many notes of each type are left out. A type whose notes are all offered does not occur. -/
def overflow (groups : List NoteGroup) : List (String × Nat) :=
  (groups.filter fun g => decide (0 < g.dropped)).map fun g => (g.typeKey, g.dropped)

end ShipReport.Catalog
