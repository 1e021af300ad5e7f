import ShipReport.Calendar.Loose
import ShipReport.Catalog.Basic
import ShipReport.Store.Query

/-!
# Reference data in the store

The entries that a report refers to, read from their tables. Each list has an order of its own. A
value of another kind than the entry needs is a failure; a date that cannot be read counts as
missing.
-/

namespace ShipReport.Store

open Catalog (Vessel Machine ItemType BunkerNote Voyage Port Timezone)

/-- The text of a statement over several lines. -/
def statementLines (lines : List String) : String :=
  "\n            ".intercalate ([""] ++ lines ++ [""])

namespace Database

/-! ## Lists over one table -/

/-- A vessel by its id. -/
def vesselQuery : Query where
  text := "SELECT vessel_id, short_code, name FROM vessel WHERE vessel_id = ?1"
  table := "vessel"
  columns := ["vessel_id", "short_code", "name"]
  given := ["vessel_id"]

/-- The machinery of a vessel. -/
def machineryQuery : Query where
  text := statementLines [
    "SELECT machinery_id, name, category, rated_power_kw, sfoc_g_kwh",
    "FROM machinery",
    "WHERE vessel_id = ?1",
    "ORDER BY machinery_id"]
  table := "machinery"
  columns := ["machinery_id", "name", "category", "rated_power_kw", "sfoc_g_kwh"]
  given := ["vessel_id"]
  sorting := ["machinery_id"]

/-- The voyages of a vessel. -/
def voyageQuery : Query where
  text := statementLines [
    "SELECT voyage_id, voyage_no, leg_no",
    "FROM voyage",
    "WHERE vessel_id = ?1",
    "ORDER BY voyage_no, leg_no"]
  table := "voyage"
  columns := ["voyage_id", "voyage_no", "leg_no"]
  given := ["vessel_id"]
  sorting := ["voyage_no", "leg_no"]

def portQuery : Query where
  text := "SELECT port_id, name, unlocode FROM port ORDER BY name"
  table := "port"
  columns := ["port_id", "name", "unlocode"]
  sorting := ["name"]

def timezoneQuery : Query where
  text := "SELECT label, utc_offset_minutes FROM timezone ORDER BY utc_offset_minutes, label"
  table := "timezone"
  columns := ["label", "utc_offset_minutes"]
  sorting := ["utc_offset_minutes", "label"]

/-- A vessel out of a record. -/
def vesselOf (r : Record) : Except Failure Vessel := do
  return { id := ← r.integer 0, shortCode := ← r.text 1, name := ← r.text 2 }

/-- A machine out of a record. -/
def machineOf (r : Record) : Except Failure Machine := do
  return {
    id := ← r.integer 0
    name := ← r.text 1
    category := ← r.text 2
    ratedPower := ← r.real 3
    specificConsumption := ← r.real 4 }

/-- A voyage out of a record. -/
def voyageOf (r : Record) : Except Failure Voyage := do
  return { id := ← r.integer 0, number := ← r.text 1, leg := ← r.integer? 2 }

/-- A port out of a record. -/
def portOf (r : Record) : Except Failure Port := do
  return { id := ← r.integer 0, name := ← r.text 1, unlocode := ← r.text? 2 }

/-- A time zone out of a record. -/
def timezoneOf (r : Record) : Except Failure Timezone := do
  return { label := ← r.text 0, offsetMinutes := ← r.integer32 1 }

def entries {α : Type} (db : Database) (q : Query) (values : List Datum)
    (read : Record → Except Failure α) : Except Failure (List α) := do
  (← q.run db values).mapM read

def vessel (db : Database) (id : Int) : Except StoreError Vessel := do
  match ← (vesselQuery.run db [.integer id]).mapError StoreError.ofFailure with
  | [] => throw (.notFound "vessel" (toString id))
  | r :: _ => (vesselOf r).mapError StoreError.ofFailure

def machinery (db : Database) (vesselId : Int) : Except StoreError (List Machine) :=
  (db.entries machineryQuery [.integer vesselId] machineOf).mapError .ofFailure

/-- The voyages of a vessel by number and leg. -/
def voyages (db : Database) (vesselId : Int) : Except StoreError (List Voyage) :=
  (db.entries voyageQuery [.integer vesselId] voyageOf).mapError .ofFailure

/-- The ports by name. -/
def ports (db : Database) : Except StoreError (List Port) :=
  (db.entries portQuery [] portOf).mapError .ofFailure

/-- The time zones from west to east. -/
def timezones (db : Database) : Except StoreError (List Timezone) :=
  (db.entries timezoneQuery [] timezoneOf).mapError .ofFailure

/-! ## Lists over two tables -/

/-- What remains on board of each type of supplies, for one vessel. -/
def itemTypeText : String := statementLines [
  "SELECT t.item_type_id, t.type_key, t.category, COALESCE(r.rob, 0)",
  "FROM item_type t",
  "LEFT JOIN item_rob r ON r.item_type_id = t.item_type_id AND r.vessel_id = ?1",
  "ORDER BY t.type_key"]

/-- The notes of deliveries to one vessel, with the keys of their types. -/
def bunkerNoteText : String := statementLines [
  "SELECT n.note_id, t.type_key, n.note_no, n.bunker_date, n.remaining_qty",
  "FROM bunker_note n",
  "JOIN item_type t ON t.item_type_id = n.item_type_id",
  "WHERE n.vessel_id = ?1",
  "ORDER BY n.note_id"]

/-- The position of a column that a statement selects from one of several tables, known there under
a short name. -/
def selectedPosition (text short : String) (s : Source) (column : String) : Except Failure Nat :=
  s.position column (missingColumn text (columnText short column))

/-- The position of a column that a statement joins tables by. -/
def joinedPosition (short : String) (s : Source) (column : String) : Except Failure Nat :=
  s.position column (Fault.noColumn (columnText short column)).failure

/-- Decides whether the values of two rows at two positions are equal. -/
def joins (s t : Source) (i j : Nat) (a b : List Datum) : Bool :=
  Datum.equalsColumn (s.affinityAt i) (t.affinityAt j) (valueAt a i) (valueAt b j)

/-- A quantity, zero when there is none. -/
def quantityOf : List (List Datum) → Nat → List Datum
  | [], _ => [.integer 0]
  | rows, i => rows.map fun row => if valueAt row i = .null then .integer 0 else valueAt row i

/-- The types of supplies with what remains on board of a vessel, by key. -/
def itemTypeRecords (db : Database) (vesselId : Int) : Except Failure (List Record) := do
  let t ← Source.named db "item_type"
  let r ← Source.named db "item_rob"
  let id ← selectedPosition itemTypeText "t" t "item_type_id"
  let key ← selectedPosition itemTypeText "t" t "type_key"
  let category ← selectedPosition itemTypeText "t" t "category"
  let quantity ← selectedPosition itemTypeText "r" r "rob"
  let itemType ← joinedPosition "r" r "item_type_id"
  let vessel ← joinedPosition "r" r "vessel_id"
  let columns := [id, key, category]
  return (sortedAt [key] t.rows).flatMap fun row =>
    let quantities := quantityOf (r.rows.filter fun q =>
      joins r t itemType id q row && r.hasValue q vessel (.integer vesselId)) quantity
    quantities.map fun d =>
      ⟨columns.map t.nameAt ++ ["COALESCE(r.rob, 0)"], columns.map (valueAt row) ++ [d]⟩

/-- The notes of deliveries to a vessel with the keys of their types, by id. -/
def bunkerNoteRecords (db : Database) (vesselId : Int) : Except Failure (List Record) := do
  let n ← Source.named db "bunker_note"
  let t ← Source.named db "item_type"
  let id ← selectedPosition bunkerNoteText "n" n "note_id"
  let key ← selectedPosition bunkerNoteText "t" t "type_key"
  let number ← selectedPosition bunkerNoteText "n" n "note_no"
  let date ← selectedPosition bunkerNoteText "n" n "bunker_date"
  let remaining ← selectedPosition bunkerNoteText "n" n "remaining_qty"
  let vessel ← selectedPosition bunkerNoteText "n" n "vessel_id"
  let typeId ← joinedPosition "t" t "item_type_id"
  let itemType ← joinedPosition "n" n "item_type_id"
  let rows := sortedAt [id] (n.rows.filter fun row => n.hasValue row vessel (.integer vesselId))
  return rows.flatMap fun row =>
    (t.rows.filter fun u => joins t n typeId itemType u row).map fun u =>
      ⟨[n.nameAt id, t.nameAt key, n.nameAt number, n.nameAt date, n.nameAt remaining],
        [valueAt row id, valueAt u key, valueAt row number, valueAt row date,
          valueAt row remaining]⟩

/-- A type of supplies out of a record. -/
def itemTypeOf (r : Record) : Except Failure ItemType := do
  let id ← r.integer 0
  let key ← r.text 1
  let category ← match Report.ItemCategory.parse (← r.text 2) with
    | .ok c => pure c
    | .error reason => throw (Record.unreadable 2 ("item_type.category: " ++ reason))
  return { id, key, category, remainingOnBoard := ← r.real 3 }

/-- A note out of a record. The number and the date are looked at first. -/
def bunkerNoteOf (r : Record) : Except Failure BunkerNote := do
  let number ← r.text 2
  let date := (← r.text? 3).bind Calendar.Date.readLoose?
  return { id := ← r.integer 0, typeKey := ← r.text 1, number, date, remaining := ← r.real 4 }

/-- The types of supplies by key, with what remains on board of a vessel. -/
def itemTypes (db : Database) (vesselId : Int) : Except StoreError (List ItemType) :=
  (do (← db.itemTypeRecords vesselId).mapM itemTypeOf).mapError .ofFailure

/-- The notes of deliveries to a vessel, by id. -/
def bunkerNotes (db : Database) (vesselId : Int) : Except StoreError (List BunkerNote) :=
  (do (← db.bunkerNoteRecords vesselId).mapM bunkerNoteOf).mapError .ofFailure

def catalog (db : Database) (vesselId : Int) (noteSlotLimit : Nat) :
    Except StoreError Catalog := do
  let vessel ← db.vessel vesselId
  let machinery ← db.machinery vesselId
  let itemTypes ← db.itemTypes vesselId
  let notes ← db.bunkerNotes vesselId
  let voyages ← db.voyages vesselId
  let ports ← db.ports
  let timezones ← db.timezones
  return .ofEntries vessel machinery itemTypes notes voyages ports timezones noteSlotLimit

end Database

end ShipReport.Store
