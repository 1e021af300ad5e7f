import ShipReport.Catalog.Basic
import ShipReport.Json.Settings

/-!
# Catalogues as documents

The JSON forms of reference data. A catalogue is read from lists of entries, of which any may be
left out, and is written with everything that can be derived from it.
-/

namespace ShipReport.Json

open Catalog (Vessel Machine ItemType BunkerNote Voyage Port Timezone NoteGroup)

/-- A value read from a word, with the word's own error. -/
def word {α : Type} (parse : String → Except String α) (d : Document) : Decoded α := do
  parse (← d.string)

/-- A date, written as year, month and day. -/
def date (d : Document) : Decoded Calendar.Date := do
  match ((← d.string).splitOn "-").map String.toNat? with
  | [some year, some month, some day] =>
    match Calendar.Date.ofParts? year month day with
    | some date => return date
    | none => throw "date"
  | _ => throw "date"

def vessel (d : Document) : Decoded Vessel := do
  return {
    id := ← d.get "vessel_id" Document.integer
    shortCode := ← d.get "short_code" Document.string
    name := ← d.get "name" Document.string }

def machine (d : Document) : Decoded Machine := do
  return {
    id := ← d.get "machinery_id" Document.integer
    name := ← d.get "name" Document.string
    category := ← d.get "category" Document.string
    ratedPower := ← d.get "rated_power_kw" Document.float
    specificConsumption := ← d.get "sfoc_g_kwh" Document.float }

/-- A type of supply. -/
def itemType (d : Document) : Decoded ItemType := do
  return {
    id := ← d.get "item_type_id" Document.integer
    key := ← d.get "type_key" Document.string
    category := ← d.get "category" (word Report.ItemCategory.parse)
    remainingOnBoard := ← d.get "rob" Document.float }

/-- The note of a delivery. -/
def bunkerNote (d : Document) : Decoded BunkerNote := do
  return {
    id := ← d.get "note_id" Document.integer
    typeKey := ← d.get "type_key" Document.string
    number := ← d.get "note_no" Document.string
    date := ← d.get? "bunker_date" date
    remaining := ← d.get "remaining_qty" Document.float }

def voyage (d : Document) : Decoded Voyage := do
  return {
    id := ← d.get "voyage_id" Document.integer
    number := ← d.get "voyage_no" Document.string
    leg := ← d.get? "leg_no" Document.integer }

def port (d : Document) : Decoded Port := do
  return {
    id := ← d.get "port_id" Document.integer
    name := ← d.get "name" Document.string
    unlocode := ← d.get? "unlocode" Document.string }

def timezone (d : Document) : Decoded Timezone := do
  return {
    label := ← d.get "label" Document.string
    offsetMinutes := ← d.get "utc_offset_minutes" Document.integer }

def catalog (d : Document) : Decoded Catalog := do
  let entries {α : Type} (name : String) (f : Document → Decoded α) := d.getD name (·.listOf f) []
  return .ofEntries (← d.get "vessel" vessel) (← entries "machinery" machine)
    (← entries "item_types" itemType) (← entries "notes" bunkerNote) (← entries "voyages" voyage)
    (← entries "ports" port) (← entries "timezones" timezone)
    (← d.getD "note_slot_limit" Document.natural Report.Rules.default.noteSlotLimit)

def ofVessel (v : Vessel) : Document :=
  .object [("vessel_id", .ofInt v.id), ("short_code", .text v.shortCode), ("name", .text v.name)]

/-- A machine as a list of its parts. -/
def ofMachine (m : Machine) : Document :=
  .list [.ofInt m.id, .text m.name, .text m.category, ofFloat m.ratedPower,
    ofFloat m.specificConsumption]

/-- A type of supply as a list of its parts. -/
def ofItemType (t : ItemType) : Document :=
  .list [.ofInt t.id, .text t.key, .text t.category.label, ofFloat t.remainingOnBoard]

/-- The note of a delivery as a list of its parts. -/
def ofBunkerNote (n : BunkerNote) : Document :=
  .list [.ofInt n.id, .text n.typeKey, .text n.number, .ofOption (fun d => .text d.text) n.date,
    ofFloat n.remaining]

def ofVoyage (v : Voyage) : Document :=
  .object [("voyage_id", .ofInt v.id), ("voyage_no", .text v.number),
    ("leg_no", .ofOption .ofInt v.leg)]

def ofPort (p : Port) : Document :=
  .object [("port_id", .ofInt p.id), ("name", .text p.name),
    ("unlocode", .ofOption .text p.unlocode)]

def ofTimezone (z : Timezone) : Document :=
  .object [("label", .text z.label), ("utc_offset_minutes", .ofInt z.offsetMinutes)]

def ofCatalog (c : Catalog) : Document :=
  .object [
    ("vessel", ofVessel c.vessel),
    ("machinery_by_name", .ofList ofMachine c.machineryByName),
    ("item_types", .ofList ofItemType c.items),
    ("fuel_keys", .ofTexts c.fuelKeys),
    ("lube_keys", .ofTexts c.lubeKeys),
    ("groups", .object (c.notes.map fun g => (g.typeKey, .ofTexts g.numbers))),
    ("overflow", .object ((Catalog.overflow c.notes).map fun (key, n) => (key, .ofNat n))),
    ("note_groups",
      .ofList (fun g => .list [.text g.typeKey, .ofTexts g.numbers]) c.offeredNotes),
    ("notes_for", .object (c.items.map fun t => (t.key, .ofTexts (c.notesFor t.key)))),
    ("dropped", .ofNat c.droppedNotes),
    ("slot_limit", .ofNat c.noteSlotLimit),
    ("positional_rows", .ofList .ofTexts c.positionalRows)]

end ShipReport.Json
