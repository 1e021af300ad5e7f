import ShipReport.Proofs.Store.Batches
import ShipReport.Store.ReferenceData
import ShipReport.Store.Settings

/-!
# Vessels and settings looked up

A vessel is found in the row with its id. Most settings can be changed, but not the name of the
token sheet.
-/

namespace ShipReport.Store

open Report (Layout Settings)

namespace Database

variable {db : Database} {t : Table}

/-! ## Vessels -/

/-- The row is that of a vessel. -/
def isVessel (id : Int) (r : Row) : Bool :=
  Datum.equalsGiven .integer (valueAt r.values 0) (.integer id)

/-- A row of the table of vessels as the answer to a query. -/
def vesselRecord (r : Row) : Record :=
  ⟨vesselQuery.columns, [0, 1, 2].map (valueAt r.values)⟩

/-- A vessel is looked up in the first row with its id. -/
lemma vessel_eq (ht : db.table? "vessel" = some t) (hs : t.shape = Schema.vessel) (id : Int) :
    db.vessel id =
      match t.rows.find? (isVessel id) with
      | none => .error (.notFound "vessel" (toString id))
      | some r => (vesselOf (vesselRecord r)).mapError .ofFailure := by
  obtain ⟨shape, rows⟩ := t
  obtain rfl : shape = Schema.vessel := hs
  have found : vesselQuery.run db [.integer id] =
      .ok ((rows.filter (isVessel id)).map vesselRecord) := by
    have columns : vesselQuery.positions (.ofTable ⟨Schema.vessel, rows⟩) vesselQuery.columns =
        .ok [0, 1, 2] := rfl
    have given : vesselQuery.positions (.ofTable ⟨Schema.vessel, rows⟩) vesselQuery.given =
        .ok [0] := rfl
    have selected : ∀ r : Row, ([0].zip [Datum.integer id]).all (fun p =>
        (Source.ofTable ⟨Schema.vessel, rows⟩).hasValue r.values p.1 p.2) = isVessel id r :=
      fun _ => Bool.and_true _
    exact run_of_table (q := vesselQuery) ht columns given rfl rfl selected
  unfold Database.vessel
  rw [found, ← List.head?_filter]
  cases rows.filter (isVessel id) with
  | nil => rfl
  | cons r rows => rfl

/-! ## Settings -/

/-- The name of the token sheet cannot be set. -/
lemma tokenSheet_of_settings {dataDirectory : String} {vessel : Option Int} {settings : Settings}
    (h : db.settings dataDirectory vessel = .ok settings) :
    settings.layout.tokenSheet = Layout.default.tokenSheet := by
  unfold Database.settings at h
  obtain ⟨rules, -, h⟩ := bind_eq_ok.mp h
  obtain ⟨layout, hlayout, h⟩ := bind_eq_ok.mp h
  obtain ⟨storage, -, h⟩ := bind_eq_ok.mp h
  cases h
  unfold Database.layout at hlayout
  obtain ⟨standard, -, hlayout⟩ := bind_eq_ok.mp hlayout
  obtain ⟨bulk, -, hlayout⟩ := bind_eq_ok.mp hlayout
  cases hlayout
  rfl

end Database

end ShipReport.Store
