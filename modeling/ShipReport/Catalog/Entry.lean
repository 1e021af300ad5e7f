import ShipReport.Calendar.Date
import ShipReport.Report.Kind

/-!
# Reference data of a vessel

The entries that a report refers to: the vessel, its machinery, the types of supplies with the
quantity remaining on board, the notes of delivered supplies, voyages, ports and time zones.
-/

namespace ShipReport.Catalog

/-- A vessel; its short code names files and tables. -/
structure Vessel where
  id : Int
  shortCode : String
  name : String
deriving Repr, DecidableEq

/-- An engine or boiler with its power in kW and its specific consumption in g/kWh. -/
structure Machine where
  id : Int
  name : String
  category : String
  ratedPower : Float
  specificConsumption : Float
deriving Repr, DecidableEq

/-- A type of supply and the quantity remaining on board. -/
structure ItemType where
  id : Int
  key : String
  category : Report.ItemCategory
  remainingOnBoard : Float
deriving Repr, DecidableEq

/-- The note of one delivery. -/
structure BunkerNote where
  id : Int
  typeKey : String
  number : String
  date : Option Calendar.Date
  remaining : Float
deriving Repr, DecidableEq

/-- A voyage, or one leg of it. -/
structure Voyage where
  id : Int
  number : String
  leg : Option Int
deriving Repr, DecidableEq

/-- A port with its location code. -/
structure Port where
  id : Int
  name : String
  unlocode : Option String
deriving Repr, DecidableEq

/-- A time zone by its label. -/
structure Timezone where
  label : String
  offsetMinutes : Int
deriving Repr, DecidableEq

end ShipReport.Catalog
