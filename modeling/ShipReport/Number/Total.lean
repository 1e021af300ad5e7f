/-!
# Totals

The total of several counts.
-/

namespace ShipReport.Number

def total (counts : List Nat) : Nat :=
  counts.foldr (· + ·) 0

end ShipReport.Number
