import ShipReport.Number.Text

/-!
# Numbers with fifteen digits

The form in which a stored number becomes a text: at most fifteen significant digits, always with a
digit after the point, and with an exponent when the number is very large or very small.
-/

namespace ShipReport.Number

open Float.Model.UnpackedFloat (Sign)

/-- How many significant digits the form keeps. -/
def generalDigits : Nat := 15

/-- Digits without the zeros at their end. -/
def withoutTrailingZeros (ds : List Char) : List Char :=
  (ds.reverse.dropWhile (· == '0')).reverse

/-- Digits after a point, at least one. -/
def pointAnd (ds : List Char) : List Char :=
  '.' :: if ds.isEmpty then ['0'] else ds

/-- An exponent with its sign and two digits at least. -/
def exponentText (exponent : Int) : List Char :=
  let ds := digits exponent.natAbs
  (if exponent < 0 then '-' else '+') :: (List.replicate (2 - ds.length) '0' ++ ds)

/-- A number by its digits, of which the first has the weight `10 ^ exponent`. -/
def generalText (ds : List Char) (exponent : Int) : List Char :=
  if exponent < -4 ∨ (generalDigits : Int) ≤ exponent then
    ds.take 1 ++ pointAnd (ds.drop 1) ++ 'e' :: exponentText exponent
  else if exponent < 0 then
    '0' :: pointAnd (List.replicate (-exponent - 1).toNat '0' ++ ds)
  else
    let whole := exponent.toNat + 1
    ds.take whole ++ List.replicate (whole - ds.length) '0' ++ pointAnd (ds.drop whole)

/-- The text of a positive number, the last digit rounded with halves going up. -/
def generalMagnitude (mantissa : Nat) (exponent : Int) : List Char :=
  let f := Fraction.ofBinary mantissa exponent
  let d := f.magnitude (mantissa.log2 + exponent)
  let q := ((f.neighbours (d - generalDigits)).head?).getD 0
  let carried := q = Nat.pow 10 generalDigits
  generalText (withoutTrailingZeros (digits q)) (if carried then d else d - 1)

/-- The text of a number with fifteen digits. Zero has no sign. -/
def general (x : Float) : String :=
  match x.toModel.unpack with
  | .notANumber => "NaN"
  | .infinity s => signText s ++ "Inf"
  | .zero _ => "0.0"
  | .finite s m e _ => signText s ++ String.ofList (generalMagnitude m e)

end ShipReport.Number
