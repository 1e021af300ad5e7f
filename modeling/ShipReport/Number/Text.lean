import ShipReport.Number.Reader
import ShipReport.Number.Rounding

/-!
# The text of a number

A finite number is written with the fewest digits that read back as the same number, always
positionally: never with an exponent and without a fraction when it is whole. Of two equally short
decimals the nearer is taken, and the upper one when both are equally near. `Number.cellText` is the
form that cells and formulas show.
-/

namespace ShipReport.Number

open Float.Model.UnpackedFloat (Sign)

/-- The decimal digits of a natural number. -/
def digits (n : Nat) : List Char :=
  Nat.toDigits 10 n

/-- `mantissa * 10 ^ exponent` in positional digits. -/
def positional (mantissa : Nat) (exponent : Int) : String :=
  let ds := digits mantissa
  if 0 ≤ exponent then String.ofList (ds ++ List.replicate exponent.toNat '0')
  else
    let places := (-exponent).toNat
    let padded := List.replicate (places + 1 - ds.length) '0' ++ ds
    let point := padded.length - places
    String.ofList (padded.take point ++ '.' :: padded.drop point)

/-- A positive fraction `num / den`. -/
structure Fraction where
  num : Nat
  den : Nat

/-- The value `mantissa * 2 ^ exponent` as a fraction. -/
def Fraction.ofBinary (mantissa : Nat) (exponent : Int) : Fraction :=
  ⟨mantissa * Nat.pow 2 exponent.toNat, Nat.pow 2 (-exponent).toNat⟩

/-- The fraction divided by a power of ten. -/
def Fraction.shift (f : Fraction) (exponent : Int) : Fraction :=
  ⟨f.num * Nat.pow 10 (-exponent).toNat, f.den * Nat.pow 10 exponent.toNat⟩

/-- The least `d` with `value < 10 ^ d`, searched for from a lower bound that the binary exponent
gives; three steps reach it. -/
def Fraction.magnitude (f : Fraction) (binaryExponent : Int) : Int :=
  let low := (binaryExponent * 30103).fdiv 100000
  let below (d : Int) : Bool :=
    let g := f.shift d
    decide (g.num < g.den)
  if below low then low
  else if below (low + 1) then low + 1
  else low + 2

/-- The neighbours of a value among the multiples of `10 ^ exponent`, the nearer first and the upper
first when both are equally near. -/
def Fraction.neighbours (f : Fraction) (exponent : Int) : List Nat :=
  let g := f.shift exponent
  let q := g.num / g.den
  if 2 * (g.num % g.den) < g.den then [q, q + 1] else [q + 1, q]

/-- The text of `mantissa * 10 ^ exponent` with at most `count` digits: when rounding up has carried
into one digit more, the mantissa is a power of ten. -/
def roundedText (count mantissa : Nat) (exponent : Int) : String :=
  if mantissa = Nat.pow 10 count then positional 1 (exponent + count) else positional mantissa exponent

/-- The texts with `count` significant digits next to the value `f`, whose magnitude is `d`. -/
def Fraction.texts (f : Fraction) (d : Int) (count : Nat) : List String :=
  let e := d - count
  (f.neighbours e).map (roundedText count · e)

/-- The fewest digits, from one to seventeen, whose text reads back as `x`. -/
def shortest? (x : Float) (mantissa : Nat) (exponent : Int) : Option String :=
  let f := Fraction.ofBinary mantissa exponent
  let d := f.magnitude (mantissa.log2 + exponent)
  (List.range 17).findSome? fun k => (f.texts d (k + 1)).find? fun t => read? t = some x

/-- The exact decimal expansion of a positive number. -/
def exactText (mantissa : Nat) (exponent : Int) : String :=
  if 0 ≤ exponent then positional (mantissa * Nat.pow 2 exponent.toNat) 0
  else positional (mantissa * Nat.pow 5 (-exponent).toNat) exponent

/-- The text of a positive number: the shortest that reads back as the number. -/
def magnitudeText (x : Float) (mantissa : Nat) (exponent : Int) : String :=
  (shortest? x mantissa exponent).getD (exactText mantissa exponent)

/-- The sign as written before a number. -/
def signText : Sign → String
  | .positive => ""
  | .negative => "-"

/-- The text of a number. -/
def text (x : Float) : String :=
  match x.toModel.unpack with
  | .notANumber => "NaN"
  | .infinity s => signText s ++ "inf"
  | .zero s => signText s ++ "0"
  | .finite s m e _ => signText s ++ magnitudeText x.abs m e

/-- The text of a number as cells and formulas show it: whole numbers below 10 ^ 15 in magnitude are
written as integers, so that zero has no sign. -/
def cellText (x : Float) : String :=
  match integer? x with
  | some n => if n.natAbs < 1000000000000000 then toString n else text x
  | none => text x

end ShipReport.Number
