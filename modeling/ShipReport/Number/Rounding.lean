/-!
# Rounding of binary numbers

Exact rounding of `Float` values, computed on the mantissa and the exponent that the value unpacks
to: the integer that a value equals, the whole part of a value, the nearest integer with halves
going away from zero, the floor of a value, and whole powers of ten.
-/

namespace ShipReport.Number

open Float.Model.UnpackedFloat (Sign)

/-- The integer that a number equals, if it equals one. Both zeros equal 0. -/
def integer? (x : Float) : Option Int :=
  match x.toModel.unpack with
  | .infinity _ | .notANumber => none
  | .zero _ => some 0
  | .finite s m e _ =>
    if 0 ≤ e then some (s.apply (m * Nat.pow 2 e.toNat))
    else if m % Nat.pow 2 (-e).toNat = 0 then some (s.apply (m / Nat.pow 2 (-e).toNat))
    else none

/-- The whole part of a number, cut off at 32 bits; zero for what is not a number. -/
def toInt32 (x : Float) : Int :=
  x.toModel.toInt32.toInt

/-- The whole part of a number, cut off at 64 bits; zero for what is not a number. -/
def toInt64 (x : Float) : Int :=
  x.toModel.toInt64.toInt

/-- A number with the given sign and a magnitude below 2 ^ 53; zero keeps the sign. -/
def signed (s : Sign) (magnitude : Nat) : Float :=
  match s with
  | .positive => Float.ofNat magnitude
  | .negative => -Float.ofNat magnitude

/-- The nearest integer, a half going away from zero. The sign of the argument is kept. -/
def roundHalfAway (x : Float) : Float :=
  match x.toModel.unpack with
  | .finite s m e _ =>
    if 0 ≤ e then x
    else
      let unit := Nat.pow 2 (-e).toNat
      signed s ((2 * m + unit) / (2 * unit))
  | _ => x

/-- The largest integer that is not above the number. -/
def floor (x : Float) : Float :=
  match x.toModel.unpack with
  | .finite s m e _ =>
    if 0 ≤ e then x
    else
      let unit := Nat.pow 2 (-e).toNat
      match s with
      | .positive => Float.ofNat (m / unit)
      | .negative => -Float.ofNat ((m + unit - 1) / unit)
  | _ => x

/-- One factor of `power` for each binary digit of the exponent that is set, lowest digit first,
with `power` squared from digit to digit. -/
def powBySquaring (power product : Float) (exponent : Nat) : Float :=
  if exponent = 0 then product
  else
    powBySquaring (power * power) (if exponent % 2 = 1 then product * power else product)
      (exponent / 2)
termination_by exponent

/-- Ten to a whole power; a negative power is the reciprocal of the positive one. -/
def powTen (exponent : Int) : Float :=
  let p := powBySquaring 10 1 exponent.natAbs
  if exponent < 0 then 1 / p else p

end ShipReport.Number
