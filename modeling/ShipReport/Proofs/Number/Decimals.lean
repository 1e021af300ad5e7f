import ShipReport.Number.Reader
import ShipReport.Proofs.Number.Integers

/-!
# Exact decimals

A decimal that equals a number is read as that number. A decimal with places behind the point is a
quotient by a power of ten, and a quotient is exact if it equals a number.
-/

namespace ShipReport.Number

open Float.Model Float.Model.UnpackedFloat

/-- Numbers that unpack in the same way are the same. -/
lemma eq_of_unpack {x y : Float} (h : x.toModel.unpack = y.toModel.unpack) : x = y := by
  have model : x.toModel = y.toModel := by rw [← pack_unpack x.toModel, h, pack_unpack]
  cases x
  cases y
  exact congrArg _ model

/-! ## Quotients -/

/-- A mantissa lies between two powers of two. -/
lemma mantissa_bounds {m : Nat} (hm : 0 < m) (e : Int) :
    (2 : ℚ) ^ (m.log2 + e) ≤ m * 2 ^ e ∧ (m : ℚ) * 2 ^ e < 2 ^ (m.log2 + e + 1) := by
  have low : (2 : ℚ) ^ m.log2 ≤ m := by exact_mod_cast Nat.log2_self_le hm.ne'
  have high : (m : ℚ) < 2 ^ (m.log2 + 1) := by exact_mod_cast Nat.lt_log2_self
  have scale : (0 : ℚ) < 2 ^ e := zpow_pos two_pos e
  constructor
  · rw [zpow_add₀ two_ne_zero, zpow_natCast]
    exact mul_le_mul_of_nonneg_right low scale.le
  · rw [show (m.log2 + e + 1 : Int) = (m.log2 + 1 : Nat) + e by push_cast; ring,
      zpow_add₀ two_ne_zero, zpow_natCast]
    exact mul_lt_mul_of_pos_right high scale

/-- The quotient has at most one bit less than the difference of the bits. -/
lemma log2_quotient {a b m : Nat} {e f g : Int} (ha : 0 < a) (hb : 0 < b) (hm : 0 < m)
    (h : (a : ℚ) * 2 ^ e = b * 2 ^ f * (m * 2 ^ g)) :
    (a.log2 + e) - (b.log2 + f) - 1 ≤ m.log2 + g := by
  have low := (mantissa_bounds ha e).1
  have high : (a : ℚ) * 2 ^ e < 2 ^ ((b.log2 + f + 1) + (m.log2 + g + 1)) := by
    rw [h, zpow_add₀ two_ne_zero]
    refine mul_lt_mul'' (mantissa_bounds hb f).2 (mantissa_bounds hm g).2 ?_ ?_
    · positivity
    · positivity
  have := (zpow_lt_zpow_iff_right₀ (one_lt_two (α := ℚ))).mp (low.trans_lt high)
  omega

/-- A quotient that equals a finite number is that number. -/
theorem div_exact {a b m : Nat} {e f g : Int} (ha : 0 < a) (hb : 0 < b) (h : Canonical m g)
    (hq : (a : ℚ) * 2 ^ e = b * 2 ^ f * (m * 2 ^ g)) (s t : Sign) :
    UnpackedFloat.div .binary64 (.finite s a e ha) (.finite t b f hb) =
      .finite (s / t) m g h.pos := by
  have low : min (e - f)
      (Format.binary64.targetExponent (totalExponent a e - totalExponent b f)) ≤ g := by
    have bits := log2_quotient ha hb h.pos hq
    have target := h.target
    simp only [Format.targetExponent, totalExponent, Format.mantissaBits, Format.minExponent]
    omega
  have above : min (e - f)
      (Format.binary64.targetExponent (totalExponent a e - totalExponent b f)) ≤ e - f :=
    min_le_left _ _
  rw [UnpackedFloat.div, divCore]
  generalize min (e - f)
    (Format.binary64.targetExponent (totalExponent a e - totalExponent b f)) = r at low above ⊢
  obtain ⟨i, hi⟩ : ∃ i : Nat, e - f = r + i := ⟨(e - f - r).toNat, by omega⟩
  obtain ⟨j, rfl⟩ : ∃ j : Nat, g = r + j := ⟨(g - r).toNat, by omega⟩
  have amount : (e - f - r).toNat = i := by omega
  -- with the exponents scaled away the equation is one of natural numbers
  have whole : a * 2 ^ i = b * (m * 2 ^ j) := by
    have scaled : (a : ℚ) * 2 ^ e * 2 ^ (-f - r) = b * 2 ^ f * (m * 2 ^ (r + j)) * 2 ^ (-f - r) :=
      congrArg (· * (2 : ℚ) ^ (-f - r)) hq
    have left : (2 : ℚ) ^ e * 2 ^ (-f - r) = 2 ^ i := by
      rw [← zpow_add₀ two_ne_zero, ← zpow_natCast]
      congr 1
      omega
    have right : (2 : ℚ) ^ f * 2 ^ (r + (j : Int)) * 2 ^ (-f - r) = 2 ^ j := by
      rw [← zpow_add₀ two_ne_zero, ← zpow_add₀ two_ne_zero, ← zpow_natCast]
      congr 1
      omega
    have : (a : ℚ) * 2 ^ i = b * (m * 2 ^ j) := by
      rw [← left, ← right]
      linear_combination scaled
    exact_mod_cast this
  dsimp only
  rw [amount, Nat.shiftLeft_eq, whole, Nat.mul_div_cancel_left _ hb, Nat.mul_mod_right]
  exact roundWithAccuracy_exact h _

/-! ## Decimals -/

/-- Decides whether a form has the value of a power of ten. -/
def isPowerOfTen (k : Nat) : UnpackedFloat → Bool
  | .finite .positive b f _ => b * 2 ^ f.toNat == 10 ^ k * 2 ^ (-f).toNat
  | _ => false

/-- A form that is decided to be a power of ten has its value. -/
lemma value_of_isPowerOfTen {k : Nat} {u : UnpackedFloat} (h : isPowerOfTen k u) :
    ∃ b f hb, u = .finite .positive b f hb ∧ (b : ℚ) * 2 ^ f = 10 ^ k := by
  unfold isPowerOfTen at h
  split at h
  · next b f hb =>
    refine ⟨b, f, hb, rfl, ?_⟩
    have equal : (b : ℚ) * 2 ^ f.toNat = 10 ^ k * 2 ^ (-f).toNat := by
      exact_mod_cast beq_iff_eq.mp h
    have exponent : (2 : ℚ) ^ f * 2 ^ (-f).toNat = 2 ^ f.toNat := by
      rw [← zpow_natCast, ← zpow_natCast, ← zpow_add₀ two_ne_zero]
      congr 1
      omega
    have scale : (2 : ℚ) ^ (-f).toNat ≠ 0 := by positivity
    apply mul_right_cancel₀ scale
    rw [← equal, ← exponent, mul_assoc]
  · cases h

/-- The powers of ten in the table are those that they stand for. -/
lemma powerOfTen_unpack {k : Nat} (hk : k < Float.exactlyRepresentablePowersOfTen.size) :
    ∃ b f hb, Float.exactlyRepresentablePowersOfTen[k].toModel.unpack = .finite .positive b f hb ∧
      (b : ℚ) * 2 ^ f = 10 ^ k := by
  have table : ∀ k < 23, Float.exactlyRepresentablePowersOfTen[k]?.any fun x =>
      isPowerOfTen k x.toModel.unpack := by decide +kernel
  have listed := table k hk
  rw [Array.getElem?_eq_getElem hk] at listed
  exact value_of_isPowerOfTen listed

/-- The form of a natural number has its value. -/
lemma fullMantissa_value {n : Nat} (hlt : n < 2 ^ 53) :
    (fullMantissa n : ℚ) * 2 ^ (n.log2 - 52 : Int) = n := by
  have := log2_le hlt
  have scale : (2 : ℚ) ^ (52 - n.log2) * 2 ^ (n.log2 - 52 : Int) = 1 := by
    rw [← zpow_natCast, ← zpow_add₀ two_ne_zero]
    exact zpow_eq_one_iff_right₀ zero_le_two (by decide) |>.mpr (by omega)
  rw [fullMantissa]
  push_cast
  rw [mul_assoc, scale, mul_one]

/-- A number without a fraction is divided by a power of ten from the table without an error. -/
lemma div_powerOfTen {m k n : Nat} (pos : 0 < n) (hlt : n < 2 ^ 53)
    (hk : k < Float.exactlyRepresentablePowersOfTen.size) (h : Canonical m (-k))
    (hn : (n : ℚ) = 10 ^ k * (m * 2 ^ (-k : Int))) :
    UnpackedFloat.div .binary64 (Float.Model.pack (exactForm n pos)).unpack
      Float.exactlyRepresentablePowersOfTen[k].toModel.unpack = .finite .positive m (-k) h.pos := by
  obtain ⟨b, f, hb, divisor, value⟩ := powerOfTen_unpack hk
  have quotient : (fullMantissa n : ℚ) * 2 ^ (n.log2 - 52 : Int) =
      b * 2 ^ f * (m * 2 ^ (-k : Int)) := by
    rw [fullMantissa_value hlt, value, hn]
  rw [unpack_pack pos hlt, divisor, exactForm, div_exact _ hb h quotient]
  rfl

/-- A decimal with places behind the point is divided by its power of ten without an error if it
equals a number. -/
lemma ofScientific_places {m k n : Nat} (pos : 0 < n) (hk : 0 < k) (h : Canonical m (-k))
    (hn : (n : ℚ) = 10 ^ k * (m * 2 ^ (-k : Int))) :
    UnpackedFloat.ofScientific .binary64 n (-k) = .finite .positive m (-k) h.pos := by
  have low := h.low
  have small : ¬ (-k : Int) > 2 ^ Format.binary64.exponentBits := by
    change ¬ (-k : Int) > 2048
    omega
  have large : ¬ (-k : Int) < -(2 ^ Format.binary64.exponentBits + n.log2) := by
    change ¬ (-k : Int) < -(2048 + n.log2)
    omega
  have exponent : (- -(k : Int)).toNat = k := by omega
  have powerOfTen : 0 < 10 ^ k := Nat.pow_pos (by decide)
  have quotient : (n : ℚ) * 2 ^ (0 : Int) =
      (10 ^ k : Nat) * 2 ^ (0 : Int) * (m * 2 ^ (-k : Int)) := by
    rw [hn]
    push_cast
    ring
  rw [UnpackedFloat.ofScientific, dif_neg pos.ne']
  change (if (-k : Int) > 2 ^ Format.binary64.exponentBits then _
    else if (-k : Int) < -(2 ^ Format.binary64.exponentBits + n.log2) then _
    else if 0 ≤ (-k : Int) then _ else _) = _
  rw [if_neg small, if_neg large, if_neg (by omega)]
  simp only [exponent]
  rw [div_exact pos powerOfTen h quotient]
  rfl

/-- A decimal with places behind the point that equals a number is read as the number. -/
theorem ofDecimal_places {m k n : Nat} (hk : 0 < k) (h : Canonical m (-k))
    (hn : (n : ℚ) = 10 ^ k * (m * 2 ^ (-k : Int))) :
    (ofDecimal n (-k)).toModel.unpack = .finite .positive m (-k) h.pos := by
  have pos : 0 < n := by
    have value : (0 : ℚ) < 10 ^ k * (m * 2 ^ (-k : Int)) := by
      have := h.pos
      positivity
    rw [← hn] at value
    exact_mod_cast value
  have finite : Form (.finite .positive m (-k) h.pos) := .finite .positive h
  have negative : decide ((-k : Int) < 0) = true := decide_eq_true (by omega)
  have places : (-k : Int).natAbs = k := by omega
  rw [ofDecimal, negative, places, Float.ofScientific]
  split
  · next fast =>
    -- both operands are exact
    have listed : k < Float.exactlyRepresentablePowersOfTen.size :=
      Nat.lt_of_le_of_lt fast.2 (by decide)
    rw [toFloat_toUInt64 pos fast.1]
    change (Float.Model.pack (UnpackedFloat.div .binary64
      (Float.Model.pack (exactForm n pos)).unpack
      Float.exactlyRepresentablePowersOfTen[k].toModel.unpack)).unpack = _
    rw [div_powerOfTen pos fast.1 listed h hn]
    exact unpack_pack_form finite
  · change (Float.Model.pack (UnpackedFloat.ofScientific .binary64 n (Int.negOfNat k))).unpack = _
    rw [Int.negOfNat_eq, Int.ofNat_eq_natCast, ofScientific_places pos hk h hn]
    exact unpack_pack_form finite

/-- A decimal without an exponent is a natural number. -/
lemma ofDecimal_zero (n : Nat) : ofDecimal n 0 = Float.ofNat n :=
  rfl

/-- A decimal without places that equals a number is read as the number. -/
theorem ofDecimal_whole {m e : Nat} (h : Canonical m e) :
    (ofDecimal (m * 2 ^ e) 0).toModel.unpack = .finite .positive m e h.pos := by
  have full : m.log2 = 52 := h.full.resolve_right (by omega)
  have large : 2 ^ 52 ≤ m := full ▸ Nat.log2_self_le h.pos.ne'
  rw [ofDecimal_zero]
  cases e with
  | zero =>
    rw [Nat.pow_zero, Nat.mul_one, unpack_ofNat h.pos h.lt, exactForm]
    simp only [fullMantissa, full, Nat.sub_self, Nat.pow_zero, Nat.mul_one]
    rfl
  | succ e =>
    have two : 2 ^ 1 ≤ 2 ^ (e + 1) := Nat.pow_le_pow_right Nat.two_pos (Nat.le_add_left 1 e)
    exact unpack_ofNat_shifted h (Nat.mul_le_mul large two)

end ShipReport.Number
