import ShipReport.Proofs.Number.Binary

/-!
# Natural numbers as floating-point numbers

Counts and places in formulas are floating-point numbers. Natural numbers below 2 ^ 53 have an exact
form with a mantissa of 53 bits, so that sums, comparisons and whole parts of them are those of the
natural numbers.
-/

namespace ShipReport.Number

open Float.Model Float.Model.UnpackedFloat

/-- The mantissa of 53 bits of a positive number below 2 ^ 53. -/
def fullMantissa (n : Nat) : Nat :=
  n * 2 ^ (52 - n.log2)

/-- The mantissa of a positive number is positive. -/
lemma fullMantissa_pos {n : Nat} (hn : 0 < n) : 0 < fullMantissa n :=
  Nat.mul_pos hn (Nat.two_pow_pos _)

/-- The form that a positive number below 2 ^ 53 has after rounding. -/
def exactForm (n : Nat) (hn : 0 < n) : UnpackedFloat :=
  .finite .positive (fullMantissa n) (n.log2 - 52) (fullMantissa_pos hn)

/-- The logarithm of a number of at most 53 bits. -/
lemma log2_le {n : Nat} (hn : n < 2 ^ 53) : n.log2 ≤ 52 := by
  by_cases h : n = 0
  · simp [h]
  · have := (Nat.log2_lt h).mpr hn
    omega

/-- The mantissa has 53 bits. -/
lemma log2_fullMantissa {n : Nat} (hn : 0 < n) (hlt : n < 2 ^ 53) : (fullMantissa n).log2 = 52 := by
  rw [fullMantissa, log2_mul_two_pow hn]
  have := log2_le hlt
  omega

/-- The form of a positive number below 2 ^ 53 is that of a finite number. -/
lemma canonical_fullMantissa {n : Nat} (hn : 0 < n) (hlt : n < 2 ^ 53) :
    Canonical (fullMantissa n) (n.log2 - 52) := by
  have hlog := log2_fullMantissa hn hlt
  have := log2_le hlt
  exact ⟨fullMantissa_pos hn, hlog.le, by omega, .inl hlog, by omega⟩

/-- A positive number below 2 ^ 53, with zeros appended and scaled back, is rounded to its form. -/
lemma round_exact {n : Nat} (hn : 0 < n) (hlt : n < 2 ^ 53) (k : Nat) :
    round .binary64 .positive (n * 2 ^ k) (-k) = exactForm n hn := by
  have hlog := log2_le hlt
  have target : Format.binary64.targetExponent (totalExponent (n * 2 ^ k) (-k)) = n.log2 - 52 := by
    rw [targetExponent_eq, log2_mul_two_pow hn]
    omega
  obtain ⟨j, hj⟩ : ∃ j, k + (-(k : Int) - (n.log2 - 52)).toNat = 52 - n.log2 + j :=
    Nat.exists_eq_add_of_le (by omega)
  have mantissa : (n * 2 ^ k) <<< (-(k : Int) - (n.log2 - 52)).toNat =
      fullMantissa n * 2 ^ j := by
    rw [Nat.shiftLeft_eq, Nat.mul_assoc, ← Nat.pow_add, hj, Nat.pow_add, ← Nat.mul_assoc]
    rfl
  rw [UnpackedFloat.round, target, decreaseExponent, mantissa]
  change roundWithAccuracy _ _ _ (-(k : Int) - (-(k : Int) - (n.log2 - 52)).toNat) _ = _
  have scaled : (-(k : Int) - (-(k : Int) - (n.log2 - 52)).toNat) + j = n.log2 - 52 := by omega
  rw [roundWithAccuracy_exact (by rw [scaled]; exact canonical_fullMantissa hn hlt)]
  simp only [scaled]
  rfl

/-- A positive number below 2 ^ 53 is normalised to its form. -/
lemma normalize_exact {n : Nat} (hn : 0 < n) (hlt : n < 2 ^ 53) (k : Nat) (s : Sign) :
    normalize .binary64 ((n * 2 ^ k : Nat) : Int) (-k) s = exactForm n hn := by
  have sign : compare ((n * 2 ^ k : Nat) : Int) 0 = .gt := by
    rw [compare_gt_iff_gt]
    exact_mod_cast Nat.mul_pos hn (Nat.two_pow_pos k)
  rw [UnpackedFloat.normalize, sign]
  exact round_exact hn hlt k

/-- A positive natural number below 2 ^ 53 unpacks to its form. -/
lemma unpack_pack {n : Nat} (hn : 0 < n) (hlt : n < 2 ^ 53) :
    (Float.Model.pack (exactForm n hn)).unpack = exactForm n hn :=
  unpack_pack_form (.finite .positive (canonical_fullMantissa hn hlt))

/-- A positive natural number below 2 ^ 53 is converted from 64 bits to its form. -/
lemma toFloat_toUInt64 {n : Nat} (hn : 0 < n) (hlt : n < 2 ^ 53) :
    n.toUInt64.toFloat = .ofModel (.pack (exactForm n hn)) := by
  have word : n.toUInt64.toNat = n := by
    rw [Nat.toUInt64, UInt64.toNat_ofNat']
    omega
  have normal := normalize_exact hn hlt 0 .positive
  rw [Nat.pow_zero, Nat.mul_one] at normal
  rw [UInt64.toFloat, Float.Model.ofUInt64, UnpackedFloat.ofUInt64, UnpackedFloat.ofNat,
    UnpackedFloat.ofInt, word]
  exact congrArg (fun f => Float.ofModel (.pack f)) normal

/-- A positive natural number below 2 ^ 53 as a floating-point number. -/
lemma toModel_ofNat {n : Nat} (hn : 0 < n) (hlt : n < 2 ^ 53) :
    (Float.ofNat n).toModel = Float.Model.pack (exactForm n hn) := by
  have one : (Float.Model.ofBits 0x3FF0000000000000).unpack =
      .finite .positive (2 ^ 52) (-52) (Nat.two_pow_pos 52) := rfl
  -- a literal is converted from 64 bits and multiplied by one
  have scaled : Float.ofNat n = n.toUInt64.toFloat * Float.ofBits 0x3FF0000000000000 := by
    rw [Float.ofNat, OfScientific.ofScientific, instOfScientificFloat]
    dsimp only
    rw [Float.ofScientific, dif_pos ⟨hlt, by decide⟩]
    rfl
  rw [scaled, toFloat_toUInt64 hn hlt]
  change Float.Model.pack (UnpackedFloat.mul _ (Float.Model.unpack _) (Float.Model.unpack _)) = _
  rw [unpack_pack hn hlt, Float.ofBits, one, exactForm, UnpackedFloat.mul]
  change Float.Model.pack (roundWithAccuracy _ .positive _ _ _) = _
  have scaled : (n.log2 - 52 + -52 : Int) + (52 : Nat) = n.log2 - 52 := by omega
  rw [roundWithAccuracy_exact (by rw [scaled]; exact canonical_fullMantissa hn hlt)]
  simp only [scaled]

/-- A positive number below 2 ^ 53 unpacks to its form. -/
lemma unpack_ofNat {n : Nat} (hn : 0 < n) (hlt : n < 2 ^ 53) :
    (Float.ofNat n).toModel.unpack = exactForm n hn := by
  rw [toModel_ofNat hn hlt, unpack_pack hn hlt]

/-- The mantissa of a form at a smaller exponent is the number itself with zeros appended. -/
lemma decreaseExponent_exact {n k : Nat} (hn : n < 2 ^ 53) (hk : 52 - n.log2 ≤ k) :
    (decreaseExponent (fullMantissa n) (n.log2 - 52) (-k)).1 = n * 2 ^ k := by
  have := log2_le hn
  have amount : (52 - n.log2) + ((n.log2 - 52 : Int) - -k).toNat = k := by omega
  rw [decreaseExponent, Nat.shiftLeft_eq, fullMantissa, Nat.mul_assoc, ← Nat.pow_add, amount]

/-- The sum of natural numbers is exact. -/
theorem ofNat_add {a b : Nat} (ha : 0 < a) (hb : 0 < b) (hlt : a + b < 2 ^ 53) :
    Float.ofNat a + Float.ofNat b = Float.ofNat (a + b) := by
  have model : ∀ x y : Float, x.toModel = y.toModel → x = y := fun ⟨_⟩ ⟨_⟩ h => congrArg _ h
  have hloga := log2_le (n := a) (by omega)
  have hlogb := log2_le (n := b) (by omega)
  obtain ⟨k, hk⟩ : ∃ k : Nat, min (a.log2 - 52 : Int) (b.log2 - 52) = -k :=
    ⟨52 - min a.log2 b.log2, by omega⟩
  apply model
  rw [toModel_ofNat (by omega) hlt]
  change Float.Model.pack (UnpackedFloat.add _ (Float.Model.unpack _) (Float.Model.unpack _)) = _
  rw [unpack_ofNat ha (by omega), unpack_ofNat hb (by omega), exactForm, exactForm,
    UnpackedFloat.add]
  dsimp only
  -- both summands are brought to the smaller exponent
  rw [hk, decreaseExponent_exact (by omega) (by omega),
    decreaseExponent_exact (by omega) (by omega)]
  have total : Sign.positive.apply (a * 2 ^ k : Nat) + Sign.positive.apply (b * 2 ^ k : Nat) =
      ((a + b) * 2 ^ k : Nat) := by
    rw [Nat.add_mul]
    rfl
  rw [total, normalize_exact (by omega) hlt]

/-- Forms compare like the numbers. -/
lemma compare_exactForm {a b : Nat} (ha : 0 < a) (hb : 0 < b) (hlta : a < 2 ^ 53)
    (hltb : b < 2 ^ 53) :
    (exactForm a ha).compare (exactForm b hb) = some (compare a b) := by
  change some ((compare _ _).then (compare _ _)) = _
  have hloga := log2_le hlta
  have hlogb := log2_le hltb
  -- numbers with different exponents are ordered by them
  have below : ∀ {m n : Nat}, 0 < n → m.log2 < n.log2 → m < n := fun hn h =>
    Nat.lt_of_lt_of_le ((Nat.lt_log2_self).trans_le (Nat.pow_le_pow_right (by decide) h))
      (Nat.log2_self_le hn.ne')
  rcases Nat.lt_trichotomy a.log2 b.log2 with h | h | h
  · rw [compare_lt_iff_lt.mpr (by omega : (a.log2 - 52 : Int) < b.log2 - 52),
      compare_lt_iff_lt.mpr (below hb h)]
    rfl
  · have scale := Nat.two_pow_pos (52 - b.log2)
    have same : compare (fullMantissa a) (fullMantissa b) = compare a b := by
      rw [fullMantissa, fullMantissa, h]
      rcases Nat.lt_trichotomy a b with hab | hab | hab
      · rw [compare_lt_iff_lt.mpr hab, compare_lt_iff_lt]
        exact Nat.mul_lt_mul_of_pos_right hab scale
      · rw [compare_eq_iff_eq.mpr hab, compare_eq_iff_eq, hab]
      · rw [compare_gt_iff_gt.mpr hab, compare_gt_iff_gt]
        exact Nat.mul_lt_mul_of_pos_right hab scale
    rw [h, compare_eq_iff_eq.mpr rfl, same]
    rfl
  · rw [compare_gt_iff_gt.mpr (by omega : (a.log2 - 52 : Int) > b.log2 - 52),
      compare_gt_iff_gt.mpr (below ha h)]
    rfl

/-- Natural numbers are ordered like the floating-point numbers. -/
theorem ofNat_lt {a b : Nat} (ha : 0 < a) (hb : 0 < b) (hlta : a < 2 ^ 53) (hltb : b < 2 ^ 53) :
    Float.ofNat a < Float.ofNat b ↔ a < b := by
  change decide ((Float.ofNat a).toModel < (Float.ofNat b).toModel) = true ↔ _
  rw [decide_eq_true_iff]
  change ((Float.Model.unpack _).compare (Float.Model.unpack _) == some .lt) = true ↔ _
  rw [unpack_ofNat ha hlta, unpack_ofNat hb hltb, compare_exactForm ha hb hlta hltb]
  simp [compare_lt_iff_lt]

/-- Positive numbers below 2 ^ 53 are compared as they are. -/
theorem ofNat_le {a b : Nat} (ha : 0 < a) (hb : 0 < b) (hlta : a < 2 ^ 53) (hltb : b < 2 ^ 53) :
    Float.ofNat a ≤ Float.ofNat b ↔ a ≤ b := by
  change decide ((Float.ofNat a).toModel ≤ (Float.ofNat b).toModel) = true ↔ _
  rw [decide_eq_true_iff]
  change ((Float.Model.unpack _).compare (Float.Model.unpack _)).any (·.isLE) = true ↔ _
  rw [unpack_ofNat ha hlta, unpack_ofNat hb hltb, compare_exactForm ha hb hlta hltb]
  exact Nat.isLE_compare

/-- The whole part of a natural number is the number. -/
lemma toInt_exactForm {n : Nat} (hn : 0 < n) (hlt : n < 2 ^ 53) (low high : Int) :
    (exactForm n hn).toInt low high = n := by
  have := log2_le hlt
  change roundToInt .positive (fullMantissa n) (n.log2 - 52) = n
  have none : ((n.log2 : Int) - 52 - 0).toNat = 0 := by omega
  have amount : (0 - ((n.log2 : Int) - 52)).toNat = 52 - n.log2 := by omega
  rw [roundToInt, decreaseExponent, none, Nat.shiftLeft_zero]
  dsimp only
  rw [Int.natCast_zero, Int.sub_zero, shiftToExponent, amount]
  exact congrArg (fun m => ((m.mantissa : Nat) : Int)) (shiftRight_exact n (52 - n.log2))

/-- The whole part of a natural number in 32 bits. -/
theorem toUInt32_ofNat {n : Nat} (hn : 0 < n) (hlt : n < 2 ^ 32) :
    (Float.ofNat n).toUInt32.toNat = n := by
  change (UInt32.ofNatClamp ((Float.ofNat n).toModel.unpack.toInt _ _).toNat).toNat = n
  rw [unpack_ofNat hn (by omega), toInt_exactForm hn (by omega), Int.toNat_natCast]
  exact UInt32.toNat_ofNatClamp_of_lt hlt

/-- The whole part of a natural number in 64 bits. -/
theorem toInt64_ofNat {n : Nat} (hn : 0 < n) (hlt : n < 2 ^ 53) : toInt64 (Float.ofNat n) = n := by
  change (Int64.ofIntClamp ((Float.ofNat n).toModel.unpack.toInt _ _)).toInt = n
  rw [unpack_ofNat hn hlt, toInt_exactForm hn hlt]
  exact Int64.toInt_ofIntClamp (by rw [Int64.toInt_minValue]; omega)
    (by rw [Int64.toInt_maxValue]; omega)

end ShipReport.Number
