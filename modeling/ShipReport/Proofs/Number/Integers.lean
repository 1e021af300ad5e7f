import ShipReport.Proofs.Number.Natural

/-!
# Integers that numbers hold

A number holds an integer if no more than 53 bits of it lie between the first and the last that is
set. These integers are the ones that come back when they are converted to a number and its whole
part is taken, apart from the greatest of 64 bits, at which whole parts are cut off.
-/

namespace ShipReport.Number

open Float.Model Float.Model.UnpackedFloat

/-- A natural number of at most 53 bits with zeros appended. -/
def Held (n : Nat) : Prop :=
  ∃ m k, m < 2 ^ 53 ∧ n = m * 2 ^ k

/-- Numbers below 2 ^ 53 are held. -/
lemma held_of_lt {n : Nat} (h : n < 2 ^ 53) : Held n :=
  ⟨n, 0, h, by rw [Nat.pow_zero, Nat.mul_one]⟩

/-- Numbers up to 2 ^ 53 are held. -/
lemma held_of_le {n : Nat} (h : n ≤ 2 ^ 53) : Held n := by
  rcases Nat.lt_or_eq_of_le h with h | rfl
  · exact held_of_lt h
  · exact ⟨1, 53, by decide, by decide⟩

/-- An odd number of more than 53 bits is not held. -/
lemma not_held_of_odd {n : Nat} (hn : 2 ^ 53 < n) (odd : n % 2 = 1) : ¬ Held n := by
  rintro ⟨m, k, hm, rfl⟩
  cases k with
  | zero => omega
  | succ k =>
    rw [Nat.pow_succ, ← Nat.mul_assoc, Nat.mul_mod_left] at odd
    cases odd

/-- A number of more than 53 bits that is held is a mantissa with zeros appended. -/
lemma Held.mantissa {n : Nat} (h : Held n) (hn : 2 ^ 53 ≤ n) (hlt : n < 2 ^ 64) :
    ∃ M E, Canonical M (E : Nat) ∧ n = M * 2 ^ E := by
  obtain ⟨m, k, hm, rfl⟩ := h
  have pos : 0 < m := Nat.pos_of_ne_zero fun h => by simp [h] at hn
  have log : (m * 2 ^ k).log2 = m.log2 + k := log2_mul_two_pow pos k
  have low : 53 ≤ (m * 2 ^ k).log2 := (Nat.le_log2 (by omega)).mpr hn
  have high : (m * 2 ^ k).log2 < 64 := (Nat.log2_lt (by omega)).mpr hlt
  have size := log2_le hm
  obtain ⟨E, rfl⟩ : ∃ E, k = 52 - m.log2 + E := ⟨k - (52 - m.log2), by omega⟩
  have full := log2_fullMantissa pos hm
  refine ⟨fullMantissa m, E, ⟨fullMantissa_pos pos, full.le, ?_, .inl full, ?_⟩, ?_⟩
  · omega
  · omega
  · rw [fullMantissa, Nat.mul_assoc, ← Nat.pow_add]

/-- A natural number of more than 53 bits is converted by rounding it. -/
lemma toModel_ofNat_large {n : Nat} (hn : 2 ^ 53 ≤ n) :
    (Float.ofNat n).toModel =
      .pack (roundWithAccuracy .binary64 .positive (n * 2 ^ 53) (-53) .exact) := by
  have ne : n ≠ 0 := by omega
  have slow : ¬ (n < 2 ^ 53 ∧ 0 ≤ 22) := fun h => by omega
  have least : ¬ (0 : Int) < -((2 ^ Format.binary64.exponentBits : Int) + n.log2) := by
    change ¬ (0 : Int) < -(2048 + _)
    omega
  have converted : UnpackedFloat.ofScientific .binary64 n 0 =
      roundWithAccuracy .binary64 .positive ((n <<< 53) * 10 ^ (0 : Int).toNat) (-53 + 0)
        .exact := by
    rw [UnpackedFloat.ofScientific, dif_neg ne, if_neg (by decide), if_neg least,
      if_pos (by decide), UnpackedFloat.mul]
    rfl
  have scaled : (n <<< 53) * 10 ^ (0 : Int).toNat = n * 2 ^ 53 := by
    change (n <<< 53) * 1 = _
    rw [Nat.mul_one, Nat.shiftLeft_eq]
  have model : (Float.ofNat n).toModel = .pack (UnpackedFloat.ofScientific .binary64 n 0) := by
    rw [Float.ofNat, OfScientific.ofScientific, instOfScientificFloat]
    dsimp only
    rw [Float.ofScientific, dif_neg slow]
    rfl
  rw [model, converted, scaled, Int.add_zero]

/-- A mantissa with zeros appended is converted without loss. -/
lemma unpack_ofNat_shifted {M E : Nat} (h : Canonical M E) (hn : 2 ^ 53 ≤ M * 2 ^ E) :
    (Float.ofNat (M * 2 ^ E)).toModel.unpack = .finite .positive M E h.pos := by
  have exponent : (-53 + (E + 53 : Nat) : Int) = E := by omega
  rw [toModel_ofNat_large hn, Nat.mul_assoc, ← Nat.pow_add,
    roundWithAccuracy_exact (by rwa [exponent])]
  simp only [exponent]
  rw [unpack_pack_form (.finite .positive h)]

/-- The whole part of a finite number with zeros appended. -/
lemma roundToInt_shifted (s : Sign) (m e : Nat) : roundToInt s m e = s.apply (m * 2 ^ e : Nat) := by
  have amount : ((e : Int) - 0).toNat = e := by omega
  have none : (0 - ((e : Int) - (e : Nat))).toNat = 0 := by omega
  rw [roundToInt, decreaseExponent, amount]
  dsimp only
  rw [shiftToExponent, none, Nat.shiftLeft_eq]
  rfl

/-- The whole part of a finite number with a fraction. -/
lemma roundToInt_fraction (s : Sign) (m e : Nat) :
    roundToInt s m (-e) = s.apply (m / 2 ^ e : Nat) := by
  have none : ((-e : Int) - 0).toNat = 0 := by omega
  have amount : (0 - ((-e : Int) - (0 : Nat))).toNat = e := by omega
  rw [roundToInt, decreaseExponent, none]
  dsimp only
  rw [shiftToExponent, amount, Nat.shiftLeft_zero]
  exact congrArg (fun n : Nat => s.apply n) (shiftRight_mantissa _ e)

/-- Negation changes the sign. -/
lemma unpack_neg (x : Float) : (-x).toModel.unpack = x.toModel.unpack.neg := by
  change (Float.Model.pack x.toModel.unpack.neg).unpack = _
  have form := form_unpack x.toModel
  generalize x.toModel.unpack = f at form
  cases form with
  | infinity s => exact unpack_pack_form (.infinity (-s))
  | notANumber => exact unpack_pack_form .notANumber
  | zero s => exact unpack_pack_form (.zero (-s))
  | finite s h => exact unpack_pack_form (.finite (-s) h)

/-! ## Numbers and what is none -/

/-- Rounding gives a number. -/
lemma isNaN_roundWithAccuracy (s : Sign) (m : Nat) (e : Int) (a : Accuracy) :
    (roundWithAccuracy .binary64 s m e a).isNaN = false := by
  unfold roundWithAccuracy
  dsimp only
  split <;> rfl

/-- Bits without the greatest exponent are a number. -/
lemma isNaN_unpack (s : Sign) {E : BitVec 11} (M : BitVec 52) (hE : E ≠ -1#11) :
    (UnpackedFloat.unpack .binary64 (packComponents .binary64 s E M)).isNaN = false := by
  unfold UnpackedFloat.unpack
  simp only [unpackMantissa_packComponents, unpackExponent_packComponents]
  rw [if_neg hE]
  repeat' split
  all_goals rfl

/-- What is packed is a number if it was one before. -/
lemma isNaN_pack {f : UnpackedFloat} (h : f.isNaN = false) :
    (Float.Model.pack f).unpack.isNaN = false := by
  cases f with
  | infinity s => cases s <;> rfl
  | notANumber => exact h
  | zero s => cases s <;> rfl
  | finite s m e h =>
    change (UnpackedFloat.unpack .binary64 (UnpackedFloat.pack .binary64 _)).isNaN = false
    rw [UnpackedFloat.pack]
    dsimp only
    split
    · cases s <;> rfl
    · next high =>
      split
      · -- the greatest exponent would have been packed as an infinity
        refine isNaN_unpack s _ fun top => high ?_
        have value := congrArg BitVec.toNat top
        rw [BitVec.toNat_ofNat] at value
        change _ % 2048 = 2047 at value
        change 2048 ≤ _
        omega
      · exact isNaN_unpack s _ (by decide)

/-- A natural number is converted to a number. -/
lemma isNaN_ofNat (n : Nat) : (Float.ofNat n).toModel.unpack.isNaN = false := by
  rcases Nat.eq_zero_or_pos n with rfl | pos
  · rfl
  rcases Nat.lt_or_ge n (2 ^ 53) with small | large
  · rw [unpack_ofNat pos small]
    rfl
  · rw [toModel_ofNat_large large]
    exact isNaN_pack (isNaN_roundWithAccuracy _ _ _ _)

/-- An integer is converted to a number. -/
theorem isNaN_ofInt (v : Int) : (Float.ofInt v).isNaN = false := by
  cases v with
  | ofNat n => exact isNaN_ofNat n
  | negSucc n =>
    have magnitude := isNaN_ofNat (n + 1)
    change (-Float.ofNat (n + 1)).toModel.unpack.isNaN = false
    rw [unpack_neg]
    generalize (Float.ofNat (n + 1)).toModel.unpack = f at magnitude
    cases f with
    | notANumber => exact magnitude
    | _ => rfl

/-! ## Whole parts -/

/-- The whole part of a negated number is the negated whole part. -/
lemma toInt_neg (f : UnpackedFloat) (low high : Int) :
    f.neg.toInt low high = -f.toInt (-high) (-low) := by
  cases f with
  | infinity s => cases s <;> exact (Int.neg_neg _).symm
  | notANumber => rfl
  | zero s => rfl
  | finite s m e h =>
    cases s
    · exact (Int.neg_neg _).symm
    · rfl

/-- The whole part of a number that holds a natural number is the number. -/
lemma toInt_ofNat {n : Nat} (h : Held n) (hlt : n < 2 ^ 64) (low high : Int) :
    (Float.ofNat n).toModel.unpack.toInt low high = n := by
  rcases Nat.eq_zero_or_pos n with rfl | pos
  · rfl
  · rcases Nat.lt_or_ge n (2 ^ 53) with small | large
    · rw [unpack_ofNat pos small, toInt_exactForm pos small]
    · obtain ⟨M, E, canonical, rfl⟩ := h.mantissa large hlt
      rw [unpack_ofNat_shifted canonical large]
      exact roundToInt_shifted .positive M E

/-- An integer that a number holds comes back. -/
theorem toInt64_ofInt {v : Int} (h : Held v.natAbs) (hlt : v.natAbs < 2 ^ 63) :
    toInt64 (Float.ofInt v) = v := by
  change (Int64.ofIntClamp ((Float.ofInt v).toModel.unpack.toInt _ _)).toInt = v
  have whole : ∀ low high, (Float.ofInt v).toModel.unpack.toInt low high = v := by
    intro low high
    cases v with
    | ofNat n => exact toInt_ofNat h (by omega) low high
    | negSucc n =>
      have magnitude := toInt_ofNat h (by omega) (-high) (-low)
      change (-Float.ofNat (n + 1)).toModel.unpack.toInt low high = _
      rw [unpack_neg, toInt_neg]
      exact congrArg Neg.neg magnitude
  rw [whole]
  exact Int64.toInt_ofIntClamp (by rw [Int64.toInt_minValue]; omega)
    (by rw [Int64.toInt_maxValue]; omega)

/-- The whole part of a number that is not infinite has a magnitude that is held. -/
lemma toInt_held {f : UnpackedFloat} (hf : Form f) :
    (∃ s, f = .infinity s) ∨ ∃ s k, Held k ∧ ∀ low high, f.toInt low high = Sign.apply s k := by
  cases hf with
  | infinity s => exact .inl ⟨s, rfl⟩
  | notANumber => exact .inr ⟨.positive, 0, held_of_lt (by decide), fun _ _ => rfl⟩
  | zero s => exact .inr ⟨.positive, 0, held_of_lt (by decide), fun _ _ => rfl⟩
  | @finite s m e h =>
    rcases Int.lt_or_le e 0 with negative | _
    · obtain ⟨k, rfl⟩ : ∃ k : Nat, e = -k := ⟨(-e).toNat, by omega⟩
      have lt := Nat.lt_of_le_of_lt (Nat.div_le_self m (2 ^ k)) h.lt
      exact .inr ⟨s, m / 2 ^ k, held_of_lt lt, fun _ _ => roundToInt_fraction s m k⟩
    · obtain ⟨k, rfl⟩ : ∃ k : Nat, e = k := ⟨e.toNat, by omega⟩
      exact .inr ⟨s, m * 2 ^ k, ⟨m, k, h.lt, rfl⟩, fun _ _ => roundToInt_shifted s m k⟩

/-- A natural number that is the whole part of a number is held, or whole parts are cut off at
it. -/
theorem held_of_toInt64 {x : Float} {n : Nat} (h : toInt64 x = n) : Held n ∨ n = 2 ^ 63 - 1 := by
  have min := Int64.toInt_minValue
  have max := Int64.toInt_maxValue
  have clamped : ∀ i : Int, (Int64.ofIntClamp i).toInt = n → i = n ∨ n = 2 ^ 63 - 1 := by
    intro i hi
    unfold Int64.ofIntClamp at hi
    split at hi
    · split at hi
      · exact .inl (Int64.toInt_ofIntLE.symm.trans hi)
      · exact .inr (by omega)
    · omega
  refine (clamped _ h).elim (fun whole => ?_) .inr
  rcases toInt_held (form_unpack x.toModel) with ⟨s, hs⟩ | ⟨s, k, held, hk⟩
  · rw [hs] at whole
    cases s with
    | negative => exact absurd (min.symm.trans whole) (by omega)
    | positive => exact .inr (by have := max.symm.trans whole; omega)
  · rw [hk] at whole
    cases s with
    | negative =>
      change -(k : Int) = n at whole
      obtain rfl : k = n := by omega
      exact .inl held
    | positive => exact .inl (Int.natCast_inj.mp whole ▸ held)

/-- A natural number of 64 bits with a sign comes back if and only if it is held, or whole parts are
cut off at it. -/
theorem toInt64_ofInt_iff {n : Nat} (hn : n < 2 ^ 63) :
    toInt64 (Float.ofInt n) = n ↔ Held n ∨ n = 2 ^ 63 - 1 := by
  refine ⟨held_of_toInt64, ?_⟩
  rintro (held | rfl)
  · exact toInt64_ofInt held hn
  · decide +kernel

end ShipReport.Number
