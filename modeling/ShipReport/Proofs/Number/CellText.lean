import ShipReport.Proofs.Number.Texts

/-!
# What the texts of cells read back as

The text that a cell shows for a number reads back as the number, except that a zero has lost its
sign. So finite numbers with the same text are equal.
-/

namespace ShipReport.Number

open Float.Model Float.Model.UnpackedFloat

/-- A natural number is converted to the number whose mantissa is the number with zeros behind
it. -/
lemma unpack_ofNat_of_mantissa {n k m : Nat} {e : Int} (h : Canonical m e) (hm : m = n * 2 ^ k)
    (he : e = -k) (hlt : n < 2 ^ 53) :
    (Float.ofNat n).toModel.unpack = .finite .positive m e h.pos := by
  subst hm he
  have pos : 0 < n := Nat.pos_of_mul_pos_right h.pos
  have size := h.size
  rw [log2_mul_two_pow pos] at size
  have full : n.log2 + k = 52 := by
    rcases h.full with full | low
    · rwa [log2_mul_two_pow pos] at full
    · omega
  have places : 52 - n.log2 = k := by omega
  have exponent : (n.log2 - 52 : Int) = -k := by omega
  rw [unpack_ofNat pos hlt, exactForm]
  simp only [fullMantissa, places, exponent]

/-- The integer that a finite number equals has the sign of the number, and its magnitude is
converted to that of the number. -/
lemma magnitude_of_integer? {x : Float} {s : Sign} {m : Nat} {e : Int} {h : 0 < m}
    (hx : x.toModel.unpack = .finite s m e h) {n : Int} (hn : integer? x = some n)
    (hlt : n.natAbs < 2 ^ 53) :
    n = s.apply n.natAbs ∧ (Float.ofNat n.natAbs).toModel.unpack = .finite .positive m e h := by
  have canonical := canonical_of_unpack hx
  have apply_natAbs : ∀ N : Nat, (s.apply N).natAbs = N := fun N => by
    cases s
    · exact Int.natAbs_neg _
    · rfl
  unfold integer? at hn
  rw [hx] at hn
  dsimp only at hn
  split at hn
  · next whole =>
    obtain rfl : s.apply ((m * 2 ^ e.toNat : Nat) : Int) = n := Option.some.inj hn
    rw [apply_natAbs] at hlt ⊢
    -- a mantissa is full unless the exponent is least, so there is nothing to shift
    have full : m.log2 = 52 := canonical.full.resolve_right (by omega)
    have zero : e.toNat = 0 := by
      have size := log2_le hlt
      rw [log2_mul_two_pow h] at size
      omega
    refine ⟨rfl, unpack_ofNat_of_mantissa (k := 0) canonical ?_ (by omega) hlt⟩
    rw [zero, Nat.pow_zero, Nat.mul_one, Nat.mul_one]
  · next places =>
    split at hn
    · next divides =>
      obtain rfl : s.apply ((m / 2 ^ (-e).toNat : Nat) : Int) = n := Option.some.inj hn
      rw [apply_natAbs] at hlt ⊢
      refine ⟨rfl, unpack_ofNat_of_mantissa (k := (-e).toNat) canonical ?_ (by omega) hlt⟩
      exact (Nat.div_mul_cancel (Nat.dvd_of_mod_eq_zero divides)).symm
    · cases hn

/-- A whole number other than zero is the conversion of the integer that it equals. -/
lemma ofInt_of_integer? {x : Float} {n : Int} (hn : integer? x = some n) (hne : n ≠ 0)
    (hlt : n.natAbs < 2 ^ 53) : Float.ofInt n = x := by
  cases hx : x.toModel.unpack with
  | infinity s => simp [integer?, hx] at hn
  | notANumber => simp [integer?, hx] at hn
  | zero s =>
    rw [integer?, hx] at hn
    exact absurd (Option.some.inj hn).symm hne
  | finite s m e h =>
    obtain ⟨sign, magnitude⟩ := magnitude_of_integer? hx hn hlt
    refine eq_of_unpack ?_
    cases s with
    | positive =>
      rw [sign]
      exact magnitude.trans hx.symm
    | negative =>
      obtain ⟨k, hk⟩ := Nat.exists_eq_succ_of_ne_zero (Int.natAbs_ne_zero.mpr hne)
      rw [hk] at sign magnitude
      rw [sign]
      change (-Float.ofNat (k + 1)).toModel.unpack = _
      rw [unpack_neg, magnitude, hx]
      rfl

/-- A number without its sign if it is zero. -/
def unsignedZero (x : Float) : Float :=
  if x == 0 then 0 else x

/-- The sign of a zero is dropped once. -/
lemma unsignedZero_unsignedZero (x : Float) : unsignedZero (unsignedZero x) = unsignedZero x := by
  by_cases h : x == 0
  · rw [unsignedZero, unsignedZero, if_pos h]
    rfl
  · rw [unsignedZero, unsignedZero, if_neg h, if_neg h]

/-- Only the zeros equal zero. -/
lemma unpack_of_beq_zero {x : Float} (h : x == 0) : ∃ s, x.toModel.unpack = .zero s := by
  change (x.toModel.unpack.beq (.zero .positive)) = true at h
  cases hx : x.toModel.unpack with
  | zero s => exact ⟨s, rfl⟩
  | notANumber => simp [hx, UnpackedFloat.beq, UnpackedFloat.compare] at h
  | infinity s => cases s <;> simp [hx, UnpackedFloat.beq, UnpackedFloat.compare] at h
  | finite s m e hm => cases s <;> simp [hx, UnpackedFloat.beq, UnpackedFloat.compare] at h

/-- What equals zero is the integer zero. -/
lemma integer?_of_beq_zero {x : Float} (h : x == 0) : integer? x = some 0 := by
  obtain ⟨s, hs⟩ := unpack_of_beq_zero h
  rw [integer?, hs]

/-- Neither of two zeros is below the other. -/
lemma not_lt_of_beq_zero {x : Float} (h : x == 0) : ¬ x < 0 ∧ ¬ 0 < x := by
  obtain ⟨s, hs⟩ := unpack_of_beq_zero h
  have unpacked : (0 : Float).toModel.unpack = .zero .positive := rfl
  constructor
  · change ¬ decide (x.toModel < (0 : Float).toModel) = true
    rw [decide_eq_true_iff]
    change ¬ ((Float.Model.unpack _).compare (Float.Model.unpack _) == some .lt) = true
    rw [hs, unpacked]
    simp [UnpackedFloat.compare]
  · change ¬ decide ((0 : Float).toModel < x.toModel) = true
    rw [decide_eq_true_iff]
    change ¬ ((Float.Model.unpack _).compare (Float.Model.unpack _) == some .lt) = true
    rw [hs, unpacked]
    simp [UnpackedFloat.compare]

/-- The integer zero equals zero. -/
lemma beq_zero_of_integer? {x : Float} (h : integer? x = some 0) : x == 0 := by
  cases hx : x.toModel.unpack with
  | zero s =>
    change (x.toModel.unpack.beq (.zero .positive)) = true
    rw [hx]
    rfl
  | notANumber => simp [integer?, hx] at h
  | infinity s => simp [integer?, hx] at h
  | finite s m e hm =>
    obtain ⟨-, magnitude⟩ := magnitude_of_integer? hx h (by decide)
    cases magnitude

/-- The text that cells show for a number reads back as the number, but for the sign of zero. -/
theorem read_cellText (x : Float) : read? (cellText x) = some (unsignedZero x) := by
  have exact : integer? x ≠ some 0 → unsignedZero x = x := fun h =>
    if_neg fun zero => h (integer?_of_beq_zero zero)
  unfold cellText
  split
  · next n hn =>
    split
    · next small =>
      rw [read_toString]
      by_cases hzero : n = 0
      · subst hzero
        rw [unsignedZero, if_pos (beq_zero_of_integer? hn)]
        rfl
      · rw [ofInt_of_integer? hn hzero (Nat.lt_trans small (by decide)), exact]
        rw [hn]
        exact fun h => hzero (Option.some.inj h)
    · next large =>
      rw [read_text, exact]
      rw [hn]
      rintro ⟨⟩
      exact large (by decide)
  · next hn =>
    rw [read_text, exact]
    rw [hn]
    exact nofun

/-- A finite number equals itself. -/
lemma beq_self_of_isFinite {x : Float} (h : x.isFinite) : x == x := by
  change x.toModel.unpack.isFinite = true at h
  change (x.toModel.unpack.beq x.toModel.unpack) = true
  cases hx : x.toModel.unpack with
  | zero s => rfl
  | notANumber => simp [hx, UnpackedFloat.isFinite] at h
  | infinity s => simp [hx, UnpackedFloat.isFinite] at h
  | finite s m e hm => cases s <;> simp [UnpackedFloat.beq, UnpackedFloat.compare]

/-- Finite numbers that are the same but for the sign of zero are equal. -/
lemma beq_of_unsignedZero {x y : Float} (hx : x.isFinite)
    (h : unsignedZero x = unsignedZero y) : x == y := by
  unfold unsignedZero at h
  split at h
  · next zero =>
    split at h
    · next zero' =>
      obtain ⟨s, hs⟩ := unpack_of_beq_zero zero
      obtain ⟨t, ht⟩ := unpack_of_beq_zero zero'
      change (x.toModel.unpack.beq y.toModel.unpack) = true
      rw [hs, ht]
      rfl
    · next other => exact h ▸ zero
  · split at h
    · next other zero => exact absurd (by rw [h]; rfl) other
    · subst h
      exact beq_self_of_isFinite hx

end ShipReport.Number
